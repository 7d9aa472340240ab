import RdfStore.Query.Results
import RdfStore.Proofs.Number.Reading
import RdfStore.Proofs.Term.Coding

/-!
# Results read back

The layout of results keeps all there is in an answer: the columns, the rows in their order with the
terms that are bound in them, and the triples of a graph, as long as no term is a variable or a
formula (`Answer.toResult_lossless`). Members of objects are looked up by name, so their order does
not matter.
-/

namespace RdfStore

/-! ## Reading -/

/-- The value that is found by going down from member to member. -/
def Json.follow? : List String → Json → Option Json
  | [], v => some v
  | name :: names, v => (v.member? name).bind (Json.follow? names)

def Json.items? : Json → Option (List Json)
  | .array vs => some vs
  | _ => none

/-- The text that a member is. -/
def Json.textMember? (v : Json) (name : String) : Option String :=
  (v.member? name).bind Json.asText?

/-- The kind of a literal by the members that an object has besides its type and its value. -/
def LiteralKind.ofResult? (v : Json) : LiteralKind :=
  match v.textMember? "xml:lang", v.textMember? "datatype" with
  | some g, _ => .tagged g
  | none, some d => .typed ⟨d⟩
  | none, none => .simple

/-- The blank node of a label: a letter and a number in base sixteen. -/
def Blank.ofLabel? (label : String) : Option Blank :=
  (Text.readHex? (label.toList.drop 1)).map fun n => ⟨BitVec.ofNat 128 n⟩

def Term.ofResult? (v : Json) : Option Term := do
  let type ← v.textMember? "type"
  let value ← v.textMember? "value"
  if type = "uri" then return .iri ⟨value⟩
  else if type = "bnode" then (Blank.ofLabel? value).map .blank
  else if type = "literal" then return .literal ⟨value, LiteralKind.ofResult? v⟩
  else none

/-- A row of the members of an object, which may stand in any order. -/
def Row.ofResult? : Json → Option Row
  | .object ms =>
    (ms.mapM fun m => (Term.ofResult? m.2).map fun t => (m.1, t)).map SortedMap.ofList
  | _ => none

def Table.ofResult? (v : Json) : Option Table := do
  let names ← (v.follow? ["head", "vars"]).bind Json.items?
  let bindings ← (v.follow? ["results", "bindings"]).bind Json.items?
  return ⟨← names.mapM Json.asText?, ← bindings.mapM Row.ofResult?⟩

/-- The triple that is made of three cells of a row. -/
def Row.triple? (row : Row) : Option Triple := do
  return ⟨← row.find? "subject", ← row.find? "predicate", ← row.find? "object"⟩

/-- The triples of a graph, which has a table with one row for each. -/
def Graph.triplesOfResult? (v : Json) : Option (List Triple) :=
  (Table.ofResult? v).bind fun t => t.rows.mapM Row.triple?

/-! ## Terms -/

/-- The term is no variable and no formula. -/
def Term.isData (t : Term) : Bool := t.isIri || t.isBlank || t.isLiteral

theorem Blank.ofLabel?_shortHex (b : Blank) :
    ofLabel? (String.ofList ('b' :: Text.shortHex 32 b.id.toNat)) = some b := by
  have hread : Text.readHex? (Text.shortHex 32 b.id.toNat) = some b.id.toNat :=
    Text.readHex?_shortHex b.id.isLt
  unfold ofLabel?
  rw [String.toList_ofList, List.drop_succ_cons, List.drop_zero, hread, Option.map_some,
    BitVec.ofNat_toNat, BitVec.setWidth_eq]

theorem Json.textMember?_type (type value : String) (more : List (String × Json)) :
    (resultObject type value more).textMember? "type" = some type := rfl

theorem Json.textMember?_value (type value : String) (more : List (String × Json)) :
    (resultObject type value more).textMember? "value" = some value := rfl

theorem Term.ofResult?_toResult {t : Term} (h : t.isData = true) :
    ofResult? t.toResult = some t := by
  cases t with
  | iri i => rfl
  | blank b =>
    unfold toResult ofResult?
    rw [Json.textMember?_type, Json.textMember?_value]
    simp only [Option.bind_eq_bind, Option.bind_some]
    rw [if_neg (by decide), if_pos trivial, b.ofLabel?_shortHex]
    rfl
  | literal l =>
    obtain ⟨s, kind⟩ := l
    cases kind <;> rfl
  | var v => exact nomatch h
  | formula ts => exact nomatch h

/-! ## Rows and triples -/

theorem Row.ofResult?_toResult {row : Row} (h : ∀ e ∈ row.entries, e.2.isData = true) :
    ofResult? row.toResult = some row := by
  have hentries : (row.entries.map fun e => (e.1, e.2.toResult)).mapM
      (fun m => (Term.ofResult? m.2).map fun t => (m.1, t)) = some row.entries := by
    refine mapM_map_eq_some fun e he => ?_
    rw [Term.ofResult?_toResult (h e he)]
    rfl
  show Option.map SortedMap.ofList _ = _
  rw [hentries, Option.map_some, SortedMap.ofList_entries]

/-- A triple as a row. -/
def Statement.cells (t : Triple) : List (String × Term) :=
  [("subject", t.subject), ("predicate", t.predicate), ("object", t.object)]

theorem Row.ofResult?_triple {t : Triple} (h : ∀ w ∈ t.toList, w.isData = true) :
    ofResult? t.toResult = some (.ofList t.cells) := by
  have hcells : (t.cells.map fun e => (e.1, e.2.toResult)).mapM
      (fun m => (Term.ofResult? m.2).map fun t => (m.1, t)) = some t.cells := by
    refine mapM_map_eq_some fun e he => ?_
    have hdata : e.2.isData = true := h e.2 (List.mem_map_of_mem he)
    rw [Term.ofResult?_toResult hdata]
    rfl
  show Option.map SortedMap.ofList _ = _
  exact congrArg (Option.map SortedMap.ofList) hcells

theorem Row.triple?_cells (t : Triple) : triple? (.ofList t.cells) = some t := by
  have hcell : ∀ e ∈ t.cells, (SortedMap.ofList t.cells).find? e.1 = some e.2 := by
    have hnames : (t.cells.map Prod.fst).Nodup := by
      show ["subject", "predicate", "object"].Nodup
      decide
    intro e he
    exact (SortedMap.find?_ofList hnames).2 he
  have hs := hcell ("subject", t.subject) (by simp [Statement.cells])
  have hp := hcell ("predicate", t.predicate) (by simp [Statement.cells])
  have ho := hcell ("object", t.object) (by simp [Statement.cells])
  unfold triple?
  rw [hs, hp, ho]
  rfl

/-! ## Tables -/

theorem Table.ofResult?_resultTable {columns : List String} {rows : List Json} {read : List Row}
    (h : rows.mapM Row.ofResult? = some read) :
    ofResult? (resultTable columns rows) = some ⟨columns, read⟩ := by
  have hcolumns : (columns.map Json.string).mapM Json.asText? = some columns :=
    mapM_map_eq_some fun _ _ => rfl
  show ((columns.map Json.string).mapM Json.asText?).bind (fun cs =>
    (rows.mapM Row.ofResult?).bind fun rs => some (Table.mk cs rs)) = _
  rw [hcolumns, h]
  rfl

theorem Table.ofResult?_toResult {t : Table}
    (h : ∀ row ∈ t.rows, ∀ e ∈ row.entries, e.2.isData = true) :
    ofResult? t.toResult = some t :=
  ofResult?_resultTable (mapM_map_eq_some fun row hrow => Row.ofResult?_toResult (h row hrow))

theorem Graph.triplesOfResult?_toResult {g : Graph}
    (h : ∀ t ∈ g.triples, ∀ w ∈ t.toList, w.isData = true) :
    triplesOfResult? (Answer.graph g).toResult = some g.triples.toList := by
  have hrows : (g.triples.toList.map Statement.toResult).mapM Row.ofResult? =
      some (g.triples.toList.map fun t => .ofList t.cells) :=
    mapM_map_eq_some_map fun t ht => Row.ofResult?_triple (h t ht)
  unfold triplesOfResult? Answer.toResult
  rw [Table.ofResult?_resultTable hrows]
  exact mapM_map_eq_some fun t _ => Row.triple?_cells t

/-- **Results lose nothing.** A table is had back from its layout with its columns and its rows, and
so are the triples of a graph, if all terms in them are IRIs, blank nodes and literals. -/
theorem Answer.toResult_lossless :
    (∀ t : Table, (∀ row ∈ t.rows, ∀ e ∈ row.entries, e.2.isData = true) →
      Table.ofResult? t.toResult = some t) ∧
    ∀ g : Graph, (∀ t ∈ g.triples, ∀ w ∈ t.toList, w.isData = true) →
      Graph.triplesOfResult? (Answer.graph g).toResult = some g.triples.toList :=
  ⟨fun _ => Table.ofResult?_toResult, fun _ => Graph.triplesOfResult?_toResult⟩

/-- Two rows for the same visitor, a row without cells, and a column without terms. -/
def visits : Table where
  columns := ["who", "said", "left"]
  rows :=
    let row : Row := .ofList [("who", .blank ⟨10⟩), ("said", .literal ⟨"10", .tagged "en"⟩)]
    [row, row, .empty, .ofList [("said", .literal ⟨"10", .typed Vocabulary.xsdInteger⟩)]]

def saying : Triple := ⟨.blank ⟨10⟩, .iri ⟨"urn:said"⟩, .literal ⟨"b10", .simple⟩⟩

theorem Answer.toResult_lossless_visits :
    (∀ row ∈ visits.rows, ∀ e ∈ row.entries, e.2.isData = true) ∧
      Table.ofResult? visits.toResult = some visits ∧
      (∀ t ∈ (Graph.ofTriples none [saying]).triples, ∀ w ∈ t.toList, w.isData = true) ∧
      Graph.triplesOfResult? (Answer.graph (.ofTriples none [saying])).toResult = some [saying] := by
  have hrows : ∀ row ∈ visits.rows, ∀ e ∈ row.entries, e.2.isData = true := by decide +kernel
  have htriples : ∀ t ∈ (Graph.ofTriples none [saying]).triples, ∀ w ∈ t.toList,
      w.isData = true := by
    intro t ht
    obtain rfl : t = saying := List.mem_singleton.1 ht
    decide
  obtain ⟨htable, hgraph⟩ := Answer.toResult_lossless
  exact ⟨hrows, htable visits hrows, htriples, hgraph _ htriples⟩

end RdfStore
