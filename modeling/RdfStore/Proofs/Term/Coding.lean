import RdfStore.Term.Coding
import RdfStore.Proofs.Json.Reading
import RdfStore.Proofs.Term.Normal
import RdfStore.Proofs.Term.Renaming

/-!
# What a text can hold

A term that is read from a text has IRIs that have been read, and its formulas are in order. Nothing
else is made sure of: whatever its languages and its variables are called, a term of this kind that
is not nested too deep is held by a text (`Term.exists_read?_iff`). So there are texts of terms that
cannot be built in any other way.
-/

namespace RdfStore

/-! ## Terms inside terms -/

theorem Statement.forall_mem_toList {P : Term → Prop} {t : Triple} :
    (∀ w ∈ t.toList, P w) ↔ P t.subject ∧ P t.predicate ∧ P t.object := by
  unfold Statement.toList
  rw [List.forall_mem_cons, List.forall_mem_cons, List.forall_mem_singleton]

/-- A result that takes all three positions is missing if one of them has none. -/
theorem Statement.bind_eq_none {α β : Type} {f : Term → Option α} {t : Triple} {w : Term}
    (hw : w ∈ t.toList) (hnone : f w = none) (k : α → α → α → Option β) :
    ((f t.subject).bind fun s => (f t.predicate).bind fun p => (f t.object).bind (k s p)) =
      none := by
  simp only [Statement.toList, List.mem_cons, List.not_mem_nil, or_false] at hw
  rcases hw with rfl | rfl | rfl
  · rw [hnone]
    rfl
  · rw [hnone]
    exact Option.bind_eq_none_iff.2 fun _ _ => rfl
  · rw [hnone]
    exact Option.bind_eq_none_iff.2 fun _ _ => Option.bind_eq_none_iff.2 fun _ _ => rfl

namespace Term

mutual
/-- The terms inside a term, itself included. -/
def parts : Term → List Term
  | .iri i => [.iri i]
  | .blank b => [.blank b]
  | .literal l => [.literal l]
  | .var v => [.var v]
  | .formula ts => .formula ts :: partsAll ts
def partsAll : List (Statement Term) → List Term
  | [] => []
  | ⟨s, p, o⟩ :: ts => s.parts ++ p.parts ++ o.parts ++ partsAll ts
end

mutual
/-- How deep the containers of a term are nested in writing. -/
def nesting : Term → Nat
  | .iri _ => 1
  | .blank _ => 1
  | .literal ⟨_, .simple⟩ => 2
  | .literal ⟨_, .typed _⟩ => 3
  | .literal ⟨_, .tagged _⟩ => 3
  | .var _ => 1
  | .formula ts => nestingAll ts + 2
def nestingAll : List (Statement Term) → Nat
  | [] => 0
  | ⟨s, p, o⟩ :: ts => max (max s.nesting (max p.nesting o.nesting) + 1) (nestingAll ts)
end

/-- What holds of a formula whenever it holds of the terms in its triples, and of all other terms,
holds of every term. -/
theorem inductionOnTriples {P : Term → Prop} (iri : ∀ i, P (.iri i)) (blank : ∀ b, P (.blank b))
    (literal : ∀ l, P (.literal l)) (var : ∀ v, P (.var v))
    (formula : ∀ ts : List Triple, (∀ t ∈ ts, ∀ w ∈ t.toList, P w) → P (.formula ts)) : ∀ t, P t
  | .iri i => iri i
  | .blank b => blank b
  | .literal l => literal l
  | .var v => var v
  | .formula ts => formula ts fun t _ht w _hw =>
    inductionOnTriples iri blank literal var formula w
termination_by t => t
decreasing_by
  have hterm : sizeOf w < sizeOf t := by
    obtain ⟨s, p, o⟩ := t
    simp only [Statement.toList, List.mem_cons, List.not_mem_nil, or_false] at _hw
    simp only [Statement.mk.sizeOf_spec]
    rcases _hw with rfl | rfl | rfl <;> omega
  have htriple := List.sizeOf_lt_of_mem _ht
  simp only [Term.formula.sizeOf_spec]
  omega

variable {t u w : Term} {ts : List Triple}

theorem mem_partsAll : u ∈ partsAll ts ↔ ∃ t ∈ ts, ∃ w ∈ t.toList, u ∈ w.parts := by
  induction ts with
  | nil => exact iff_of_false List.not_mem_nil fun ⟨t, ht, _⟩ => List.not_mem_nil ht
  | cons t ts ih =>
    obtain ⟨s, p, o⟩ := t
    unfold partsAll
    simp only [List.mem_append, ih, List.mem_cons, Statement.toList, exists_eq_or_imp,
      List.not_mem_nil, or_false, exists_eq_left, or_assoc]

theorem nestingAll_le_iff {n : Nat} :
    nestingAll ts ≤ n ↔ ∀ t ∈ ts, ∀ w ∈ t.toList, w.nesting < n := by
  induction ts with
  | nil => exact iff_of_true (Nat.zero_le n) nofun
  | cons t ts ih =>
    obtain ⟨s, p, o⟩ := t
    unfold nestingAll
    rw [Nat.max_le, ih, List.forall_mem_cons]
    rw [Statement.forall_mem_toList, Nat.succ_le_iff, Nat.max_lt, Nat.max_lt]

theorem nesting_pos (t : Term) : 0 < t.nesting := by
  match t with
  | .iri _ | .blank _ | .var _ | .literal ⟨_, .simple⟩ | .literal ⟨_, .typed _⟩
  | .literal ⟨_, .tagged _⟩ | .formula _ => exact Nat.succ_pos _

theorem forall_mem_parts_formula {P : Term → Prop} :
    (∀ u ∈ (formula ts).parts, P u) ↔
      P (.formula ts) ∧ ∀ t ∈ ts, ∀ w ∈ t.toList, ∀ u ∈ w.parts, P u := by
  rw [parts, List.forall_mem_cons]
  refine and_congr_right fun _ => ⟨fun h t ht w hw u hu => ?_, fun h u hu => ?_⟩
  · exact h u (mem_partsAll.2 ⟨t, ht, w, hw, hu⟩)
  · obtain ⟨t, ht, w, hw, hu⟩ := mem_partsAll.1 hu
    exact h t ht w hw u hu

/-! ## What reading makes sure of -/

/-- The IRI that a term is or has for its datatype. -/
def iri? : Term → Option Iri
  | .iri i => some i
  | .literal l => l.datatype?
  | _ => none

/-- Reading can come to the term, if so many containers may be nested: its formulas are in order,
and every IRI in it stands for some text. -/
structure Readable (depth : Nat) (t : Term) : Prop where
  nesting_le : t.nesting ≤ depth
  inOrder : t.InOrder
  iris_read : ∀ u ∈ t.parts, ∀ i ∈ u.iri?, ∃ s, Iri.read s = .ok i

theorem readable_formula {depth : Nat} : (formula ts).Readable (depth + 3) ↔
    ts.Pairwise KeyOrder.Lt ∧ ∀ t ∈ ts, ∀ w ∈ t.toList, w.Readable depth := by
  have hnesting : (formula ts).nesting ≤ depth + 3 ↔
      ∀ t ∈ ts, ∀ w ∈ t.toList, w.nesting ≤ depth := by
    show nestingAll ts + 2 ≤ depth + 3 ↔ _
    rw [Nat.succ_le_succ_iff, Nat.succ_le_succ_iff, nestingAll_le_iff]
    simp only [Nat.lt_succ_iff]
  have horder : (formula ts).InOrder ↔
      ts.Pairwise KeyOrder.Lt ∧ ∀ t ∈ ts, ∀ w ∈ t.toList, w.InOrder := by
    simp only [InOrder, allInOrder_iff, Statement.forall_mem_toList]
    exact Iff.rfl
  constructor
  · rintro ⟨hn, ho, hi⟩
    exact ⟨(horder.1 ho).1, fun t ht w hw => ⟨hnesting.1 hn t ht w hw,
      (horder.1 ho).2 t ht w hw, (forall_mem_parts_formula.1 hi).2 t ht w hw⟩⟩
  · rintro ⟨ho, hall⟩
    refine ⟨hnesting.2 fun t ht w hw => (hall t ht w hw).nesting_le,
      horder.2 ⟨ho, fun t ht w hw => (hall t ht w hw).inOrder⟩, ?_⟩
    exact forall_mem_parts_formula.2 ⟨nofun, fun t ht w hw => (hall t ht w hw).iris_read⟩

end Term

theorem Iri.exists_read_of_ofJson? {v : Json} {i : Iri} (h : Iri.ofJson? v = some i) :
    ∃ s, Iri.read s = .ok i := by
  obtain ⟨s, -, h⟩ := Option.bind_eq_some_iff.1 h
  refine ⟨s, ?_⟩
  cases hread : Iri.read s with
  | error e =>
    rw [hread] at h
    exact nomatch h
  | ok j =>
    rw [hread] at h
    exact congrArg Except.ok (Option.some.inj h)

theorem readAll?_eq_mapM {α : Type} (read : Json → Option α) (vs : List Json) :
    readAll? read vs = vs.mapM read := by
  induction vs with
  | nil => rfl
  | cons v vs ih =>
    rw [readAll?, List.mapM_cons, ih]

theorem readAll?_eq_some {α : Type} {read : Json → Option α} {vs : List Json} {ts : List α}
    (h : readAll? read vs = some ts) : ∀ t ∈ ts, ∃ v, read v = some t :=
  exists_of_mapM_eq_some ((readAll?_eq_mapM read vs).symm.trans h)

namespace Term

variable {t : Term} {ts : List Triple} {depth : Nat} {v : Json}

/-- A term that is no formula is all there is in it. -/
theorem readable_of_parts (hparts : t.parts = [t]) (hnesting : t.nesting ≤ depth)
    (horder : t.InOrder) (hiri : ∀ i ∈ t.iri?, ∃ s, Iri.read s = .ok i) : t.Readable depth := by
  refine ⟨hnesting, horder, ?_⟩
  rw [hparts]
  exact List.forall_mem_singleton.2 hiri

theorem readable_literal_of_kind {s : String} {k : LiteralKind}
    (h : LiteralKind.ofJson? depth v = some k) : (literal ⟨s, k⟩).Readable (depth + 2) := by
  have hsimple : (literal ⟨s, .simple⟩).Readable (depth + 2) :=
    readable_of_parts rfl (Nat.le_add_left 2 depth) trivial nofun
  unfold LiteralKind.ofJson? at h
  split at h
  · split at h
    · obtain rfl := Option.some.inj h
      exact hsimple
    · exact nomatch h
  · split at h
    · exact nomatch h
    · next hdepth =>
      have hnesting : 3 ≤ depth + 2 := by omega
      split at h
      · obtain rfl := Option.some.inj h
        exact hsimple
      · obtain ⟨d, hd, rfl⟩ := Option.map_eq_some_iff.1 h
        refine readable_of_parts rfl hnesting trivial ?_
        rintro _ ⟨⟩
        exact Iri.exists_read_of_ofJson? hd
      · obtain ⟨g, -, rfl⟩ := Option.map_eq_some_iff.1 h
        exact readable_of_parts rfl hnesting trivial nofun
      · exact nomatch h

theorem readable_literal_of_ofJson? {l : Literal} (h : Literal.ofJson? depth v = some l) :
    (literal l).Readable (depth + 1) := by
  unfold Literal.ofJson? at h
  split at h
  · obtain ⟨s, -, h⟩ := Option.bind_eq_some_iff.1 h
    obtain ⟨k, hk, h⟩ := Option.bind_eq_some_iff.1 h
    obtain rfl := Option.some.inj h
    exact readable_literal_of_kind hk
  · exact nomatch h

/-- Each kind of term is read from what its content is read from. -/
theorem readable_of_ofJson? (h : ofJson? depth v = some t) : t.Readable depth := by
  induction depth using Nat.strongRecOn generalizing v t with
  | ind depth ih =>
    cases depth with
    | zero => exact nomatch h
    | succ depth =>
      rw [ofJson?] at h
      split at h
      · obtain ⟨i, hi, rfl⟩ := Option.map_eq_some_iff.1 h
        refine readable_of_parts rfl (Nat.le_add_left 1 depth) trivial ?_
        rintro _ ⟨⟩
        exact Iri.exists_read_of_ofJson? hi
      · obtain ⟨b, -, rfl⟩ := Option.map_eq_some_iff.1 h
        exact readable_of_parts rfl (Nat.le_add_left 1 depth) trivial nofun
      · obtain ⟨l, hl, rfl⟩ := Option.map_eq_some_iff.1 h
        exact readable_literal_of_ofJson? hl
      · obtain ⟨s, -, rfl⟩ := Option.map_eq_some_iff.1 h
        exact readable_of_parts rfl (Nat.le_add_left 1 depth) trivial nofun
      · next vs hcase =>
        split at h
        · next depth =>
          obtain ⟨ts, hts, rfl⟩ := Option.map_eq_some_iff.1 h
          refine readable_formula.2 ⟨SortedSet.ascending _, fun t ht w hw => ?_⟩
          obtain ⟨v, hv⟩ := readAll?_eq_some hts t (SortedSet.mem_ofList.1 ht)
          split at hv
          · obtain ⟨s, hs, hv⟩ := Option.bind_eq_some_iff.1 hv
            obtain ⟨p, hp, hv⟩ := Option.bind_eq_some_iff.1 hv
            obtain ⟨o, ho, hv⟩ := Option.bind_eq_some_iff.1 hv
            obtain rfl := Option.some.inj hv
            have hdepth : depth < depth + 3 := by omega
            exact Statement.forall_mem_toList.2
              ⟨ih depth hdepth hs, ih depth hdepth hp, ih depth hdepth ho⟩ w hw
          · exact nomatch hv
        · split at h
          · next hdepth =>
            obtain rfl := Option.some.inj h
            obtain ⟨-, rfl⟩ := hdepth
            exact readable_of_parts rfl (Nat.le_refl 2) ⟨.nil, trivial⟩ nofun
          · exact nomatch h
      · exact nomatch h

end Term

/-! ## Writing in different ways -/

/-- A way to write terms: a text for each IRI, and an order for the members of an object. -/
structure WritingStyle where
  spell : Iri → String
  arrange : List (String × Json) → List (String × Json)
  perm_arrange : ∀ ms : List (String × Json), (ms.map Prod.fst).Nodup → (arrange ms).Perm ms

/-- With other texts for the IRIs, and the members in the order in which they come. -/
def WritingStyle.spelling (spell : Iri → String) : WritingStyle := ⟨spell, id, fun _ _ => .refl _⟩

def LiteralKind.written (style : WritingStyle) : LiteralKind → Json
  | .simple => .string "Simple"
  | .typed d => .object [("Typed", .string (style.spell d))]
  | .tagged g => .object [("LanguageTagged", .string g)]

def Literal.written (style : WritingStyle) (l : Literal) : Json :=
  .object (style.arrange [("value", .string l.value), ("kind", l.kind.written style)])

mutual
/-- A term as JSON, written in some way. -/
def Term.written (style : WritingStyle) : Term → Json
  | .iri i => .object [("Iri", .string (style.spell i))]
  | .blank b => .object [("Blank", .integer b.id.toNat)]
  | .literal l => .object [("Literal", l.written style)]
  | .var v => .object [("Variable", .string v.name)]
  | .formula ts => .object [("GraphLiteral", .array (Term.writtenAll style ts))]
def Term.writtenAll (style : WritingStyle) : List (Statement Term) → List Json
  | [] => []
  | ⟨s, p, o⟩ :: ts =>
    .object (style.arrange [("subject", s.written style), ("predicate", p.written style),
      ("object", o.written style)]) :: Term.writtenAll style ts
end

/-- A triple as JSON, written in some way. -/
def Statement.written (style : WritingStyle) (t : Triple) : Json :=
  .object (style.arrange [("subject", t.subject.written style),
    ("predicate", t.predicate.written style), ("object", t.object.written style)])

theorem onlyMember?_perm {ms ns : List (String × Json)} (h : ms.Perm ns) (name : String) :
    onlyMember? name ms = onlyMember? name ns := by
  have hfilter := h.filter fun m => m.1 = name
  unfold onlyMember?
  split
  · next m hm =>
    rw [hm] at hfilter
    rw [← List.singleton_perm.1 hfilter]
  · next hnone =>
    split
    · next m hm =>
      rw [hm] at hfilter
      exact absurd (List.perm_singleton.1 hfilter) (hnone m)
    · rfl

/-- The fields of a structure are found in whatever order the members come. -/
theorem fields?_perm {ms ns : List (String × Json)} (h : ms.Perm ns) (names : List String) :
    fields? names (.object ms) = fields? names (.object ns) := by
  unfold fields?
  exact congrArg (List.mapM · names) (funext (onlyMember?_perm h))

section Written

variable {style : WritingStyle} {depth : Nat}

theorem Term.writtenAll_eq (ts : List Triple) :
    Term.writtenAll style ts = ts.map (Statement.written style) := by
  induction ts with
  | nil => rfl
  | cons t ts ih =>
    obtain ⟨s, p, o⟩ := t
    rw [Term.writtenAll, ih]
    rfl

/-- A term is written as it is with the texts of its IRIs. -/
theorem Term.written_text (t : Term) : t.written (.spelling Iri.text) = t.toJson := by
  induction t using Term.inductionOnTriples with
  | iri i => rfl
  | blank b => rfl
  | literal l =>
    obtain ⟨s, kind⟩ := l
    cases kind <;> rfl
  | var v => rfl
  | formula ts ih =>
    have hall : Term.writtenAll (.spelling Iri.text) ts = Term.triplesToJson ts := by
      induction ts with
      | nil => rfl
      | cons t ts ihts =>
        obtain ⟨hfirst, hrest⟩ := List.forall_mem_cons.1 ih
        obtain ⟨hs, hp, ho⟩ := Statement.forall_mem_toList.1 hfirst
        obtain ⟨s, p, o⟩ := t
        rw [Term.writtenAll, Term.triplesToJson, ihts hrest, hs, hp, ho]
        rfl
    rw [Term.written, Term.toJson, hall]

theorem Json.isExact_case {name : String} {v : Json} (h : v.IsExact) :
    (Json.object [(name, v)]).IsExact := .object (List.forall_mem_singleton.2 h)

theorem nodup_literal (value kind : Json) :
    ([("value", value), ("kind", kind)].map Prod.fst).Nodup :=
  show ["value", "kind"].Nodup by decide

theorem nodup_triple (s p o : Json) :
    ([("subject", s), ("predicate", p), ("object", o)].map Prod.fst).Nodup :=
  show ["subject", "predicate", "object"].Nodup by decide

theorem Json.isExact_arrange {ms : List (String × Json)} (hnames : (ms.map Prod.fst).Nodup)
    (h : ∀ m ∈ ms, m.2.IsExact) : (Json.object (style.arrange ms)).IsExact :=
  .object fun m hm => h m ((style.perm_arrange ms hnames).mem_iff.1 hm)

theorem Literal.isExact_written (l : Literal) : (l.written style).IsExact := by
  obtain ⟨s, kind⟩ := l
  have hkind : (kind.written style).IsExact := by
    cases kind with
    | simple => exact .string _
    | typed d => exact Json.isExact_case (.string _)
    | tagged g => exact Json.isExact_case (.string _)
  exact Json.isExact_arrange (nodup_literal _ _)
    (List.forall_mem_cons.2 ⟨.string s, List.forall_mem_singleton.2 hkind⟩)

theorem Term.isExact_written (t : Term) : (t.written style).IsExact := by
  induction t using Term.inductionOnTriples with
  | iri i => exact Json.isExact_case (.string _)
  | blank b => exact Json.isExact_case (.integer _)
  | literal l => exact Json.isExact_case l.isExact_written
  | var v => exact Json.isExact_case (.string _)
  | formula ts ih =>
    rw [Term.written, Term.writtenAll_eq]
    refine Json.isExact_case (.array (List.forall_mem_map.2 fun t ht => ?_))
    obtain ⟨hs, hp, ho⟩ := Statement.forall_mem_toList.1 (ih t ht)
    exact Json.isExact_arrange (nodup_triple _ _ _) (List.forall_mem_cons.2 ⟨hs,
      List.forall_mem_cons.2 ⟨hp, List.forall_mem_singleton.2 ho⟩⟩)

theorem Iri.ofJson?_string {s : String} {i : Iri} (h : Iri.read s = .ok i) :
    Iri.ofJson? (.string s) = some i := by
  rw [Iri.ofJson?, Json.asText?, Option.bind_some, h]
  rfl

theorem Blank.ofJson?_toNat (b : Blank) : Blank.ofJson? (.integer b.id.toNat) = some b := by
  have hlt := b.id.isLt
  rw [Blank.ofJson?, if_pos (by omega), BitVec.ofInt_natCast, BitVec.ofNat_toNat,
    BitVec.setWidth_eq]

theorem readAll?_map {α : Type} {read : Json → Option α} {write : α → Json} {ts : List α}
    (h : ∀ t ∈ ts, read (write t) = some t) : readAll? read (ts.map write) = some ts := by
  rw [readAll?_eq_mapM]
  exact mapM_map_eq_some h

theorem Literal.ofJson?_written {l : Literal} (hnesting : (Term.literal l).nesting ≤ depth + 1)
    (hspell : ∀ d ∈ l.datatype?, Iri.read (style.spell d) = .ok d) :
    Literal.ofJson? depth (l.written style) = some l := by
  obtain ⟨s, kind⟩ := l
  have hfields : fields? ["value", "kind"] (Literal.written style ⟨s, kind⟩) =
      some [.string s, kind.written style] :=
    fields?_perm (style.perm_arrange _ (nodup_literal _ _)) _
  unfold Literal.ofJson?
  rw [hfields]
  cases kind with
  | simple =>
    have hdepth : 1 ≤ depth := Nat.le_of_succ_le_succ hnesting
    obtain ⟨n, rfl⟩ := Nat.exists_eq_add_of_le' hdepth
    rfl
  | typed d =>
    have hdepth : 2 ≤ depth := Nat.le_of_succ_le_succ hnesting
    obtain ⟨n, rfl⟩ := Nat.exists_eq_add_of_le' hdepth
    have hkind : LiteralKind.ofJson? (n + 1) ((LiteralKind.typed d).written style) =
        (Iri.ofJson? (.string (style.spell d))).map .typed := rfl
    show (do return ⟨← some s, ← LiteralKind.ofJson? (n + 1)
      ((LiteralKind.typed d).written style)⟩ : Option Literal) = _
    rw [hkind, Iri.ofJson?_string (hspell d rfl)]
    rfl
  | tagged g =>
    have hdepth : 2 ≤ depth := Nat.le_of_succ_le_succ hnesting
    obtain ⟨n, rfl⟩ := Nat.exists_eq_add_of_le' hdepth
    rfl

/-- A readable term is read from what is written for it. -/
theorem Term.ofJson?_written {t : Term} (h : t.Readable depth)
    (hspell : ∀ u ∈ t.parts, ∀ i ∈ u.iri?, Iri.read (style.spell i) = .ok i) :
    Term.ofJson? depth (t.written style) = some t := by
  induction t using Term.inductionOnTriples generalizing depth with
  | iri i =>
    obtain ⟨n, rfl⟩ : ∃ n, depth = n + 1 := Nat.exists_eq_add_of_le' h.nesting_le
    have hiri := Iri.ofJson?_string (hspell (.iri i) List.mem_cons_self i rfl)
    show (Iri.ofJson? (.string (style.spell i))).map Term.iri = _
    rw [hiri]
    rfl
  | blank b =>
    obtain ⟨n, rfl⟩ : ∃ n, depth = n + 1 := Nat.exists_eq_add_of_le' h.nesting_le
    show (Blank.ofJson? (.integer b.id.toNat)).map Term.blank = _
    rw [b.ofJson?_toNat]
    rfl
  | literal l =>
    obtain ⟨n, rfl⟩ : ∃ n, depth = n + 1 :=
      Nat.exists_eq_add_of_le' (Nat.le_trans (nesting_pos _) h.nesting_le)
    have hl := Literal.ofJson?_written h.nesting_le (hspell (.literal l) List.mem_cons_self)
    show (Literal.ofJson? n (l.written style)).map Term.literal = _
    rw [hl]
    rfl
  | var v =>
    obtain ⟨n, rfl⟩ : ∃ n, depth = n + 1 := Nat.exists_eq_add_of_le' h.nesting_le
    rfl
  | formula ts ih =>
    obtain ⟨n, rfl⟩ : ∃ n, depth = n + 2 :=
      Nat.exists_eq_add_of_le' (Nat.le_trans (Nat.le_add_left 2 _) h.nesting_le)
    cases n with
    | zero =>
      -- No container is left for a triple, so there is none.
      have hnone := nestingAll_le_iff.1 (Nat.le_of_add_le_add_right h.nesting_le)
      cases ts with
      | nil => rfl
      | cons t ts =>
        have hsubject := hnone t List.mem_cons_self t.subject List.mem_cons_self
        exact absurd hsubject (Nat.not_lt_zero _)
    | succ n =>
      obtain ⟨hascending, hreadable⟩ := readable_formula.1 h
      have hspellIn := (forall_mem_parts_formula.1 hspell).2
      show (readAll? _ (writtenAll style ts)).map (fun ts => ofTriples (.ofList ts)) = _
      rw [writtenAll_eq, readAll?_map fun t ht => ?_, Option.map_some, ofTriples,
        toList_ofList hascending]
      have hread : ∀ w ∈ t.toList, ofJson? n (w.written style) = some w := fun w hw =>
        ih t ht w hw (hreadable t ht w hw) (hspellIn t ht w hw)
      obtain ⟨hs, hp, ho⟩ := Statement.forall_mem_toList.1 hread
      have hfields : fields? ["subject", "predicate", "object"] (t.written style) =
          some [t.subject.written style, t.predicate.written style, t.object.written style] :=
        fields?_perm (style.perm_arrange _ (nodup_triple _ _ _)) _
      rw [hfields]
      show ((ofJson? n (t.subject.written style)).bind fun s =>
        (ofJson? n (t.predicate.written style)).bind fun p =>
          (ofJson? n (t.object.written style)).bind fun o => some ⟨s, p, o⟩) = some t
      rw [hs, hp, ho]
      rfl

theorem Term.read?_written {t : Term} (h : t.Readable nestingLimit)
    (hspell : ∀ u ∈ t.parts, ∀ i ∈ u.iri?, Iri.read (style.spell i) = .ok i) :
    Term.read? (t.written style).text = some t := by
  unfold Term.read?
  rw [Json.read?_text t.isExact_written]
  exact Term.ofJson?_written h hspell

end Written

/-! ## Terms that could have been built -/

/-- A name is taken over if it is a variable name without marks in front. -/
theorem Variable.read_eq_self_iff {v : Variable} :
    Variable.read v.name = .ok v ↔ isVariableName v.name = true ∧ stripMarks v.name = v.name := by
  obtain ⟨name⟩ := v
  unfold Variable.read
  dsimp only
  constructor
  · intro h
    split at h
    · next hname =>
      have hself : stripMarks name = name := congrArg Variable.name (Except.ok.inj h)
      rw [hself] at hname
      exact ⟨hname, hself⟩
    · exact nomatch h
  · rintro ⟨hname, hself⟩
    rw [hself, if_pos hname]

namespace Literal

variable {l : Literal} {g : String}

/-- A language is accepted as it is if it is a tag in lower case. -/
theorem tagged_eq_self_iff (h : l.language? = some g) :
    tagged l.value g = .ok l ↔ isLanguageTag g = true ∧ lowered g = g := by
  obtain ⟨s, kind⟩ := l
  obtain rfl : kind = .tagged g := by
    cases kind with
    | tagged g' => exact congrArg _ (Option.some.inj h)
    | _ => exact nomatch h
  rw [tagged_eq_ok_iff, Literal.mk.injEq, LiteralKind.tagged.injEq, eq_comm (a := g)]
  exact and_congr_right' (and_iff_right rfl)

end Literal

namespace Term

def language? : Term → Option String
  | .literal l => l.language?
  | _ => none

def variableName? : Term → Option String
  | .var v => some v.name
  | _ => none

/-- The checks at building would accept what the term is made of, and leave it as it is: each IRI is
the one that its text stands for, and each language and each name is taken over. -/
def IsWellFormed : Term → Prop
  | .iri i => Iri.read i.text = .ok i
  | .literal l => (∀ d ∈ l.datatype?, Iri.read d.text = .ok d) ∧
    ∀ g ∈ l.language?, Literal.tagged l.value g = .ok l
  | .var v => Variable.read v.name = .ok v
  | .blank _ => True
  | .formula _ => True

theorem isWellFormed_iff {t : Term} : t.IsWellFormed ↔
    (∀ i ∈ t.iri?, Iri.read i.text = .ok i) ∧
    (∀ g ∈ t.language?, isLanguageTag g = true ∧ lowered g = g) ∧
    ∀ x ∈ t.variableName?, isVariableName x = true ∧ stripMarks x = x := by
  cases t with
  | iri i => exact ⟨fun h => ⟨by rintro _ ⟨⟩; exact h, nofun, nofun⟩, fun h => h.1 i rfl⟩
  | blank b => exact iff_of_true trivial ⟨nofun, nofun, nofun⟩
  | literal l =>
    have hlanguage : (∀ g ∈ l.language?, Literal.tagged l.value g = .ok l) ↔
        ∀ g ∈ l.language?, isLanguageTag g = true ∧ lowered g = g :=
      forall₂_congr fun g hg => Literal.tagged_eq_self_iff hg
    exact (and_congr_right' hlanguage).trans
      ⟨fun h => ⟨h.1, h.2, nofun⟩, fun h => ⟨h.1, h.2.1⟩⟩
  | var v =>
    exact Variable.read_eq_self_iff.trans
      ⟨fun h => ⟨nofun, nofun, by rintro _ ⟨⟩; exact h⟩, fun h => h.2.2 v.name rfl⟩
  | formula ts => exact iff_of_true trivial ⟨nofun, nofun, nofun⟩

/-- A readable term is held by the text that writes its IRIs as they have been read from. -/
theorem exists_read?_of_readable {t : Term} (h : t.Readable nestingLimit) :
    ∃ text, read? text = some t := by
  have hspelling : ∃ spell : Iri → String,
      ∀ u ∈ t.parts, ∀ i ∈ u.iri?, Iri.read (spell i) = .ok i := by
    have hchoice : ∀ i : Iri, ∃ s, (∃ u ∈ t.parts, i ∈ u.iri?) → Iri.read s = .ok i := by
      intro i
      by_cases hi : ∃ u ∈ t.parts, i ∈ u.iri?
      · obtain ⟨u, hu, hi⟩ := hi
        obtain ⟨s, hs⟩ := h.iris_read u hu i hi
        exact ⟨s, fun _ => hs⟩
      · exact ⟨"", fun hi' => absurd hi' hi⟩
    obtain ⟨spell, hspell⟩ := Classical.axiomOfChoice hchoice
    exact ⟨spell, fun u hu i hi => hspell i ⟨u, hu, hi⟩⟩
  obtain ⟨spell, hspell⟩ := hspelling
  exact ⟨(t.written (.spelling spell)).text, read?_written h hspell⟩

/-- **What reading checks, and what it does not.** A term is held by a text just if its IRIs have
been read and its formulas are in order, unless it is nested too deep. To be well formed it would
need three things more: its IRIs stand for themselves, its languages are tags in lower case, and its
variables have names without marks in front. -/
theorem exists_read?_iff (t : Term) :
    ((∃ text, read? text = some t) ↔ t.Readable nestingLimit) ∧
    ((∀ u ∈ t.parts, u.IsWellFormed) ↔
      (∀ u ∈ t.parts, ∀ i ∈ u.iri?, Iri.read i.text = .ok i) ∧
      (∀ u ∈ t.parts, ∀ g ∈ u.language?, isLanguageTag g = true ∧ lowered g = g) ∧
      ∀ u ∈ t.parts, ∀ x ∈ u.variableName?, isVariableName x = true ∧ stripMarks x = x) := by
  refine ⟨⟨?_, exists_read?_of_readable⟩, ?_⟩
  · rintro ⟨text, h⟩
    obtain ⟨v, -, hv⟩ := Option.bind_eq_some_iff.1 h
    exact readable_of_ofJson? hv
  · simp only [isWellFormed_iff, forall_and]

/-- A language that is no tag and a name with its mark are taken from texts as they are. -/
theorem read?_forges :
    (read? ("\x7b\"Literal\":\x7b\"value\":\"chat\"," ++
        "\"kind\":\x7b\"LanguageTagged\":\"FR be\"\x7d\x7d\x7d") =
        some (.literal ⟨"chat", .tagged "FR be"⟩) ∧
      ¬(literal ⟨"chat", .tagged "FR be"⟩).IsWellFormed) ∧
    (read? "\x7b\"Variable\":\"?x\"\x7d" = some (.var ⟨"?x"⟩) ∧
      ¬(var ⟨"?x"⟩).IsWellFormed) := by
  refine ⟨⟨by decide +kernel, fun h => ?_⟩, by decide +kernel, fun h => ?_⟩
  · exact absurd ((isWellFormed_iff.1 h).2.1 "FR be" rfl).1 (by decide)
  · exact absurd ((isWellFormed_iff.1 h).2.2 "?x" rfl).2 (by decide)

end Term

end RdfStore
