import RdfStore.Proofs.Expr.Visiting
import RdfStore.Proofs.Term.Normal

/-!
# Functions of terms

Four functions are about a term and not about its value: identity, the lexical form, the datatype
and the language. Their arguments are values nevertheless, so what they speak of is the normal
spelling of a term (`Expr.termFunctions_normal`). Two terms that are spelled alike count as the
same, and the form and the datatype of a literal are its own only if it is spelled normally.
-/

namespace RdfStore

/-! ## Spelling and datatype -/

namespace Literal

variable {l : Literal}

/-- The datatypes whose values are spelled with a wider datatype. -/
def narrowTypes : List Iri :=
  [Vocabulary.xsd "int", Vocabulary.xsd "long", Vocabulary.xsd "float", Vocabulary.xsd "decimal"]

/-- A literal that is spelled anew keeps its datatype, unless that is a narrow one. -/
theorem datatype_respelled {s : String} {d : Iri} (h : respelled? s d = some l) :
    l.datatype = d ↔ d ∉ narrowTypes := by
  have hintegers : ∀ d ∈ Vocabulary.integerTypes,
      Vocabulary.xsdInteger = d ↔ d ∉ narrowTypes := by decide
  have hdoubles : ∀ d ∈ Vocabulary.doubleTypes,
      Vocabulary.xsdDouble = d ↔ d ∉ narrowTypes := by decide
  have hother : Vocabulary.xsdString ∉ narrowTypes ∧ Vocabulary.xsdBoolean ∉ narrowTypes ∧
      Vocabulary.xsdDateTime ∉ narrowTypes := by decide
  unfold respelled? at h
  dsimp only at h
  split_ifs at h with hstring hinteger hdouble hboolean hdate
  · obtain rfl := Option.some.inj h
    exact iff_of_true hstring.symm (hstring ▸ hother.1)
  · obtain ⟨i, -, rfl⟩ := Option.map_eq_some_iff.1 h
    exact hintegers d hinteger
  · obtain ⟨x, -, rfl⟩ := Option.map_eq_some_iff.1 h
    exact hdoubles d hdouble
  · obtain ⟨v, -, rfl⟩ := Option.map_eq_some_iff.1 h
    exact iff_of_true hboolean.symm (hboolean ▸ hother.2.1)
  · obtain ⟨t, -, rfl⟩ := Option.map_eq_some_iff.1 h
    exact iff_of_true hdate.symm (hdate ▸ hother.2.2)

/-- The literal has a value of a narrow datatype. -/
def IsNarrow (l : Literal) : Prop :=
  l.datatype ∈ narrowTypes ∧ Value.ofTyped? l.value l.datatype ≠ none

/-- A literal with an accepted language keeps it. -/
theorem IsAccepted.normal_eq {s g : String} (h : IsAccepted ⟨s, .tagged g⟩) :
    normal ⟨s, .tagged g⟩ = ⟨s, .tagged g⟩ :=
  normal_eq_self_iff.2 (isAccepted_iff.1 h g rfl)

theorem IsAccepted.language_normal (h : l.IsAccepted) : l.normal.language? = l.language? := by
  obtain ⟨s, kind⟩ := l
  cases kind with
  | simple => rfl
  | tagged g => rw [h.normal_eq]
  | typed d =>
    show ((respelled? s d).getD ⟨s, .typed d⟩).language? = none
    cases hl : respelled? s d with
    | none => rfl
    | some l =>
      rcases kind_of_respelled? hl with rfl | ⟨d', hkind⟩
      · obtain rfl := Option.some.inj hl
        rfl
      · show l.language? = none
        unfold language?
        rw [hkind]

theorem IsAccepted.datatype_normal_iff (h : l.IsAccepted) :
    l.normal.datatype = l.datatype ↔ ¬l.IsNarrow := by
  have hplain : Vocabulary.xsdString ∉ narrowTypes ∧ Vocabulary.rdfLangString ∉ narrowTypes := by
    decide
  obtain ⟨s, kind⟩ := l
  cases kind with
  | simple => exact iff_of_true rfl fun hnarrow => hplain.1 hnarrow.1
  | tagged g =>
    rw [h.normal_eq]
    exact iff_of_true rfl fun hnarrow => hplain.2 hnarrow.1
  | typed d =>
    show ((respelled? s d).getD ⟨s, .typed d⟩).datatype = d ↔
      ¬(d ∈ narrowTypes ∧ Value.ofTyped? s d ≠ none)
    cases hl : respelled? s d with
    | none =>
      rw [respelled?_eq_none_iff] at hl
      exact iff_of_true rfl fun hnarrow => hnarrow.2 hl
    | some l =>
      have hvalue : Value.ofTyped? s d ≠ none := by
        rw [Ne, ← respelled?_eq_none_iff, hl]
        exact Option.some_ne_none l
      rw [Option.getD_some, datatype_respelled hl]
      exact ⟨fun hd hnarrow => hd hnarrow.1, fun hnot hd => hnot ⟨hd, hvalue⟩⟩

/-- The form and the datatype of a literal are both kept if it is spelled normally, or is text whose
datatype says so. -/
theorem IsAccepted.keeps_iff (h : l.IsAccepted) :
    l.normal.value = l.value ∧ l.normal.datatype = l.datatype ↔
      l.IsNormal ∨ l.kind = .typed Vocabulary.xsdString := by
  constructor
  · rintro ⟨hvalue, hdatatype⟩
    rw [← normal_eq_self_iff]
    obtain ⟨s, kind⟩ := l
    cases kind with
    | simple => exact .inl rfl
    | tagged g => exact .inl h.normal_eq
    | typed d =>
      change ((respelled? s d).getD ⟨s, .typed d⟩).value = s at hvalue
      change ((respelled? s d).getD ⟨s, .typed d⟩).datatype = d at hdatatype
      show (respelled? s d).getD ⟨s, .typed d⟩ = ⟨s, .typed d⟩ ∨
        LiteralKind.typed d = .typed Vocabulary.xsdString
      cases hl : respelled? s d with
      | none => exact .inl rfl
      | some l =>
        rw [hl, Option.getD_some] at hvalue hdatatype
        rcases kind_of_respelled? hl with rfl | ⟨d', hkind⟩
        · exact .inr rfl
        · left
          obtain ⟨s', kind⟩ := l
          obtain rfl : kind = .typed d' := hkind
          obtain rfl : s' = s := hvalue
          obtain rfl : d' = d := hdatatype
          rfl
  · rintro (hnormal | hkind)
    · rw [normal_eq_self_iff.2 hnormal]
      exact ⟨rfl, rfl⟩
    · obtain ⟨s, kind⟩ := l
      obtain rfl : kind = .typed Vocabulary.xsdString := hkind
      exact ⟨rfl, rfl⟩

end Literal

namespace Expr

/-- The expression stands for a term in a row: as a constant, or as a variable that is bound. -/
inductive Denotes (row : Row) (t : Term) : Expr → Prop
  | const : Denotes row t (.const t)
  | var {x : String} : row.find? x = some t → Denotes row t (.var x)

variable {row : Row} {now : DateTime} {a b : Term} {e e' : Expr} {l : Literal}

theorem Denotes.evaluate_eq (h : e.Denotes row a) : e.evaluate row now = .ok (.ofTerm a) := by
  cases h with
  | const => rfl
  | var hx =>
    show row.value _ = .ok (.ofTerm a)
    unfold Row.value
    rw [hx]

/-- A function of one argument is applied to its value. -/
theorem Denotes.evaluate_call (h : e.Denotes row a) {f : Function} (hstrict : f.isStrict = true)
    (harity : f.arityError? [e].length = none) :
    (call f [e]).evaluate row now = f.apply [.ofTerm a] := by
  rw [evaluate_strict hstrict harity, evaluateAll_eq, List.map_singleton, h.evaluate_eq]
  rfl

theorem evaluate_sameTerm (h : e.Denotes row a) (h' : e'.Denotes row b) :
    (call .sameTerm [e, e']).evaluate row now = .ok (.boolean (a.normal = b.normal)) := by
  rw [evaluate_strict rfl rfl, evaluateAll_eq, List.map_cons, List.map_singleton, h.evaluate_eq,
    h'.evaluate_eq, ← Value.toTerm_ofTerm a, ← Value.toTerm_ofTerm b]
  rfl

theorem evaluate_str (h : e.Denotes row (.literal l)) :
    (call .str [e]).evaluate row now = .ok (.text l.normal.value none) := by
  rw [h.evaluate_call rfl rfl]
  show Function.applyStr _ = _
  unfold Function.applyStr
  rw [Value.toTerm_ofTerm]
  rfl

theorem evaluate_datatype (h : e.Denotes row (.literal l)) :
    (call .datatype [e]).evaluate row now = .ok (.term (.iri l.normal.datatype)) := by
  rw [h.evaluate_call rfl rfl]
  show Function.applyDatatype _ = _
  unfold Function.applyDatatype
  rw [Value.toTerm_ofTerm]
  rfl

theorem evaluate_lang (h : e.Denotes row (.literal l)) :
    (call .lang [e]).evaluate row now = .ok (.text (l.normal.language?.getD "") none) := by
  rw [h.evaluate_call rfl rfl]
  show Function.applyLang _ = _
  unfold Function.applyLang
  rw [Value.toTerm_ofTerm]
  rfl

/-- **Functions of terms speak of normal spellings.** Two terms count as the same if their normal
spellings are equal, which is right for all pairs but those that are spelled differently. The form
and the datatype of a literal are those of its normal spelling. The datatype is its own unless the
literal has a value of a narrow datatype, form and datatype are both its own just if it is spelled
normally or is text whose datatype says so, and the language always is. -/
theorem termFunctions_normal (row : Row) (now : DateTime) :
    (∀ a b e e', e.Denotes row a → e'.Denotes row b →
      (call .sameTerm [e, e']).evaluate row now = .ok (.boolean (a.normal = b.normal)) ∧
      ((call .sameTerm [e, e']).evaluate row now = .ok (.boolean (a = b)) ↔
        a = b ∨ a.normal ≠ b.normal) ∧
      (a.IsNormal → b.IsNormal →
        (call .sameTerm [e, e']).evaluate row now = .ok (.boolean (a = b)))) ∧
    ∀ l e, e.Denotes row (.literal l) → l.IsAccepted →
      (call .str [e]).evaluate row now = .ok (.text l.normal.value none) ∧
      (call .datatype [e]).evaluate row now = .ok (.term (.iri l.normal.datatype)) ∧
      (call .lang [e]).evaluate row now = .ok (.text (l.language?.getD "") none) ∧
      ((call .datatype [e]).evaluate row now = .ok (.term (.iri l.datatype)) ↔ ¬l.IsNarrow) ∧
      ((call .str [e]).evaluate row now = .ok (.text l.value none) ∧
        (call .datatype [e]).evaluate row now = .ok (.term (.iri l.datatype)) ↔
          l.IsNormal ∨ l.kind = .typed Vocabulary.xsdString) := by
  refine ⟨fun a b e e' h h' => ?_, fun l e h hl => ?_⟩
  · rw [evaluate_sameTerm h h']
    refine ⟨rfl, ?_, fun ha hb => ?_⟩
    · simp only [Except.ok.injEq, Value.boolean.injEq, decide_eq_decide]
      constructor
      · intro hright
        by_cases hab : a = b
        · exact .inl hab
        · exact .inr fun hnormal => hab (hright.1 hnormal)
      · rintro (rfl | hne)
        · exact iff_of_true rfl rfl
        · exact iff_of_false hne fun hab => hne (congrArg Term.normal hab)
    · rw [Term.normal_eq_self_iff.2 ha, Term.normal_eq_self_iff.2 hb]
  · rw [evaluate_str h, evaluate_datatype h, evaluate_lang h, hl.language_normal,
      ← hl.datatype_normal_iff, ← hl.keeps_iff]
    simp only [Except.ok.injEq, Value.text.injEq, Value.term.injEq, Term.iri.injEq, and_true]

/-- A number in a spelling, and with a datatype, that are not the normal ones. -/
def oneAsInt : Literal := ⟨"01", .typed (Vocabulary.xsd "int")⟩

/-- A row in which a variable stands for the number. -/
def oneRow : Row := SortedMap.empty.insert "x" (.literal oneAsInt)

theorem termFunctions_oneAsInt :
    (oneAsInt.IsAccepted ∧ ¬oneAsInt.IsNormal ∧ oneAsInt.IsNarrow) ∧
      (call .sameTerm [.var "x", .const (.ofInteger 1)]).evaluate oneRow
        ⟨2024, 1, 1, 12, 0, 0, 0, 0⟩ = .ok (.boolean true) ∧
      (call .datatype [.var "x"]).evaluate oneRow ⟨2024, 1, 1, 12, 0, 0, 0, 0⟩ ≠
        .ok (.term (.iri oneAsInt.datatype)) ∧
      (call .sameTerm [.const (.ofInteger 1), .const (.ofInteger 2)]).evaluate oneRow
        ⟨2024, 1, 1, 12, 0, 0, 0, 0⟩ = .ok (.boolean false) := by
  have haccepted : oneAsInt.IsAccepted := nofun
  have hnormal : ¬oneAsInt.IsNormal := by decide +kernel
  have hnarrow : oneAsInt.IsNarrow := by
    constructor
    · decide
    · decide +kernel
  have hone : (Term.literal oneAsInt).normal = (Term.ofInteger 1).normal := by decide +kernel
  have hx : (Expr.var "x").Denotes oneRow (.literal oneAsInt) := .var rfl
  obtain ⟨hsame, hparts⟩ := termFunctions_normal oneRow ⟨2024, 1, 1, 12, 0, 0, 0, 0⟩
  have htwo : (Term.ofInteger 1).IsNormal ∧ (Term.ofInteger 2).IsNormal ∧
      Term.ofInteger 1 ≠ .ofInteger 2 := by
    rw [← Term.normal_eq_self_iff, ← Term.normal_eq_self_iff]
    decide +kernel
  refine ⟨⟨haccepted, hnormal, hnarrow⟩, ?_, fun hdatatype => ?_, ?_⟩
  · rw [(hsame _ _ _ _ hx .const).1, decide_eq_true hone]
  · obtain ⟨-, -, -, hown, -⟩ := hparts _ _ hx haccepted
    exact hown.1 hdatatype hnarrow
  · rw [(hsame _ _ _ _ .const .const).2.2 htwo.1 htwo.2.1, decide_eq_false htwo.2.2]

/-- The number and the same number in its normal spelling are two terms, but count as the same, and
neither the form nor the datatype of the first is its own. -/
theorem termFunctions_not_of_term :
    Term.literal oneAsInt ≠ .ofInteger 1 ∧ oneAsInt.IsAccepted ∧
      (call .sameTerm [.const (.literal oneAsInt), .const (.ofInteger 1)]).evaluate .empty
        ⟨2024, 1, 1, 12, 0, 0, 0, 0⟩ = .ok (.boolean true) ∧
      (call .str [.const (.literal oneAsInt)]).evaluate .empty ⟨2024, 1, 1, 12, 0, 0, 0, 0⟩ =
        .ok (.text "1" none) ∧
      (call .datatype [.const (.literal oneAsInt)]).evaluate .empty
        ⟨2024, 1, 1, 12, 0, 0, 0, 0⟩ = .ok (.term (.iri Vocabulary.xsdInteger)) ∧
      oneAsInt.value ≠ "1" ∧ oneAsInt.datatype ≠ Vocabulary.xsdInteger := by
  have hone : oneAsInt.normal = ⟨"1", .typed Vocabulary.xsdInteger⟩ := by decide +kernel
  refine ⟨by decide +kernel, nofun, ?_, ?_, ?_, by decide, by decide⟩
  · have hsame : (Term.literal oneAsInt).normal = (Term.ofInteger 1).normal := by decide +kernel
    rw [evaluate_sameTerm .const .const, decide_eq_true hsame]
  · rw [evaluate_str .const, hone]
  · rw [evaluate_datatype .const, hone]
    rfl

end Expr

end RdfStore
