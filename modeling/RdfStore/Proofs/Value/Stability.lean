import RdfStore.Proofs.Expr.Integers
import RdfStore.Proofs.Term.Normal

/-!
# Values read back from their spellings

A value is written as a term, and the term has a value again. The two are the same for truth values,
for integers in the whole range of words, for texts without a language or in one whose tag is in
lower case, and for terms that are their own values (`Value.IsStable.ofTerm_toTerm`). Doubles and
dates apart there are no others (`Value.isStable_iff`), and a term has such a value if and only if
its language was accepted where literals are built (`Value.isStable_ofTerm_iff`). So reading and
writing settle in one round, and the spelling tells such values apart (`Value.reading_stable`).
-/

namespace RdfStore

/-- The language of the term, if it is a literal with one, is of the kind that is accepted where
literals are built. -/
def Term.IsAccepted : Term → Prop
  | .literal l => l.IsAccepted
  | _ => True

namespace Term

variable {t : Term} {s g : String}

/-- A language is accepted if it is a tag in lower case. -/
theorem isAccepted_tagged_iff :
    IsAccepted (.literal ⟨s, .tagged g⟩) ↔ isLanguageTag g = true ∧ lowered g = g := by
  show Literal.IsAccepted ⟨s, .tagged g⟩ ↔ _
  rw [Literal.isAccepted_iff]
  constructor
  · intro h
    exact h g rfl
  · rintro h _ ⟨⟩
    exact h

theorem exists_tagged_of_not_isAccepted (h : ¬t.IsAccepted) :
    ∃ s g, t = .literal ⟨s, .tagged g⟩ := by
  cases t with
  | literal l =>
    obtain ⟨s, kind⟩ := l
    cases kind with
    | tagged g => exact ⟨s, g, rfl⟩
    | simple => exact absurd nofun h
    | typed d => exact absurd nofun h
  | _ => exact absurd trivial h

end Term

namespace Value

/-- The value is neither a double nor a date with a time. -/
def IsDiscrete : Value → Prop
  | double _ => False
  | dateTime _ => False
  | _ => True

instance : DecidablePred IsDiscrete
  | boolean _ => inferInstanceAs (Decidable True)
  | integer _ => inferInstanceAs (Decidable True)
  | double _ => inferInstanceAs (Decidable False)
  | text _ _ => inferInstanceAs (Decidable True)
  | dateTime _ => inferInstanceAs (Decidable False)
  | term _ => inferInstanceAs (Decidable True)

/-- Values with a spelling of their own, which is read as the value again. -/
inductive IsStable : Value → Prop where
  | boolean (b : Bool) : IsStable (.boolean b)
  | integer (i : Int64) : IsStable (.integer i)
  | plain (s : String) : IsStable (.text s none)
  | tagged {g : String} (s : String) (htag : isLanguageTag g = true) (hlower : lowered g = g) :
      IsStable (.text s (some g))
  | term {t : Term} (h : ofTerm t = .term t) : IsStable (.term t)

variable {v w : Value} {t : Term} {s g : String} {d : Iri}

/-! ## Written and read -/

theorem ofTerm_ofBool (b : Bool) : ofTerm (.ofBool b) = .boolean b := by
  have hvalue : ofTyped? (if b then "true" else "false") Vocabulary.xsdBoolean =
      some (.boolean b) := by
    cases b <;> rfl
  unfold Term.ofBool
  rw [ofTerm_typed, hvalue, Option.getD_some]

theorem textTerm_some (s g : String) : textTerm s (some g) =
    if isLanguageTag g = true then .literal ⟨s, .tagged (lowered g)⟩ else .plain s := by
  unfold textTerm Literal.tagged
  dsimp only
  split_ifs <;> rfl

/-- A language comes back in lower case, or not at all if it is no tag. -/
theorem ofTerm_textTerm_some (s g : String) : ofTerm (textTerm s (some g)) =
    .text s (if isLanguageTag g = true then some (lowered g) else none) := by
  rw [textTerm_some]
  split_ifs <;> rfl

theorem IsStable.ofTerm_toTerm (h : v.IsStable) : ofTerm v.toTerm = v := by
  cases h with
  | boolean b => exact ofTerm_ofBool b
  | integer i => exact ofTerm_ofInteger i
  | plain s => rfl
  | @tagged g s htag hlower =>
    show ofTerm (textTerm s (some g)) = .text s (some g)
    rw [ofTerm_textTerm_some, if_pos htag, hlower]
  | term h => exact h

/-- Stable values are told apart by their spellings. -/
theorem IsStable.eq_of_toTerm_eq (hv : v.IsStable) (hw : w.IsStable)
    (h : v.toTerm = w.toTerm) : v = w := by
  calc
    v = ofTerm v.toTerm := hv.ofTerm_toTerm.symm
    _ = ofTerm w.toTerm := congrArg ofTerm h
    _ = w := hw.ofTerm_toTerm

/-- Doubles and dates apart, no other value comes back. -/
theorem isStable_iff (h : v.IsDiscrete) : v.IsStable ↔ ofTerm v.toTerm = v := by
  refine ⟨IsStable.ofTerm_toTerm, fun hback => ?_⟩
  cases v with
  | boolean b => exact .boolean b
  | integer i => exact .integer i
  | double x => exact h.elim
  | dateTime t => exact h.elim
  | term t => exact .term hback
  | text s language =>
    cases language with
    | none => exact .plain s
    | some g =>
      change ofTerm (textTerm s (some g)) = .text s (some g) at hback
      rw [ofTerm_textTerm_some, Value.text.injEq] at hback
      obtain ⟨-, hlanguage⟩ := hback
      split_ifs at hlanguage with htag
      exact .tagged s htag (Option.some.inj hlanguage)

/-! ## Read and written -/

theorem isStable_of_ofTyped? (h : ofTyped? s d = some v) (hv : v.IsDiscrete) : v.IsStable := by
  unfold ofTyped? at h
  dsimp only at h
  split_ifs at h with hstring hinteger hdouble hboolean hdate
  · obtain rfl := Option.some.inj h
    exact .plain s
  · obtain ⟨i, -, rfl⟩ := Option.map_eq_some_iff.1 h
    exact .integer i
  · obtain ⟨x, -, rfl⟩ := Option.map_eq_some_iff.1 h
    exact hv.elim
  · obtain ⟨b, -, rfl⟩ := Option.map_eq_some_iff.1 h
    exact .boolean b
  · obtain ⟨t, -, rfl⟩ := Option.map_eq_some_iff.1 h
    exact hv.elim

/-- A literal with a datatype has a stable value: one of this datatype, or itself. -/
theorem isStable_ofTerm_typed (h : (ofTerm (.typed s d)).IsDiscrete) :
    (ofTerm (.typed s d)).IsStable := by
  cases hvalue : ofTyped? s d with
  | none =>
    have hself : ofTerm (.typed s d) = .term (.typed s d) := by
      rw [ofTerm_typed, hvalue, Option.getD_none]
    rw [hself]
    exact .term hself
  | some v =>
    rw [ofTerm_typed, hvalue, Option.getD_some] at h ⊢
    exact isStable_of_ofTyped? hvalue h

theorem isStable_ofTerm_iff (h : (ofTerm t).IsDiscrete) :
    (ofTerm t).IsStable ↔ t.IsAccepted := by
  cases t with
  | literal l =>
    obtain ⟨s, kind⟩ := l
    cases kind with
    | simple => exact iff_of_true (.plain s) nofun
    | typed d => exact iff_of_true (isStable_ofTerm_typed h) nofun
    | tagged g =>
      rw [Term.isAccepted_tagged_iff]
      constructor
      · intro hstable
        cases hstable with
        | tagged _ htag hlower => exact ⟨htag, hlower⟩
      · rintro ⟨htag, hlower⟩
        exact .tagged s htag hlower
  | _ => exact iff_of_true (.term rfl) trivial

/-- What is written for a text is its normal spelling, also where the language was changed or
dropped. -/
theorem toTerm_ofTerm_textTerm_some (s g : String) :
    (ofTerm (textTerm s (some g))).toTerm = textTerm s (some g) := by
  rw [toTerm_ofTerm, Term.normal_eq_self_iff, textTerm_some]
  split_ifs with htag
  · exact ⟨(isLanguageTag_lowered g).trans htag, lowered_lowered g⟩
  · trivial

/-- A term is spelled normally after one round, whatever its language. -/
theorem toTerm_ofTerm_toTerm_ofTerm (h : (ofTerm t).IsDiscrete) :
    (ofTerm (ofTerm t).toTerm).toTerm = (ofTerm t).toTerm := by
  -- a language that was not accepted makes another value, but one with the same spelling
  by_cases haccepted : t.IsAccepted
  · have hstable : (ofTerm t).IsStable := (isStable_ofTerm_iff h).2 haccepted
    rw [hstable.ofTerm_toTerm]
  · obtain ⟨s, g, rfl⟩ := Term.exists_tagged_of_not_isAccepted haccepted
    exact toTerm_ofTerm_textTerm_some s g

/-- **Reading and writing settle in one round.** Let the value of a term be neither a double nor a
date. It comes back from its spelling if and only if the language of the term was accepted, and its
spelling comes back in any case. Two such values of terms with accepted languages are the same if
they are spelled alike. Every integer is read from the literal that it is written as. -/
theorem reading_stable :
    (∀ t, (ofTerm t).IsDiscrete →
      (ofTerm (ofTerm t).toTerm = ofTerm t ↔ t.IsAccepted) ∧
      (ofTerm (ofTerm t).toTerm).toTerm = (ofTerm t).toTerm) ∧
    (∀ a b, (ofTerm a).IsDiscrete → (ofTerm b).IsDiscrete → a.IsAccepted → b.IsAccepted →
      (ofTerm a).toTerm = (ofTerm b).toTerm → ofTerm a = ofTerm b) ∧
    ∀ i, ofTerm (toTerm (.integer i)) = .integer i := by
  refine ⟨fun t h => ⟨?_, toTerm_ofTerm_toTerm_ofTerm h⟩, fun a b ha hb ha' hb' hab => ?_,
    fun i => (IsStable.integer i).ofTerm_toTerm⟩
  · rw [← isStable_iff h]
    exact isStable_ofTerm_iff h
  · have hstable : (ofTerm a).IsStable ∧ (ofTerm b).IsStable :=
      ⟨(isStable_ofTerm_iff ha).2 ha', (isStable_ofTerm_iff hb).2 hb'⟩
    exact hstable.1.eq_of_toTerm_eq hstable.2 hab

/-- The number seven with a sign, leading zeros and white space around it. -/
def paddedSeven : Term := .typed " +007\n" (Vocabulary.xsd "long")

/-- A text whose language is a tag, but is written with capitals. -/
def capitalTagged : Term := .literal ⟨"chat", .tagged "FR-be"⟩

theorem reading_stable_paddedSeven :
    ((ofTerm paddedSeven).IsDiscrete ∧ (ofTerm (.ofInteger 7)).IsDiscrete ∧
      paddedSeven.IsAccepted ∧ (Term.ofInteger 7).IsAccepted ∧
      (ofTerm paddedSeven).toTerm = (ofTerm (.ofInteger 7)).toTerm ∧
      (ofTerm capitalTagged).IsDiscrete ∧ ¬capitalTagged.IsAccepted) ∧
    ofTerm (ofTerm paddedSeven).toTerm = ofTerm paddedSeven ∧
    ofTerm paddedSeven = ofTerm (.ofInteger 7) ∧
    ofTerm (ofTerm capitalTagged).toTerm ≠ ofTerm capitalTagged ∧
    ofTerm (toTerm (.integer Int64.minValue)) = .integer Int64.minValue := by
  have hpadded : (ofTerm paddedSeven).IsDiscrete := by decide +kernel
  have hseven : (ofTerm (.ofInteger 7)).IsDiscrete := by decide +kernel
  have haccepted : paddedSeven.IsAccepted ∧ (Term.ofInteger 7).IsAccepted := ⟨nofun, nofun⟩
  have hspelled : (ofTerm paddedSeven).toTerm = (ofTerm (.ofInteger 7)).toTerm := by
    decide +kernel
  have hcapital : ¬capitalTagged.IsAccepted := by
    rw [capitalTagged, Term.isAccepted_tagged_iff]
    decide +kernel
  obtain ⟨hround, htold, hinteger⟩ := reading_stable
  refine ⟨⟨hpadded, hseven, haccepted.1, haccepted.2, hspelled, trivial, hcapital⟩, ?_, ?_, ?_,
    hinteger Int64.minValue⟩
  · exact (hround paddedSeven hpadded).1.2 haccepted.1
  · exact htold _ _ hpadded hseven haccepted.1 haccepted.2 hspelled
  · exact fun hback => hcapital ((hround capitalTagged trivial).1.1 hback)

end Value

end RdfStore
