import Mathlib.Tactic.SplitIfs
import RdfStore.Value.Basic
import RdfStore.Proofs.Number.Reading

/-!
# Terms in the spelling of their values

A term that is read as a value and written again comes back in its normal spelling
(`Value.toTerm_ofTerm`). Literals are spelled anew if they have a value: integers, truth values,
doubles and dates get one form and one datatype, text loses its datatype, and a language is put
into lower case. So a term comes back as it was if and only if it was spelled so, or has no value
to be spelled by (`Term.normal_eq_self_iff`).
-/

namespace RdfStore

/-! ## Languages -/

namespace Text

theorem toNat_toLower (c : Char) :
    c.toLower.toNat = if 65 ≤ c.toNat ∧ c.toNat ≤ 90 then c.toNat + 32 else c.toNat := by
  have hcapital : (c.val ≥ 'A'.val ∧ c.val ≤ 'Z'.val) ↔ 65 ≤ c.toNat ∧ c.toNat ≤ 90 := Iff.rfl
  unfold Char.toLower
  split
  · next h =>
    rw [if_pos (hcapital.1 h)]
    have hsmall : c.val.toNat ≤ 90 := (hcapital.1 h).2
    show (c.val + ('a'.val - 'A'.val)).toNat = c.val.toNat + 32
    rw [UInt32.toNat_add]
    have hstep : ('a'.val - 'A'.val).toNat = 32 := rfl
    omega
  · next h => rw [if_neg fun h' => h (hcapital.2 h')]

theorem toLower_toLower (c : Char) : c.toLower.toLower = c.toLower := by
  have hlower := toNat_toLower c
  have htwice := toNat_toLower c.toLower
  apply Char.toNat_inj.1
  split at hlower <;> split at htwice <;> omega

theorem isAlphanum_iff (c : Char) : c.isAlphanum = true ↔
    65 ≤ c.toNat ∧ c.toNat ≤ 90 ∨ 97 ≤ c.toNat ∧ c.toNat ≤ 122 ∨ 48 ≤ c.toNat ∧ c.toNat ≤ 57 := by
  have hrange (a b : Char) : (decide (c.val ≥ a.val) && decide (c.val ≤ b.val)) = true ↔
      a.toNat ≤ c.toNat ∧ c.toNat ≤ b.toNat := by
    rw [Bool.and_eq_true, decide_eq_true_iff, decide_eq_true_iff]
    exact Iff.rfl
  have hupper : c.isUpper = true ↔ 65 ≤ c.toNat ∧ c.toNat ≤ 90 :=
    decide_eq_true_iff (p := c.val ≥ 'A'.val ∧ c.val ≤ 'Z'.val)
  have hlower : c.isLower = true ↔ 97 ≤ c.toNat ∧ c.toNat ≤ 122 := hrange 'a' 'z'
  have hdigit : c.isDigit = true ↔ 48 ≤ c.toNat ∧ c.toNat ≤ 57 := hrange '0' '9'
  show (c.isUpper || c.isLower || c.isDigit) = true ↔ _
  rw [Bool.or_eq_true, Bool.or_eq_true, hupper, hlower, hdigit, or_assoc]

theorem isAlphanum_toLower (c : Char) : c.toLower.isAlphanum = c.isAlphanum := by
  have hlower := toNat_toLower c
  rw [Bool.eq_iff_iff, isAlphanum_iff, isAlphanum_iff]
  split at hlower <;> omega

theorem toLower_eq_hyphen_iff (c : Char) : c.toLower = '-' ↔ c = '-' := by
  have hlower := toNat_toLower c
  have hhyphen : '-'.toNat = 45 := rfl
  rw [← Char.toNat_inj, ← Char.toNat_inj, hhyphen]
  split at hlower <;> omega

/-- A text is cut where it was cut before its characters were changed, if the separators among
them are the same. -/
theorem pieces_map {sep : Char} {f : Char → Char} (hsep : ∀ c, f c = sep ↔ c = sep)
    (cs : List Char) : pieces sep (cs.map f) = (pieces sep cs).map (List.map f) := by
  induction cs with
  | nil => rfl
  | cons c cs ih =>
    rw [List.map_cons, pieces, pieces, ih]
    by_cases hc : c = sep
    · rw [if_pos ((hsep c).2 hc), if_pos hc]
      rfl
    · rw [if_neg fun h => hc ((hsep c).1 h), if_neg hc]
      cases pieces sep cs with
      | nil => rfl
      | cons w ws => rfl

end Text

/-- A tag in lower case. -/
def lowered (tag : String) : String := String.ofList (tag.toList.map Char.toLower)

theorem lowered_lowered (tag : String) : lowered (lowered tag) = lowered tag := by
  unfold lowered
  rw [String.toList_ofList, List.map_map]
  have htwice : Char.toLower ∘ Char.toLower = Char.toLower := funext Text.toLower_toLower
  rw [htwice]

/-- Whether a text is a tag does not depend on the case of its letters. -/
theorem isLanguageTag_lowered (tag : String) :
    isLanguageTag (lowered tag) = isLanguageTag tag := by
  have hall (part : List Char) :
      (part.map Char.toLower).all Char.isAlphanum = part.all Char.isAlphanum := by
    rw [List.all_map]
    exact congrArg part.all (funext Text.isAlphanum_toLower)
  unfold isLanguageTag lowered
  rw [String.toList_ofList, Text.pieces_map Text.toLower_eq_hyphen_iff, List.all_map]
  refine congrArg (List.all _) (funext fun part => ?_)
  simp only [Function.comp_apply, hall, List.length_map, List.isEmpty_map]

namespace Literal

theorem tagged_eq_ok_iff {s tag : String} {l : Literal} : tagged s tag = .ok l ↔
    isLanguageTag tag = true ∧ l = ⟨s, .tagged (lowered tag)⟩ := by
  unfold tagged
  split
  · next h => simp [h, lowered, eq_comm]
  · next h => simp [h]

/-- The language of the literal, if it has one, is of the kind that is accepted where literals are
built. -/
def IsAccepted (l : Literal) : Prop :=
  ∀ g, l.kind = .tagged g → ∃ tag, tagged l.value tag = .ok l

/-- A language is accepted if it is a tag in lower case. -/
theorem isAccepted_iff {l : Literal} : l.IsAccepted ↔
    ∀ g, l.kind = .tagged g → isLanguageTag g = true ∧ lowered g = g := by
  obtain ⟨s, kind⟩ := l
  refine forall₂_congr fun g hg => ?_
  obtain rfl : kind = .tagged g := hg
  constructor
  · rintro ⟨tag, h⟩
    obtain ⟨htag, hl⟩ := tagged_eq_ok_iff.1 h
    obtain rfl : g = lowered tag := by simpa using hl
    exact ⟨(isLanguageTag_lowered tag).trans htag, lowered_lowered tag⟩
  · rintro ⟨htag, hlowered⟩
    exact ⟨g, tagged_eq_ok_iff.2 ⟨htag, by rw [hlowered]⟩⟩

/-! ## Normal spelling -/

/-- The normal spelling of a lexical form under a datatype, if the form has a value there. -/
def respelled? (s : String) (d : Iri) : Option Literal :=
  let bare := Text.trim s
  if d = Vocabulary.xsdString then some ⟨s, .simple⟩
  else if d ∈ Vocabulary.integerTypes then
    (Number.readInt64? bare.toList).map fun i =>
      ⟨Number.int64Text i, .typed Vocabulary.xsdInteger⟩
  else if d ∈ Vocabulary.doubleTypes then
    (Value.readDouble? bare).map fun x => ⟨Term.doubleText x, .typed Vocabulary.xsdDouble⟩
  else if d = Vocabulary.xsdBoolean then
    (Value.readBoolean? bare).map fun b =>
      ⟨if b then "true" else "false", .typed Vocabulary.xsdBoolean⟩
  else if d = Vocabulary.xsdDateTime then
    (DateTime.read? bare.toList).map fun t => ⟨t.text, .typed Vocabulary.xsdDateTime⟩
  else none

/-- The normal spelling of a literal. One without a value stays as it is, and a language that is no
tag is dropped. -/
def normal (l : Literal) : Literal :=
  match l.kind with
  | .simple => l
  | .tagged g =>
    if isLanguageTag g then ⟨l.value, .tagged (lowered g)⟩ else ⟨l.value, .simple⟩
  | .typed d => (respelled? l.value d).getD l

end Literal

/-- The normal spelling of a term: all but literals have just one. -/
def Term.normal : Term → Term
  | .literal l => .literal l.normal
  | t => t

namespace Value

theorem map_toTerm_ofTyped? (s : String) (d : Iri) :
    (ofTyped? s d).map toTerm = (Literal.respelled? s d).map Term.literal := by
  unfold ofTyped? Literal.respelled?
  dsimp only
  split_ifs
  · rfl
  all_goals simp only [Option.map_map, Option.map_none]
  all_goals rfl

/-- **From term to value and back.** What is written for the value of a term is its normal
spelling. -/
theorem toTerm_ofTerm (t : Term) : (ofTerm t).toTerm = t.normal := by
  cases t with
  | literal l =>
    obtain ⟨s, kind⟩ := l
    cases kind with
    | simple => rfl
    | tagged g =>
      show textTerm s (some g) = .literal (Literal.normal ⟨s, .tagged g⟩)
      unfold textTerm Literal.tagged Literal.normal lowered
      dsimp only
      split_ifs <;> rfl
    | typed d =>
      have hmap := map_toTerm_ofTyped? s d
      show ((ofTyped? s d).getD (.term (.literal ⟨s, .typed d⟩))).toTerm =
        .literal ((Literal.respelled? s d).getD ⟨s, .typed d⟩)
      cases hvalue : ofTyped? s d with
      | none =>
        rw [hvalue, Option.map_none, eq_comm, Option.map_eq_none_iff] at hmap
        rw [hmap]
        rfl
      | some v =>
        rw [hvalue, Option.map_some, eq_comm, Option.map_eq_some_iff] at hmap
        obtain ⟨l, hl, hv⟩ := hmap
        rw [hl]
        exact hv.symm
  | iri i => rfl
  | blank b => rfl
  | var v => rfl
  | formula ts => rfl

end Value

namespace Literal

/-! ## What is spelled normally

One equation of `respelled?` for each kind of datatype. -/

section Datatypes

variable {s : String} {d : Iri} {l : Literal}

theorem respelled?_integer (hd : d ∈ Vocabulary.integerTypes) : respelled? s d =
    (Number.readInt64? (Text.trim s).toList).map fun i =>
      ⟨Number.int64Text i, .typed Vocabulary.xsdInteger⟩ := by
  have hother : d ≠ Vocabulary.xsdString := by
    rintro rfl
    exact absurd hd (by decide)
  unfold respelled?
  dsimp only
  rw [if_neg hother, if_pos hd]

theorem respelled?_double (hd : d ∈ Vocabulary.doubleTypes) : respelled? s d =
    (Value.readDouble? (Text.trim s)).map fun x =>
      ⟨Term.doubleText x, .typed Vocabulary.xsdDouble⟩ := by
  have hother : d ≠ Vocabulary.xsdString ∧ d ∉ Vocabulary.integerTypes := by
    have hall : ∀ d ∈ Vocabulary.doubleTypes,
        d ≠ Vocabulary.xsdString ∧ d ∉ Vocabulary.integerTypes := by decide
    exact hall d hd
  unfold respelled?
  dsimp only
  rw [if_neg hother.1, if_neg hother.2, if_pos hd]

theorem respelled?_boolean : respelled? s Vocabulary.xsdBoolean =
    (Value.readBoolean? (Text.trim s)).map fun b =>
      ⟨if b then "true" else "false", .typed Vocabulary.xsdBoolean⟩ := by
  unfold respelled?
  dsimp only
  rw [if_neg (by decide), if_neg (by decide), if_neg (by decide), if_pos rfl]

theorem respelled?_dateTime : respelled? s Vocabulary.xsdDateTime =
    (DateTime.read? (Text.trim s).toList).map fun t =>
      ⟨t.text, .typed Vocabulary.xsdDateTime⟩ := by
  unfold respelled?
  dsimp only
  rw [if_neg (by decide), if_neg (by decide), if_neg (by decide), if_neg (by decide),
    if_pos rfl]

/-- A form has a normal spelling under a datatype just if it has a value there. -/
theorem respelled?_eq_none_iff : respelled? s d = none ↔ Value.ofTyped? s d = none := by
  rw [← Option.map_eq_none_iff, ← Value.map_toTerm_ofTyped?, Option.map_eq_none_iff]

/-- The form is the one that the datatype has for its value. -/
def IsSpelled (s : String) (d : Iri) : Prop :=
  (d = Vocabulary.xsdInteger ∧ ∃ i, s = Number.int64Text i) ∨
  (d = Vocabulary.xsdDouble ∧ ∃ x, Value.readDouble? (Text.trim s) = some x ∧
    s = Term.doubleText x) ∨
  (d = Vocabulary.xsdBoolean ∧ (s = "true" ∨ s = "false")) ∨
  (d = Vocabulary.xsdDateTime ∧ ∃ t, DateTime.read? (Text.trim s).toList = some t ∧ s = t.text)

theorem respelled?_eq_self_iff : respelled? s d = some ⟨s, .typed d⟩ ↔ IsSpelled s d := by
  constructor
  · intro h
    unfold respelled? at h
    dsimp only at h
    split_ifs at h with hstring hinteger hdouble hboolean hdate
    · simp at h
    · obtain ⟨i, -, hi⟩ := Option.map_eq_some_iff.1 h
      simp only [Literal.mk.injEq, LiteralKind.typed.injEq] at hi
      exact .inl ⟨hi.2.symm, i, hi.1.symm⟩
    · obtain ⟨x, hread, hx⟩ := Option.map_eq_some_iff.1 h
      simp only [Literal.mk.injEq, LiteralKind.typed.injEq] at hx
      exact .inr (.inl ⟨hx.2.symm, x, hread, hx.1.symm⟩)
    · obtain ⟨b, -, hb⟩ := Option.map_eq_some_iff.1 h
      simp only [Literal.mk.injEq, LiteralKind.typed.injEq] at hb
      refine .inr (.inr (.inl ⟨hboolean, ?_⟩))
      cases b with
      | true => exact .inl hb.1.symm
      | false => exact .inr hb.1.symm
    · obtain ⟨t, hread, ht⟩ := Option.map_eq_some_iff.1 h
      simp only [Literal.mk.injEq] at ht
      exact .inr (.inr (.inr ⟨hdate, t, hread, ht.1.symm⟩))
  · rintro (⟨rfl, i, rfl⟩ | ⟨rfl, x, hread, hx⟩ | ⟨rfl, rfl | rfl⟩ | ⟨rfl, t, hread, ht⟩)
    · rw [respelled?_integer List.mem_cons_self, Number.trim_int64Text,
        Number.readInt64?_int64Text]
      rfl
    · rw [respelled?_double List.mem_cons_self, hread, Option.map_some, ← hx]
    · rw [respelled?_boolean]
      rfl
    · rw [respelled?_boolean]
      rfl
    · rw [respelled?_dateTime, hread, Option.map_some, ← ht]

/-- Only plain text is spelled without a datatype. -/
theorem kind_of_respelled? (h : respelled? s d = some l) :
    d = Vocabulary.xsdString ∨ ∃ d', l.kind = .typed d' := by
  unfold respelled? at h
  dsimp only at h
  split_ifs at h with hstring
  · exact .inl hstring
  all_goals
    obtain ⟨v, -, rfl⟩ := Option.map_eq_some_iff.1 h
    exact .inr ⟨_, rfl⟩

end Datatypes

/-- The literal has the normal spelling of its value, if it has one. -/
def IsNormal (l : Literal) : Prop :=
  match l.kind with
  | .simple => True
  | .tagged g => isLanguageTag g = true ∧ lowered g = g
  | .typed d => Value.ofTyped? l.value d = none ∨ IsSpelled l.value d

theorem normal_eq_self_iff {l : Literal} : l.normal = l ↔ l.IsNormal := by
  obtain ⟨s, kind⟩ := l
  cases kind with
  | simple => exact iff_of_true rfl trivial
  | tagged g =>
    show (if isLanguageTag g then (⟨s, .tagged (lowered g)⟩ : Literal) else ⟨s, .simple⟩) =
      ⟨s, .tagged g⟩ ↔ isLanguageTag g = true ∧ lowered g = g
    split
    · next htag => simp [htag]
    · next htag => simp [htag]
  | typed d =>
    show (respelled? s d).getD ⟨s, .typed d⟩ = ⟨s, .typed d⟩ ↔
      Value.ofTyped? s d = none ∨ IsSpelled s d
    rw [← respelled?_eq_none_iff, ← respelled?_eq_self_iff]
    cases respelled? s d with
    | none => simp
    | some l => simp

instance (l : Literal) : Decidable l.IsNormal := decidable_of_iff _ normal_eq_self_iff

end Literal

/-- The term has the normal spelling of its value, if it has one. -/
def Term.IsNormal : Term → Prop
  | .literal l => l.IsNormal
  | _ => True

/-- **What comes back as it was.** A term is its own normal spelling just if it is no literal, or a
literal without a datatype or with a language in lower case, or one that is spelled as its datatype
spells values, or one without a value. -/
theorem Term.normal_eq_self_iff {t : Term} : t.normal = t ↔ t.IsNormal := by
  cases t with
  | literal l =>
    show Term.literal l.normal = .literal l ↔ l.IsNormal
    rw [Term.literal.injEq, Literal.normal_eq_self_iff]
  | iri i => exact iff_of_true rfl trivial
  | blank b => exact iff_of_true rfl trivial
  | var v => exact iff_of_true rfl trivial
  | formula ts => exact iff_of_true rfl trivial

end RdfStore
