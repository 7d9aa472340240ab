import Mathlib.Algebra.Order.Group.Unbundled.Int
import Mathlib.Data.List.Forall2
import RdfStore.Proofs.Expr.Parts
import RdfStore.Proofs.Number.Reading

/-!
# Exact integers

Sums, differences, products, absolute values and rounded values of integer literals have an exact
value (`Expr.amount?`). Evaluation works in 64 bits and comes to that value if each part of the
expression has a value in their range; otherwise it fails where the range is left first. It never
wraps around and never goes on with a double (`Expr.evaluate_integers`).
-/

namespace RdfStore

open Number (FitsInt64 toInt64? toInt64?_toInt toInt64?_eq_some_iff toInt64?_eq_none_iff
  fitsInt64_toInt)

/-! ## Exact values -/

/-- The integer that a literal of one of the integer types stands for, if it lies in the range. -/
def Term.integer? : Term → Option ℤ
  | .literal ⟨s, .typed d⟩ =>
    if d ∈ Vocabulary.integerTypes then
      (Number.readInt? (Text.trim s).toList).filter fun i => FitsInt64 i
    else none
  | _ => none

/-- The exact result of a function of integers. -/
def Function.onIntegers? : Function → List ℤ → Option ℤ
  | arithmetic .add, [i, j] => some (i + j)
  | arithmetic .subtract, [i, j] => some (i - j)
  | arithmetic .multiply, [i, j] => some (i * j)
  | abs, [i] => some |i|
  | round _, [i] => some i
  | _, _ => none

namespace Expr

mutual
/-- The exact value of an expression that is made of these functions and of integers. -/
def amount? (row : Row) : Expr → Option ℤ
  | .const t => t.integer?
  | .var x => (row.find? x).bind Term.integer?
  | .call f args => (amounts? row args).bind f.onIntegers?
def amounts? (row : Row) : List Expr → Option (List ℤ)
  | [] => some []
  | e :: es => (e.amount? row).bind fun i => (amounts? row es).map (i :: ·)
end

/-- Each part has an exact value, and one in the range. -/
def IsWithin (row : Row) (e : Expr) : Prop :=
  ∀ p, e.HasPart p → ∃ i, p.amount? row = some i ∧ FitsInt64 i

/-- Somewhere a call of a function leaves the range, and nothing in its arguments does. -/
def LeavesRange (row : Row) (e : Expr) (f : Function) : Prop :=
  ∃ args i, e.HasPart (.call f args) ∧ (call f args).amount? row = some i ∧ ¬FitsInt64 i ∧
    ∀ a ∈ args, a.IsWithin row

variable {row : Row} {e : Expr} {f : Function} {args : List Expr} {i : ℤ} {is : List ℤ}

theorem amounts?_eq_some_iff :
    amounts? row args = some is ↔ List.Forall₂ (fun a i => a.amount? row = some i) args is := by
  induction args generalizing is with
  | nil =>
    rw [List.forall₂_nil_left_iff]
    exact Option.some_inj.trans eq_comm
  | cons a args ih =>
    unfold amounts?
    simp only [Option.bind_eq_some_iff, Option.map_eq_some_iff, List.forall₂_cons_left_iff, ih]
    constructor
    · rintro ⟨i, hi, is, his, rfl⟩
      exact ⟨i, is, hi, his, rfl⟩
    · rintro ⟨i, is, hi, his, rfl⟩
      exact ⟨i, hi, is, his, rfl⟩

theorem isWithin_call : (call f args).IsWithin row ↔
    (∃ i, (call f args).amount? row = some i ∧ FitsInt64 i) ∧ ∀ a ∈ args, a.IsWithin row := by
  constructor
  · intro h
    exact ⟨h _ (.refl _), fun a ha p hp => h p (.argument ha hp)⟩
  · rintro ⟨hcall, hargs⟩ p hp
    rcases hasPart_call.1 hp with rfl | ⟨a, ha, hp⟩
    · exact hcall
    · exact hargs a ha p hp

theorem LeavesRange.argument {a : Expr} {g : Function} (ha : a ∈ args) (h : a.LeavesRange row g) :
    (call f args).LeavesRange row g := by
  obtain ⟨bs, i, hpart, h⟩ := h
  exact ⟨bs, i, .argument ha hpart, h⟩

theorem LeavesRange.not_isWithin (h : e.LeavesRange row f) : ¬e.IsWithin row := by
  obtain ⟨args, i, hpart, hi, hfits, -⟩ := h
  intro hwithin
  obtain ⟨j, hj, hjfits⟩ := hwithin _ hpart
  rw [hi] at hj
  cases hj
  exact hfits hjfits

end Expr

/-! ## Values in words -/

theorem Value.ofTerm_of_integer? {t : Term} {i : ℤ} (h : t.integer? = some i) :
    ∃ w : Int64, ofTerm t = .integer w ∧ w.toInt = i := by
  have htext : ∀ d ∈ Vocabulary.integerTypes, d ≠ Vocabulary.xsdString := by decide
  unfold Term.integer? at h
  split at h
  · next s d =>
    split at h
    · next hd =>
      obtain ⟨hread, hfits⟩ := Option.filter_eq_some_iff.1 h
      cases hw : toInt64? i with
      | none => exact absurd (of_decide_eq_true hfits) (toInt64?_eq_none_iff.1 hw)
      | some w =>
        have hvalue : ofTyped? s d = some (.integer w) := by
          unfold ofTyped? Number.readInt64?
          rw [if_neg (htext d hd), if_pos hd, hread, Option.bind_some, hw]
          rfl
        refine ⟨w, ?_, toInt64?_eq_some_iff.1 hw⟩
        show (ofTyped? s d).getD _ = .integer w
        rw [hvalue]
        rfl
    · exact nomatch h
  · exact nomatch h

theorem Value.ofTerm_typed (s : String) (d : Iri) :
    ofTerm (.typed s d) = (ofTyped? s d).getD (.term (.typed s d)) := rfl

/-- The literal of a word has this word as its value. -/
theorem Value.ofTerm_ofInteger (w : Int64) : ofTerm (.ofInteger w) = .integer w := by
  have hnot : Vocabulary.xsdInteger ≠ Vocabulary.xsdString := by decide
  have hmem : Vocabulary.xsdInteger ∈ Vocabulary.integerTypes := List.mem_cons_self
  have hvalue : ofTyped? (Number.int64Text w) Vocabulary.xsdInteger = some (.integer w) := by
    unfold ofTyped?
    rw [if_neg hnot, if_pos hmem, Number.trim_int64Text, Number.readInt64?_int64Text]
    rfl
  unfold Term.ofInteger
  rw [ofTerm_typed, hvalue, Option.getD_some]

namespace Function

variable {f : Function} {i : ℤ} {is : List ℤ} {ws : List Int64}

theorem exact_toInt (f : Function) (w : Int64) : f.exact w.toInt = .ok (.integer w) := by
  unfold exact
  rw [toInt64?_toInt]

theorem exact_of_not_fits (f : Function) (h : ¬FitsInt64 i) :
    f.exact i = .error (.overflow f.name) := by
  unfold exact
  rw [toInt64?_eq_none_iff.2 h]

/-- A function of integers takes as many values, and needs nothing else. -/
theorem takes_of_onIntegers? (h : f.onIntegers? is = some i) :
    f.isStrict = true ∧ f.arityError? is.length = none := by
  unfold onIntegers? at h
  split at h
  all_goals first
    | exact ⟨rfl, rfl⟩
    | exact nomatch h

/-- One step: on words a function comes to the exact result, if there is a word for it. -/
theorem apply_integers (h : f.onIntegers? (ws.map Int64.toInt) = some i) :
    f.apply (ws.map .integer) = f.exact i := by
  have htwo {i j : ℤ} (h : ws.map Int64.toInt = [i, j]) :
      ∃ v w : Int64, ws = [v, w] ∧ v.toInt = i ∧ w.toInt = j := by
    obtain ⟨v, vs, rfl, hv, hvs⟩ := List.map_eq_cons_iff.1 h
    obtain ⟨w, rfl, hw⟩ := List.map_eq_singleton_iff.1 hvs
    exact ⟨v, w, rfl, hv, hw⟩
  unfold onIntegers? at h
  split at h
  · next heq =>
    obtain ⟨v, w, rfl, rfl, rfl⟩ := htwo heq
    cases h
    rfl
  · next heq =>
    obtain ⟨v, w, rfl, rfl, rfl⟩ := htwo heq
    cases h
    rfl
  · next heq =>
    obtain ⟨v, w, rfl, rfl, rfl⟩ := htwo heq
    cases h
    rfl
  · next heq =>
    obtain ⟨w, rfl, rfl⟩ := List.map_eq_singleton_iff.1 heq
    cases h
    rw [Int.abs_eq_natAbs]
    rfl
  · next heq =>
    -- A word is a whole number already, and it is the word for itself.
    obtain ⟨w, rfl, rfl⟩ := List.map_eq_singleton_iff.1 heq
    cases h
    exact (exact_toInt _ w).symm
  · exact nomatch h

end Function

/-! ## Evaluation -/

namespace Expr

variable {row : Row} {now : DateTime} {e : Expr} {f : Function} {args : List Expr} {i : ℤ}
  {is : List ℤ}

/-- How the evaluation of an expression with an exact value ends. -/
inductive Ends (row : Row) (now : DateTime) (e : Expr) (i : ℤ) : Prop where
  /-- With the word for this value. -/
  | within (w : Int64) (hwithin : e.IsWithin row) (h : e.evaluate row now = .ok (.integer w))
    (hw : w.toInt = i)
  /-- With an error where the range is left. -/
  | leaves (f : Function) (hleaves : e.LeavesRange row f)
    (h : e.evaluate row now = .error (.overflow f.name))

/-- Either all arguments have words, or one of them leaves the range and no function is applied. -/
theorem ends_all (h : List.Forall₂ (fun a i => a.Ends row now i) args is) :
    (∃ ws : List Int64, (∀ a ∈ args, a.IsWithin row) ∧
      Outcome.all (evaluateAll row now args) = .ok (ws.map .integer) ∧ ws.map Int64.toInt = is) ∨
    ∃ a ∈ args, ∃ f : Function, a.LeavesRange row f ∧
      Outcome.all (evaluateAll row now args) = .error (.overflow f.name) := by
  induction h with
  | nil => exact .inl ⟨[], nofun, rfl, rfl⟩
  | @cons a i args is ha _ ih =>
    unfold evaluateAll Outcome.all
    cases ha with
    | leaves f hleaves h =>
      rw [h]
      exact .inr ⟨a, List.mem_cons_self, f, hleaves, rfl⟩
    | within w hwithin h hw =>
      rw [h]
      rcases ih with ⟨ws, hall, hws, rfl⟩ | ⟨b, hb, f, hleaves, herror⟩
      · rw [hws]
        exact .inl ⟨w :: ws, List.forall_mem_cons.2 ⟨hwithin, hall⟩, rfl, by rw [List.map_cons, hw]⟩
      · rw [herror]
        exact .inr ⟨b, List.mem_cons_of_mem a hb, f, hleaves, rfl⟩

/-- One step: a call leaves the range itself, or ends as its arguments do. -/
theorem ends_call (hargs : List.Forall₂ (fun a i => a.Ends row now i) args is)
    (hamounts : amounts? row args = some is) (h : f.onIntegers? is = some i) :
    (call f args).Ends row now i := by
  obtain ⟨hstrict, harity⟩ := Function.takes_of_onIntegers? h
  rw [← hargs.length_eq] at harity
  have hamount : (call f args).amount? row = some i := by
    unfold amount?
    rw [hamounts, Option.bind_some, h]
  have hevaluate : (call f args).evaluate row now =
      Outcome.all (evaluateAll row now args) >>= f.apply := evaluate_strict hstrict harity
  rcases ends_all hargs with ⟨ws, hwithin, hall, rfl⟩ | ⟨a, ha, g, hleaves, hall⟩
  · rw [hall] at hevaluate
    replace hevaluate : (call f args).evaluate row now = f.exact i :=
      hevaluate.trans (Function.apply_integers h)
    cases hi : toInt64? i with
    | some w =>
      obtain rfl := toInt64?_eq_some_iff.1 hi
      rw [f.exact_toInt] at hevaluate
      exact .within w (isWithin_call.2 ⟨⟨_, hamount, fitsInt64_toInt w⟩, hwithin⟩) hevaluate rfl
    | none =>
      have hfits := toInt64?_eq_none_iff.1 hi
      rw [f.exact_of_not_fits hfits] at hevaluate
      exact .leaves f ⟨args, i, .refl _, hamount, hfits, hwithin⟩ hevaluate
  · rw [hall] at hevaluate
    exact .leaves g (hleaves.argument ha) hevaluate

theorem ends_leaf {t : Term} (ht : t.integer? = some i) (hamount : e.amount? row = some i)
    (hpart : ∀ p, e.HasPart p → p = e) (h : e.evaluate row now = .ok (.ofTerm t)) :
    e.Ends row now i := by
  obtain ⟨w, hvalue, rfl⟩ := Value.ofTerm_of_integer? ht
  rw [hvalue] at h
  refine .within w ?_ h rfl
  intro p hp
  rw [hpart p hp]
  exact ⟨_, hamount, fitsInt64_toInt w⟩

theorem ends (now : DateTime) (h : e.amount? row = some i) : e.Ends row now i := by
  induction e using inductionOnArguments generalizing i with
  | const t => exact ends_leaf h h (fun p hp => hasPart_const.1 hp) rfl
  | var x =>
    obtain ⟨t, ht, hi⟩ := Option.bind_eq_some_iff.1 h
    refine ends_leaf hi h (fun p hp => hasPart_var.1 hp) ?_
    show row.value x = _
    unfold Row.value
    rw [ht]
  | call f args ih =>
    obtain ⟨is, his, h⟩ := Option.bind_eq_some_iff.1 h
    have hargs := (List.forall₂_and_left args is).2
      ⟨fun a ha i => @ih a ha i, amounts?_eq_some_iff.1 his⟩
    exact ends_call (hargs.imp fun a i h => h.1 i h.2) his h

/-- **Integers are exact.** The evaluation of an expression that is made of integers by functions of
integers comes to the exact value, if each part has its value in the range of 64 bits. Otherwise it
fails with an overflow, at a call whose arguments are all in the range. -/
theorem evaluate_integers (now : DateTime) (h : e.amount? row = some i) :
    (e.IsWithin row → ∃ w : Int64, e.evaluate row now = .ok (.integer w) ∧ w.toInt = i) ∧
      (¬e.IsWithin row →
        ∃ f : Function, e.LeavesRange row f ∧ e.evaluate row now = .error (.overflow f.name)) := by
  cases ends now h with
  | within w hwithin h hw => exact ⟨fun _ => ⟨w, h, hw⟩, fun hnot => absurd hwithin hnot⟩
  | leaves f hleaves h =>
    exact ⟨fun hwithin => absurd hwithin hleaves.not_isWithin, fun _ => ⟨f, hleaves, h⟩⟩

/-- One less than an absolute value. -/
def distance : Expr := .call (.arithmetic .subtract)
  [.call .abs [.var "n"], .const (.typed "1" Vocabulary.xsdInteger)]

def nearRow : Row := SortedMap.ofList [("n", .typed "-5" Vocabulary.xsdInteger)]

def lowestRow : Row :=
  SortedMap.ofList [("n", .typed "-9223372036854775808" Vocabulary.xsdInteger)]

/-- The lowest integer has no absolute value in the range, though one less than this is in it. -/
theorem evaluate_integers_distance :
    let now : DateTime := ⟨2024, 1, 1, 12, 0, 0, 0, 0⟩
    (distance.amount? nearRow = some 4 ∧ distance.IsWithin nearRow ∧
      distance.evaluate nearRow now = .ok (.integer 4)) ∧
    distance.amount? lowestRow = some 9223372036854775807 ∧ ¬distance.IsWithin lowestRow ∧
      distance.evaluate lowestRow now = .error (.overflow "ABS") := by
  intro now
  have hnear : distance.amount? nearRow = some 4 := by decide +kernel
  have hlowest : distance.amount? lowestRow = some 9223372036854775807 := by decide +kernel
  have hwithin : distance.IsWithin nearRow := by
    intro p hp
    simp only [distance, hasPart_call, hasPart_var, hasPart_const, List.mem_cons,
      List.not_mem_nil, or_false, exists_eq_or_imp, exists_eq_left] at hp
    rcases hp with rfl | (rfl | rfl) | rfl
    · exact ⟨4, hnear, by decide⟩
    · exact ⟨5, by decide +kernel, by decide⟩
    · exact ⟨-5, by decide +kernel, by decide⟩
    · exact ⟨1, by decide +kernel, by decide⟩
  have hleaves : ¬distance.IsWithin lowestRow := by
    intro h
    obtain ⟨i, hi, hfits⟩ := h (.call .abs [.var "n"]) (.argument List.mem_cons_self (.refl _))
    have hmagnitude : (call .abs [.var "n"]).amount? lowestRow = some 9223372036854775808 := by
      decide +kernel
    cases hi.symm.trans hmagnitude
    exact absurd hfits (by decide)
  obtain ⟨w, hevaluate, hw⟩ := (evaluate_integers now hnear).1 hwithin
  obtain rfl : w = 4 := Int64.toInt_inj.1 hw
  obtain ⟨f, -, herror⟩ := (evaluate_integers now hlowest).2 hleaves
  have hname : f.name = "ABS" := (EvalError.overflow.inj (Except.error.inj herror)).symm
  rw [hname] at herror
  exact ⟨⟨hnear, hwithin, hevaluate⟩, hlowest, hleaves, herror⟩

end Expr

end RdfStore
