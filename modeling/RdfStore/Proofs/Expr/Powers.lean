import Mathlib.Algebra.Order.Ring.Int
import Mathlib.Algebra.Ring.Parity
import RdfStore.Proofs.Expr.Integers

/-!
# Powers of integers

A power of two integers is computed in 64 bits while the exponent is below `2 ^ 32`, and then it is
exact or an overflow. From there on it is the power of two doubles, which is no integer and no
overflow, whatever the base is (`Expr.evaluate_power`).
-/

namespace RdfStore

open Number (FitsInt64 toInt64? toInt64?_eq_some_iff toInt64?_eq_none_iff fitsInt64_toInt)

namespace Number

variable {b : ℤ} {m n : ℕ}

theorem not_fitsInt64_pow (hb : 1 < b.natAbs) (hn : 64 ≤ n) : ¬FitsInt64 (b ^ n) := by
  have hlarge : 2 ^ 64 ≤ (b ^ n).natAbs := by
    rw [Int.natAbs_pow]
    calc 2 ^ 64 ≤ b.natAbs ^ 64 := Nat.pow_le_pow_left hb 64
      _ ≤ b.natAbs ^ n := Nat.pow_le_pow_right (Nat.zero_lt_of_lt hb) hn
  rintro ⟨hlow, hhigh⟩
  omega

/-- The powers of 0, 1 and -1 depend on the parity of the exponent only. -/
theorem pow_eq_pow_of_parity (hb : b.natAbs ≤ 1) (hm : m ≠ 0) (hn : n ≠ 0)
    (h : m % 2 = n % 2) : b ^ m = b ^ n := by
  obtain rfl | rfl | rfl : b = 0 ∨ b = 1 ∨ b = -1 := by omega
  · rw [zero_pow hm, zero_pow hn]
  · rw [one_pow, one_pow]
  · rw [neg_one_pow_eq_pow_mod_two (n := m), h, ← neg_one_pow_eq_pow_mod_two]

end Number

/-- The outcome of a function that is exact on integers: the word of the exact value, and an
overflow if there is none. -/
def Outcome.IsExact (o : Outcome) (f : Function) (i : ℤ) : Prop :=
  (∃ w : Int64, o = .ok (.integer w) ∧ w.toInt = i) ∨
    ¬FitsInt64 i ∧ o = .error (.overflow f.name)

namespace Function

variable {f : Function} {b e : Int64} {x r : Float}

theorem isExact_exact (f : Function) (i : ℤ) : Outcome.IsExact (f.exact i) f i := by
  cases hi : toInt64? i with
  | some w =>
    obtain rfl := toInt64?_eq_some_iff.1 hi
    exact .inl ⟨w, exact_toInt f w, rfl⟩
  | none =>
    have hfits := toInt64?_eq_none_iff.1 hi
    exact .inr ⟨hfits, exact_of_not_fits f hfits⟩

/-- A double is no integer, and a function that is undefined has not left the range. -/
theorem not_isExact_finite (g : Function) (i : ℤ) : ¬Outcome.IsExact (f.finite x r) g i := by
  unfold finite
  split
  · rintro (⟨w, h, -⟩ | ⟨-, h⟩)
    · exact nomatch h
    · exact nomatch h
  · rintro (⟨w, h, -⟩ | ⟨-, h⟩)
    · exact nomatch h
    · exact nomatch h

/-- No power is lost where exponents are capped: large powers of the other bases are all out of the
range. -/
theorem integerPower_eq (b : Int64) (n : ℕ) : integerPower b n = pow.exact (b.toInt ^ n) := by
  unfold integerPower
  dsimp only
  split
  · rfl
  · next hn =>
    show pow.exact (b.toInt ^ (64 + n % 2)) = pow.exact (b.toInt ^ n)
    by_cases hb : b.toInt.natAbs ≤ 1
    · have hparity : (64 + n % 2) % 2 = n % 2 := by omega
      rw [Number.pow_eq_pow_of_parity hb (by omega) (by omega) hparity]
    · rw [Nat.not_le] at hb
      rw [exact_of_not_fits _ (Number.not_fitsInt64_pow hb (by omega)),
        exact_of_not_fits _ (Number.not_fitsInt64_pow hb (by omega))]

theorem applyPower_of_lt (he : 0 ≤ e.toInt) (hlt : e.toInt < 2 ^ 32) :
    applyPower (.integer b) (.integer e) = pow.exact (b.toInt ^ e.toInt.toNat) :=
  (if_pos ⟨he, hlt⟩).trans (integerPower_eq b _)

theorem applyPower_of_le (hle : 2 ^ 32 ≤ e.toInt) : applyPower (.integer b) (.integer e) =
    pow.finite b.toFloat (b.toFloat.pow e.toFloat) :=
  if_neg fun h => Int.not_lt.2 hle h.2

end Function

namespace Expr

variable {row : Row} {now : DateTime} {x y : Expr} {b e : Int64}

theorem evaluate_pow (hx : x.evaluate row now = .ok (.integer b))
    (hy : y.evaluate row now = .ok (.integer e)) :
    (call .pow [x, y]).evaluate row now = Function.applyPower (.integer b) (.integer e) := by
  have hall : Outcome.all (evaluateAll row now [x, y]) = .ok [.integer b, .integer e] := by
    simp only [evaluateAll, hx, hy]
    rfl
  rw [evaluate_strict (f := .pow) rfl rfl, hall]
  rfl

/-- **Powers of integers.** For all words, the exponent not being negative, the power is exact or an
overflow if and only if the exponent is below `2 ^ 32`. From there on it is the power of the two
numbers as doubles, if that is finite; if not, the power counts as undefined for the base. -/
theorem evaluate_power (hx : x.evaluate row now = .ok (.integer b))
    (hy : y.evaluate row now = .ok (.integer e)) (he : 0 ≤ e.toInt) :
    let o := (call .pow [x, y]).evaluate row now
    (o.IsExact .pow (b.toInt ^ e.toInt.toNat) ↔ e.toInt < 2 ^ 32) ∧
      (2 ^ 32 ≤ e.toInt →
        let r := b.toFloat.pow e.toFloat
        (r.isFinite = true → o = .ok (.double r)) ∧
          (r.isFinite = false → o = .error (.domain Function.pow.name b.toFloat))) := by
  intro o
  have ho : o = Function.applyPower (.integer b) (.integer e) := evaluate_pow hx hy
  rcases Int.lt_or_le e.toInt (2 ^ 32) with hlt | hle
  · rw [ho, Function.applyPower_of_lt he hlt]
    refine ⟨⟨fun _ => hlt, fun _ => Function.isExact_exact ..⟩, fun hle => ?_⟩
    exact absurd hlt (Int.not_lt.2 hle)
  · rw [ho, Function.applyPower_of_le hle]
    refine ⟨⟨fun h => (Function.not_isExact_finite _ _ h).elim, ?_⟩, fun _ => ⟨?_, ?_⟩⟩
    · exact fun hlt => absurd hlt (Int.not_lt.2 hle)
    · exact fun h => if_pos h
    · intro h
      exact if_neg (by rw [h]; decide)

theorem evaluate_ofInteger (w : Int64) :
    (const (.ofInteger w)).evaluate row now = .ok (.integer w) :=
  congrArg Except.ok (Value.ofTerm_ofInteger w)

/-- The power of two words. -/
def powerOf (b e : Int64) : Expr := .call .pow [.const (.ofInteger b), .const (.ofInteger e)]

/-- The 63rd power of -2 is the lowest word, and the 64th is out of the range. -/
theorem evaluate_power_lowest :
    let now : DateTime := ⟨2024, 1, 1, 12, 0, 0, 0, 0⟩
    (0 ≤ (63 : Int64).toInt ∧ ((powerOf (-2) 63).evaluate .empty now).IsExact .pow (-2 ^ 63)) ∧
    0 ≤ (64 : Int64).toInt ∧ ((powerOf (-2) 64).evaluate .empty now).IsExact .pow (2 ^ 64) := by
  intro now
  have h63 := @evaluate_power .empty now _ _ _ _ (evaluate_ofInteger (-2))
    (evaluate_ofInteger 63) (by decide)
  have h64 := @evaluate_power .empty now _ _ _ _ (evaluate_ofInteger (-2))
    (evaluate_ofInteger 64) (by decide)
  exact ⟨⟨by decide, h63.1.2 (by decide)⟩, by decide, h64.1.2 (by decide)⟩

/-- An odd power of -1 is -1, but no integer comes out where the exponent is large. -/
theorem minusOne_power_not_exact :
    let now : DateTime := ⟨2024, 1, 1, 12, 0, 0, 0, 0⟩
    let o := (powerOf (-1) 9007199254740993).evaluate .empty now
    (-1 : ℤ) ^ (9007199254740993 : Int64).toInt.toNat = -1 ∧ FitsInt64 (-1) ∧
      o ≠ .ok (.integer (-1)) ∧ ¬o.IsExact .pow (-1) := by
  intro now o
  have hodd : (-1 : ℤ) ^ (9007199254740993 : Int64).toInt.toNat = -1 :=
    Odd.neg_one_pow (by decide)
  have hnot : ¬o.IsExact .pow (-1) := by
    have ho : o = _ := evaluate_pow (evaluate_ofInteger (-1)) (evaluate_ofInteger 9007199254740993)
    rw [ho, Function.applyPower_of_le (by decide)]
    exact Function.not_isExact_finite _ _
  exact ⟨hodd, by decide, fun h => hnot (.inl ⟨-1, h, by decide⟩), hnot⟩

end Expr

end RdfStore
