import Mathlib.Algebra.Group.Int.Defs
import RdfStore.Number.Integer

/-!
# Numerals read back

A whole number in base ten is read as that number (`readInt?_intText`), and so is every 64-bit
integer (`readInt64?_int64Text`), also where white space around a numeral does not count
(`trim_int64Text`). In base sixteen it is read with leading zeros (`readHex?_hexDigits`) and without
(`readHex?_shortHex`). A number has a word if and only if it lies in the range of 64 bits
(`toInt64?_eq_none_iff`), and then the word holds it (`toInt64?_eq_some_iff`).
-/

namespace RdfStore

/-! ## Texts without white space -/

namespace Text

/-- Where no character fails to count, nothing is stripped. -/
theorem strip_eq_self {p : Char → Bool} {cs : List Char} (h : ∀ c ∈ cs, p c = false) :
    strip p cs = cs := by
  have hdrop : ∀ l : List Char, (∀ c ∈ l, p c = false) → l.dropWhile p = l := by
    intro l hl
    cases l with
    | nil => rfl
    | cons c l => simp [hl c List.mem_cons_self]
  have hreverse : ∀ c ∈ cs.reverse, p c = false := fun c hc => h c (List.mem_reverse.1 hc)
  unfold strip
  rw [hdrop cs h, hdrop cs.reverse hreverse, List.reverse_reverse]

/-! ## Hexadecimal digits -/

theorem hexValue?_hexDigit {n : Nat} (h : n < 16) : hexValue? (hexDigit n) = some n := by
  have hall : ∀ n < 16, hexValue? (hexDigit n) = some n := by decide
  exact hall n h

theorem readHex?_append_singleton (cs : List Char) (c : Char) :
    readHex? (cs ++ [c]) =
      (readHex? cs).bind fun n => (hexValue? c).map fun d => 16 * n + d := by
  unfold readHex?
  rw [List.foldlM_append]
  simp

/-- A number that needs no more digits is read from them. -/
theorem readHex?_hexDigits {width n : Nat} (h : n < Nat.pow 16 width) :
    readHex? (hexDigits width n) = some n := by
  induction width generalizing n with
  | zero =>
    obtain rfl : n = 0 := Nat.lt_one_iff.1 h
    rfl
  | succ width ih =>
    have hsucc : Nat.pow 16 (width + 1) = Nat.pow 16 width * 16 := rfl
    have hfirst : readHex? (hexDigits width (n / 16)) = some (n / 16) := ih (by omega)
    have hlast : hexValue? (hexDigit (n % 16)) = some (n % 16) :=
      hexValue?_hexDigit (Nat.mod_lt n (by decide))
    rw [hexDigits, readHex?_append_singleton, hfirst, hlast]
    simp only [Option.bind_some, Option.map_some, Option.some.injEq]
    omega

theorem readHex?_dropWhile_zero (cs : List Char) :
    readHex? (cs.dropWhile (· = '0')) = readHex? cs := by
  induction cs with
  | nil => rfl
  | cons c cs ih =>
    by_cases hc : c = '0'
    · obtain rfl := hc
      exact ih
    · rw [List.dropWhile_cons_of_neg (by simpa using hc)]

theorem readHex?_shortHex {width n : Nat} (h : n < Nat.pow 16 width) :
    readHex? (shortHex width n) = some n := by
  have hread := readHex?_hexDigits h
  rw [← readHex?_dropWhile_zero] at hread
  unfold shortHex
  split
  · next hnil =>
    rw [hnil] at hread
    exact hread
  · exact hread

end Text

namespace Number

/-! ## Digits -/

theorem digitValue?_digitChar {n : Nat} (h : n < 10) :
    Text.digitValue? (digitChar n) = some n := by
  have hall : ∀ n < 10, Text.digitValue? (digitChar n) = some n := by decide
  exact hall n h

/-- The character is a digit. -/
def IsNumeral (c : Char) : Prop := ∃ n < 10, c = digitChar n

theorem IsNumeral.not_sign {c : Char} (h : IsNumeral c) : c ≠ '+' ∧ c ≠ '-' := by
  have hall : ∀ n < 10, digitChar n ≠ '+' ∧ digitChar n ≠ '-' := by decide
  obtain ⟨n, hn, rfl⟩ := h
  exact hall n hn

theorem IsNumeral.not_blank {c : Char} (h : IsNumeral c) : Text.isBlank c = false := by
  have hall : ∀ n < 10, Text.isBlank (digitChar n) = false := by decide
  obtain ⟨n, hn, rfl⟩ := h
  exact hall n hn

theorem isNumeral_of_mem_digits {n : Nat} {c : Char} (h : c ∈ digits n) : IsNumeral c := by
  induction n using digits.induct with
  | case1 n hn =>
    rw [digits, if_pos hn, List.mem_singleton] at h
    exact ⟨n, hn, h⟩
  | case2 n hn ih =>
    rw [digits, if_neg hn, List.mem_append, List.mem_singleton] at h
    rcases h with h | rfl
    · exact ih h
    · exact ⟨n % 10, Nat.mod_lt n (by decide), rfl⟩

/-- The digits of a number are one or more. -/
theorem exists_digits_eq_cons (n : Nat) : ∃ c cs, digits n = c :: cs ∧ IsNumeral c := by
  have hne : digits n ≠ [] := by
    rw [digits]
    split
    · exact List.cons_ne_nil _ _
    · exact List.append_ne_nil_of_right_ne_nil _ (List.cons_ne_nil _ _)
  obtain ⟨c, cs, hcons⟩ := List.exists_cons_of_ne_nil hne
  exact ⟨c, cs, hcons, isNumeral_of_mem_digits (hcons ▸ List.mem_cons_self)⟩

/-- **Digits read back.** All digits but the last are those of the number without it. -/
theorem readDigits?_digits (n : Nat) : Text.readDigits? (digits n) = some n := by
  induction n using digits.induct with
  | case1 n hn =>
    rw [digits, if_pos hn]
    simp [Text.readDigits?, digitValue?_digitChar hn]
  | case2 n hn ih =>
    have hlast : n % 10 < 10 := Nat.mod_lt n (by decide)
    rw [digits, if_neg hn]
    unfold Text.readDigits? at ih ⊢
    rw [List.foldlM_append, ih]
    simp only [Option.bind_eq_bind, Option.bind_some, List.foldlM_cons, List.foldlM_nil,
      digitValue?_digitChar hlast, Option.map_some, Option.pure_def, Option.some.injEq]
    omega

/-! ## Integers -/

theorem readInt?_of_numeral {c : Char} {cs : List Char} (h : IsNumeral c) :
    readInt? (c :: cs) = (Text.readDigits? (c :: cs)).map Int.ofNat := by
  obtain ⟨hplus, hminus⟩ := h.not_sign
  unfold readInt?
  split <;> simp_all

theorem readInt?_neg_cons {c : Char} {cs : List Char} :
    readInt? ('-' :: c :: cs) = (Text.readDigits? (c :: cs)).map fun n => -(n : Int) := rfl

/-- **Integers read back.** -/
theorem readInt?_intText (i : Int) : readInt? (intText i).toList = some i := by
  cases i with
  | ofNat n =>
    obtain ⟨c, cs, hcons, hc⟩ := exists_digits_eq_cons n
    have hdigits := readDigits?_digits n
    show readInt? (String.ofList (digits n)).toList = some (Int.ofNat n)
    rw [String.toList_ofList, hcons, readInt?_of_numeral hc, ← hcons, hdigits]
    rfl
  | negSucc n =>
    obtain ⟨c, cs, hcons, -⟩ := exists_digits_eq_cons (n + 1)
    have hdigits := readDigits?_digits (n + 1)
    show readInt? (String.ofList ('-' :: digits (n + 1))).toList = some (Int.negSucc n)
    rw [String.toList_ofList, hcons, readInt?_neg_cons, ← hcons, hdigits]
    rfl

/-- The integer lies in the signed 64-bit range. -/
def FitsInt64 (i : Int) : Prop := -2 ^ 63 ≤ i ∧ i ≤ 2 ^ 63 - 1

instance (i : Int) : Decidable (FitsInt64 i) := inferInstanceAs (Decidable (_ ∧ _))

theorem fitsInt64_toInt (w : Int64) : FitsInt64 w.toInt :=
  ⟨w.le_toInt, Int.le_sub_one_of_lt w.toInt_lt⟩

/-- The word of an integer holds just this integer, and there is one wherever it fits. -/
theorem toInt64?_eq_some_iff {i : Int} {w : Int64} : toInt64? i = some w ↔ w.toInt = i := by
  unfold toInt64?
  constructor
  · intro h
    split at h
    · next hfits =>
      obtain rfl := Option.some.inj h
      exact Int64.toInt_ofInt_of_le hfits.1 (Int.lt_of_le_of_lt hfits.2 (by decide))
    · exact nomatch h
  · rintro rfl
    exact (if_pos (fitsInt64_toInt w)).trans (congrArg some w.ofInt_toInt)

theorem toInt64?_eq_none_iff {i : Int} : toInt64? i = none ↔ ¬FitsInt64 i := by
  unfold toInt64?
  split
  · next hfits => exact iff_of_false nofun (not_not_intro hfits)
  · next hfits => exact iff_of_true rfl hfits

theorem toInt64?_toInt (i : Int64) : toInt64? i.toInt = some i := toInt64?_eq_some_iff.2 rfl

/-- Every 64-bit integer is read as itself. -/
theorem readInt64?_int64Text (i : Int64) : readInt64? (int64Text i).toList = some i := by
  unfold readInt64? int64Text
  rw [readInt?_intText]
  exact toInt64?_toInt i

theorem not_blank_of_mem_intText {i : Int} {c : Char} (h : c ∈ (intText i).toList) :
    Text.isBlank c = false := by
  cases i with
  | ofNat n =>
    rw [show intText (Int.ofNat n) = String.ofList (digits n) from rfl,
      String.toList_ofList] at h
    exact (isNumeral_of_mem_digits h).not_blank
  | negSucc n =>
    rw [show intText (Int.negSucc n) = String.ofList ('-' :: digits (n + 1)) from rfl,
      String.toList_ofList, List.mem_cons] at h
    rcases h with rfl | h
    · rfl
    · exact (isNumeral_of_mem_digits h).not_blank

theorem trim_int64Text (i : Int64) : Text.trim (int64Text i) = int64Text i := by
  have hstrip : Text.strip Text.isBlank (int64Text i).toList = (int64Text i).toList :=
    Text.strip_eq_self fun c hc => not_blank_of_mem_intText hc
  unfold Text.trim
  rw [hstrip, String.ofList_toList]

end Number

end RdfStore
