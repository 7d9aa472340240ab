import Mathlib.Data.List.Basic
import RdfStore.Text.Percent

/-!
# Percent-encoded text

Percent-encoding a text is escaping the bytes of its UTF-8 form one by one
(`percentEncode_eq_flatMap`). So the bytes can be read back one by one
(`percentDecode_percentEncode`), and the result consists of safe characters and of escapes of bytes
that are no safe character (`isEscaped_percentEncode`).
-/

namespace RdfStore.Text

/-- The characters are in ASCII, and the percent sign is none of them. -/
structure IsSafeSet (safe : Char → Bool) : Prop where
  ascii : ∀ c, safe c = true → c.toNat < 128
  percent : safe '%' = false

/-- The text consists of safe characters and of escapes, each a percent sign with two hexadecimal
digits. No escape stands for a safe character. -/
inductive IsEscaped (safe : Char → Bool) : List Char → Prop where
  | nil : IsEscaped safe []
  | plain {c : Char} {cs : List Char} (hc : safe c = true) (h : IsEscaped safe cs) :
    IsEscaped safe (c :: cs)
  | escape {a b : Char} {m n : Nat} {cs : List Char} (ha : hexValue? a = some m)
    (hb : hexValue? b = some n) (hbyte : ∀ c, safe c = true → c.toNat ≠ 16 * m + n)
    (h : IsEscaped safe cs) : IsEscaped safe ('%' :: a :: b :: cs)

/-- The safe character with a byte as its code, or else the byte escaped. -/
def escapeByte (safe : Char → Bool) (b : UInt8) : List Char :=
  if safe (Char.ofNat b.toNat) then [Char.ofNat b.toNat] else percentByte b

variable {safe : Char → Bool} {c : Char} {b : UInt8} {cs ds : List Char}

/-! ## Bytes of characters -/

theorem hexValue?_upperHexDigit {n : Nat} (h : n < 16) : hexValue? (upperHexDigit n) = some n := by
  have hall : ∀ n < 16, hexValue? (upperHexDigit n) = some n := by decide
  exact hall n h

theorem toNat_ofNat_byte (b : UInt8) : (Char.ofNat b.toNat).toNat = b.toNat := by
  have hvalid : b.toNat.isValidChar := .inl (Nat.lt_trans b.toNat_lt (by decide))
  unfold Char.ofNat
  rw [dif_pos hvalid]
  rfl

/-- A character in ASCII has its code for its only byte. -/
theorem utf8EncodeChar_of_lt (hc : c.toNat < 128) :
    String.utf8EncodeChar c = [UInt8.ofNat c.toNat] :=
  if_pos (Nat.le_of_lt_succ hc)

/-- The bytes of a character outside ASCII are the codes of no character in ASCII. -/
theorem le_of_mem_utf8EncodeChar (hc : 128 ≤ c.toNat) :
    ∀ b ∈ String.utf8EncodeChar c, 128 ≤ b.toNat := by
  have hlarge {n : Nat} (hle : 128 ≤ n) (hlt : n < 256) : 128 ≤ (UInt8.ofNat n).toNat := by
    rw [UInt8.toNat_ofNat', Nat.mod_eq_of_lt hlt]
    exact hle
  have hval : 128 ≤ c.val.toNat := hc
  intro b hb
  -- One case for each number of bytes: the first has its highest bits set, and so have the others.
  unfold String.utf8EncodeChar at hb
  dsimp only at hb
  split_ifs at hb with hone htwo hthree
  · omega
  all_goals simp only [List.mem_cons, List.not_mem_nil, or_false] at hb
  · rcases hb with rfl | rfl <;> exact hlarge (by omega) (by omega)
  · rcases hb with rfl | rfl | rfl <;> exact hlarge (by omega) (by omega)
  · rcases hb with rfl | rfl | rfl | rfl <;> exact hlarge (by omega) (by omega)

/-- The bytes of a text are read as the text. -/
theorem decodeUtf8?_flatMap (cs : List Char) :
    decodeUtf8? (cs.flatMap String.utf8EncodeChar) = some cs := by
  have hbytes : (⟨(cs.flatMap String.utf8EncodeChar).toArray⟩ : ByteArray) =
      (String.ofList cs).toByteArray := by
    rw [String.toByteArray_ofList]
    exact congrArg ByteArray.mk List.data_toByteArray.symm
  unfold decodeUtf8? String.fromUTF8?
  rw [hbytes, dif_pos (String.ofList cs).isValidUTF8]
  exact congrArg some String.toList_ofList

/-! ## Escaping byte by byte -/

/-- The bytes of a character are escaped together: one byte that is safe is the character, and
other bytes are never safe. -/
theorem flatMap_escapeByte_char (h : IsSafeSet safe) (c : Char) :
    (String.utf8EncodeChar c).flatMap (escapeByte safe) =
      if safe c then [c] else percentChar c := by
  rcases Nat.lt_or_ge c.toNat 128 with hc | hc
  · have hcode : (UInt8.ofNat c.toNat).toNat = c.toNat := by
      rw [UInt8.toNat_ofNat', Nat.mod_eq_of_lt (by omega)]
    unfold percentChar
    rw [utf8EncodeChar_of_lt hc, List.flatMap_singleton, List.flatMap_singleton]
    unfold escapeByte
    rw [hcode, Char.ofNat_toNat]
  · have hneg (d : Char) (hd : 128 ≤ d.toNat) : safe d = false :=
      Bool.eq_false_iff.2 fun hsafe => absurd (h.ascii d hsafe) (Nat.not_lt.2 hd)
    unfold percentChar
    rw [hneg c hc, if_neg Bool.false_ne_true]
    refine List.flatMap_congr fun b hb => ?_
    have hb : 128 ≤ (Char.ofNat b.toNat).toNat := by
      rw [toNat_ofNat_byte]
      exact le_of_mem_utf8EncodeChar hc b hb
    unfold escapeByte
    rw [hneg _ hb, if_neg Bool.false_ne_true]

/-- Percent-encoding escapes the bytes of a text one by one. -/
theorem percentEncode_eq_flatMap (h : IsSafeSet safe) (cs : List Char) :
    percentEncode safe cs = (cs.flatMap String.utf8EncodeChar).flatMap (escapeByte safe) := by
  unfold percentEncode
  rw [List.flatMap_assoc]
  exact List.flatMap_congr fun c _ => (flatMap_escapeByte_char h c).symm

theorem percentEncode_append (safe : Char → Bool) (cs ds : List Char) :
    percentEncode safe (cs ++ ds) = percentEncode safe cs ++ percentEncode safe ds :=
  List.flatMap_append

/-! ## Reading back -/

theorem percentDecode_cons_of_ne (hc : c ≠ '%') :
    percentDecode (c :: cs) = String.utf8EncodeChar c ++ percentDecode cs := by
  rw [percentDecode]
  exact fun _ _ _ h _ => hc h

theorem percentDecode_percentByte (b : UInt8) (cs : List Char) :
    percentDecode (percentByte b ++ cs) = b :: percentDecode cs := by
  have hlt := b.toNat_lt
  have hfirst := hexValue?_upperHexDigit (n := b.toNat / 16) (by omega)
  have hsecond := hexValue?_upperHexDigit (n := b.toNat % 16) (by omega)
  have hbyte : UInt8.ofNat (16 * (b.toNat / 16) + b.toNat % 16) = b := by
    rw [Nat.div_add_mod, UInt8.ofNat_toNat]
  show percentDecode ('%' :: upperHexDigit (b.toNat / 16) :: upperHexDigit (b.toNat % 16) :: cs) = _
  rw [percentDecode, hfirst, hsecond]
  exact congrArg (· :: percentDecode cs) hbyte

theorem percentDecode_escapeByte (h : IsSafeSet safe) (b : UInt8) (cs : List Char) :
    percentDecode (escapeByte safe b ++ cs) = b :: percentDecode cs := by
  unfold escapeByte
  split
  · next hsafe =>
    have hne : Char.ofNat b.toNat ≠ '%' := by
      intro he
      rw [he, h.percent] at hsafe
      exact nomatch hsafe
    show percentDecode (Char.ofNat b.toNat :: cs) = _
    rw [percentDecode_cons_of_ne hne, utf8EncodeChar_of_lt (h.ascii _ hsafe), toNat_ofNat_byte,
      UInt8.ofNat_toNat]
    rfl
  · exact percentDecode_percentByte b cs

theorem percentDecode_flatMap_escapeByte (h : IsSafeSet safe) (bs : List UInt8) :
    percentDecode (bs.flatMap (escapeByte safe)) = bs := by
  induction bs with
  | nil => rw [List.flatMap_nil, percentDecode]
  | cons b bs ih => rw [List.flatMap_cons, percentDecode_escapeByte h, ih]

/-- **Percent-encoding can be undone.** The bytes that come back are those of the text. -/
theorem percentDecode_percentEncode (h : IsSafeSet safe) (cs : List Char) :
    percentDecode (percentEncode safe cs) = cs.flatMap String.utf8EncodeChar := by
  rw [percentEncode_eq_flatMap h, percentDecode_flatMap_escapeByte h]

theorem decodeUtf8?_percentDecode_percentEncode (h : IsSafeSet safe) (cs : List Char) :
    decodeUtf8? (percentDecode (percentEncode safe cs)) = some cs := by
  rw [percentDecode_percentEncode h, decodeUtf8?_flatMap]

theorem percentEncode_inj (h : IsSafeSet safe) :
    percentEncode safe cs = percentEncode safe ds ↔ cs = ds := by
  refine ⟨fun he => ?_, congrArg _⟩
  have hread := decodeUtf8?_percentDecode_percentEncode h cs
  rw [he, decodeUtf8?_percentDecode_percentEncode h] at hread
  exact (Option.some.inj hread).symm

/-! ## What encoded text looks like -/

theorem IsEscaped.escapeByte (h : IsEscaped safe cs) (b : UInt8) :
    IsEscaped safe (escapeByte safe b ++ cs) := by
  unfold Text.escapeByte
  split
  · next hsafe => exact h.plain hsafe
  · next hneg =>
    have hlt := b.toNat_lt
    refine h.escape (hexValue?_upperHexDigit (by omega)) (hexValue?_upperHexDigit (by omega)) ?_
    rintro c hc he
    rw [Nat.div_add_mod] at he
    rw [← he, Char.ofNat_toNat] at hneg
    exact hneg hc

/-- Encoded text consists of safe characters and of escapes. -/
theorem isEscaped_percentEncode (h : IsSafeSet safe) (cs : List Char) :
    IsEscaped safe (percentEncode safe cs) := by
  rw [percentEncode_eq_flatMap h]
  induction cs.flatMap String.utf8EncodeChar with
  | nil => exact .nil
  | cons b bs ih =>
    rw [List.flatMap_cons]
    exact ih.escapeByte b

/-- Each character that is not safe makes the text longer, by two characters at least. -/
theorem length_percentEncode_ge (safe : Char → Bool) (cs : List Char) :
    cs.length + 2 * cs.countP (!safe ·) ≤ (percentEncode safe cs).length := by
  induction cs with
  | nil => exact Nat.le_refl 0
  | cons c cs ih =>
    have hcons : percentEncode safe (c :: cs) =
        (if safe c then [c] else percentChar c) ++ percentEncode safe cs := List.flatMap_cons
    rw [hcons, List.length_append, List.length_cons, List.countP_cons]
    cases hc : safe c with
    | true =>
      simp only [Bool.not_true, Bool.false_eq_true, if_false, if_true, List.length_singleton]
      omega
    | false =>
      have hthree : 3 ≤ (percentChar c).length := by
        obtain ⟨b, bs, hbs⟩ := List.exists_cons_of_ne_nil (String.utf8EncodeChar_ne_nil (c := c))
        unfold percentChar
        rw [hbs, List.flatMap_cons, List.length_append]
        exact Nat.le_add_right 3 _
      simp only [Bool.not_false, if_true, Bool.false_eq_true, if_false]
      omega

/-- Just the texts of safe characters stay as they are. -/
theorem percentEncode_eq_self_iff : percentEncode safe cs = cs ↔ ∀ c ∈ cs, safe c = true := by
  constructor
  · intro he
    have hlength := length_percentEncode_ge safe cs
    rw [he] at hlength
    have hcount : cs.countP (!safe ·) = 0 := by omega
    simpa using List.countP_eq_zero.1 hcount
  · intro hall
    unfold percentEncode
    calc (cs.flatMap fun c => if safe c then [c] else percentChar c)
        = cs.flatMap fun c => [c] := List.flatMap_congr fun c hc => if_pos (hall c hc)
      _ = cs := List.flatMap_singleton' cs

end RdfStore.Text
