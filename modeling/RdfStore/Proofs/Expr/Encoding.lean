import RdfStore.Proofs.Expr.Visiting
import RdfStore.Proofs.Term.Normal
import RdfStore.Proofs.Text.Percent

/-!
# Texts encoded for IRIs

A text is encoded for an IRI by escaping all but 66 characters (`Function.unreserved`). The encoded
text can be read back, so no two texts have the same, and texts can be encoded part by part
(`Expr.encode_reversible`).
-/

namespace RdfStore

namespace Function

/-- The characters that are never escaped. -/
def unreserved : List Char :=
  "ABCDEFGHIJKLMNOPQRSTUVWXYZabcdefghijklmnopqrstuvwxyz0123456789-_.~".toList

theorem toNat_lt_of_isUnreserved {c : Char} (h : isUnreserved c = true) : c.toNat < 128 := by
  simp only [isUnreserved, Bool.or_eq_true, decide_eq_true_eq, Text.isAlphanum_iff] at h
  rcases h with (((h | rfl) | rfl) | rfl) | rfl
  · omega
  all_goals decide

theorem isUnreserved_iff {c : Char} : isUnreserved c = true ↔ c ∈ unreserved := by
  constructor
  · intro h
    -- All of them are in ASCII, where there are few to look at.
    have hall : ∀ n < 128, isUnreserved (Char.ofNat n) = true → Char.ofNat n ∈ unreserved := by
      decide +kernel
    have hc := hall c.toNat (toNat_lt_of_isUnreserved h)
    rw [Char.ofNat_toNat] at hc
    exact hc h
  · have hall : unreserved.all isUnreserved = true := by decide +kernel
    exact List.all_eq_true.1 hall c

theorem isUnreserved_eq_contains : isUnreserved = unreserved.contains := by
  funext c
  rw [Bool.eq_iff_iff, isUnreserved_iff, List.contains_iff_mem]

theorem isSafeSet_unreserved : Text.IsSafeSet unreserved.contains := by
  rw [← isUnreserved_eq_contains]
  exact { ascii := fun _ => toNat_lt_of_isUnreserved, percent := rfl }

/-- A text encoded for an IRI. -/
def encoded (s : String) : String := String.ofList (Text.percentEncode unreserved.contains s.toList)

theorem apply_encode (v : Value) :
    encode.apply [v] = (encode.textOf v).map fun part => .text (encoded part.1) none := by
  unfold encoded
  rw [← isUnreserved_eq_contains]
  cases v with
  | text s g => rfl
  | _ => rfl

end Function

namespace Expr

/-- A call comes to the encoded text of its argument, and fails if the argument is no text. -/
theorem evaluate_encode (a : Expr) (row : Row) (now : DateTime) :
    (call .encode [a]).evaluate row now =
      ((a.evaluate row now).bind Function.encode.textOf).map fun part =>
        .text (Function.encoded part.1) none := by
  rw [evaluate_strict rfl rfl, evaluateAll_eq, List.map_singleton]
  cases a.evaluate row now with
  | error err => rfl
  | ok v => exact Function.apply_encode v

/-- **Encoding for IRIs is reversible, in a safe alphabet.** The value of a call is the encoded
text of its argument. It consists of unreserved characters and of escapes, none of which stands for
an unreserved character. Its bytes, read as UTF-8, are the text again, so different texts are
encoded differently. Just the texts of unreserved characters stay as they are, and texts that stand
one after the other are encoded one after the other. -/
theorem encode_reversible (a : Expr) (row : Row) (now : DateTime) (s t : String) :
    (call .encode [a]).evaluate row now =
      ((a.evaluate row now).bind Function.encode.textOf).map
        (fun part => .text (Function.encoded part.1) none) ∧
    Text.IsEscaped Function.unreserved.contains (Function.encoded s).toList ∧
    Text.decodeUtf8? (Text.percentDecode (Function.encoded s).toList) = some s.toList ∧
    (Function.encoded s = Function.encoded t ↔ s = t) ∧
    (Function.encoded s = s ↔ ∀ c ∈ s.toList, c ∈ Function.unreserved) ∧
    Function.encoded (s ++ t) = Function.encoded s ++ Function.encoded t := by
  have hsafe := Function.isSafeSet_unreserved
  have hchars (s : String) : (Function.encoded s).toList =
      Text.percentEncode Function.unreserved.contains s.toList := String.toList_ofList
  refine ⟨evaluate_encode a row now, ?_, ?_, ?_, ?_, ?_⟩
  · rw [hchars]
    exact Text.isEscaped_percentEncode hsafe s.toList
  · rw [hchars]
    exact Text.decodeUtf8?_percentDecode_percentEncode hsafe s.toList
  · rw [← String.toList_inj, hchars, hchars, Text.percentEncode_inj hsafe, String.toList_inj]
  · rw [← String.toList_inj, hchars, Text.percentEncode_eq_self_iff]
    simp only [List.contains_iff_mem]
  · rw [← String.toList_inj, String.toList_append, hchars, hchars, hchars, String.toList_append,
      Text.percentEncode_append]

example : Function.encoded "Los Ángeles/~x" = "Los%20%C3%81ngeles%2F~x" := by decide +kernel

end Expr

end RdfStore
