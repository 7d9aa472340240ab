import RdfStore.Text.Basic

/-!
# Percent-encoding

A character outside a safe set is written as the bytes of its UTF-8 form, each as a percent sign
and two hexadecimal digits in upper case. Decoding gives bytes back; a percent sign without two
digits after it stands for itself.
-/

namespace RdfStore.Text

def percentByte (b : UInt8) : List Char :=
  ['%', upperHexDigit (b.toNat / 16), upperHexDigit (b.toNat % 16)]

def percentChar (c : Char) : List Char :=
  (String.utf8EncodeChar c).flatMap percentByte

/-- A text in which every character outside the safe set is percent-encoded. -/
def percentEncode (safe : Char → Bool) (cs : List Char) : List Char :=
  cs.flatMap fun c => if safe c then [c] else percentChar c

def percentDecode : List Char → List UInt8
  | [] => []
  | '%' :: a :: b :: cs =>
    match hexValue? a, hexValue? b with
    | some h, some l => UInt8.ofNat (16 * h + l) :: percentDecode cs
    | _, _ => String.utf8EncodeChar '%' ++ percentDecode (a :: b :: cs)
  | c :: cs => String.utf8EncodeChar c ++ percentDecode cs

/-- The characters that a sequence of bytes encodes in UTF-8; `none` if it is malformed. -/
def decodeUtf8? (bs : List UInt8) : Option (List Char) :=
  (String.fromUTF8? ⟨bs.toArray⟩).map String.toList

end RdfStore.Text
