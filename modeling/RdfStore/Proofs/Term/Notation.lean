import RdfStore.Term.Notation
import RdfStore.Proofs.Number.Reading

/-!
# Terms told by their written forms

A term that is no formula is read back from its written form (`Term.ofText?_text`), whatever
characters its texts and names are made of: the first character tells its kind, the text of a
literal ends at the first quote that is not escaped, and an IRI at the last bracket. So no two such
terms look alike (`Term.text_unambiguous`).
-/

namespace RdfStore

/-! ## Literals -/

namespace Literal

/-- The character that is written as this one behind a backslash. -/
def unescape? (c : Char) : Option Char :=
  if c = '\\' then some '\\'
  else if c = '"' then some '"'
  else if c = 'n' then some '\n'
  else if c = 'r' then some '\r'
  else none

/-- A lexical form up to its closing quote, and what follows the quote. -/
def readQuoted? : List Char → Option (List Char × List Char)
  | [] => none
  | '"' :: cs => some ([], cs)
  | '\\' :: c :: cs => do
    let e ← unescape? c
    let (value, rest) ← readQuoted? cs
    return (e :: value, rest)
  | c :: cs => do
    let (value, rest) ← readQuoted? cs
    return (c :: value, rest)

end Literal

/-- What stands between an opened bracket and the bracket at the end. -/
def readBracketed? (cs : List Char) : Option String :=
  if cs.getLast? = some '>' then some (String.ofList cs.dropLast) else none

/-- The kind that is written behind the closing quote of a literal. -/
def LiteralKind.ofChars? : List Char → Option LiteralKind
  | [] => some .simple
  | '^' :: '^' :: '<' :: cs => (readBracketed? cs).map fun s => .typed ⟨s⟩
  | '@' :: cs => some (.tagged (String.ofList cs))
  | _ => none

/-- The literal of a written form, its opening quote already taken off. -/
def Literal.ofChars? (cs : List Char) : Option Literal := do
  let (value, rest) ← readQuoted? cs
  return ⟨String.ofList value, ← LiteralKind.ofChars? rest⟩

section Quoted

variable {c : Char} {cs value rest : List Char}

theorem Literal.readQuoted?_escaped {e : Char} (he : unescape? c = some e)
    (h : readQuoted? cs = some (value, rest)) :
    readQuoted? ('\\' :: c :: cs) = some (e :: value, rest) := by
  rw [readQuoted?, he, h]
  rfl

theorem Literal.readQuoted?_plain (hquote : c ≠ '"') (hslash : c ≠ '\\')
    (h : readQuoted? cs = some (value, rest)) :
    readQuoted? (c :: cs) = some (c :: value, rest) := by
  rw [readQuoted?.eq_4 c cs hquote fun _ _ hc _ => hslash hc, h]
  rfl

theorem Literal.escape_cases (c : Char) :
    (∃ d, unescape? d = some c ∧ escape c = ['\\', d]) ∨
      (c ≠ '"' ∧ c ≠ '\\' ∧ escape c = [c]) := by
  by_cases hslash : c = '\\'
  · subst hslash
    exact .inl ⟨'\\', rfl, rfl⟩
  by_cases hquote : c = '"'
  · subst hquote
    exact .inl ⟨'"', rfl, rfl⟩
  by_cases hline : c = '\n'
  · subst hline
    exact .inl ⟨'n', rfl, rfl⟩
  by_cases hreturn : c = '\r'
  · subst hreturn
    exact .inl ⟨'r', rfl, rfl⟩
  · refine .inr ⟨hquote, hslash, ?_⟩
    simp [escape, hslash, hquote, hline, hreturn]

/-- A character in its escaped form is one character. -/
theorem Literal.readQuoted?_escape (c : Char) (h : readQuoted? cs = some (value, rest)) :
    readQuoted? (escape c ++ cs) = some (c :: value, rest) := by
  rcases escape_cases c with ⟨d, hd, hc⟩ | ⟨hquote, hslash, hc⟩
  · rw [hc]
    exact readQuoted?_escaped hd h
  · rw [hc]
    exact readQuoted?_plain hquote hslash h

theorem Literal.readQuoted?_flatMap_escape (cs rest : List Char) :
    readQuoted? (cs.flatMap escape ++ '"' :: rest) = some (cs, rest) := by
  induction cs with
  | nil => rfl
  | cons c cs ih =>
    rw [List.flatMap_cons, List.append_assoc]
    exact readQuoted?_escape c ih

theorem readBracketed?_append (s : String) : readBracketed? (s.toList ++ ['>']) = some s := by
  unfold readBracketed?
  rw [List.getLast?_concat, if_pos rfl, List.dropLast_concat, String.ofList_toList]

theorem LiteralKind.ofChars?_chars (kind : LiteralKind) : ofChars? kind.chars = some kind := by
  cases kind with
  | simple => rfl
  | typed d =>
    show (readBracketed? (d.text.toList ++ ['>'])).map _ = _
    rw [readBracketed?_append]
    rfl
  | tagged g =>
    show some (tagged (String.ofList g.toList)) = _
    rw [String.ofList_toList]

/-- **Literals read back.** No quote in the escaped text is taken for the closing one. -/
theorem Literal.ofChars?_chars (l : Literal) :
    ofChars? (l.value.toList.flatMap escape ++ '"' :: l.kind.chars) = some l := by
  unfold ofChars?
  rw [readQuoted?_flatMap_escape]
  show (LiteralKind.ofChars? l.kind.chars).bind _ = _
  rw [LiteralKind.ofChars?_chars, String.ofList_toList]
  rfl

end Quoted

/-! ## Replacing one character after the other -/

/-- The text with another one in the place of every occurrence of a character. -/
def replaced (c : Char) (image cs : List Char) : List Char :=
  cs.flatMap fun d => if d = c then image else [d]

theorem replaced_append (c : Char) (image cs ds : List Char) :
    replaced c image (cs ++ ds) = replaced c image cs ++ replaced c image ds :=
  List.flatMap_append

/-- The characters of a text can be escaped one kind after the other, if backslashes come first. If
they came later, those that stand before escaped characters would be doubled as well. -/
theorem Literal.flatMap_escape_eq_replaced (cs : List Char) :
    cs.flatMap escape =
      replaced '\r' ['\\', 'r'] (replaced '\n' ['\\', 'n'] (replaced '"' ['\\', '"']
        (replaced '\\' ['\\', '\\'] cs))) := by
  induction cs with
  | nil => rfl
  | cons c cs ih =>
    have hone : escape c = replaced '\r' ['\\', 'r'] (replaced '\n' ['\\', 'n']
        (replaced '"' ['\\', '"'] (replaced '\\' ['\\', '\\'] [c]))) := by
      by_cases hshort : c ∈ ['\\', '"', '\n', '\r']
      · simp only [List.mem_cons, List.not_mem_nil, or_false] at hshort
        rcases hshort with rfl | rfl | rfl | rfl <;> rfl
      · simp only [List.mem_cons, List.not_mem_nil, or_false, not_or] at hshort
        simp [escape, replaced, hshort]
    have hcons : c :: cs = [c] ++ cs := rfl
    rw [List.flatMap_cons, ih, hone, hcons]
    simp only [replaced_append]

/-! ## Terms -/

namespace Term

/-- The term is written without braces. -/
def isAtomic : Term → Bool
  | formula _ => false
  | _ => true

/-- The term of a written form without braces. -/
def ofChars? : List Char → Option Term
  | '<' :: cs => (readBracketed? cs).map fun s => .iri ⟨s⟩
  | '_' :: ':' :: 'b' :: cs => (Text.readHex? cs).map fun n => .blank ⟨BitVec.ofNat 128 n⟩
  | '"' :: cs => (Literal.ofChars? cs).map .literal
  | '?' :: cs => some (.var ⟨String.ofList cs⟩)
  | _ => none

def ofText? (s : String) : Option Term := ofChars? s.toList

theorem ofText?_text {t : Term} (h : t.isAtomic = true) : ofText? t.text = some t := by
  unfold ofText? text
  rw [String.toList_ofList]
  cases t with
  | iri i =>
    have hchars : (iri i).chars = '<' :: (i.text.toList ++ ['>']) := rfl
    rw [hchars, ofChars?, readBracketed?_append]
    rfl
  | blank b =>
    have hread : Text.readHex? (Text.hexDigits 32 b.id.toNat) = some b.id.toNat :=
      Text.readHex?_hexDigits b.id.isLt
    have hchars : (blank b).chars = '_' :: ':' :: 'b' :: Text.hexDigits 32 b.id.toNat := rfl
    rw [hchars, ofChars?, hread, Option.map_some, BitVec.ofNat_toNat, BitVec.setWidth_eq]
  | literal l =>
    have hchars : (literal l).chars =
        '"' :: (l.value.toList.flatMap Literal.escape ++ '"' :: l.kind.chars) := rfl
    rw [hchars, ofChars?, l.ofChars?_chars]
    rfl
  | var v =>
    show some (var ⟨String.ofList v.name.toList⟩) = _
    rw [String.ofList_toList]
  | formula ts => exact nomatch h

/-- **Written forms are unambiguous.** Terms without braces that look alike are the same, and each
is had back from its written form: a literal with its lexical form, its kind, and its datatype or
language. -/
theorem text_unambiguous {t u : Term} (ht : t.isAtomic = true) (hu : u.isAtomic = true) :
    (t.text = u.text ↔ t = u) ∧ ofText? t.text = some t := by
  have hread : ofText? t.text = some t := ofText?_text ht
  refine ⟨⟨fun h => ?_, congrArg text⟩, hread⟩
  rw [h, ofText?_text hu] at hread
  exact (Option.some.inj hread).symm

/-- A text that holds a quote, a datatype and a backslash at its end is no literal with this
datatype. -/
theorem text_unambiguous_quotes :
    let t : Term := .literal ⟨"a\"^^<urn:b>\\", .simple⟩
    let u : Term := .literal ⟨"a", .typed ⟨"urn:b>\\"⟩⟩
    t.isAtomic = true ∧ u.isAtomic = true ∧ t.text ≠ u.text ∧ ofText? t.text = some t ∧
      t.text = "\"a\\\"^^<urn:b>\\\\\"" := by
  intro t u
  have ht : t.isAtomic = true := rfl
  have hu : u.isAtomic = true := rfl
  obtain ⟨hapart, hread⟩ := text_unambiguous ht hu
  have hne : t ≠ u := by decide
  exact ⟨ht, hu, fun h => hne (hapart.1 h), hread, by decide⟩

end Term

end RdfStore
