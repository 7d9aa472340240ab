import RdfStore.Json.Reader
import RdfStore.Proofs.Number.Reading

/-!
# Values read back

A JSON value that is put into writing is read as the same value (`Json.read?_text`), if it is made
of texts, whole numbers, truth values and `null`. What may follow a value is the end of the text, a
comma or a closing bracket, so a number does not run into it (`Json.Stops`).
-/

namespace RdfStore

/-! ## Lists read one by one -/

theorem mapM_map_eq_some_map {α β γ : Type} {read : β → Option γ} {write : α → β} {f : α → γ}
    {l : List α} (h : ∀ a ∈ l, read (write a) = some (f a)) :
    (l.map write).mapM read = some (l.map f) := by
  induction l with
  | nil => rfl
  | cons a l ih =>
    obtain ⟨ha, hl⟩ := List.forall_mem_cons.1 h
    rw [List.map_cons, List.mapM_cons, ha, ih hl]
    rfl

theorem mapM_map_eq_some {α β : Type} {read : β → Option α} {write : α → β} {l : List α}
    (h : ∀ a ∈ l, read (write a) = some a) : (l.map write).mapM read = some l := by
  have hmap := mapM_map_eq_some_map (f := id) h
  rwa [List.map_id] at hmap

theorem exists_of_mapM_eq_some {α β : Type} {read : β → Option α} {l : List β} {l' : List α}
    (h : l.mapM read = some l') : ∀ a ∈ l', ∃ b, read b = some a := by
  induction l generalizing l' with
  | nil =>
    obtain rfl := Option.some.inj h
    exact nofun
  | cons b l ih =>
    rw [List.mapM_cons] at h
    obtain ⟨a, ha, h⟩ := Option.bind_eq_some_iff.1 h
    obtain ⟨l'', hl, h⟩ := Option.bind_eq_some_iff.1 h
    obtain rfl := Option.some.inj h
    exact List.forall_mem_cons.2 ⟨⟨b, ha⟩, ih hl⟩

namespace Json

/-! ## Texts -/

section Texts

variable {c : Char} {cs rest : List Char} {us : List Nat}

theorem scanUnits?_simple {e : Char} (hu : c ≠ 'u') (he : simpleEscape? c = some e)
    (h : scanUnits? cs = some (us, rest)) :
    scanUnits? ('\\' :: c :: cs) = some (e.toNat :: us, rest) := by
  rw [scanUnits?.eq_4 c cs fun _ _ _ _ _ h _ => hu h, he, h]
  rfl

theorem scanUnits?_hex {n : Nat} (hn : n < 32) (h : scanUnits? cs = some (us, rest)) :
    scanUnits? ('\\' :: 'u' :: Text.hexDigits 4 n ++ cs) = some (n :: us, rest) := by
  obtain ⟨a, b, c, d, hdigits⟩ : ∃ a b c d, Text.hexDigits 4 n = [a, b, c, d] :=
    ⟨_, _, _, _, rfl⟩
  have hunit := Text.readHex?_hexDigits (Nat.lt_trans hn (by decide : 32 < Nat.pow 16 4))
  rw [hdigits] at hunit ⊢
  show scanUnits? ('\\' :: 'u' :: a :: b :: c :: d :: cs) = _
  rw [scanUnits?, hunit, h]
  rfl

theorem scanUnits?_plain (hquote : c ≠ '"') (hslash : c ≠ '\\') (hcontrol : ¬c.toNat < 32)
    (h : scanUnits? cs = some (us, rest)) :
    scanUnits? (c :: cs) = some (c.toNat :: us, rest) := by
  rw [scanUnits?.eq_5 c cs hquote (fun _ _ _ _ _ h _ => hslash h) fun _ _ h _ => hslash h,
    if_neg fun h => h.elim hcontrol hslash, h]
  rfl

/-- A character is escaped by a letter of its own, by its number, or not at all. -/
theorem escape_cases (c : Char) :
    (∃ d, d ≠ 'u' ∧ simpleEscape? d = some c ∧ escape c = ['\\', d]) ∨
    (c.toNat < 32 ∧ escape c = '\\' :: 'u' :: Text.hexDigits 4 c.toNat) ∨
    (c ≠ '"' ∧ c ≠ '\\' ∧ ¬c.toNat < 32 ∧ escape c = [c]) := by
  by_cases hshort : c ∈ ['"', '\\', '\n', '\r', '\t', Char.ofNat 8, Char.ofNat 12]
  · left
    simp only [List.mem_cons, List.not_mem_nil, or_false] at hshort
    rcases hshort with rfl | rfl | rfl | rfl | rfl | rfl | rfl
    · exact ⟨'"', by decide, rfl, rfl⟩
    · exact ⟨'\\', by decide, rfl, rfl⟩
    · exact ⟨'n', by decide, rfl, rfl⟩
    · exact ⟨'r', by decide, rfl, rfl⟩
    · exact ⟨'t', by decide, rfl, rfl⟩
    · exact ⟨'b', by decide, rfl, rfl⟩
    · exact ⟨'f', by decide, rfl, rfl⟩
  · simp only [List.mem_cons, List.not_mem_nil, or_false, not_or] at hshort
    obtain ⟨hquote, hslash, hn, hr, ht, hb, hf⟩ := hshort
    have hof {n : Nat} (h : c ≠ Char.ofNat n) : ¬c.toNat = n := by
      rintro rfl
      exact h c.ofNat_toNat.symm
    right
    unfold escape
    rw [if_neg hquote, if_neg hslash, if_neg hn, if_neg hr, if_neg ht, if_neg (hof hb),
      if_neg (hof hf)]
    split
    · next hcontrol => exact .inl ⟨hcontrol, rfl⟩
    · next hcontrol => exact .inr ⟨hquote, hslash, hcontrol, rfl⟩

/-- A character in its escaped form is one code unit. -/
theorem scanUnits?_escape (c : Char) (h : scanUnits? cs = some (us, rest)) :
    scanUnits? (escape c ++ cs) = some (c.toNat :: us, rest) := by
  rcases escape_cases c with ⟨d, hu, hd, hc⟩ | ⟨hcontrol, hc⟩ | ⟨hquote, hslash, hcontrol, hc⟩
  · rw [hc]
    exact scanUnits?_simple hu hd h
  · rw [hc]
    exact scanUnits?_hex hcontrol h
  · rw [hc]
    exact scanUnits?_plain hquote hslash hcontrol h

theorem scanUnits?_flatMap_escape (cs rest : List Char) :
    scanUnits? (cs.flatMap escape ++ '"' :: rest) = some (cs.map Char.toNat, rest) := by
  induction cs with
  | nil => rfl
  | cons c cs ih =>
    rw [List.flatMap_cons, List.append_assoc]
    exact scanUnits?_escape c ih

/-- No character is half a surrogate pair. -/
theorem not_surrogate (c : Char) : ¬(0xD800 ≤ c.toNat ∧ c.toNat ≤ 0xDFFF) := by
  rcases c.valid with h | ⟨h, -⟩
  · exact fun hc => absurd h (Nat.not_lt.2 hc.1)
  · exact fun hc => absurd h (Nat.not_lt.2 hc.2)

theorem joinUnits?_map_toNat (cs : List Char) : joinUnits? (cs.map Char.toNat) = some cs := by
  induction cs with
  | nil => rfl
  | cons c cs ih =>
    have hc := not_surrogate c
    have hself : Char.ofNat c.toNat = c := Char.ofNat_toNat c
    cases cs with
    | nil =>
      show (if 0xD800 ≤ c.toNat ∧ c.toNat ≤ 0xDFFF then none else some [Char.ofNat c.toNat]) = _
      rw [if_neg hc, hself]
    | cons d cs =>
      rw [List.map_cons, List.map_cons, joinUnits?, if_neg (by omega), if_neg (by omega),
        ← List.map_cons, ih, hself]
      rfl

/-- **Texts read back.** -/
theorem readString?_escape (s : String) (rest : List Char) :
    readString? (s.toList.flatMap escape ++ '"' :: rest) = some (some s, rest) := by
  unfold readString?
  rw [scanUnits?_flatMap_escape]
  show some ((joinUnits? (s.toList.map Char.toNat)).map String.ofList, rest) = _
  rw [joinUnits?_map_toNat, Option.map_some, String.ofList_toList]

end Texts

/-! ## Numbers -/

/-- What may follow a value: nothing, or something that no number goes on with. -/
def Stops (rest : List Char) : Prop := ∀ c ∈ rest.head?, c = ',' ∨ c = ']' ∨ c = '}'

theorem stops_nil : Stops [] := nofun

theorem stops_cons {c : Char} {cs : List Char} (h : c = ',' ∨ c = ']' ∨ c = '}') :
    Stops (c :: cs) := by
  intro d hd
  obtain rfl := Option.some.inj hd
  exact h

section Numbers

variable {rest : List Char}

theorem Stops.not_digit (h : Stops rest) : ∀ c ∈ rest.head?, c.isDigit = false := by
  intro c hc
  rcases h c hc with rfl | rfl | rfl <;> rfl

theorem Stops.readFraction? (h : Stops rest) : readFraction? rest = some ([], rest) := by
  cases rest with
  | nil => rfl
  | cons c cs => rcases h c rfl with rfl | rfl | rfl <;> rfl

theorem Stops.readExponent? (h : Stops rest) : readExponent? rest = some ([], rest) := by
  cases rest with
  | nil => rfl
  | cons c cs => rcases h c rfl with rfl | rfl | rfl <;> rfl

theorem isDigit_of_mem_digits {n : Nat} {c : Char} (h : c ∈ Number.digits n) :
    c.isDigit = true := by
  have hall : ∀ n < 10, (Number.digitChar n).isDigit = true := by decide
  obtain ⟨d, hd, rfl⟩ := Number.isNumeral_of_mem_digits h
  exact hall d hd

/-- Zero only is written with a zero in front. -/
theorem head?_digits_ne {n : Nat} (h : n ≠ 0) : (Number.digits n).head? ≠ some '0' := by
  induction n using Number.digits.induct with
  | case1 n hn =>
    have hall : ∀ n < 10, n ≠ 0 → some (Number.digitChar n) ≠ some '0' := by decide
    rw [Number.digits, if_pos hn]
    exact hall n hn h
  | case2 n hn ih =>
    obtain ⟨c, cs, hcons, -⟩ := Number.exists_digits_eq_cons (n / 10)
    have hhead := ih (by omega)
    rw [Number.digits, if_neg hn, hcons]
    rwa [hcons] at hhead

theorem readDigits?_digits (n : Nat) (h : Stops rest) :
    readDigits? (Number.digits n ++ rest) = some (Number.digits n, rest) := by
  have hdigits : ∀ c ∈ Number.digits n, c.isDigit = true := fun c => isDigit_of_mem_digits
  have hstop : rest.takeWhile Char.isDigit = [] ∧ rest.dropWhile Char.isDigit = rest := by
    cases rest with
    | nil => exact ⟨rfl, rfl⟩
    | cons c cs =>
      have hc : ¬c.isDigit = true := Bool.eq_false_iff.1 (h.not_digit c rfl)
      exact ⟨List.takeWhile_cons_of_neg hc, List.dropWhile_cons_of_neg hc⟩
  obtain ⟨c, cs, hcons, -⟩ := Number.exists_digits_eq_cons n
  unfold readDigits?
  rw [List.takeWhile_append_of_pos hdigits, List.dropWhile_append_of_pos hdigits, hstop.1,
    hstop.2, List.append_nil, hcons]

/-- A number without fraction and exponent is read up to where it stops. Zero has no sign. -/
theorem readUnsigned?_digits {negative : Bool} {n : Nat} (hsign : negative = true → n ≠ 0)
    (h : Stops rest) : readUnsigned? negative (Number.digits n ++ rest) =
      some (.integer (if negative then -(n : Int) else n), rest) := by
  have hzero : ¬((Number.digits n).head? = some '0' ∧ (Number.digits n).length > 1) := by
    rintro ⟨hhead, hlength⟩
    by_cases hn : n = 0
    · rw [hn, Number.digits, if_pos (by decide)] at hlength
      exact absurd hlength (by decide)
    · exact head?_digits_ne hn hhead
  have hinteger : (([] : List Char).isEmpty = true ∧ ([] : List Char).isEmpty = true ∧
      ¬(negative = true ∧ n = 0)) := ⟨rfl, rfl, fun hn => hsign hn.1 hn.2⟩
  unfold readUnsigned?
  rw [readDigits?_digits n h]
  simp only [Option.bind_eq_bind, Option.bind_some, if_neg hzero, h.readFraction?,
    h.readExponent?, Number.readDigits?_digits, if_pos hinteger]
  rfl

/-- **Whole numbers read back.** -/
theorem readNumber?_intText (i : Int) (h : Stops rest) :
    readNumber? ((Number.intText i).toList ++ rest) = some (.integer i, rest) := by
  cases i with
  | ofNat n =>
    obtain ⟨c, cs, hcons, hc⟩ := Number.exists_digits_eq_cons n
    have hread : readUnsigned? false (Number.digits n ++ rest) = some (.integer n, rest) :=
      readUnsigned?_digits nofun h
    show readNumber? ((String.ofList (Number.digits n)).toList ++ rest) = _
    rw [String.toList_ofList]
    rw [hcons] at hread ⊢
    unfold readNumber?
    split
    · next hminus => exact absurd (List.cons.inj hminus).1 hc.not_sign.2
    · exact hread
  | negSucc n =>
    show readNumber? ((String.ofList ('-' :: Number.digits (n + 1))).toList ++ rest) = _
    rw [String.toList_ofList]
    exact readUnsigned?_digits (fun _ => Nat.succ_ne_zero n) h

end Numbers

/-! ## Values -/

/-- A value whose text has nothing to choose: no number in it has a fraction or an exponent, and
nothing in it is broken. -/
inductive IsExact : Json → Prop where
  | null : IsExact .null
  | bool (b : Bool) : IsExact (.bool b)
  | integer (n : Int) : IsExact (.integer n)
  | string (s : String) : IsExact (.string s)
  | array {vs : List Json} (h : ∀ v ∈ vs, v.IsExact) : IsExact (.array vs)
  | object {ms : List (String × Json)} (h : ∀ m ∈ ms, m.2.IsExact) : IsExact (.object ms)

/-- A value can begin with this character: it is no white space and closes no array. -/
def Opens (c : Char) : Prop := c ∉ [' ', '\t', '\n', '\r', ']']

instance (c : Char) : Decidable (Opens c) := inferInstanceAs (Decidable (c ∉ _))

/-- The value is read back if its text begins a longer one. A value is no deeper than its text is
long, and reading goes two steps down for each array and object. -/
def ReadsBack (v : Json) : Prop :=
  (∃ c cs, v.render = c :: cs ∧ Opens c) ∧
  ∀ fuel rest, 2 * v.render.length ≤ fuel → Stops rest →
    readValue? (fuel + 1) (v.render ++ rest) = some (v, rest)

theorem intText_opens (i : Int) : ∃ c cs, (Number.intText i).toList = c :: cs ∧
    (c = '-' ∨ Number.IsNumeral c) := by
  cases i with
  | ofNat n =>
    obtain ⟨c, cs, hcons, hc⟩ := Number.exists_digits_eq_cons n
    exact ⟨c, cs, String.toList_ofList.trans hcons, .inr hc⟩
  | negSucc n => exact ⟨'-', _, String.toList_ofList, .inl rfl⟩

section Steps

variable {c : Char} {cs r rest : List Char} {fuel : Nat} {v : Json} {vs : List Json}
  {k : Option String} {ms : List (Option String × Json)}

theorem Opens.skipSpace (h : Opens c) (cs : List Char) : skipSpace (c :: cs) = c :: cs := by
  simp only [Opens, List.mem_cons, List.not_mem_nil, or_false, not_or] at h
  simp [Json.skipSpace, h]

theorem opens_of_number (hc : c = '-' ∨ Number.IsNumeral c) : Opens c := by
  rcases hc with rfl | ⟨n, hn, rfl⟩
  · decide
  · have hall : ∀ n < 10, Opens (Number.digitChar n) := by decide
    exact hall n hn

theorem readValue?_number (hc : c = '-' ∨ Number.IsNumeral c) :
    readValue? (fuel + 1) (c :: cs) = readNumber? (c :: cs) := by
  rcases hc with rfl | ⟨n, hn, rfl⟩
  · rfl
  · match n, hn with
    | 0, _ | 1, _ | 2, _ | 3, _ | 4, _ | 5, _ | 6, _ | 7, _ | 8, _ | 9, _ => rfl

theorem readValue?_string {s : String} (h : readString? cs = some (some s, rest)) :
    readValue? (fuel + 1) ('"' :: cs) = some (.string s, rest) := by
  show (readString? cs).map _ = _
  rw [h]
  rfl

theorem readValue?_array (hc : Opens c) (h : readItems? fuel (c :: cs) = some (vs, rest)) :
    readValue? (fuel + 1) ('[' :: c :: cs) = some (.array vs, rest) := by
  have hclose : c ≠ ']' := by
    rintro rfl
    exact absurd hc (by decide)
  have hbracket : Opens '[' := by decide
  simp only [readValue?, hbracket.skipSpace, hc.skipSpace]
  split
  · next heq => exact absurd (List.cons.inj heq).1 hclose
  · rw [h]
    rfl

theorem readValue?_object (h : readMembers? fuel ('"' :: cs) = some (ms, rest)) :
    readValue? (fuel + 1) ('{' :: '"' :: cs) = some (ofMembers ms, rest) := by
  show (readMembers? fuel ('"' :: cs)).bind _ = _
  rw [h]
  rfl

theorem readItems?_last (h : readValue? fuel cs = some (v, ']' :: rest)) :
    readItems? (fuel + 1) cs = some ([v], rest) := by
  rw [readItems?, h]
  rfl

theorem readItems?_cons (h : readValue? fuel cs = some (v, ',' :: r))
    (hrest : readItems? fuel r = some (vs, rest)) :
    readItems? (fuel + 1) cs = some (v :: vs, rest) := by
  rw [readItems?, h]
  show (readItems? fuel r).bind _ = _
  rw [hrest]
  rfl

theorem readMembers?_last (hk : readString? cs = some (k, ':' :: r))
    (hv : readValue? fuel r = some (v, '}' :: rest)) :
    readMembers? (fuel + 1) ('"' :: cs) = some ([(k, v)], rest) := by
  show (readString? cs).bind _ = _
  rw [hk]
  show (readValue? fuel r).bind _ = _
  rw [hv]
  rfl

theorem readMembers?_cons {r' : List Char} (hk : readString? cs = some (k, ':' :: r))
    (hv : readValue? fuel r = some (v, ',' :: r'))
    (hrest : readMembers? fuel r' = some (ms, rest)) :
    readMembers? (fuel + 1) ('"' :: cs) = some ((k, v) :: ms, rest) := by
  show (readString? cs).bind _ = _
  rw [hk]
  show (readValue? fuel r).bind _ = _
  rw [hv]
  show (readMembers? fuel r').bind _ = _
  rw [hrest]
  rfl

end Steps

theorem render_array_append (v : Json) (vs : List Json) (rest : List Char) :
    (array (v :: vs)).render ++ rest = '[' :: (v.render ++ renderItems vs ++ ']' :: rest) := by
  show '[' :: v.render ++ renderItems vs ++ [']'] ++ rest = _
  simp only [List.cons_append, List.append_assoc, List.nil_append]

theorem render_object_append (k : String) (v : Json) (ms : List (String × Json))
    (rest : List Char) : (object ((k, v) :: ms)).render ++ rest =
      '{' :: (quoted k ++ ':' :: (v.render ++ (renderMembers ms ++ '}' :: rest))) := by
  show '{' :: quoted k ++ ':' :: v.render ++ renderMembers ms ++ ['}'] ++ rest = _
  simp only [List.cons_append, List.append_assoc, List.nil_append]

/-- Items that are read back one by one are read back as a list. -/
theorem readItems?_render {v : Json} {vs : List Json} (h : ∀ w ∈ v :: vs, w.ReadsBack)
    {fuel : Nat} (hfuel : 2 * (v.render ++ renderItems vs).length + 2 ≤ fuel)
    (rest : List Char) :
    readItems? fuel (v.render ++ renderItems vs ++ ']' :: rest) = some (v :: vs, rest) := by
  induction vs generalizing v fuel with
  | nil =>
    rw [List.length_append] at hfuel
    obtain ⟨f, rfl⟩ : ∃ f, fuel = f + 2 := ⟨fuel - 2, by omega⟩
    show readItems? (f + 2) (v.render ++ [] ++ ']' :: rest) = _
    rw [List.append_nil]
    exact readItems?_last ((h v List.mem_cons_self).2 f _ (by omega) (stops_cons (by simp)))
  | cons w vs ih =>
    have hitems : renderItems (w :: vs) = ',' :: (w.render ++ renderItems vs) := rfl
    rw [hitems, List.length_append, List.length_cons] at hfuel
    obtain ⟨f, rfl⟩ : ∃ f, fuel = f + 2 := ⟨fuel - 2, by omega⟩
    rw [hitems, List.append_assoc, List.cons_append]
    refine readItems?_cons ((h v List.mem_cons_self).2 f _ (by omega) (stops_cons (by simp))) ?_
    exact ih (fun u hu => h u (List.mem_cons_of_mem v hu)) (by omega)

theorem quoted_append (s : String) (cs : List Char) :
    quoted s ++ cs = '"' :: (s.toList.flatMap escape ++ '"' :: cs) := by
  unfold quoted
  rw [List.append_assoc]
  rfl

/-- Members whose values are read back one by one are read back as a list. -/
theorem readMembers?_render {k : String} {v : Json} {ms : List (String × Json)}
    (h : ∀ m ∈ (k, v) :: ms, m.2.ReadsBack) {fuel : Nat}
    (hfuel : 2 * (quoted k ++ ':' :: (v.render ++ renderMembers ms)).length + 2 ≤ fuel)
    (rest : List Char) :
    readMembers? fuel (quoted k ++ ':' :: (v.render ++ (renderMembers ms ++ '}' :: rest))) =
      some (((k, v) :: ms).map fun m => (some m.1, m.2), rest) := by
  induction ms generalizing k v fuel with
  | nil =>
    have hv : v.ReadsBack := h (k, v) List.mem_cons_self
    simp only [List.length_append, List.length_cons] at hfuel
    obtain ⟨f, rfl⟩ : ∃ f, fuel = f + 2 := ⟨fuel - 2, by omega⟩
    rw [quoted_append]
    exact readMembers?_last (readString?_escape k _)
      (hv.2 f _ (by omega) (stops_cons (by simp)))
  | cons m ms ih =>
    obtain ⟨l, w⟩ := m
    have hv : v.ReadsBack := h (k, v) List.mem_cons_self
    have hmembers : renderMembers ((l, w) :: ms) =
        ',' :: (quoted l ++ ':' :: (w.render ++ renderMembers ms)) := by
      show ',' :: quoted l ++ ':' :: w.render ++ renderMembers ms = _
      simp only [List.cons_append, List.append_assoc]
    rw [hmembers, List.length_append, List.length_cons, List.length_append, List.length_cons]
      at hfuel
    obtain ⟨f, rfl⟩ : ∃ f, fuel = f + 2 := ⟨fuel - 2, by omega⟩
    rw [hmembers, quoted_append, List.cons_append]
    refine readMembers?_cons (readString?_escape k _)
      (hv.2 f _ (by omega) (stops_cons (by simp))) ?_
    rw [List.append_assoc, List.cons_append, List.append_assoc]
    exact ih (fun u hu => h u (List.mem_cons_of_mem _ hu)) (by omega)

theorem ofMembers_map_some (ms : List (String × Json)) :
    ofMembers (ms.map fun m => (some m.1, m.2)) = .object ms := by
  have hall : (ms.map fun m => (some m.1, m.2)).mapM
      (fun m : Option String × Json => m.1.map fun k => (k, m.2)) = some ms :=
    mapM_map_eq_some fun _ _ => rfl
  unfold ofMembers
  rw [hall]

theorem readsBack_array {vs : List Json} (h : ∀ v ∈ vs, v.ReadsBack) : (array vs).ReadsBack := by
  cases vs with
  | nil => exact ⟨⟨'[', _, rfl, by decide⟩, fun _ _ _ _ => rfl⟩
  | cons v vs =>
    refine ⟨⟨'[', _, rfl, by decide⟩, fun fuel rest hfuel _ => ?_⟩
    have hlength := congrArg List.length (render_array_append v vs [])
    rw [List.append_nil, List.length_cons, List.length_append, List.length_singleton]
      at hlength
    have hlong : 2 * (v.render ++ renderItems vs).length + 2 ≤ fuel := by omega
    have hitems := readItems?_render h hlong rest
    obtain ⟨⟨c, cs, hcons, hc⟩, -⟩ := h v List.mem_cons_self
    rw [render_array_append]
    rw [hcons] at hitems ⊢
    exact readValue?_array hc hitems

theorem readsBack_object {ms : List (String × Json)} (h : ∀ m ∈ ms, m.2.ReadsBack) :
    (object ms).ReadsBack := by
  cases ms with
  | nil => exact ⟨⟨'{', _, rfl, by decide⟩, fun _ _ _ _ => rfl⟩
  | cons m ms =>
    obtain ⟨k, v⟩ := m
    refine ⟨⟨'{', _, rfl, by decide⟩, fun fuel rest hfuel _ => ?_⟩
    have hlength := congrArg List.length (render_object_append k v ms [])
    have hlong : 2 * (quoted k ++ ':' :: (v.render ++ renderMembers ms)).length + 2 ≤ fuel := by
      simp only [List.append_nil, List.length_cons, List.length_append, List.length_nil]
        at hlength ⊢
      omega
    have hmembers := readMembers?_render h hlong rest
    rw [render_object_append, ← ofMembers_map_some]
    rw [quoted_append] at hmembers ⊢
    exact readValue?_object hmembers

/-- One case for each kind of value. -/
theorem IsExact.readsBack {v : Json} (h : v.IsExact) : v.ReadsBack := by
  induction h with
  | null => exact ⟨⟨'n', _, rfl, by decide⟩, fun _ _ _ _ => rfl⟩
  | bool b =>
    cases b with
    | true => exact ⟨⟨'t', _, rfl, by decide⟩, fun _ _ _ _ => rfl⟩
    | false => exact ⟨⟨'f', _, rfl, by decide⟩, fun _ _ _ _ => rfl⟩
  | integer n =>
    obtain ⟨c, cs, hcons, hc⟩ := intText_opens n
    refine ⟨⟨c, cs, hcons, opens_of_number hc⟩, fun fuel rest _ hrest => ?_⟩
    have hread := readNumber?_intText n hrest
    show readValue? (fuel + 1) ((Number.intText n).toList ++ rest) = _
    rw [hcons] at hread ⊢
    exact (readValue?_number hc).trans hread
  | string s =>
    refine ⟨⟨'"', _, rfl, by decide⟩, fun fuel rest _ _ => ?_⟩
    show readValue? (fuel + 1) (quoted s ++ rest) = _
    rw [quoted_append]
    exact readValue?_string (readString?_escape s rest)
  | array _ ih => exact readsBack_array ih
  | object _ ih => exact readsBack_object ih

/-- **Values read back.** A value in its compact text is read as this value. -/
theorem read?_text {v : Json} (h : v.IsExact) : read? v.text = some v := by
  have hread := h.readsBack.2 (2 * v.render.length + 1) [] (by omega) stops_nil
  rw [List.append_nil] at hread
  unfold read? text
  rw [String.toList_ofList]
  show (readValue? (2 * v.render.length + 1 + 1) v.render).bind _ = _
  rw [hread]
  rfl

end Json

end RdfStore
