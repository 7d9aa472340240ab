import Mathlib.Algebra.Group.Nat.Defs
import Mathlib.Data.List.Nodup
import RdfStore.Proofs.Term.Coding

/-!
# Terms as values in memory

The reader of terms is told how many containers it may open. If these are as many as a value has, or
more, it does not matter how many they are (`Term.ofJson?_eq_ofMemory?`), so a value in memory is
read without a limit. This value is what is written for the term, but for the order of members, and
it exists if no blank node in the term needs more than 64 bits (`Term.toMemory?_of_hasSmallBlanks`).
-/

namespace RdfStore

/-! ## Limits that do not matter -/

namespace Json

variable {v w : Json} {vs ws : List Json} {ms : List (String × Json)} {name : String}

theorem nesting_lt_of_mem_items (h : w ∈ vs) : w.nesting < (array vs).nesting := by
  show w.nesting < nestingItems vs + 1
  induction vs with
  | nil => exact absurd h List.not_mem_nil
  | cons v vs ih =>
    rw [nestingItems]
    rcases List.mem_cons.1 h with rfl | h
    · omega
    · have hrest := ih h
      omega

theorem nesting_lt_of_mem_members (h : (name, w) ∈ ms) : w.nesting < (object ms).nesting := by
  show w.nesting < nestingMembers ms + 1
  induction ms with
  | nil => exact absurd h List.not_mem_nil
  | cons m ms ih =>
    obtain ⟨k, v⟩ := m
    rw [nestingMembers]
    rcases List.mem_cons.1 h with he | h
    · cases he
      omega
    · have hrest := ih h
      omega

theorem nesting_lt_of_asCase? (h : v.asCase? = some (name, w)) : w.nesting < v.nesting := by
  unfold asCase? at h
  split at h
  · cases h
    exact nesting_lt_of_mem_members List.mem_cons_self
  · exact nomatch h

/-- The fields of a structure are inside its container. -/
theorem nesting_lt_of_fields? {names : List String} (h : fields? names v = some ws) :
    ∀ w ∈ ws, w.nesting < v.nesting := by
  unfold fields? at h
  split at h
  · next ms =>
    intro w hw
    obtain ⟨name, hname⟩ := exists_of_mapM_eq_some h w hw
    unfold onlyMember? at hname
    split at hname
    · next m hm =>
      cases hname
      have hfiltered : m ∈ ms.filter fun m => m.1 = name := hm ▸ List.mem_cons_self
      have hmem : (m.1, m.2) ∈ ms := (List.mem_filter.1 hfiltered).1
      exact nesting_lt_of_mem_members hmem
    · exact nomatch hname
  · split at h
    · cases h
      exact fun w hw => nesting_lt_of_mem_items hw
    · exact nomatch h
  · exact nomatch h

end Json

theorem readAll?_eq_none {α : Type} {read : Json → Option α} {vs : List Json} {v : Json}
    (hv : v ∈ vs) (h : read v = none) : readAll? read vs = none := by
  induction vs with
  | nil => exact absurd hv List.not_mem_nil
  | cons w vs ih =>
    rw [readAll?]
    rcases List.mem_cons.1 hv with rfl | hv
    · rw [h]
      rfl
    · rw [ih hv]
      cases read w with
      | none => rfl
      | some _ => rfl

theorem readAll?_congr {α : Type} {read read' : Json → Option α} {vs : List Json}
    (h : ∀ v ∈ vs, read v = read' v) : readAll? read vs = readAll? read' vs := by
  induction vs with
  | nil => rfl
  | cons v vs ih =>
    obtain ⟨hv, hvs⟩ := List.forall_mem_cons.1 h
    rw [readAll?, readAll?, hv, ih hvs]

theorem LiteralKind.ofJson?_congr {v : Json} {m n : ℕ} (hm : v.nesting ≤ m) (hn : v.nesting ≤ n) :
    LiteralKind.ofJson? m v = LiteralKind.ofJson? n v := by
  cases v with
  | string s => rfl
  | array vs | object ms =>
    -- A container has been opened, so neither limit is zero.
    obtain ⟨m, rfl⟩ := Nat.exists_eq_add_of_le' (Nat.le_trans (Nat.le_add_left 1 _) hm)
    obtain ⟨n, rfl⟩ := Nat.exists_eq_add_of_le' (Nat.le_trans (Nat.le_add_left 1 _) hn)
    rfl
  | null | bool b | integer i | decimal s | broken => cases m <;> cases n <;> rfl

theorem Literal.ofJson?_congr {v : Json} {m n : ℕ} (hm : v.nesting ≤ m) (hn : v.nesting ≤ n) :
    Literal.ofJson? m v = Literal.ofJson? n v := by
  unfold Literal.ofJson?
  cases hfields : fields? ["value", "kind"] v with
  | none => cases m <;> cases n <;> rfl
  | some ws =>
    have hinside := Json.nesting_lt_of_fields? hfields
    match ws with
    | [value, kind] =>
      have hkind := hinside kind (List.mem_cons_of_mem _ List.mem_cons_self)
      obtain ⟨m, rfl⟩ : ∃ k, m = k + 1 := Nat.exists_eq_add_of_le' (by omega)
      obtain ⟨n, rfl⟩ : ∃ k, n = k + 1 := Nat.exists_eq_add_of_le' (by omega)
      dsimp only
      rw [LiteralKind.ofJson?_congr (m := m) (n := n) (by omega) (by omega)]
    | [] | [_] | _ :: _ :: _ :: _ => cases m <;> cases n <;> rfl

namespace Term

variable {t : Term} {v : Json} {vs : List Json} {m n : ℕ}

/-- The triple of a JSON value, if `depth` more containers may be opened for each of its terms. -/
def readStatement? (depth : ℕ) (v : Json) : Option Triple :=
  match fields? ["subject", "predicate", "object"] v with
  | some [s, p, o] => do return ⟨← ofJson? depth s, ← ofJson? depth p, ← ofJson? depth o⟩
  | _ => none

/-- Formulas are read triple by triple. Where no container is left for a triple, none is read. -/
theorem ofJson?_formula (h : v.asCase? = some ("GraphLiteral", .array vs)) (depth : ℕ) :
    ofJson? (depth + 2) v =
      (readAll? (readStatement? (depth - 1)) vs).map fun ts => ofTriples (.ofList ts) := by
  rw [ofJson?, h]
  cases depth with
  | succ depth => rfl
  | zero =>
    cases vs with
    | nil => rfl
    | cons w vs =>
      have hnone : readStatement? 0 w = none := by
        unfold readStatement?
        split
        · rfl
        · rfl
      show none = (readAll? (readStatement? 0) (w :: vs)).map _
      rw [readAll?_eq_none List.mem_cons_self hnone]
      rfl

theorem ofJson?_congr (hm : v.nesting ≤ m) (hn : v.nesting ≤ n) : ofJson? m v = ofJson? n v := by
  induction m using Nat.strongRecOn generalizing n v with
  | ind m ih =>
    cases hcase : v.asCase? with
    | none => cases m <;> cases n <;> simp only [ofJson?, hcase]
    | some c =>
      obtain ⟨name, w⟩ := c
      have hw := Json.nesting_lt_of_asCase? hcase
      obtain ⟨m, rfl⟩ : ∃ k, m = k + 1 := Nat.exists_eq_add_of_le' (by omega)
      obtain ⟨n, rfl⟩ : ∃ k, n = k + 1 := Nat.exists_eq_add_of_le' (by omega)
      by_cases hformula : ∃ vs, name = "GraphLiteral" ∧ w = .array vs
      · obtain ⟨vs, rfl, rfl⟩ := hformula
        have hopen : 1 ≤ (Json.array vs).nesting := Nat.le_add_left 1 _
        obtain ⟨m, rfl⟩ : ∃ k, m = k + 1 := Nat.exists_eq_add_of_le' (by omega)
        obtain ⟨n, rfl⟩ : ∃ k, n = k + 1 := Nat.exists_eq_add_of_le' (by omega)
        rw [ofJson?_formula hcase, ofJson?_formula hcase]
        refine congrArg _ (readAll?_congr fun u hu => ?_)
        have hitem := Json.nesting_lt_of_mem_items hu
        unfold readStatement?
        split
        · next s p o hfields =>
          have hinside := Json.nesting_lt_of_fields? hfields
          have hsame : ∀ x ∈ [s, p, o], ofJson? (m - 1) x = ofJson? (n - 1) x := by
            intro x hx
            have hx := hinside x hx
            exact ih (m - 1) (by omega) (by omega) (by omega)
          simp only [List.forall_mem_cons] at hsame
          rw [hsame.1, hsame.2.1, hsame.2.2.1]
        · rfl
      · rw [ofJson?, ofJson?, hcase]
        split
        · rfl
        · rfl
        · next l h =>
          cases h
          rw [Literal.ofJson?_congr (m := m) (n := n) (by omega) (by omega)]
        · rfl
        · next vs h =>
          cases h
          exact absurd ⟨vs, rfl, rfl⟩ hformula
        · rfl

/-- A limit that a value keeps within does not matter. -/
theorem ofJson?_eq_ofMemory? (h : v.nesting ≤ n) : ofJson? n v = ofMemory? v :=
  ofJson?_congr h (Nat.le_refl _)

end Term

/-! ## Values for terms -/

/-- With the members of each object in the order of their names. -/
def WritingStyle.byName : WritingStyle where
  spell := Iri.text
  arrange ms := (SortedMap.ofList ms).entries
  perm_arrange ms hnames := by
    have hkeys := (SortedMap.ofList ms).nodup_keys
    refine (List.perm_ext_iff_of_nodup (List.Nodup.of_map _ hkeys)
      (List.Nodup.of_map _ hnames)).2 fun m => ?_
    exact SortedMap.find?_eq_some_iff.symm.trans (SortedMap.find?_ofList hnames)

namespace Json

theorem itemsToMemory?_eq_readAll? (vs : List Json) :
    itemsToMemory? vs = readAll? toMemory? vs := by
  induction vs with
  | nil => rfl
  | cons v vs ih =>
    rw [itemsToMemory?, readAll?, ih]

theorem toMemory?_case (name : String) (v : Json) :
    (object [(name, v)]).toMemory? = v.toMemory?.map fun v => object [(name, v)] := by
  simp only [toMemory?, membersToMemory?]
  cases v.toMemory? <;> rfl

/-- A structure of three fields is in memory if all of its fields are. -/
theorem toMemory?_triple (s p o : Json) :
    (object [("subject", s), ("predicate", p), ("object", o)]).toMemory? =
      s.toMemory?.bind fun s => p.toMemory?.bind fun p => o.toMemory?.bind fun o =>
        some (object (WritingStyle.byName.arrange
          [("subject", s), ("predicate", p), ("object", o)])) := by
  simp only [toMemory?, membersToMemory?]
  cases s.toMemory? <;> cases p.toMemory? <;> cases o.toMemory? <;> rfl

end Json

namespace Term

variable {t : Term} {ts : List Triple}

def blank? : Term → Option Blank
  | .blank b => some b
  | _ => none

/-- No blank node in the term needs more than 64 bits. -/
def HasSmallBlanks (t : Term) : Prop := ∀ u ∈ t.parts, ∀ b ∈ u.blank?, b.id.toNat < 2 ^ 64

theorem hasSmallBlanks_blank {b : Blank} : (blank b).HasSmallBlanks ↔ b.id.toNat < 2 ^ 64 := by
  refine List.forall_mem_singleton.trans ⟨fun h => h b rfl, ?_⟩
  rintro h _ ⟨⟩
  exact h

theorem hasSmallBlanks_formula :
    (formula ts).HasSmallBlanks ↔ ∀ t ∈ ts, ∀ w ∈ t.toList, w.HasSmallBlanks :=
  forall_mem_parts_formula.trans (and_iff_right nofun)

theorem triplesToJson_eq (ts : List Triple) : triplesToJson ts = ts.map Statement.toJson := by
  induction ts with
  | nil => rfl
  | cons t ts ih =>
    obtain ⟨s, p, o⟩ := t
    rw [triplesToJson, ih]
    rfl

theorem toMemory?_formula (ts : List Triple) : (formula ts).toMemory? =
    (readAll? Json.toMemory? (ts.map Statement.toJson)).map fun vs =>
      .object [("GraphLiteral", .array vs)] := by
  unfold toMemory?
  rw [toJson, Json.toMemory?_case, Json.toMemory?, Json.itemsToMemory?_eq_readAll?,
    triplesToJson_eq, Option.map_map]
  rfl

theorem fitsWord_iff (b : Blank) : Json.FitsWord b.id.toNat ↔ b.id.toNat < 2 ^ 64 := by
  unfold Json.FitsWord
  omega

theorem toMemory?_literal (l : Literal) :
    (literal l).toMemory? = some ((literal l).written .byName) := by
  obtain ⟨s, kind⟩ := l
  cases kind <;> rfl

theorem toMemory?_of_hasSmallBlanks (h : t.HasSmallBlanks) :
    t.toMemory? = some (t.written .byName) := by
  induction t using inductionOnTriples with
  | iri i => rfl
  | blank b =>
    have hb : Json.FitsWord b.id.toNat := (fitsWord_iff b).2 (hasSmallBlanks_blank.1 h)
    show (Json.object [("Blank", .integer b.id.toNat)]).toMemory? = _
    rw [Json.toMemory?_case, Json.toMemory?, if_pos hb]
    rfl
  | literal l => exact toMemory?_literal l
  | var v => rfl
  | formula ts ih =>
    rw [hasSmallBlanks_formula] at h
    have hstatement : ∀ t ∈ ts, (Statement.toJson t).toMemory? = some (t.written .byName) := by
      intro t ht
      obtain ⟨hs, hp, ho⟩ := Statement.forall_mem_toList.1 fun w hw => ih t ht w hw (h t ht w hw)
      unfold toMemory? at hs hp ho
      rw [Statement.toJson, Json.toMemory?_triple, hs, hp, ho]
      rfl
    rw [toMemory?_formula, readAll?_eq_mapM, mapM_map_eq_some_map hstatement, Option.map_some,
      written, writtenAll_eq]

theorem toMemory?_eq_none (h : ¬t.HasSmallBlanks) : t.toMemory? = none := by
  induction t using inductionOnTriples with
  | iri i => exact absurd (List.forall_mem_singleton.2 nofun) h
  | literal l => exact absurd (List.forall_mem_singleton.2 nofun) h
  | var v => exact absurd (List.forall_mem_singleton.2 nofun) h
  | blank b =>
    have hb : ¬Json.FitsWord b.id.toNat := by
      rwa [fitsWord_iff, ← hasSmallBlanks_blank]
    show (Json.object [("Blank", .integer b.id.toNat)]).toMemory? = _
    rw [Json.toMemory?_case, Json.toMemory?, if_neg hb]
    rfl
  | formula ts ih =>
    simp only [hasSmallBlanks_formula, not_forall] at h
    obtain ⟨t, ht, w, hw, hlarge⟩ := h
    have hstatement : (Statement.toJson t).toMemory? = none := by
      rw [Statement.toJson, Json.toMemory?_triple]
      exact Statement.bind_eq_none (f := toMemory?) hw (ih t ht w hw hlarge) _
    rw [toMemory?_formula, readAll?_eq_none (List.mem_map_of_mem ht) hstatement]
    rfl

theorem toMemory?_eq_none_iff : t.toMemory? = none ↔ ¬t.HasSmallBlanks := by
  refine ⟨fun h hsmall => ?_, toMemory?_eq_none⟩
  rw [toMemory?_of_hasSmallBlanks hsmall] at h
  exact nomatch h

end Term

end RdfStore
