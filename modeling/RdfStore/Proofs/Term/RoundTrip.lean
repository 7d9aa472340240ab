import RdfStore.Proofs.Term.Memory

/-!
# Terms and their JSON values

A term whose IRIs stand for themselves is read from its own JSON value. In memory this value may be
nested to any depth, but it does not exist if a blank node of the term needs more than 64 bits. In a
text blank nodes may have all of their bits, but no more than 127 containers may be nested: the
reader has a limit (`Term.ofJson?_toJson_eq_ite`). What is written tells terms apart in both forms
(`Term.reads_back`).
-/

namespace RdfStore

theorem Literal.ofJson?_toJson_eq_none {l : Literal} {depth : ℕ}
    (h : depth + 1 < (Term.literal l).nesting) : Literal.ofJson? depth l.toJson = none := by
  obtain ⟨s, kind⟩ := l
  rcases depth with _ | depth
  · rfl
  · -- One container is open already, and the kind is in a container of its own.
    cases kind with
    | simple => exact absurd h (by simp [Term.nesting])
    | typed d | tagged g =>
      obtain rfl : depth = 0 := by
        simp only [Term.nesting] at h
        omega
      rfl

namespace Term

variable {t u : Term} {ts : List Triple} {depth : ℕ}

/-- Every IRI in the term is the one that its own text stands for. -/
def HasStableIris (t : Term) : Prop := ∀ u ∈ t.parts, ∀ i ∈ u.iri?, Iri.read i.text = .ok i

theorem HasStableIris.readable (hstable : t.HasStableIris) (horder : t.InOrder)
    (hnesting : t.nesting ≤ depth) : t.Readable depth := by
  refine ⟨hnesting, horder, ?_⟩
  intro u hu i hi
  exact ⟨i.text, hstable u hu i hi⟩

/-- A term that is nested deeper than the limit is not read from what is written for it: some
container in it is one too many. -/
theorem ofJson?_toJson_eq_none (h : depth < t.nesting) : ofJson? depth t.toJson = none := by
  induction t using inductionOnTriples generalizing depth with
  | iri i | blank b | var v =>
    obtain rfl : depth = 0 := Nat.lt_one_iff.1 h
    rfl
  | literal l =>
    rcases depth with _ | depth
    · rfl
    · show (Literal.ofJson? depth l.toJson).map Term.literal = none
      rw [Literal.ofJson?_toJson_eq_none h]
      rfl
  | formula ts ih =>
    rcases depth with _ | _ | depth
    · rfl
    · have hlimit : ¬((triplesToJson ts).isEmpty = true ∧ 0 = 1) := fun h => nomatch h.2
      exact if_neg hlimit
    · have hnesting : ¬nestingAll ts ≤ depth := by
        simp only [nesting] at h
        omega
      rw [nestingAll_le_iff] at hnesting
      simp only [not_forall, Nat.not_lt] at hnesting
      obtain ⟨t, ht, w, hw, hdeep⟩ := hnesting
      have hpos := w.nesting_pos
      have hnone : ofJson? (depth - 1) w.toJson = none := ih t ht w hw (by omega)
      have hstatement : readStatement? (depth - 1) t.toJson = none :=
        Statement.bind_eq_none (f := fun x => ofJson? (depth - 1) x.toJson) hw hnone
          fun s p o => some (Statement.mk s p o)
      rw [ofJson?_formula (v := (formula ts).toJson) rfl, triplesToJson_eq,
        readAll?_eq_none (List.mem_map_of_mem ht) hstatement]
      rfl

theorem ofJson?_toJson_eq_ite (hstable : t.HasStableIris) (horder : t.InOrder) (depth : ℕ) :
    ofJson? depth t.toJson = if t.nesting ≤ depth then some t else none := by
  split
  · next h =>
    have hread : ofJson? depth (t.written (.spelling Iri.text)) = some t :=
      ofJson?_written (hstable.readable horder h) hstable
    rwa [t.written_text] at hread
  · next h => exact ofJson?_toJson_eq_none (Nat.lt_of_not_le h)

theorem isExact_toJson (t : Term) : t.toJson.IsExact := by
  rw [← t.written_text]
  exact t.isExact_written

theorem read?_text_toJson (t : Term) : read? t.toJson.text = ofJson? nestingLimit t.toJson := by
  rw [read?, Json.read?_text t.isExact_toJson]
  rfl

theorem toJson_text_inj : t.toJson.text = u.toJson.text ↔ t.toJson = u.toJson := by
  refine ⟨fun h => ?_, congrArg Json.text⟩
  have hread := Json.read?_text t.isExact_toJson
  rw [h, Json.read?_text u.isExact_toJson] at hread
  exact (Option.some.inj hread).symm

theorem ofMemory?_toMemory? (hstable : t.HasStableIris) (horder : t.InOrder) {v : Json}
    (h : t.toMemory? = some v) : ofMemory? v = some t := by
  have hsmall : t.HasSmallBlanks := by
    by_contra hlarge
    rw [toMemory?_eq_none hlarge] at h
    exact nomatch h
  obtain rfl := Option.some.inj ((toMemory?_of_hasSmallBlanks hsmall).symm.trans h)
  -- With a limit that is large enough for the term and for the value, it is not noticed.
  let limit := max t.nesting (t.written .byName).nesting
  have hread : ofJson? limit (t.written .byName) = some t :=
    ofJson?_written (hstable.readable horder (Nat.le_max_left _ _)) hstable
  rwa [ofJson?_eq_ofMemory? (Nat.le_max_right _ _)] at hread

theorem toJson_text_inj_of_inOrder (ht : t.HasStableIris) (hu : u.HasStableIris)
    (htorder : t.InOrder) (huorder : u.InOrder) : t.toJson.text = u.toJson.text ↔ t = u := by
  refine ⟨fun h => ?_, congrArg fun t : Term => t.toJson.text⟩
  have htread := ofJson?_toJson_eq_ite ht htorder (max t.nesting u.nesting)
  have huread := ofJson?_toJson_eq_ite hu huorder (max t.nesting u.nesting)
  rw [if_pos (Nat.le_max_left _ _), toJson_text_inj.1 h] at htread
  rw [if_pos (Nat.le_max_right _ _), htread] at huread
  exact Option.some.inj huread

/-- A term with its formulas in order, as they are when they are built of sets. -/
abbrev Ordered := {t : Term // t.InOrder}

/-- **Terms are read back.** A term has a value in memory just if none of its blank nodes needs more
than 64 bits, and from this value it comes back, however deep it is nested. From its text it comes
back just if no more containers are nested than a text may have, whatever its blank nodes are. Terms
with the same value, or the same text, are the same. -/
theorem reads_back (t : Ordered) (hstable : t.1.HasStableIris) :
    (t.1.toMemory? = none ↔ ∃ u ∈ t.1.parts, ∃ b ∈ u.blank?, 2 ^ 64 ≤ b.id.toNat) ∧
    (∀ v, t.1.toMemory? = some v → ofMemory? v = some t.1 ∧
      ∀ limit, v.nesting ≤ limit → ofJson? limit v = some t.1) ∧
    read? t.1.toJson.text = (if t.1.nesting ≤ nestingLimit then some t.1 else none) ∧
    ∀ u : Ordered, u.1.HasStableIris →
      (∀ v, t.1.toMemory? = some v → (u.1.toMemory? = some v ↔ t = u)) ∧
      (t.1.toJson.text = u.1.toJson.text ↔ t = u) := by
  obtain ⟨t, horder⟩ := t
  have hback {v : Json} (hv : t.toMemory? = some v) : ofMemory? v = some t :=
    ofMemory?_toMemory? hstable horder hv
  refine ⟨?_, fun v hv => ⟨hback hv, fun limit hlimit => ?_⟩, ?_, ?_⟩
  · rw [toMemory?_eq_none_iff]
    simp only [HasSmallBlanks, not_forall, exists_prop, Nat.not_lt]
  · rw [ofJson?_eq_ofMemory? hlimit]
    exact hback hv
  · rw [read?_text_toJson]
    exact ofJson?_toJson_eq_ite hstable horder nestingLimit
  · rintro ⟨u, huorder⟩ hu
    refine ⟨fun v hv => ⟨fun huv => ?_, ?_⟩, ?_⟩
    · have hsame := (hback hv).symm.trans (ofMemory?_toMemory? hu huorder huv)
      exact Subtype.ext (Option.some.inj hsame)
    · intro hsame
      rwa [← hsame]
    · exact (toJson_text_inj_of_inOrder hstable hu horder huorder).trans Subtype.mk_eq_mk.symm

/-! ## Quotations -/

/-- A statement quoted so many times. -/
def quotation : ℕ → Term
  | 0 => .iri ⟨"urn:a"⟩
  | n + 1 => .formula [⟨quotation n, .iri ⟨"urn:p"⟩, .iri ⟨"urn:o"⟩⟩]

theorem nesting_quotation (n : ℕ) : (quotation n).nesting = 3 * n + 1 := by
  induction n with
  | zero => rfl
  | succ n ih =>
    simp only [quotation, nesting, nestingAll, ih]
    omega

theorem inOrder_quotation (n : ℕ) : (quotation n).InOrder := by
  induction n with
  | zero => trivial
  | succ n ih =>
    refine ⟨List.pairwise_singleton _ _, ⟨ih, trivial, trivial⟩, trivial⟩

theorem hasStableIris_quotation (n : ℕ) : (quotation n).HasStableIris := by
  have hiri : ∀ s ∈ ["urn:a", "urn:p", "urn:o"], (iri ⟨s⟩).HasStableIris := by
    intro s hs u hu i hi
    obtain rfl := List.mem_singleton.1 hu
    obtain rfl := Option.some.inj hi
    simp only [List.mem_cons, List.not_mem_nil, or_false] at hs
    rcases hs with rfl | rfl | rfl <;> rfl
  induction n with
  | zero => exact hiri "urn:a" (by decide)
  | succ n ih =>
    refine forall_mem_parts_formula.2 ⟨nofun, List.forall_mem_singleton.2 ?_⟩
    exact Statement.forall_mem_toList.2
      ⟨ih, hiri "urn:p" (by decide), hiri "urn:o" (by decide)⟩

/-- The largest blank node that a value in memory can hold, and the deepest quotation that a text can
hold. -/
theorem reads_back_quotation :
    let b : Ordered := ⟨.blank ⟨0xffffffffffffffff⟩, trivial⟩
    let q : Ordered := ⟨quotation 42, inOrder_quotation 42⟩
    b.1.HasStableIris ∧ q.1.HasStableIris ∧ b.1.toMemory?.bind ofMemory? = some b.1 ∧
      read? q.1.toJson.text = some q.1 ∧ q.1.toJson.text ≠ (quotation 43).toJson.text := by
  intro b q
  have hblank : b.1.HasStableIris := List.forall_mem_singleton.2 nofun
  have hquotation : q.1.HasStableIris := hasStableIris_quotation 42
  obtain ⟨-, -, hread, hapart⟩ := reads_back q hquotation
  refine ⟨hblank, hquotation, ?_, ?_, fun h => ?_⟩
  · have hsmall : b.1.HasSmallBlanks := hasSmallBlanks_blank.2 (by decide)
    have hvalue := toMemory?_of_hasSmallBlanks hsmall
    exact Option.bind_eq_some_iff.2 ⟨_, hvalue, ((reads_back b hblank).2.1 _ hvalue).1⟩
  · rwa [nesting_quotation, if_pos (by decide)] at hread
  · let deeper : Ordered := ⟨quotation 43, inOrder_quotation 43⟩
    have hsame := (hapart deeper (hasStableIris_quotation 43)).2.1 h
    have hnesting := congrArg (fun t : Ordered => t.1.nesting) hsame
    exact absurd hnesting (by simp [q, deeper, nesting_quotation])

/-- The next blank node has no value in memory, and a statement that is quoted once more is not read
from its text. -/
theorem not_read_back :
    ((blank ⟨0x10000000000000000⟩).HasStableIris ∧ (blank ⟨0x10000000000000000⟩).InOrder ∧
      (blank ⟨0x10000000000000000⟩).toMemory? = none) ∧
    (quotation 43).HasStableIris ∧ (quotation 43).InOrder ∧
      read? (quotation 43).toJson.text = none := by
  have hlarge : ¬(blank ⟨0x10000000000000000⟩).HasSmallBlanks :=
    mt hasSmallBlanks_blank.1 (by decide)
  refine ⟨⟨List.forall_mem_singleton.2 nofun, trivial, toMemory?_eq_none hlarge⟩,
    hasStableIris_quotation 43, inOrder_quotation 43, ?_⟩
  rw [read?_text_toJson]
  refine ofJson?_toJson_eq_none ?_
  rw [nesting_quotation]
  decide

end Term

end RdfStore
