import Mathlib.Data.Finset.Prod
import RdfStore.Proofs.Graph.History
import RdfStore.Proofs.Pattern.Drafts

/-!
# Instances of templates

Filling a template goes from row to row with a supply and a table of labels. What comes of it is
said without both: each row has a renaming of its own for the blank nodes of the template, and the
graph has the instances of all patterns under all rows (`construct_eq_instances`). The renamings
are injective, no two of them give the same blank node, and none gives one that is in use.
-/

namespace RdfStore

/-! ## Blank nodes in use -/

namespace Term

mutual
/-- The blank nodes of a term, also those inside formulas. -/
def blanks : Term → List Blank
  | .iri _ => []
  | .blank b => [b]
  | .literal _ => []
  | .var _ => []
  | .formula ts => blanksAll ts
def blanksAll : List (Statement Term) → List Blank
  | [] => []
  | ⟨s, p, o⟩ :: ts => s.blanks ++ p.blanks ++ o.blanks ++ blanksAll ts
end

end Term

/-- The blank nodes of a position, also those inside formulas. -/
def Slot.blanks : Slot → List Blank
  | fixed t => t.blanks
  | var _ => []

/-- The blank node that stands in a position, if there is one. -/
def Slot.blank? : Slot → Option Blank
  | fixed (.blank b) => some b
  | _ => none

/-- The blank nodes that stand in the positions of a pattern. -/
def Pattern.labels (p : Pattern) : List Blank := p.toList.flatMap (·.blank?.toList)

/-- The blank nodes that stand in positions of a template. -/
def templateLabels (template : List Pattern) : Finset Blank :=
  (template.flatMap Pattern.labels).toFinset

/-- The blank nodes that occur somewhere in a template or in rows. -/
def blanksInUse (template : List Pattern) (rows : List Row) : List Blank :=
  (template.flatMap fun p => p.toList.flatMap Slot.blanks) ++
    rows.flatMap fun row => row.values.flatMap Term.blanks

/-- The next blank nodes of a supply, so many of them, are not in use, and none comes twice. -/
structure Supply.Fresh (u : Supply) (count : ℕ) (used : List Blank) : Prop where
  unused : ∀ k < count, u.nth k ∉ used
  injective : ∀ j < count, ∀ k < count, u.nth j = u.nth k → j = k

/-- A supply is fresh as long as its numbers are above those in use and do not run out. -/
theorem Supply.fresh_of_lt {u : Supply} {count : ℕ} {used : List Blank}
    (hroom : u.next + count ≤ 2 ^ 128) (hused : ∀ b ∈ used, b.id.toNat < u.next) :
    u.Fresh count used := by
  have hid {k : ℕ} (hk : k < count) : (u.nth k).id.toNat = u.next + k := by
    show (BitVec.ofNat 128 (u.next + k)).toNat = u.next + k
    rw [BitVec.toNat_ofNat, Nat.mod_eq_of_lt (by omega)]
  refine ⟨fun k hk hmem => ?_, fun j hj k hk h => ?_⟩
  · have hlt := hused _ hmem
    rw [hid hk] at hlt
    omega
  · have heq := congrArg (fun b : Blank => b.id.toNat) h
    simp only [hid hj, hid hk] at heq
    omega

/-! ## Instances -/

section Instances

variable (ρ : Blank → Blank) (row : Row)

/-- The term in a position for a row, with a blank node of the template renamed. -/
def Slot.ground? : Slot → Option Term
  | fixed (.blank b) => some (.blank (ρ b))
  | fixed t => some t
  | var x => row.find? x

/-- No position is a variable, the subject is no literal and the predicate is an IRI. -/
def Statement.isGround (t : Triple) : Bool := t.toList.all (!·.isVariable) && t.isWritable

/-- The triple of a pattern for a row, with the blank nodes of the template renamed, if there is
one that a graph may have. -/
def Pattern.ground? (p : Pattern) : Option Triple :=
  (do return ⟨← p.subject.ground? ρ row, ← p.predicate.ground? ρ row, ← p.object.ground? ρ row⟩ :
    Option Triple).filter Statement.isGround

/-- There is no triple of the pattern for the row: a variable is unbound, a position is a variable
as a term, the subject is a literal, or the predicate is no IRI. -/
def Pattern.IsDropped (p : Pattern) : Prop :=
  (∃ x, .var x ∈ p.toList ∧ row.find? x = none) ∨
  (∃ slot ∈ p.toList, ∃ v, slot.resolve? row = some (.var v)) ∨
  (∃ l, p.subject.resolve? row = some (.literal l)) ∨
  ∃ t, p.predicate.resolve? row = some t ∧ ∀ i, t ≠ .iri i

variable {ρ row}

theorem Slot.resolve?_eq_none_iff {slot : Slot} :
    slot.resolve? row = none ↔ ∃ x, slot = .var x ∧ row.find? x = none := by
  cases slot with
  | fixed t => exact iff_of_false nofun nofun
  | var x => exact ⟨fun h => ⟨x, rfl, h⟩, fun ⟨_, h, hx⟩ => Slot.var.inj h ▸ hx⟩

/-- Whatever does not tell blank nodes apart is true of a renamed position as it is of the
position. -/
theorem Slot.ground?_iff (ρ : Blank → Blank) (row : Row) {P : Option Term → Prop} (slot : Slot)
    (hP : ∀ b c, P (some (.blank b)) ↔ P (some (.blank c))) :
    P (slot.ground? ρ row) ↔ P (slot.resolve? row) := by
  cases slot with
  | var x => exact Iff.rfl
  | fixed t =>
    cases t with
    | blank b => exact hP (ρ b) b
    | iri i => exact Iff.rfl
    | literal l => exact Iff.rfl
    | var v => exact Iff.rfl
    | formula ts => exact Iff.rfl

theorem Statement.isGround_iff {t : Triple} : t.isGround = true ↔
    (∀ u ∈ t.toList, ∀ v, u ≠ .var v) ∧ (∀ l, t.subject ≠ .literal l) ∧
      ∃ i, t.predicate = .iri i := by
  obtain ⟨s, q, o⟩ := t
  have hvar (u : Term) : (!u.isVariable) = true ↔ ∀ v, u ≠ .var v := by
    cases u <;> simp [Term.isVariable]
  have hliteral : (!s.isLiteral) = true ↔ ∀ l, s ≠ .literal l := by
    cases s <;> simp [Term.isLiteral]
  have hiri : q.isIri = true ↔ ∃ i, q = .iri i := by
    cases q <;> simp [Term.isIri]
  unfold isGround isWritable
  simp only [Bool.and_eq_true, List.all_eq_true, hvar, hliteral, hiri]

/-- **What is dropped.** There is no instance just if a variable is unbound, a position is a
variable as a term, the subject is a literal, or the predicate is no IRI. -/
theorem Pattern.ground?_eq_none_iff {p : Pattern} :
    p.ground? ρ row = none ↔ p.IsDropped row := by
  have hunbound (slot : Slot) := slot.ground?_iff ρ row (P := (· = none))
    fun _ _ => iff_of_false nofun nofun
  have hvar (slot : Slot) (v : Variable) := slot.ground?_iff ρ row (P := (· = some (.var v)))
    fun _ _ => iff_of_false nofun nofun
  have hliteral (slot : Slot) (l : Literal) := slot.ground?_iff ρ row
    (P := (· = some (.literal l))) fun _ _ => iff_of_false nofun nofun
  have hother (slot : Slot) := slot.ground?_iff ρ row
    (P := fun o => ∃ t, o = some t ∧ ∀ i, t ≠ .iri i)
    fun b c => iff_of_true ⟨_, rfl, nofun⟩ ⟨_, rfl, nofun⟩
  have hfree : (∃ x, .var x ∈ p.toList ∧ row.find? x = none) ↔
      ∃ slot ∈ p.toList, slot.ground? ρ row = none := by
    simp only [hunbound, Slot.resolve?_eq_none_iff]
    exact ⟨fun ⟨x, hx, hnone⟩ => ⟨_, hx, x, rfl, hnone⟩,
      fun ⟨_, hslot, x, hx, hnone⟩ => ⟨x, hx ▸ hslot, hnone⟩⟩
  unfold IsDropped
  rw [hfree]
  obtain ⟨s, q, o⟩ := p
  simp only [← hvar, ← hliteral, ← hother, Statement.toList, List.mem_cons, List.not_mem_nil,
    or_false, exists_eq_or_imp, exists_eq_left]
  unfold ground?
  dsimp only
  generalize s.ground? ρ row = s
  generalize q.ground? ρ row = q
  generalize o.ground? ρ row = o
  cases s with
  | none => simp
  | some s =>
    cases q with
    | none => simp
    | some q =>
      cases o with
      | none => simp
      | some o =>
        show Option.filter Statement.isGround (some ⟨s, q, o⟩) = none ↔ _
        simp only [Option.filter_eq_none_iff, Option.some.injEq, forall_eq',
          Statement.isGround_iff, Statement.toList, List.mem_cons, List.not_mem_nil, or_false,
          forall_eq_or_imp, forall_eq, exists_eq_left', reduceCtorEq, false_or, not_and_or,
          not_forall, not_exists, not_not, ne_eq]

end Instances

/-! ## Filling one row -/

/-- What has been given keeps its place while more is given. -/
theorem idxOf_of_isPrefix_of_mem {α : Type} [BEq α] [LawfulBEq α] {given given' : List α}
    (h : given <+: given') {x : α} (hx : x ∈ given) : given'.idxOf x = given.idxOf x := by
  obtain ⟨more, rfl⟩ := h
  exact List.idxOf_append_of_mem hx

/-- The table has fresh blank nodes for the given ones, in the order in which they were given and
numbered from some number on, and the supply goes on behind them. -/
structure Filling.Gives (u : Supply) (start : ℕ) (given : List Blank) (f : Filling) : Prop where
  supply : f.supply = u.skip (start + given.length)
  nodup : given.Nodup
  find? : ∀ b, f.labels.known.find? b.text =
    if b ∈ given then some (u.nth (start + given.idxOf b)) else none

/-- Whatever has been given before, the run gives to some of the blank nodes, and its result is the
wanted one under each renaming that says what has been given. -/
def Fills {α : Type} (u : Supply) (start : ℕ) (blanks : List Blank) (want : (Blank → Blank) → α)
    (run : Filling → α × Filling) : Prop :=
  ∀ given f, f.Gives u start given → ∃ given', given <+: given' ∧ given' ⊆ given ++ blanks ∧
    (run f).2.Gives u start given' ∧
    ∀ ρ : Blank → Blank, (∀ b ∈ given', ρ b = u.nth (start + given'.idxOf b)) →
      (run f).1 = want ρ

section Filling

variable {α β : Type} {u : Supply} {start : ℕ} {blanks blanks' : List Blank}
  {want : (Blank → Blank) → α} {run : Filling → α × Filling}

theorem fills_pure (a : α) : Fills u start [] (fun _ => a) fun f => (a, f) :=
  fun given _ hf => ⟨given, List.prefix_refl given, by simp, hf, fun _ _ => rfl⟩

theorem Fills.mono (h : Fills u start blanks want run) (hsub : blanks ⊆ blanks') :
    Fills u start blanks' want run := by
  intro given f hf
  obtain ⟨given', hbegins, hgiven, hf', hresult⟩ := h given f hf
  refine ⟨given', hbegins, fun b hb => ?_, hf', hresult⟩
  exact List.mem_append.2 ((List.mem_append.1 (hgiven hb)).imp_right fun hb => hsub hb)

theorem Fills.bind {want' : α → (Blank → Blank) → β} {next : α → Filling → β × Filling}
    (h : Fills u start blanks want run) (k : ∀ a, Fills u start blanks' (want' a) (next a)) :
    Fills u start (blanks ++ blanks') (fun ρ => want' (want ρ) ρ)
      fun f => next (run f).1 (run f).2 := by
  intro given f hf
  obtain ⟨given₁, hbegins₁, hsub₁, hf₁, hresult₁⟩ := h given f hf
  obtain ⟨given₂, hbegins₂, hsub₂, hf₂, hresult₂⟩ := k (run f).1 given₁ _ hf₁
  refine ⟨given₂, hbegins₁.trans hbegins₂, fun b hb => ?_, hf₂, fun ρ hρ => ?_⟩
  · rw [← List.append_assoc]
    exact List.mem_append.2 ((List.mem_append.1 (hsub₂ hb)).imp_left fun hb => hsub₁ hb)
  · -- A renaming that says what is given in the end says what was given on the way.
    have hρ₁ : ∀ b ∈ given₁, ρ b = u.nth (start + given₁.idxOf b) := by
      intro b hb
      rw [hρ b (hbegins₂.subset hb), idxOf_of_isPrefix_of_mem hbegins₂ hb]
    rw [hresult₂ ρ hρ, hresult₁ ρ hρ₁]

/-- A run that goes on only with a result. -/
def runThen (run : Filling → Option α × Filling) (next : α → Filling → Option β × Filling)
    (f : Filling) : Option β × Filling :=
  match (run f).1 with
  | none => (none, (run f).2)
  | some a => next a (run f).2

theorem Fills.runThen {want : (Blank → Blank) → Option α} {run : Filling → Option α × Filling}
    {want' : α → (Blank → Blank) → Option β} {next : α → Filling → Option β × Filling}
    (h : Fills u start blanks want run) (k : ∀ a, Fills u start blanks' (want' a) (next a)) :
    Fills u start (blanks ++ blanks') (fun ρ => (want ρ).bind fun a => want' a ρ)
      (runThen run next) := by
  have hnext (o : Option α) : Fills u start blanks' (fun ρ => o.bind fun a => want' a ρ) fun f =>
      match o with
      | none => (none, f)
      | some a => next a f := by
    cases o with
    | none => exact (fills_pure none).mono (List.nil_subset _)
    | some a => exact k a
  exact h.bind hnext

/-- A label that is met first gets the next blank node, and any other the one that it has. -/
theorem fills_label (b : Blank) : Fills u start [b] (fun ρ => ρ b) fun f =>
    ((f.labels.named b.text f.supply).1,
      ⟨(f.labels.named b.text f.supply).2.1, (f.labels.named b.text f.supply).2.2⟩) := by
  intro given f hf
  have hfind := hf.find? b
  by_cases hb : b ∈ given
  · rw [if_pos hb] at hfind
    unfold BlankLabels.named
    simp only [hfind]
    exact ⟨given, List.prefix_refl given, List.subset_append_left _ _, hf,
      fun ρ hρ => (hρ b hb).symm⟩
  · rw [if_neg hb] at hfind
    have hlast : (given ++ [b]).idxOf b = given.length := by
      rw [List.idxOf_append_of_notMem hb, List.idxOf_cons_self, Nat.add_zero]
    unfold BlankLabels.named
    simp only [hfind, hf.supply]
    refine ⟨given ++ [b], List.prefix_append _ _, List.Subset.refl _, ⟨?_, ?_, fun c => ?_⟩, ?_⟩
    · rw [List.length_append]
      rfl
    · exact List.nodup_append.2 ⟨hf.nodup, List.nodup_singleton b, by grind⟩
    · show (f.labels.known.insert b.text (u.nth (start + given.length))).find? c.text = _
      rw [SortedMap.find?_insert_eq, hf.find? c]
      by_cases hcb : c = b
      · rw [if_pos (congrArg Blank.text hcb), hcb, hlast, if_pos (by simp)]
      · rw [if_neg (mt Blank.text_inj.1 hcb)]
        by_cases hc : c ∈ given
        · rw [if_pos hc, if_pos (List.mem_append_left _ hc), List.idxOf_append_of_mem hc]
        · rw [if_neg hc, if_neg (by simp [hc, hcb])]
    · intro ρ hρ
      rw [hρ b (by simp), hlast]
      rfl

variable (row : Row)

/-- Only a blank node of the template is given one; variables as terms are left out. -/
theorem fills_slot (slot : Slot) : Fills u start slot.blank?.toList
    (fun ρ => (slot.ground? ρ row).filter (!·.isVariable)) (slot.fill row) := by
  have hvar (x : String) : (Slot.var x).fill row = fun f =>
      ((row.find? x).filter (!·.isVariable), f) := by
    funext f
    unfold Slot.fill Slot.resolve?
    dsimp only
    cases row.find? x with
    | none => rfl
    | some t => cases t <;> rfl
  cases slot with
  | var x =>
    rw [hvar x]
    exact fills_pure _
  | fixed t =>
    cases t with
    | blank b => exact (fills_label b).bind fun x => fills_pure (some (Term.blank x))
    | iri i => exact fills_pure (some (Term.iri i))
    | literal l => exact fills_pure (some (Term.literal l))
    | var v => exact fills_pure none
    | formula ts => exact fills_pure (some (Term.formula ts))

/-- The triple of terms that are no variables is the ground one, if it may be written. -/
theorem Pattern.ground?_eq_bind (ρ : Blank → Blank) (p : Pattern) : p.ground? ρ row =
    ((p.subject.ground? ρ row).filter (!·.isVariable)).bind fun s =>
      ((p.predicate.ground? ρ row).filter (!·.isVariable)).bind fun q =>
        ((p.object.ground? ρ row).filter (!·.isVariable)).bind fun o =>
          if Statement.isWritable ⟨s, q, o⟩ then some ⟨s, q, o⟩ else none := by
  unfold ground?
  generalize p.subject.ground? ρ row = s
  generalize p.predicate.ground? ρ row = q
  generalize p.object.ground? ρ row = o
  cases s with
  | none => rfl
  | some s =>
    cases q with
    | none => simp
    | some q =>
      cases o with
      | none => simp
      | some o =>
        show Option.filter Statement.isGround (some ⟨s, q, o⟩) = _
        cases hs : s.isVariable <;> cases hq : q.isVariable <;> cases ho : o.isVariable <;>
          simp [Option.filter, Statement.isGround, Statement.toList, hs, hq, ho]

theorem Pattern.fill_eq_runThen (p : Pattern) : p.fill row =
    runThen (p.subject.fill row) fun s => runThen (p.predicate.fill row) fun q =>
      runThen (p.object.fill row) fun o f =>
        (if Statement.isWritable ⟨s, q, o⟩ then some ⟨s, q, o⟩ else none, f) := by
  funext f
  unfold fill runThen
  rcases p.subject.fill row f with ⟨_ | s, f₁⟩
  · rfl
  · rcases hq : p.predicate.fill row f₁ with ⟨_ | q, f₂⟩
    · simp only [hq]
    · rcases ho : p.object.fill row f₂ with ⟨_ | o, f₃⟩ <;> simp only [hq, ho]

theorem fills_pattern (p : Pattern) :
    Fills u start p.labels (fun ρ => p.ground? ρ row) (p.fill row) := by
  simp only [Pattern.ground?_eq_bind, Pattern.fill_eq_runThen]
  exact (fills_slot row p.subject).runThen fun s => (fills_slot row p.predicate).runThen fun q =>
    (fills_slot row p.object).runThen fun o => fills_pure _

theorem fills_fillAll (template : List Pattern) :
    Fills u start (template.flatMap Pattern.labels)
      (fun ρ => template.map (Pattern.ground? ρ row)) (fillAll row template) := by
  induction template with
  | nil => exact fills_pure []
  | cons p template ih =>
    have hcons : Fills u start (p.labels ++ (template.flatMap Pattern.labels ++ []))
        (fun ρ => (p :: template).map (Pattern.ground? ρ row)) (fillAll row (p :: template)) :=
      (fills_pattern row p).bind fun t => ih.bind fun ts => fills_pure (t :: ts)
    exact hcons.mono (by simp)

end Filling

/-! ## Filling all rows -/

/-- What a template gives for rows that are numbered from some number on, under a renaming for each
row. -/
def instancesFrom (template : List Pattern) (rows : List Row) (i : ℕ) (ρ : ℕ → Blank → Blank) :
    List (List (Option Triple)) :=
  (rows.zipIdx i).map fun x => template.map (Pattern.ground? (ρ x.2) x.1)

section Pairs

variable {i : ℕ} {given : List (ℕ × Blank)} {bs : List Blank}

theorem nodup_append_row (hnodup : given.Nodup) (hbefore : ∀ x ∈ given, x.1 < i) (hbs : bs.Nodup) :
    (given ++ bs.map (Prod.mk i)).Nodup := by
  refine List.nodup_append.2 ⟨hnodup, hbs.map (Prod.mk_right_injective i), ?_⟩
  rintro x hx y hy rfl
  obtain ⟨b, -, rfl⟩ := List.mem_map.1 hy
  exact lt_irrefl i (hbefore _ hx)

theorem idxOf_map_pair (i : ℕ) (bs : List Blank) (b : Blank) :
    (bs.map (Prod.mk i)).idxOf (i, b) = bs.idxOf b := by
  induction bs with
  | nil => rfl
  | cons c bs ih =>
    have hpair : ((i, c) == (i, b)) = (c == b) := by simp [BEq.beq]
    rw [List.map_cons, List.idxOf_cons, List.idxOf_cons, ih, hpair]

/-- The pairs of a row come right after those of the rows before. -/
theorem idxOf_append_row (hbefore : ∀ x ∈ given, x.1 < i) (b : Blank) :
    (given ++ bs.map (Prod.mk i)).idxOf (i, b) = given.length + bs.idxOf b := by
  have hlate : (i, b) ∉ given := fun h => lt_irrefl i (hbefore _ h)
  rw [List.idxOf_append_of_notMem hlate, idxOf_map_pair]

end Pairs

/-- From row to row, the supply gives to pairs of a row and a blank node of the template, to each
pair once. -/
theorem exists_given (template : List Pattern) (u : Supply) (rows : List Row) (i : ℕ)
    (given : List (ℕ × Blank)) (hnodup : given.Nodup) (hbefore : ∀ x ∈ given, x.1 < i) :
    ∃ given', given <+: given' ∧ given'.Nodup ∧
      (∀ x ∈ given', x ∈ given ∨ x.1 < i + rows.length ∧ x.2 ∈ templateLabels template) ∧
      ∀ ρ : ℕ → Blank → Blank, (∀ x ∈ given', ρ x.1 x.2 = u.nth (given'.idxOf x)) →
        (fillRows template rows (u.skip given.length)).1 = instancesFrom template rows i ρ := by
  induction rows generalizing i given with
  | nil => exact ⟨given, List.prefix_refl given, hnodup, fun x hx => .inl hx, fun _ _ => rfl⟩
  | cons row rows ih =>
    have hstart : Filling.Gives u given.length [] ⟨.empty, u.skip given.length⟩ :=
      ⟨rfl, List.nodup_nil, fun _ => rfl⟩
    obtain ⟨bs, -, hbs, hgives, hrow⟩ := fills_fillAll row template [] _ hstart
    have hnew (x : ℕ × Blank) (hx : x ∈ bs.map (Prod.mk i)) :
        x.1 = i ∧ x.2 ∈ templateLabels template := by
      obtain ⟨b, hb, rfl⟩ := List.mem_map.1 hx
      exact ⟨rfl, List.mem_toFinset.2 (hbs hb)⟩
    have hbefore' (x : ℕ × Blank) (hx : x ∈ given ++ bs.map (Prod.mk i)) : x.1 < i + 1 := by
      rcases List.mem_append.1 hx with hx | hx
      · exact Nat.lt_succ_of_lt (hbefore x hx)
      · exact Nat.lt_succ_of_le (hnew x hx).1.le
    obtain ⟨given', hbegins, hgiven', hsub, hrows⟩ :=
      ih (i + 1) _ (nodup_append_row hnodup hbefore hgives.nodup) hbefore'
    refine ⟨given', (List.prefix_append _ _).trans hbegins, hgiven', fun x hx => ?_, fun ρ hρ => ?_⟩
    · rw [List.length_cons]
      rcases hsub x hx with hx | ⟨hx, hlabel⟩
      · refine (List.mem_append.1 hx).imp_right fun hx => ?_
        obtain ⟨hrow, hlabel⟩ := hnew x hx
        exact ⟨by omega, hlabel⟩
      · exact .inr ⟨by omega, hlabel⟩
    · -- The blank nodes of this row are those given right after the earlier ones.
      have hρrow : ∀ b ∈ bs, ρ i b = u.nth (given.length + bs.idxOf b) := by
        intro b hb
        have hmem : (i, b) ∈ given ++ bs.map (Prod.mk i) :=
          List.mem_append_right given (List.mem_map_of_mem hb)
        rw [hρ (i, b) (hbegins.subset hmem), idxOf_of_isPrefix_of_mem hbegins hmem,
          idxOf_append_row hbefore]
      have hnext : (fillAll row template ⟨.empty, u.skip given.length⟩).2.supply =
          u.skip (given ++ bs.map (Prod.mk i)).length := by
        rw [hgives.supply, List.length_append, List.length_map]
      show (fillAll row template ⟨.empty, u.skip given.length⟩).1 ::
        (fillRows template rows (fillAll row template ⟨.empty, u.skip given.length⟩).2.supply).1 = _
      rw [hrow (ρ i) hρrow, hnext, hrows ρ hρ]
      rfl

/-- Each row has a renaming of its own for the blank nodes of a template: it is injective, different
rows have different blank nodes, and all of them are new. -/
structure FreshRenaming (template : List Pattern) (rows : List Row) (ρ : ℕ → Blank → Blank) :
    Prop where
  injective : ∀ i < rows.length, Set.InjOn (ρ i) (templateLabels template)
  disjoint : ∀ i < rows.length, ∀ j < rows.length, i ≠ j →
    ∀ b ∈ templateLabels template, ∀ c ∈ templateLabels template, ρ i b ≠ ρ j c
  unused : ∀ i < rows.length, ∀ b ∈ templateLabels template, ρ i b ∉ blanksInUse template rows

/-- Numbers for all pairs of a row and a blank node of the template make a renaming for each row. -/
theorem freshRenaming_of_pairs {template : List Pattern} {rows : List Row} {u : Supply}
    {pairs : List (ℕ × Blank)}
    (hu : u.Fresh pairs.length (blanksInUse template rows))
    (hpairs : ∀ i < rows.length, ∀ b ∈ templateLabels template, (i, b) ∈ pairs) :
    FreshRenaming template rows fun i b => u.nth (pairs.idxOf (i, b)) := by
  have hlt {i : ℕ} (hi : i < rows.length) {b : Blank} (hb : b ∈ templateLabels template) :
      pairs.idxOf (i, b) < pairs.length := List.idxOf_lt_length_of_mem (hpairs i hi b hb)
  have heq {i j : ℕ} (hi : i < rows.length) (hj : j < rows.length) {b c : Blank}
      (hb : b ∈ templateLabels template) (hc : c ∈ templateLabels template)
      (h : u.nth (pairs.idxOf (i, b)) = u.nth (pairs.idxOf (j, c))) : (i, b) = (j, c) :=
    (List.idxOf_inj (hpairs i hi b hb)).1 (hu.injective _ (hlt hi hb) _ (hlt hj hc) h)
  exact ⟨fun i hi b hb c hc h => (Prod.mk.inj (heq hi hi hb hc h)).2,
    fun i hi j hj hij b hb c hc h => hij (Prod.mk.inj (heq hi hj hb hc h)).1,
    fun i hi b hb => hu.unused _ (hlt hi hb)⟩

/-- Pairs without repetition go on to a list of all pairs of a row and a blank node. -/
theorem exists_all_pairs (n : ℕ) (labels : Finset Blank) {given : List (ℕ × Blank)}
    (hnodup : given.Nodup) (hgiven : ∀ x ∈ given, x.1 < n ∧ x.2 ∈ labels) :
    ∃ pairs, given <+: pairs ∧ pairs.length = n * labels.card ∧
      ∀ i < n, ∀ b ∈ labels, (i, b) ∈ pairs := by
  have hsub : given.toFinset ⊆ Finset.range n ×ˢ labels := by
    intro x hx
    have hx := hgiven x (List.mem_toFinset.1 hx)
    exact Finset.mem_product.2 ⟨Finset.mem_range.2 hx.1, hx.2⟩
  refine ⟨given ++ ((Finset.range n ×ˢ labels) \ given.toFinset).toList, List.prefix_append _ _,
    ?_, fun i hi b hb => ?_⟩
  · rw [List.length_append, Finset.length_toList, Finset.card_sdiff_of_subset hsub,
      List.toFinset_card_of_nodup hnodup, Finset.card_product, Finset.card_range]
    have hle := Finset.card_le_card hsub
    rw [List.toFinset_card_of_nodup hnodup, Finset.card_product, Finset.card_range] at hle
    omega
  · by_cases h : (i, b) ∈ given
    · exact List.mem_append_left _ h
    · exact List.mem_append_right _ (by simp [hi, hb, h])

/-- **Constructing by instances.** The graph of a template and rows has exactly the instances of its
patterns under the rows, each row with a renaming of its own for the blank nodes of the template;
and a pattern has no instance just when it is dropped. -/
theorem construct_eq_instances (template : List Pattern) (rows : List Row) (u : Supply)
    (hu : u.Fresh (rows.length * (templateLabels template).card) (blanksInUse template rows)) :
    ∃ ρ : ℕ → Blank → Blank, FreshRenaming template rows ρ ∧
      (fillRows template rows u).1 =
        rows.mapIdx (fun i row => template.map (Pattern.ground? (ρ i) row)) ∧
      (∀ t, t ∈ (construct template rows u).1.members ↔
        ∃ i row, rows[i]? = some row ∧ ∃ p ∈ template, p.ground? (ρ i) row = some t) ∧
      ∀ i row, ∀ p ∈ template, p.ground? (ρ i) row = none ↔ p.IsDropped row := by
  obtain ⟨given, -, hnodup, hgiven, hrows⟩ := exists_given template u rows 0 [] List.nodup_nil
    (fun _ h => absurd h List.not_mem_nil)
  obtain ⟨pairs, hbegins, hlength, hpairs⟩ := exists_all_pairs rows.length
    (templateLabels template) hnodup fun x hx => by simpa using hgiven x hx
  rw [← hlength] at hu
  let ρ (i : ℕ) (b : Blank) : Blank := u.nth (pairs.idxOf (i, b))
  have hfill : (fillRows template rows u).1 = instancesFrom template rows 0 ρ :=
    hrows ρ fun x hx => congrArg u.nth (idxOf_of_isPrefix_of_mem hbegins hx)
  refine ⟨ρ, freshRenaming_of_pairs hu hpairs, ?_, fun t => ?_, fun i row p _ => ?_⟩
  · rw [hfill, List.mapIdx_eq_zipIdx_map]
    rfl
  · have hgraph : (construct template rows u).1 =
        .ofTriples none ((instancesFrom template rows 0 ρ).flatMap fun l => l.filterMap id) := by
      rw [← hfill]
      rfl
    rw [hgraph, Graph.mem_members, Graph.mem_ofTriples]
    simp only [instancesFrom, List.mem_flatMap, List.mem_map, List.mem_filterMap]
    constructor
    · rintro ⟨_, ⟨x, hx, rfl⟩, _, hp, rfl⟩
      obtain ⟨p, hp, hground⟩ := List.mem_map.1 hp
      exact ⟨x.2, x.1, List.mem_zipIdx_iff_getElem?.1 hx, p, hp, hground⟩
    · rintro ⟨i, row, hrow, p, hp, hground⟩
      exact ⟨_, ⟨(row, i), List.mem_zipIdx_iff_getElem?.2 hrow, rfl⟩, some t,
        List.mem_map.2 ⟨p, hp, hground⟩, rfl⟩
  · exact Pattern.ground?_eq_none_iff

/-- Each row has an address of its own, which both patterns share. The resident is a blank node that
is kept, and the second row has no street, so that it gives one triple only. -/
theorem construct_eq_instances_addresses :
    let template : List Pattern :=
      [⟨.var "resident", .fixed (.iri ⟨"urn:address"⟩), .fixed (.blank ⟨1⟩)⟩,
        ⟨.fixed (.blank ⟨1⟩), .fixed (.iri ⟨"urn:street"⟩), .var "street"⟩]
    let rows : List Row := [.ofList [("resident", .blank ⟨2⟩), ("street", .iri ⟨"urn:main"⟩)],
      .ofList [("resident", .blank ⟨2⟩)]]
    let u : Supply := ⟨3⟩
    u.Fresh (rows.length * (templateLabels template).card) (blanksInUse template rows) ∧
      (∃ ρ : ℕ → Blank → Blank, FreshRenaming template rows ρ ∧
        (fillRows template rows u).1 =
          rows.mapIdx (fun i row => template.map (Pattern.ground? (ρ i) row)) ∧
        (∀ t, t ∈ (construct template rows u).1.members ↔
          ∃ i row, rows[i]? = some row ∧ ∃ p ∈ template, p.ground? (ρ i) row = some t) ∧
        ∀ i row, ∀ p ∈ template, p.ground? (ρ i) row = none ↔ p.IsDropped row) ∧
      (construct template rows u).1.members =
        {⟨.blank ⟨2⟩, .iri ⟨"urn:address"⟩, .blank ⟨3⟩⟩,
          ⟨.blank ⟨3⟩, .iri ⟨"urn:street"⟩, .iri ⟨"urn:main"⟩⟩,
          ⟨.blank ⟨2⟩, .iri ⟨"urn:address"⟩, .blank ⟨4⟩⟩} := by
  intro template rows u
  have hu : u.Fresh (rows.length * (templateLabels template).card) (blanksInUse template rows) :=
    Supply.fresh_of_lt (by decide +kernel) (by decide +kernel)
  exact ⟨hu, construct_eq_instances template rows u hu, by decide +kernel⟩

end RdfStore
