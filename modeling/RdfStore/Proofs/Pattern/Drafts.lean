import RdfStore.Pattern.Template

/-!
# Filling templates without names

What a template gives for rows does not depend on the supply but for the names of fresh blank
nodes: there is a draft, in which these are numbered, and each supply names the draft in its own way
(`exists_draft`).
-/

namespace RdfStore

/-- A term of a draft. -/
inductive DraftTerm where
  /-- A term that is known. -/
  | known (t : Term)
  /-- A blank node by its place among the fresh ones. -/
  | fresh (n : Nat)

/-- Statements in which fresh blank nodes have no names yet. -/
abbrev Draft := List (Statement DraftTerm)

/-- The blank node that a supply gives after so many others. -/
def Supply.nth (u : Supply) (n : Nat) : Blank := ⟨BitVec.ofNat 128 (u.next + n)⟩

/-- The supply without its first blank nodes. -/
def Supply.skip (u : Supply) (n : Nat) : Supply := ⟨u.next + n⟩

/-- The term of a draft under the names of a supply. -/
def DraftTerm.named (u : Supply) : DraftTerm → Term
  | known t => t
  | fresh n => .blank (u.nth n)

/-- The triples of a draft under the names of a supply. -/
def Draft.named (u : Supply) (d : Draft) : List Triple := d.map (·.map (DraftTerm.named u))

/-- The state of filling, with numbers for names. -/
structure Drafting where
  /-- The numbers given to labels. -/
  labels : SortedMap String Nat
  /-- How many blank nodes have been taken. -/
  count : Nat

/-- The state of filling from a supply. -/
def Drafting.under (d : Drafting) (u : Supply) : Filling :=
  ⟨⟨d.labels.mapValues u.nth⟩, u.skip d.count⟩

/-- Whatever the supply, filling gives the names to the same draft, and goes on from the same
state. -/
def Drafts {α β : Type} (name : Supply → β → α) (run : Filling → α × Filling) : Prop :=
  ∀ d : Drafting, ∃ (b : β) (d' : Drafting), ∀ u, run (d.under u) = (name u b, d'.under u)

section

variable (row : Row)

/-- A label has a number from before, or takes the next one. -/
theorem drafts_label (label : String) : Drafts (fun u n => u.nth n) fun f =>
    ((f.labels.named label f.supply).1,
      ⟨(f.labels.named label f.supply).2.1, (f.labels.named label f.supply).2.2⟩) := by
  intro d
  cases h : d.labels.find? label with
  | some n =>
    refine ⟨n, d, fun u => ?_⟩
    have hfind : (d.under u).labels.known.find? label = some (u.nth n) := by
      show (d.labels.mapValues u.nth).find? label = some (u.nth n)
      rw [SortedMap.find?_mapValues, h]
      rfl
    unfold BlankLabels.named
    dsimp only
    rw [hfind]
  | none =>
    refine ⟨d.count, ⟨d.labels.insert label d.count, d.count + 1⟩, fun u => ?_⟩
    have hfind : (d.under u).labels.known.find? label = none := by
      show (d.labels.mapValues u.nth).find? label = none
      rw [SortedMap.find?_mapValues, h]
      rfl
    unfold BlankLabels.named
    dsimp only
    rw [hfind]
    show (u.nth d.count, (⟨⟨(d.labels.mapValues u.nth).insert label (u.nth d.count)⟩,
      ⟨u.next + d.count + 1⟩⟩ : Filling)) = _
    rw [← SortedMap.mapValues_insert]
    rfl

theorem drafts_slot (slot : Slot) :
    Drafts (fun u => Option.map (DraftTerm.named u)) (slot.fill row) := by
  -- Only a blank node of the template takes something from the supply.
  have hplain (o : Option Term) (d : Drafting) : ∃ (b : Option DraftTerm) (d' : Drafting),
      ∀ u, (o, d.under u) = (b.map (DraftTerm.named u), d'.under u) := by
    refine ⟨o.map .known, d, fun u => ?_⟩
    cases o with
    | none => rfl
    | some t => rfl
  intro d
  unfold Slot.fill
  split
  · next b =>
    obtain ⟨n, d', h⟩ := drafts_label b.text d
    refine ⟨some (.fresh n), d', fun u => ?_⟩
    obtain ⟨hblank, hstate⟩ := Prod.mk.inj (h u)
    dsimp only
    rw [hblank, hstate]
    rfl
  · split
    · exact hplain none d
    · exact hplain _ d

/-- Whether a triple may be written does not depend on the names: a blank node may be a subject and
may not be a predicate, whatever its name. -/
theorem isWritable_named (u v : Supply) (t : Statement DraftTerm) :
    (t.map (DraftTerm.named u)).isWritable = (t.map (DraftTerm.named v)).isWritable := by
  obtain ⟨s, p, o⟩ := t
  have hsubject : (s.named u).isLiteral = (s.named v).isLiteral := by
    cases s with
    | known t => rfl
    | fresh n => rfl
  have hpredicate : (p.named u).isIri = (p.named v).isIri := by
    cases p with
    | known t => rfl
    | fresh n => rfl
  show (!(s.named u).isLiteral && (p.named u).isIri) = (!(s.named v).isLiteral && (p.named v).isIri)
  rw [hsubject, hpredicate]

theorem drafts_pattern (p : Pattern) :
    Drafts (fun u => Option.map (Statement.map (DraftTerm.named u))) (p.fill row) := by
  intro d
  obtain ⟨s, d₁, hs⟩ := drafts_slot row p.subject d
  obtain ⟨q, d₂, hq⟩ := drafts_slot row p.predicate d₁
  obtain ⟨o, d₃, ho⟩ := drafts_slot row p.object d₂
  unfold Pattern.fill
  cases s with
  | none =>
    refine ⟨none, d₁, fun u => ?_⟩
    rw [hs]
    rfl
  | some s =>
    cases q with
    | none =>
      refine ⟨none, d₂, fun u => ?_⟩
      rw [hs]
      dsimp only [Option.map_some]
      rw [hq]
      rfl
    | some q =>
      cases o with
      | none =>
        refine ⟨none, d₃, fun u => ?_⟩
        rw [hs]
        dsimp only [Option.map_some]
        rw [hq]
        dsimp only [Option.map_some]
        rw [ho]
        rfl
      | some o =>
        let t : Statement DraftTerm := ⟨s, q, o⟩
        refine ⟨if (t.map (DraftTerm.named .new)).isWritable then some t else none, d₃,
          fun u => ?_⟩
        rw [hs]
        dsimp only [Option.map_some]
        rw [hq]
        dsimp only [Option.map_some]
        rw [ho]
        dsimp only [Option.map_some]
        rw [isWritable_named .new u t]
        show ((if (t.map (DraftTerm.named u)).isWritable then some (t.map (DraftTerm.named u))
          else none), d₃.under u) = _
        split
        · rfl
        · rfl

/-- The names of a supply for the triples, or their absence, of one row. -/
def nameAll (u : Supply) (ts : List (Option (Statement DraftTerm))) : List (Option Triple) :=
  ts.map (Option.map (·.map (DraftTerm.named u)))

theorem drafts_fillAll (ps : List Pattern) : Drafts nameAll (fillAll row ps) := by
  induction ps with
  | nil => exact fun d => ⟨[], d, fun u => rfl⟩
  | cons p ps ih =>
    intro d
    obtain ⟨t, d₁, ht⟩ := drafts_pattern row p d
    obtain ⟨ts, d₂, hts⟩ := ih d₁
    refine ⟨t :: ts, d₂, fun u => ?_⟩
    unfold fillAll
    rw [ht]
    dsimp only
    rw [hts]
    rfl

end

/-- Every row starts without labels, where the row before it has left the supply. -/
theorem exists_draft_fillRows (template : List Pattern) (rows : List Row) (n : Nat) :
    ∃ (ts : List (List (Option (Statement DraftTerm)))) (n' : Nat), ∀ u : Supply,
      fillRows template rows (u.skip n) = (ts.map (nameAll u), u.skip n') := by
  induction rows generalizing n with
  | nil => exact ⟨[], n, fun u => rfl⟩
  | cons row rows ih =>
    obtain ⟨t, d, ht⟩ := drafts_fillAll row template ⟨.empty, n⟩
    obtain ⟨ts, n', hts⟩ := ih d.count
    refine ⟨t :: ts, n', fun u => ?_⟩
    have hstart : (⟨.empty, u.skip n⟩ : Filling) = Drafting.under ⟨.empty, n⟩ u := rfl
    unfold fillRows
    rw [hstart, ht]
    dsimp only [Drafting.under]
    rw [hts]
    rfl

/-- **A template has one draft.** For every list of rows there is a draft of which each supply
makes its graph by naming the fresh blank nodes. -/
theorem exists_draft (template : List Pattern) (rows : List Row) :
    ∃ d : Draft, ∀ u, (construct template rows u).1 = .ofTriples none (d.named u) := by
  obtain ⟨ts, n', hts⟩ := exists_draft_fillRows template rows 0
  refine ⟨ts.flatMap fun l => l.filterMap id, fun u => ?_⟩
  have hnamed : ((ts.map (nameAll u)).flatMap fun l => l.filterMap id) =
      Draft.named u (ts.flatMap fun l => l.filterMap id) := by
    unfold Draft.named nameAll
    rw [List.flatMap_map, List.map_flatMap]
    refine congrArg (fun f => ts.flatMap f) (funext fun l => ?_)
    rw [List.map_filterMap, List.filterMap_map]
    rfl
  show Graph.ofTriples none ((fillRows template rows (u.skip 0)).1.flatMap
    fun l => l.filterMap id) = _
  rw [hts, ← hnamed]

end RdfStore
