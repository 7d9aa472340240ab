import RdfStore.Store.Inference
import RdfStore.Proofs.Row.Merging
import RdfStore.Proofs.Query.BagSemantics

/-!
# The algebra of joins

Up to the order of rows, joins are commutative and associative, they distribute over unions, and
the list of one empty row is neutral. A basic pattern may be cut in two anywhere: looking up the
second part under the rows of the first gives what both parts give on their own, joined
(`Pattern.joinAll_append_perm`). In a session the same laws hold of patterns
(`StoreM.join_laws`).
-/

namespace RdfStore

/-! ## Joins of lists of rows -/

theorem Row.mergeWith_append (row : Row) (B C : List Row) :
    row.mergeWith (B ++ C) = row.mergeWith B ++ row.mergeWith C :=
  List.filterMap_append

/-- The rows on the right may be joined in two parts. -/
theorem joinRows_append_perm (A B C : List Row) :
    (joinRows A (B ++ C)).Perm (joinRows A B ++ joinRows A C) := by
  unfold joinRows
  simp only [Row.mergeWith_append]
  exact (List.flatMap_append_perm A (·.mergeWith B) (·.mergeWith C)).symm

theorem joinRows_nil (A : List Row) : joinRows A [] = [] := by
  unfold joinRows
  exact List.flatMap_eq_nil_iff.2 fun _ _ => rfl

/-- One row on the right is merged with every row on the left. -/
theorem joinRows_singleton (A : List Row) (row : Row) : joinRows A [row] = row.mergeWith A := by
  induction A with
  | nil => rfl
  | cons a A ih =>
    show a.mergeWith [row] ++ joinRows A [row] = row.mergeWith (a :: A)
    rw [ih]
    unfold Row.mergeWith
    rw [List.filterMap_cons, List.filterMap_cons, Row.merge?_comm row a]
    cases a.merge? row with
    | none => rfl
    | some c => rfl

theorem joinRows_comm_perm (A B : List Row) : (joinRows A B).Perm (joinRows B A) := by
  induction A with
  | nil =>
    rw [joinRows_nil]
    exact .nil
  | cons a A ih =>
    show (a.mergeWith B ++ joinRows A B).Perm (joinRows B ([a] ++ A))
    rw [← joinRows_singleton]
    exact (ih.append_left _).trans (joinRows_append_perm B [a] A).symm

theorem joinRows_empty (A : List Row) : joinRows A [.empty] = A := by
  rw [joinRows_singleton]
  unfold Row.mergeWith
  simp only [Row.empty_merge?]
  exact List.filterMap_some

/-- Joining the rows of a join with one row is joining with it the rows that the row has merges
with. -/
theorem Row.mergeWith_joinRows (a : Row) (B C : List Row) :
    a.mergeWith (joinRows B C) = joinRows (a.mergeWith B) C := by
  induction B with
  | nil => rfl
  | cons b B ih =>
    have hhead : a.mergeWith (b.mergeWith C) =
        C.filterMap fun c => (a.merge? b).bind (·.merge? c) := by
      unfold mergeWith
      rw [List.filterMap_filterMap]
      simp only [merge?_assoc]
    show a.mergeWith (b.mergeWith C ++ joinRows B C) = joinRows (a.mergeWith (b :: B)) C
    rw [mergeWith_append, ih, hhead]
    conv_rhs => unfold mergeWith
    rw [List.filterMap_cons]
    cases a.merge? b with
    | none => simp only [Option.bind_none, List.filterMap_none, List.nil_append]; rfl
    | some d => rfl

/-- Associativity holds even of the order of rows. -/
theorem joinRows_assoc (A B C : List Row) :
    joinRows A (joinRows B C) = joinRows (joinRows A B) C := by
  induction A with
  | nil => rfl
  | cons a A ih =>
    show a.mergeWith (joinRows B C) ++ joinRows A (joinRows B C) =
      joinRows (a.mergeWith B ++ joinRows A B) C
    rw [ih, Row.mergeWith_joinRows]
    exact List.flatMap_append.symm

/-! ## Cutting a basic pattern -/

namespace Pattern

variable {find : Lookup} {n : Triple → Nat} {ps qs : List Pattern} {b c row : Row}

/-- Of the rows that two lists of patterns give on their own, just one pair merges into a row:
the parts of it that bind the variables of either list. -/
theorem merge?_joinAll (hb : Row.Grows (patternVars ps) .empty b)
    (hbrow : Row.Grows (patternVars qs) b row) (hc : Row.Grows (patternVars qs) .empty c)
    (hcrow : Row.Grows (patternVars ps) c row) {l r : Row}
    (hl : l ∈ joinAll find [.empty] ps) (hr : r ∈ joinAll find [.empty] qs) :
    l.merge? r = some row ↔ l = b ∧ r = c := by
  have hl' := grows_of_mem_joinAll hl
  have hr' := grows_of_mem_joinAll hr
  rw [Row.merge?_eq_some_iff_grows hl' hr']
  constructor
  · rintro ⟨hlrow, hrrow⟩
    refine ⟨hlrow.left_unique hbrow fun x => ?_, hrrow.left_unique hcrow fun x => ?_⟩
    · rw [hl'.binds, hb.binds]
    · rw [hr'.binds, hc.binds]
  · rintro ⟨rfl, rfl⟩
    exact ⟨hbrow, hcrow⟩

/-- A row is in the join of what two lists of patterns give as often as its two parts are in
either. -/
theorem count_joinRows_joinAll (hb : Row.Grows (patternVars ps) .empty b)
    (hbrow : Row.Grows (patternVars qs) b row) (hc : Row.Grows (patternVars qs) .empty c)
    (hcrow : Row.Grows (patternVars ps) c row) :
    (joinRows (joinAll find [.empty] ps) (joinAll find [.empty] qs)).count row =
      (joinAll find [.empty] ps).count b * (joinAll find [.empty] qs).count c := by
  have hmerge {l r : Row} (hl : l ∈ joinAll find [.empty] ps)
      (hr : r ∈ joinAll find [.empty] qs) : l.merge? r = some row ↔ l = b ∧ r = c :=
    merge?_joinAll hb hbrow hc hcrow hl hr
  have hcount (l : Row) : (l.mergeWith (joinAll find [.empty] qs)).count row =
      (joinAll find [.empty] qs).countP fun r => l.merge? r == some row :=
    List.count_filterMap
  have hone (hl : b ∈ joinAll find [.empty] ps) :
      (b.mergeWith (joinAll find [.empty] qs)).count row =
        (joinAll find [.empty] qs).count c := by
    rw [hcount]
    refine List.countP_congr fun r hr => ?_
    rw [beq_iff_eq, beq_iff_eq, hmerge hl hr]
    exact and_iff_right rfl
  have hother (l : Row) (hne : l ≠ b) (hl : l ∈ joinAll find [.empty] ps) :
      (l.mergeWith (joinAll find [.empty] qs)).count row = 0 := by
    rw [hcount, List.countP_eq_zero]
    intro r hr he
    exact hne ((hmerge hl hr).1 (beq_iff_eq.1 he)).1
  unfold joinRows
  rw [List.count_flatMap]
  calc ((joinAll find [.empty] ps).map
        (List.count row ∘ (·.mergeWith (joinAll find [.empty] qs)))).sum
      = (joinAll find [.empty] ps).count b •
          (b.mergeWith (joinAll find [.empty] qs)).count row :=
        List.sum_map_eq_nsmul_single b _ hother
    _ = (joinAll find [.empty] ps).count b * (joinAll find [.empty] qs).count c := by
        rw [Nat.nsmul_eq_mul]
        by_cases hl : b ∈ joinAll find [.empty] ps
        · rw [hone hl]
        · rw [List.count_eq_zero.2 hl, Nat.zero_mul, Nat.zero_mul]

/-- **Basic patterns may be cut.** Looking up all patterns of a list one under the other gives
what its two parts give on their own, joined. -/
theorem joinAll_append_perm (hfind : find.Gives n) (ps qs : List Pattern) :
    (joinAll find [.empty] (ps ++ qs)).Perm
      (joinRows (joinAll find [.empty] ps) (joinAll find [.empty] qs)) := by
  rw [List.perm_iff_count]
  intro row
  by_cases h : Row.Grows (patternVars (ps ++ qs)) .empty row
  · have hrow := h
    rw [patternVars_append] at hrow
    obtain ⟨b, hb, hbrow⟩ := hrow.split
    rw [Set.union_comm] at hrow
    obtain ⟨c, hc, hcrow⟩ := hrow.split
    rw [count_joinRows_joinAll hb hbrow hc hcrow, count_joinAll hfind h, count_joinAll hfind hb,
      count_joinAll hfind hc, multiplicity_append]
    rw [multiplicity_grows hbrow fun x hx => (hb.binds x).2 (.inr hx),
      multiplicity_grows hcrow fun x hx => (hc.binds x).2 (.inr hx)]
  · -- A row that does not bind just the variables is on neither side.
    have hleft : row ∉ joinAll find [.empty] (ps ++ qs) := fun hrow => h (grows_of_mem_joinAll hrow)
    have hright : row ∉ joinRows (joinAll find [.empty] ps) (joinAll find [.empty] qs) := by
      intro hrow
      obtain ⟨l, hl, hlrow⟩ := List.mem_flatMap.1 hrow
      obtain ⟨r, hr, hmerge⟩ := List.mem_filterMap.1 hlrow
      have hl' := grows_of_mem_joinAll hl
      have hgrows := ((Row.merge?_eq_some_iff_grows hl' (grows_of_mem_joinAll hr)).1 hmerge).1
      rw [patternVars_append] at h
      exact h (hl'.trans hgrows)
    rw [List.count_eq_zero.2 hleft, List.count_eq_zero.2 hright]

end Pattern

/-! ## Patterns in a session -/

namespace Session

/-- The pattern has solutions in the session, perhaps no rows, but no error. -/
def Solves (s : Session) (now : DateTime) (p : GraphPattern) : Prop :=
  ∃ rows, ((StoreM.solutions now p).exec s).1 = .ok rows

/-- Both patterns have solutions in the session, and they are the same up to their order. -/
def SameSolutions (s : Session) (now : DateTime) (p q : GraphPattern) : Prop :=
  ∃ A B, ((StoreM.solutions now p).exec s).1 = .ok A ∧
    ((StoreM.solutions now q).exec s).1 = .ok B ∧ A.Perm B

theorem solves_of_length {s : Session} {now : DateTime} {p : GraphPattern} {n : Nat}
    (h : ((StoreM.solutions now p).exec s).1.toOption.map List.length = some n) :
    s.Solves now p := by
  unfold Solves
  generalize ((StoreM.solutions now p).exec s).1 = r at h ⊢
  cases r with
  | error e => exact nomatch h
  | ok rows => exact ⟨rows, rfl⟩

end Session

namespace StoreM

variable {now : DateTime} {s : Session} {p q : GraphPattern} {A B : List Row}

/-- Solving leaves the session, so its result says all. -/
theorem exec_solutions_of_ok (h : ((solutions now p).exec s).1 = .ok A) :
    (solutions now p).exec s = (.ok A, s) :=
  Prod.ext h (readsOnly_solutions now p s)

theorem solutions_join (hp : ((solutions now p).exec s).1 = .ok A)
    (hq : ((solutions now q).exec s).1 = .ok B) :
    ((solutions now (.join p q)).exec s).1 = .ok (joinRows A B) := by
  unfold solutions
  rw [exec_bind_of_ok (exec_solutions_of_ok hp), exec_bind_of_ok (exec_solutions_of_ok hq)]
  rfl

theorem solutions_union (hp : ((solutions now p).exec s).1 = .ok A)
    (hq : ((solutions now q).exec s).1 = .ok B) :
    ((solutions now (.union p q)).exec s).1 = .ok (A ++ B) := by
  unfold solutions
  rw [exec_bind_of_ok (exec_solutions_of_ok hp), exec_bind_of_ok (exec_solutions_of_ok hq)]
  rfl

/-- **The laws of joins.** In every session and for all patterns that have solutions there, joins
are commutative, associative and distributive over unions, and the basic pattern without triple
patterns is neutral; and a basic pattern is the join of any two parts that it is cut into. All
this is up to the order of rows. -/
theorem join_laws (now : DateTime) (s : Session) (p q r : GraphPattern) (hp : s.Solves now p)
    (hq : s.Solves now q) (hr : s.Solves now r) :
    s.SameSolutions now (.join p q) (.join q p) ∧
    s.SameSolutions now (.join p (.join q r)) (.join (.join p q) r) ∧
    s.SameSolutions now (.join p (.union q r)) (.union (.join p q) (.join p r)) ∧
    s.SameSolutions now (.join p (.basic [])) p ∧
    s.SameSolutions now (.join (.basic []) p) p ∧
    ∀ ps qs, s.SameSolutions now (.basic (ps ++ qs)) (.join (.basic ps) (.basic qs)) := by
  obtain ⟨A, hA⟩ := hp
  obtain ⟨B, hB⟩ := hq
  obtain ⟨C, hC⟩ := hr
  have hnone : ((solutions now (.basic [])).exec s).1 = .ok [.empty] := rfl
  refine ⟨?_, ?_, ?_, ?_, ?_, fun ps qs => ?_⟩
  · exact ⟨_, _, solutions_join hA hB, solutions_join hB hA, joinRows_comm_perm A B⟩
  · exact ⟨_, _, solutions_join hA (solutions_join hB hC), solutions_join (solutions_join hA hB) hC,
      .of_eq (joinRows_assoc A B C)⟩
  · exact ⟨_, _, solutions_join hA (solutions_union hB hC),
      solutions_union (solutions_join hA hB) (solutions_join hA hC), joinRows_append_perm A B C⟩
  · exact ⟨_, _, solutions_join hA hnone, hA, .of_eq (joinRows_empty A)⟩
  · refine ⟨_, _, solutions_join hnone hA, hA, ?_⟩
    exact (joinRows_comm_perm [.empty] A).trans (.of_eq (joinRows_empty A))
  · exact ⟨_, _, rfl, solutions_join rfl rfl,
      Pattern.joinAll_append_perm (Selection.gives_find s.graphs) ps qs⟩

/-- A session with the graph of a family. -/
def familySession : Session :=
  let term (name : String) : Term := .iri ⟨name⟩
  ((addGraph (.ofTriples (some ⟨"urn:family"⟩)
    [⟨term "urn:ann", term "urn:parent", term "urn:bob"⟩,
      ⟨term "urn:bob", term "urn:parent", term "urn:cid"⟩]) false).exec
    ⟨Store.default .new, .new⟩).2

/-- Somebody and a child. -/
def childPattern (x y : String) : Pattern := ⟨.var x, .fixed (.iri ⟨"urn:parent"⟩), .var y⟩

/-- Children, grandchildren and a choice of both: the laws hold of them, and there is one
grandchild to join. -/
theorem join_laws_family :
    let now : DateTime := ⟨2024, 1, 1, 12, 0, 0, 0, 0⟩
    let p : GraphPattern := .basic [childPattern "x" "y"]
    let q : GraphPattern := .graph (.named ⟨"urn:family"⟩) (.basic [childPattern "y" "z"])
    let r : GraphPattern := .union p q
    (familySession.Solves now p ∧ familySession.Solves now q ∧ familySession.Solves now r) ∧
    ((solutions now (.join p q)).exec familySession).1.toOption.map List.length = some 1 ∧
    familySession.SameSolutions now (.join p q) (.join q p) ∧
    familySession.SameSolutions now (.join p (.join q r)) (.join (.join p q) r) ∧
    familySession.SameSolutions now (.join p (.union q r)) (.union (.join p q) (.join p r)) ∧
    familySession.SameSolutions now (.join p (.basic [])) p ∧
    familySession.SameSolutions now (.join (.basic []) p) p ∧
    ∀ ps qs, familySession.SameSolutions now (.basic (ps ++ qs)) (.join (.basic ps) (.basic qs)) := by
  intro now p q r
  have hp : familySession.Solves now p := ⟨_, rfl⟩
  have hq : familySession.Solves now q := ⟨_, rfl⟩
  have hr : familySession.Solves now r := ⟨_, rfl⟩
  exact ⟨⟨hp, hq, hr⟩, by decide +kernel, join_laws now familySession p q r hp hq hr⟩

end StoreM

end RdfStore
