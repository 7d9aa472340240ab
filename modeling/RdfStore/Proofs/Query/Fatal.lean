import RdfStore.Proofs.Expr.Visiting
import RdfStore.Proofs.Query.Scope

/-!
# Fatal errors of queries

A query evaluates expressions on rows: a condition on the rows that it is a condition of, an
extension on those that it extends, each until one of them ends the evaluation
(`GraphPattern.Evaluates`). Conditions and extensions go on from recoverable errors. A fatal error
they do not survive, and it is what the whole query fails with (`StoreM.unevaluable_never_caught`).
-/

namespace RdfStore

/-! ## Evaluated expressions -/

/-- Whether an action fails in a session. -/
def StoreM.failsIn {α : Type} (m : StoreM α) (s : Session) : Bool :=
  match (m.exec s).1 with
  | .ok _ => false
  | .error _ => true

namespace Session

/-- The scope of a target is there, and inside it the session has the property. -/
def Inside (s : Session) (target : ScopeTarget) (P : Session → Prop) : Prop :=
  ∃ scope, ((StoreM.resolveScope target).exec s).1 = .ok scope ∧ P (s.within scope)

/-- The pattern has just these solutions in the session. -/
def SolvedBy (s : Session) (now : DateTime) (p : GraphPattern) (rows : List Row) : Prop :=
  ((StoreM.solutions now p).exec s).1 = .ok rows

end Session

namespace GraphPattern

/-- Solving the pattern evaluates the expression on the row. The right one of two patterns is solved
if the left one has solutions; of a list of rows, and of the graphs whose name a variable takes,
those are gone through that come no later than the first failure. -/
def Evaluates (now : DateTime) (e : Expr) (row : Row) : GraphPattern → Session → Prop
  | .basic _, _ => False
  | .join l r, s => l.Evaluates now e row s ∨ s.Solves now l ∧ r.Evaluates now e row s
  | .union l r, s => l.Evaluates now e row s ∨ s.Solves now l ∧ r.Evaluates now e row s
  | .leftJoin l r condition, s =>
    (l.Evaluates now e row s ∨ s.Solves now l ∧ r.Evaluates now e row s) ∨
      condition = some e ∧ ∃ left right, s.SolvedBy now l left ∧ s.SolvedBy now r right ∧
        row ∈ upTo (fun row => (e.fatal? now row).isSome) (joinRows left right)
  | .filter condition p, s =>
    p.Evaluates now e row s ∨
      condition = e ∧ ∃ rows, s.SolvedBy now p rows ∧
        row ∈ upTo (fun row => (e.fatal? now row).isSome) rows
  | .extend p x extension, s =>
    p.Evaluates now e row s ∨
      extension = e ∧ row.contains x = false ∧ ∃ rows, s.SolvedBy now p rows ∧
        row ∈ upTo (fun row => (extendFault? now x e row).isSome) rows
  | .graph .default p, s => s.Inside .default (p.Evaluates now e row)
  | .graph (.named i) p, s => s.Inside (.named i) (p.Evaluates now e row)
  | .graph (.union is) p, s => s.Inside (.union is) (p.Evaluates now e row)
  | .graph (.var _) p, s =>
    ∃ i ∈ upTo (fun i => (StoreM.inScope (.named i) (StoreM.solutions now p)).failsIn s)
      (s.store.collection.names.filterMap id), s.Inside (.named i) (p.Evaluates now e row)

end GraphPattern

namespace StoreM

variable {α β : Type} {m : StoreM α} {s t : Session} {e : StoreError}

/-! ## Where an action fails -/

/-- A sequence whose first action reads fails if that fails, or if what comes after it does, in the
same session. -/
theorem fails_bind_iff (hm : m.ReadsOnly) {f : α → StoreM β} :
    ((m >>= f).exec s).1 = .error e ↔
      (m.exec s).1 = .error e ∨ ∃ a, (m.exec s).1 = .ok a ∧ ((f a).exec s).1 = .error e := by
  rcases h : m.exec s with ⟨e' | a, t⟩
  · rw [exec_bind_of_error h]
    simp
  · obtain rfl := hm.eq_of_exec h
    rw [exec_bind_of_ok h]
    simp

theorem fails_inScope_iff (hm : m.ReadsOnly) {target : ScopeTarget} :
    ((inScope target m).exec s).1 = .error e ↔
      ((resolveScope target).exec s).1 = .error e ∨
        s.Inside target fun t => (m.exec t).1 = .error e := by
  rw [exec_inScope hm]
  unfold Session.Inside
  cases h : ((resolveScope target).exec s).1 with
  | error e' =>
    show (Except.error e' : Except StoreError α) = .error e ↔ _
    simp
  | ok scope =>
    show (m.exec (s.within scope)).1 = .error e ↔ _
    simp

theorem fails_inEach_iff {solve : StoreM (List Row)} (hread : solve.ReadsOnly) {x : String}
    {is : List Iri} : ((inEach x solve is).exec s).1 = .error e ↔
      ∃ i ∈ upTo (fun i => (inScope (.named i) solve).failsIn s) is,
        ((inScope (.named i) solve).exec s).1 = .error e := by
  induction is with
  | nil =>
    refine iff_of_false nofun ?_
    rintro ⟨i, hi, -⟩
    exact not_mem_upTo_nil hi
  | cons i is ih =>
    have hrest (rows : List Row) : ((do
        let rest ← inEach x solve is
        return bindRows x (.iri i) rows ++ rest : StoreM (List Row)).exec s).1 = .error e ↔
          ((inEach x solve is).exec s).1 = .error e := by
      rw [fails_bind_iff (readsOnly_inEach hread x is)]
      simp
    unfold inEach
    rw [fails_bind_iff (hread.inScope (.named i))]
    simp only [hrest, ih, mem_upTo_cons]
    cases h : ((inScope (.named i) solve).exec s).1 with
    | error e' => simp [failsIn, h]
    | ok rows => simp [failsIn, h]

variable {err : EvalError} {now : DateTime} {p l r : GraphPattern}

theorem requireGraph_ne_eval {i : Iri} :
    ((requireGraph i).exec s).1 ≠ .error (.eval err) := by
  unfold requireGraph
  rw [exec_bind_of_ok (exec_collection s)]
  cases s.store.collection.ref? (some i) with
  | none => exact nofun
  | some r => exact nofun

theorem mergeNamed_ne_eval {g : Graph} {is : List Iri} :
    ((mergeNamed g is).exec s).1 ≠ .error (.eval err) := by
  induction is generalizing g with
  | nil => exact nofun
  | cons i is ih =>
    unfold mergeNamed
    rw [Ne, fails_bind_iff (readsOnly_requireGraph i)]
    rintro (h | ⟨r, -, h⟩)
    · exact requireGraph_ne_eval h
    · exact ih h

/-- That there is no scope to enter is not the fault of an expression. -/
theorem resolveScope_ne_eval {target : ScopeTarget} :
    ((resolveScope target).exec s).1 ≠ .error (.eval err) := by
  have hnamed (i : Iri) :
      ((do return Scope.graph (← requireGraph i)).exec s).1 ≠ .error (.eval err) := by
    rw [Ne, fails_bind_iff (readsOnly_requireGraph i)]
    rintro (h | ⟨r, -, h⟩)
    · exact requireGraph_ne_eval h
    · exact nomatch h
  unfold resolveScope
  split
  · rw [exec_bind_of_ok (exec_get s)]
    cases s.handle.defaultGraph with
    | none => exact nofun
    | some r => exact nofun
  · exact nofun
  · exact hnamed _
  · exact hnamed _
  · rw [Ne, fails_bind_iff (readsOnly_mergeNamed _ _)]
    rintro (h | ⟨g, -, h⟩)
    · exact mergeNamed_ne_eval h
    · exact nomatch h

/-- Of two patterns the right one is solved if the left one has solutions, and what is to be done
with the solutions of both is done if both have some. -/
theorem fails_pair_iff {f : List Row → List Row → StoreM α} : ((do
      let left ← solutions now l
      let right ← solutions now r
      f left right).exec s).1 = .error e ↔
    (((solutions now l).exec s).1 = .error e ∨
      s.Solves now l ∧ ((solutions now r).exec s).1 = .error e) ∨
    ∃ left right, s.SolvedBy now l left ∧ s.SolvedBy now r right ∧
      ((f left right).exec s).1 = .error e := by
  rw [fails_bind_iff (readsOnly_solutions now l)]
  simp only [fails_bind_iff (readsOnly_solutions now r)]
  constructor
  · rintro (h | ⟨left, hleft, h | ⟨right, hright, h⟩⟩)
    · exact .inl (.inl h)
    · exact .inl (.inr ⟨⟨left, hleft⟩, h⟩)
    · exact .inr ⟨left, right, hleft, hright, h⟩
  · rintro ((h | ⟨⟨left, hleft⟩, h⟩) | ⟨left, right, hleft, hright, h⟩)
    · exact .inl h
    · exact .inr ⟨left, hleft, .inl h⟩
    · exact .inr ⟨left, hleft, .inr ⟨right, hright, h⟩⟩

theorem fails_lift_eval_iff {rows : Except EvalError α} :
    ((lift .eval rows).exec s).1 = .error (.eval err) ↔ rows = .error err := by
  rw [exec_lift]
  cases rows with
  | error err' =>
    show (Except.error (.eval err') : Except StoreError α) = .error (.eval err) ↔ _
    simp
  | ok rows => exact iff_of_false nofun nofun

theorem fails_lift_id_iff {rows : Except StoreError α} :
    ((lift id rows).exec s).1 = .error e ↔ rows = .error e := by
  rw [exec_lift]
  cases rows with
  | error e' => rfl
  | ok rows => exact iff_of_false nofun nofun

/-- Rows that are gone through until an expression is fatal have its error if it is. -/
theorem findSome?_fatal_iff {c : Expr} {rows : List Row} : rows.findSome? (c.fatal? now) = some err ↔
    ∃ row ∈ upTo (fun row => (c.fatal? now row).isSome) rows, c.fatal? now row = some err :=
  findSome?_eq_some_iff_upTo

theorem findSome?_conditionFatal?_iff {condition : Option Expr} {rows : List Row} :
    rows.findSome? (conditionFatal? now condition) = some err ↔
      ∃ c, condition = some c ∧ ∃ row ∈ upTo (fun row => (c.fatal? now row).isSome) rows,
        c.fatal? now row = some err := by
  cases condition with
  | none => simp [findSome?_conditionFatal?_none]
  | some c => simp [conditionFatal?_some, findSome?_fatal_iff]

theorem extendFault?_eq_eval_iff {x : String} {c : Expr} {row : Row} :
    extendFault? now x c row = some (.eval err) ↔
      row.contains x = false ∧ c.fatal? now row = some err := by
  unfold extendFault?
  cases row.contains x with
  | true => simp
  | false => simp

theorem fails_inScope_solutions_iff {target : ScopeTarget}
    (ih : ∀ {s}, ((solutions now p).exec s).1 = .error (.eval err) ↔
      ∃ c row, p.Evaluates now c row s ∧ c.fatal? now row = some err) :
    ((inScope target (solutions now p)).exec s).1 = .error (.eval err) ↔
      ∃ c row, s.Inside target (p.Evaluates now c row) ∧ c.fatal? now row = some err := by
  rw [fails_inScope_iff (readsOnly_solutions now p), or_iff_right resolveScope_ne_eval]
  unfold Session.Inside
  constructor
  · rintro ⟨scope, hscope, h⟩
    obtain ⟨c, row, hc, hfatal⟩ := ih.1 h
    exact ⟨c, row, ⟨scope, hscope, hc⟩, hfatal⟩
  · rintro ⟨c, row, ⟨scope, hscope, hc⟩, hfatal⟩
    exact ⟨scope, hscope, ih.2 ⟨c, row, hc, hfatal⟩⟩

/-- **Where the errors of expressions come from.** A pattern fails with one if and only if solving it
evaluates an expression on a row for which it has this error, and the error is fatal. By induction
on the pattern, in all sessions at once. -/
theorem fails_solutions_iff : ((solutions now p).exec s).1 = .error (.eval err) ↔
    ∃ c row, p.Evaluates now c row s ∧ c.fatal? now row = some err := by
  induction p generalizing s with
  | basic ps =>
    rw [exec_solutions_basic]
    refine iff_of_false nofun ?_
    rintro ⟨c, row, h, -⟩
    exact h
  | join l r ihl ihr =>
    unfold solutions GraphPattern.Evaluates
    rw [fails_pair_iff, ihl, ihr]
    simp [or_and_right, exists_or, and_assoc]
  | union l r ihl ihr =>
    unfold solutions GraphPattern.Evaluates
    rw [fails_pair_iff, ihl, ihr]
    simp [or_and_right, exists_or, and_assoc]
  | leftJoin l r condition ihl ihr =>
    unfold solutions GraphPattern.Evaluates
    rw [fails_pair_iff, ihl, ihr]
    simp only [fails_lift_eval_iff, leftJoinRows_eq, unlessFault_eq_error_iff]
    constructor
    · rintro ((⟨c, row, h, hfatal⟩ | ⟨hl, c, row, h, hfatal⟩) | ⟨left, right, hleft, hright, h⟩)
      · exact ⟨c, row, .inl (.inl h), hfatal⟩
      · exact ⟨c, row, .inl (.inr ⟨hl, h⟩), hfatal⟩
      · obtain ⟨c, hc, row, hrow, hfatal⟩ := findSome?_conditionFatal?_iff.1 h
        exact ⟨c, row, .inr ⟨hc, left, right, hleft, hright, hrow⟩, hfatal⟩
    · rintro ⟨c, row, (h | ⟨hl, h⟩) | ⟨hc, left, right, hleft, hright, hrow⟩, hfatal⟩
      · exact .inl (.inl ⟨c, row, h, hfatal⟩)
      · exact .inl (.inr ⟨hl, c, row, h, hfatal⟩)
      · exact .inr ⟨left, right, hleft, hright,
          findSome?_conditionFatal?_iff.2 ⟨c, hc, row, hrow, hfatal⟩⟩
  | filter c p ih =>
    unfold solutions GraphPattern.Evaluates
    rw [fails_bind_iff (readsOnly_solutions now p), ih]
    simp only [fails_lift_eval_iff, filterRows_eq, unlessFault_eq_error_iff]
    constructor
    · rintro (⟨c', row, h, hfatal⟩ | ⟨rows, hrows, h⟩)
      · exact ⟨c', row, .inl h, hfatal⟩
      · obtain ⟨row, hrow, hfatal⟩ := findSome?_fatal_iff.1 h
        exact ⟨c, row, .inr ⟨rfl, rows, hrows, hrow⟩, hfatal⟩
    · rintro ⟨c', row, h | ⟨rfl, rows, hrows, hrow⟩, hfatal⟩
      · exact .inl ⟨c', row, h, hfatal⟩
      · exact .inr ⟨rows, hrows, findSome?_fatal_iff.2 ⟨row, hrow, hfatal⟩⟩
  | extend p x c ih =>
    unfold solutions GraphPattern.Evaluates
    rw [fails_bind_iff (readsOnly_solutions now p), ih]
    simp only [fails_lift_id_iff, extendRows_eq, unlessFault_eq_error_iff]
    constructor
    · rintro (⟨c', row, h, hfatal⟩ | ⟨rows, hrows, h⟩)
      · exact ⟨c', row, .inl h, hfatal⟩
      · -- A row that binds the variable ends the evaluation too, but not with an error of `c`.
        obtain ⟨row, hrow, hfault⟩ := findSome?_eq_some_iff_upTo.1 h
        obtain ⟨hfree, hfatal⟩ := extendFault?_eq_eval_iff.1 hfault
        exact ⟨c, row, .inr ⟨rfl, hfree, rows, hrows, hrow⟩, hfatal⟩
    · rintro ⟨c', row, h | ⟨rfl, hfree, rows, hrows, hrow⟩, hfatal⟩
      · exact .inl ⟨c', row, h, hfatal⟩
      · exact .inr ⟨rows, hrows, findSome?_eq_some_iff_upTo.2
          ⟨row, hrow, extendFault?_eq_eval_iff.2 ⟨hfree, hfatal⟩⟩⟩
  | graph target p ih =>
    cases target with
    | default => exact fails_inScope_solutions_iff ih
    | named i => exact fails_inScope_solutions_iff ih
    | union is => exact fails_inScope_solutions_iff ih
    | var x =>
      -- One scope after the other, until one of them fails.
      unfold solutions GraphPattern.Evaluates
      rw [exec_bind_of_ok (exec_collection s), fails_inEach_iff (readsOnly_solutions now p)]
      simp only [fails_inScope_solutions_iff ih]
      constructor
      · rintro ⟨i, hi, c, row, h, hfatal⟩
        exact ⟨c, row, ⟨i, hi, h⟩, hfatal⟩
      · rintro ⟨c, row, ⟨i, hi, h⟩, hfatal⟩
        exact ⟨i, hi, c, row, h, hfatal⟩

end StoreM

/-! ## Queries -/

/-- The pattern of a query, in the graphs of its dataset if it has one. -/
def Query.placed (q : Query) : GraphPattern :=
  match q.dataset with
  | some is => .graph (.union is) q.pattern
  | none => q.pattern

namespace StoreM

variable {s : Session} {e : StoreError} {now : DateTime} {q : Query}

theorem solveQuery_eq (q : Query) (now : DateTime) : solveQuery q now = solutions now q.placed := by
  unfold solveQuery Query.placed
  cases q.dataset with
  | none => rfl
  | some is => rfl

theorem infallible_constructGraph (template : List Pattern) (rows : List Row) :
    (constructGraph template rows).Infallible :=
  infallible_get.bind fun _ => (infallible_modifyStore _).bind fun _ => infallible_pure _

/-- Once there are solutions there is an answer. -/
theorem infallible_answer (q : Query) (rows : List Row) : (answer q rows).Infallible := by
  unfold answer
  split
  · exact infallible_pure _
  · exact infallible_pure _
  · exact (infallible_constructGraph _ rows).bind fun _ => infallible_pure _
  · exact infallible_get.bind fun _ => infallible_pure _

theorem fails_query_iff (h : s.UsesStandard) : ((query q now).exec s).1 = .error e ↔
    ((solutions now q.placed).exec s).1 = .error e := by
  have hquery : (query q now).exec s = (solutions now q.placed >>= answer q).exec s := by
    rw [← solveQuery_eq, ← evaluateStandard_eq]
    exact exec_bind_of_ok (exec_engine h)
  rw [hquery, fails_bind_iff (readsOnly_solutions now q.placed)]
  refine or_iff_left ?_
  rintro ⟨rows, -, hanswer⟩
  exact infallible_answer q rows s e _ (Prod.ext hanswer rfl)

/-- **That a function has no implementation is never caught.** An expression fails with it if and only
if its evaluation goes to a call of such a function; and a query fails with it if and only if
solving its pattern evaluates, on some row, a condition or an extension that fails with it. -/
theorem unevaluable_never_caught (now : DateTime) :
    (∀ (c : Expr) row, (∃ f, c.evaluate row now = .error (.unevaluable f)) ↔
      ∃ i args, c.Visits row now (.call (.unknown i) args)) ∧
    ∀ s, s.UsesStandard → ∀ q f, ((query q now).exec s).1 = .error (.eval (.unevaluable f)) ↔
      ∃ c row, q.placed.Evaluates now c row s ∧ c.evaluate row now = .error (.unevaluable f) := by
  refine ⟨fun c row => c.fatal_evaluate_iff row now, fun s hs q f => ?_⟩
  have hfatal (c : Expr) (row : Row) : c.fatal? now row = some (.unevaluable f) ↔
      c.evaluate row now = .error (.unevaluable f) :=
    Expr.fatal?_eq_some_iff.trans (and_iff_left rfl)
  rw [fails_query_iff hs, fails_solutions_iff]
  simp only [hfatal]

/-- A true side of a disjunction does not save a call of a missing function, nor does an alternative
to it: on the first child the condition is fatal, and so the query is. -/
theorem unevaluable_never_caught_family :
    let missing : Expr := .call (.unknown ⟨"urn:missing"⟩) []
    let yes : Expr := .const (.ofBool true)
    let c : Expr := .call .or [yes, .call .coalesce [missing, yes]]
    let row : Row := (SortedMap.empty.insert "x" (.iri ⟨"urn:ann"⟩)).insert "y" (.iri ⟨"urn:bob"⟩)
    let p : GraphPattern := .filter c (.basic [childPattern "x" "y"])
    familySession.UsesStandard ∧ c.Visits row noon missing ∧
      (∃ f, c.evaluate row noon = .error (.unevaluable f)) ∧
      ((query ⟨.ask, none, p⟩ noon).exec familySession).1 =
        .error (.eval (.unevaluable "urn:missing")) := by
  intro missing yes c row p
  obtain ⟨hexpr, hquery⟩ := unevaluable_never_caught noon
  have hstandard : familySession.UsesStandard := rfl
  have hvisits : c.Visits row noon missing :=
    .argument (List.mem_cons_of_mem _ List.mem_cons_self) (.argument List.mem_cons_self (.root _))
  have hevaluates : p.Evaluates noon c row familySession :=
    .inr ⟨rfl, _, rfl, List.mem_cons_self⟩
  exact ⟨hstandard, hvisits, (hexpr c row).2 ⟨_, _, hvisits⟩,
    (hquery familySession hstandard _ _).2 ⟨c, row, hevaluates, rfl⟩⟩

end StoreM

end RdfStore
