import RdfStore.Proofs.Store.Adding
import RdfStore.Proofs.Query.Solving

/-!
# Programs that move between scopes

An action that runs inside a scope may itself enter and leave scopes, in any number and order. What
it leaves behind is the scopes that it has entered on top of those that it has not left
(`ScopeChange`). Leaving the scope afterwards is one step down, so the session is what it was if and
only if the action has put back as many scopes as it has taken off, and the same ones below the top
(`StoreM.inScope_restores_iff`).
-/

namespace RdfStore

/-! ## Moves -/

/-- The current scope and the scopes to return to. -/
def Handle.scopes (h : Handle) : List Scope := h.current :: h.stack

/-- The scopes less the current one, if there is one to return to. -/
def scopesLeft (scopes : List Scope) : List Scope :=
  if scopes.tail = [] then scopes else scopes.tail

/-- One move between scopes. -/
inductive ScopeMove where
  /-- A scope is entered. -/
  | enter (scope : Scope)
  /-- The current scope is left for the one before it. -/
  | leave

/-- What moves between scopes come to: how many of the scopes at the beginning are left, and which
scopes are entered in their place, the last one first. -/
structure ScopeChange where
  left : Nat
  entered : List Scope

namespace ScopeChange

def none : ScopeChange := ⟨0, []⟩

/-- A scope that was entered on the way is left before one of those at the beginning. -/
def move (c : ScopeChange) : ScopeMove → ScopeChange
  | .enter scope => ⟨c.left, scope :: c.entered⟩
  | .leave =>
    match c.entered with
    | [] => ⟨c.left + 1, []⟩
    | _ :: rest => ⟨c.left, rest⟩

def ofMoves (ms : List ScopeMove) : ScopeChange := ms.foldl move none

/-- The scopes after a change. -/
def apply (c : ScopeChange) (scopes : List Scope) : List Scope := c.entered ++ scopes.drop c.left

/-- As many scopes are entered as are left, and below the top they are the same. -/
def PutsBack (c : ScopeChange) (scopes : List Scope) : Prop :=
  c.entered.length = c.left ∧ c.entered.tail = scopes.take (c.left - 1)

theorem apply_enter (c : ScopeChange) (scope : Scope) (scopes : List Scope) :
    (c.move (.enter scope)).apply scopes = scope :: c.apply scopes := rfl

theorem apply_leave (c : ScopeChange) (scopes : List Scope) :
    (c.move .leave).apply scopes = (c.apply scopes).tail := by
  obtain ⟨n, entered⟩ := c
  cases entered with
  | nil =>
    show scopes.drop (n + 1) = (scopes.drop n).tail
    rw [List.tail_drop]
  | cons scope rest => rfl

/-- Below a scope that was entered first there are the scopes from before just if the change puts
back what it takes off. -/
theorem tail_apply_eq_iff {c : ScopeChange} {scope : Scope} {scopes : List Scope}
    (hc : c.left ≤ scopes.length) :
    (c.apply (scope :: scopes)).tail = scopes ↔ c.PutsBack scopes := by
  obtain ⟨n, entered⟩ := c
  unfold apply PutsBack
  dsimp only at hc ⊢
  cases n with
  | zero =>
    cases entered with
    | nil => exact ⟨fun _ => ⟨rfl, rfl⟩, fun _ => rfl⟩
    | cons x rest =>
      refine ⟨fun h => ?_, fun h => nomatch h.1⟩
      have hlength := congrArg List.length h
      simp only [List.cons_append, List.tail_cons, List.drop_zero, List.length_append,
        List.length_cons] at hlength
      omega
  | succ n =>
    cases entered with
    | nil =>
      refine ⟨fun h => ?_, fun h => nomatch h.1⟩
      have hlength := congrArg List.length h
      simp only [List.nil_append, List.drop_succ_cons, List.length_tail, List.length_drop]
        at hlength
      omega
    | cons x rest =>
      show rest ++ scopes.drop n = scopes ↔ rest.length + 1 = n + 1 ∧ rest = scopes.take n
      constructor
      · intro h
        have hlength := congrArg List.length h
        rw [List.length_append, List.length_drop] at hlength
        have hrest : rest.length = n := by omega
        refine ⟨congrArg (· + 1) hrest, ?_⟩
        rw [← h, ← hrest, List.take_left]
      · rintro ⟨-, rfl⟩
        exact List.take_append_drop n scopes

/-- If one scope only was there before, a change that leaves the one that was entered first comes to
the same, since there is nothing to return to any more. -/
theorem scopesLeft_apply_eq_iff {c : ScopeChange} {scope : Scope} {scopes : List Scope}
    (hne : scopes ≠ []) (hc : c.left ≤ scopes.length) :
    scopesLeft (c.apply (scope :: scopes)) = scopes ↔
      c.PutsBack scopes ∨ (scopes.length = 1 ∧ c = ⟨1, []⟩) := by
  rw [← @tail_apply_eq_iff c scope scopes hc]
  unfold scopesLeft
  by_cases htail : (c.apply (scope :: scopes)).tail = []
  · rw [if_pos htail, htail]
    have hlength : (c.apply (scope :: scopes)).length ≤ 1 := by
      have := congrArg List.length htail
      rw [List.length_tail, List.length_nil] at this
      omega
    constructor
    · intro h
      have hone : scopes.length = 1 := by
        rw [h] at hlength
        have := List.length_pos_iff.2 hne
        omega
      obtain ⟨n, entered⟩ := c
      have happly := congrArg List.length h
      simp only [apply, List.length_append, List.length_drop, List.length_cons, hone]
        at happly hc
      have hentered : entered = [] := List.length_eq_zero_iff.1 (by omega)
      have hn : n = 1 := by omega
      exact .inr ⟨hone, by rw [hentered, hn]⟩
    · rintro (h | ⟨hone, ⟨⟩⟩)
      · exact absurd h.symm hne
      · rfl
  · rw [if_neg htail]
    refine ⟨.inl, ?_⟩
    rintro (h | ⟨hone, rfl⟩)
    · exact h
    · -- The only scope is the current one.
      obtain ⟨x, rfl⟩ := List.length_eq_one_iff.1 hone
      exact absurd rfl htail

end ScopeChange

namespace Session

/-- The session back in an earlier scope. -/
def returned (s : Session) (scope : Scope) (rest : List Scope) : Session :=
  { s with handle := { s.handle with current := scope, stack := rest } }

/-- The second session has come from the first by moves, each of which could be made. -/
inductive Moves : Session → List ScopeMove → Session → Prop where
  | nil (s : Session) : Moves s [] s
  | enter {s t : Session} {ms : List ScopeMove} (scope : Scope) (h : Moves (s.within scope) ms t) :
    Moves s (.enter scope :: ms) t
  | leave {s t : Session} {ms : List ScopeMove} {scope : Scope} {rest : List Scope}
    (hstack : s.handle.stack = scope :: rest) (h : Moves (s.returned scope rest) ms t) :
    Moves s (.leave :: ms) t

variable {s t u : Session} {ms ns : List ScopeMove}

theorem Moves.append (h : s.Moves ms t) (h' : t.Moves ns u) : s.Moves (ms ++ ns) u := by
  induction h with
  | nil s => exact h'
  | enter scope _ ih => exact .enter scope (ih h')
  | leave hstack _ ih => exact .leave hstack (ih h')

/-- Only scopes change by moves. -/
theorem Moves.frame (h : s.Moves ms t) :
    t.store = s.store ∧ t.handle.defaultGraph = s.handle.defaultGraph := by
  induction h with
  | nil s => exact ⟨rfl, rfl⟩
  | enter scope _ ih => exact ih
  | leave hstack _ ih => exact ih

/-- One step for each kind of move: the change so far goes on, and a scope is always left. -/
theorem Moves.scopes_foldl {c : ScopeChange} {scopes : List Scope} (h : s.Moves ms t)
    (hs : s.handle.scopes = c.apply scopes) (hc : c.left < scopes.length) :
    t.handle.scopes = (ms.foldl ScopeChange.move c).apply scopes ∧
      (ms.foldl ScopeChange.move c).left < scopes.length := by
  induction h generalizing c with
  | nil s => exact ⟨hs, hc⟩
  | @enter s t ms scope _ ih =>
    refine ih ?_ hc
    rw [ScopeChange.apply_enter, ← hs]
    rfl
  | @leave s t ms scope rest hstack _ ih =>
    have hscopes : s.handle.scopes = s.handle.current :: scope :: rest := by
      unfold Handle.scopes
      rw [hstack]
    refine ih ?_ ?_
    · rw [ScopeChange.apply_leave, ← hs, hscopes]
      rfl
    · obtain ⟨n, entered⟩ := c
      cases entered with
      | cons x entered => exact hc
      | nil =>
        -- Two scopes are there, so one stays.
        have hlength := congrArg List.length (hscopes.symm.trans hs)
        simp only [ScopeChange.apply, List.nil_append, List.length_cons, List.length_drop]
          at hlength
        show n + 1 < scopes.length
        omega

theorem Moves.scopes_eq (h : s.Moves ms t) :
    t.handle.scopes = (ScopeChange.ofMoves ms).apply s.handle.scopes ∧
      (ScopeChange.ofMoves ms).left ≤ s.handle.stack.length := by
  have hnone : s.handle.scopes = ScopeChange.none.apply s.handle.scopes := rfl
  obtain ⟨hscopes, hleft⟩ := h.scopes_foldl hnone (Nat.zero_lt_succ _)
  exact ⟨hscopes, Nat.le_of_lt_succ hleft⟩

theorem eq_of_scopes (hstore : t.store = s.store)
    (hdefault : t.handle.defaultGraph = s.handle.defaultGraph)
    (hscopes : t.handle.scopes = s.handle.scopes) : t = s := by
  obtain ⟨store, current, stack, defaultGraph⟩ := s
  obtain ⟨store', current', stack', defaultGraph'⟩ := t
  obtain ⟨hcurrent, hstack⟩ := List.cons.inj hscopes
  dsimp only at hstore hdefault hcurrent hstack
  rw [hstore, hdefault, hcurrent, hstack]

end Session

/-! ## Programs -/

/-- A program that enters and leaves scopes and runs programs inside scopes. What comes after a step
may depend on its result, and a program that runs inside a scope may have any kind of result. -/
inductive ScopeProgram : Type → Type 1 where
  | done {α : Type} (result : Except StoreError α) : ScopeProgram α
  | enter {α : Type} (target : ScopeTarget) (next : Except StoreError Unit → ScopeProgram α) :
    ScopeProgram α
  | leave {α : Type} (next : Except StoreError Unit → ScopeProgram α) : ScopeProgram α
  | inScope {α β : Type} (target : ScopeTarget) (body : ScopeProgram β)
    (next : Except StoreError β → ScopeProgram α) : ScopeProgram α

namespace StoreM

variable {α : Type}

/-- An action that has the result of another one, or its error, as its result. -/
def outcome (m : StoreM α) : StoreM (Except StoreError α) := liftM m.run

theorem exec_outcome (m : StoreM α) (s : Session) :
    (outcome m).exec s = (.ok (m.exec s).1, (m.exec s).2) := rfl

theorem exec_enterScope (target : ScopeTarget) (s : Session) : (enterScope target).exec s =
    match s.resolve target with
    | .ok scope => (.ok (), s.within scope)
    | .error e => (.error e, s) := by
  unfold enterScope Session.resolve
  rcases hr : (resolveScope target).exec s with ⟨e | scope, t⟩
  · obtain rfl := (readsOnly_resolveScope target).eq_of_exec hr
    exact exec_bind_of_error hr
  · obtain rfl := (readsOnly_resolveScope target).eq_of_exec hr
    exact exec_bind_of_ok hr

theorem exec_leaveScope (s : Session) : leaveScope.exec s =
    match s.handle.stack with
    | [] => (.error .emptyScopeStack, s)
    | scope :: rest => (.ok (), s.returned scope rest) := by
  unfold leaveScope
  rw [exec_bind_of_ok (exec_get s)]
  cases s.handle.stack with
  | nil => rfl
  | cons scope rest => rfl

/-- The session in which a scope is left after an action does not depend on the result. -/
theorem exec_closeScope_snd (result : Except StoreError α) (s : Session) :
    ((closeScope result).exec s).2 = (leaveScope.exec s).2 := rfl

/-- An action runs inside a scope if there is this scope, and then the scope is left once. -/
theorem exec_inScope_eq (target : ScopeTarget) (m : StoreM α) (s : Session) :
    (inScope target m).exec s =
      match s.resolve target with
      | .ok scope =>
        (closeScope (m.exec (s.within scope)).1).exec (m.exec (s.within scope)).2
      | .error e => (.error e, s) := by
  unfold inScope
  rw [exec_bind, exec_enterScope]
  cases s.resolve target with
  | error e => rfl
  | ok scope => rfl

end StoreM

/-- The move by which a scope is left, if there is one to return to. -/
def Session.leaving (s : Session) : List ScopeMove :=
  match s.handle.stack with
  | [] => []
  | _ :: _ => [.leave]

theorem Session.moves_leaving (s : Session) : s.Moves s.leaving (StoreM.leaveScope.exec s).2 := by
  rw [StoreM.exec_leaveScope]
  unfold leaving
  cases hstack : s.handle.stack with
  | nil => exact .nil s
  | cons scope rest => exact .leave hstack (.nil _)

namespace ScopeProgram

open StoreM (exec_bind_of_ok exec_outcome exec_enterScope exec_inScope_eq exec_closeScope_snd)

variable {α β : Type}

def run {α : Type} : ScopeProgram α → StoreM α
  | done result => StoreM.lift id result
  | enter target next => do (next (← StoreM.outcome (StoreM.enterScope target))).run
  | leave next => do (next (← StoreM.outcome StoreM.leaveScope)).run
  | inScope target body next => do
    (next (← StoreM.outcome (StoreM.inScope target body.run))).run

theorem exec_enter (target : ScopeTarget) (next : Except StoreError Unit → ScopeProgram α)
    (s : Session) : (enter target next).run.exec s =
      (next ((StoreM.enterScope target).exec s).1).run.exec ((StoreM.enterScope target).exec s).2 :=
  exec_bind_of_ok (exec_outcome ..)

theorem exec_leave (next : Except StoreError Unit → ScopeProgram α) (s : Session) :
    (leave next).run.exec s =
      (next (StoreM.leaveScope.exec s).1).run.exec (StoreM.leaveScope.exec s).2 :=
  exec_bind_of_ok (exec_outcome ..)

theorem exec_inScope (target : ScopeTarget) (body : ScopeProgram β)
    (next : Except StoreError β → ScopeProgram α) (s : Session) :
    (inScope target body next).run.exec s =
      (next ((StoreM.inScope target body.run).exec s).1).run.exec
        ((StoreM.inScope target body.run).exec s).2 :=
  exec_bind_of_ok (exec_outcome ..)

/-- The moves that a program makes in a session, those inside scopes included. What cannot be
entered or left is no move. -/
def moves {α : Type} : ScopeProgram α → Session → List ScopeMove
  | done _, _ => []
  | enter target next, s =>
    match s.resolve target with
    | .ok scope => .enter scope :: (next (.ok ())).moves (s.within scope)
    | .error e => (next (.error e)).moves s
  | leave next, s =>
    s.leaving ++ (next (StoreM.leaveScope.exec s).1).moves (StoreM.leaveScope.exec s).2
  | inScope target body next, s =>
    let after := (StoreM.inScope target body.run).exec s
    match s.resolve target with
    | .ok scope =>
      .enter scope :: (body.moves (s.within scope) ++
        ((body.run.exec (s.within scope)).2.leaving ++ (next after.1).moves after.2))
    | .error e => (next (.error e)).moves s

/-- A program leads from a session to another by the moves that it makes, whatever fails on the
way. -/
theorem moves_run (f : ScopeProgram α) (s : Session) : s.Moves (f.moves s) (f.run.exec s).2 := by
  induction f generalizing s with
  | done result =>
    show s.Moves [] ((StoreM.lift id result).exec s).2
    rw [StoreM.exec_lift]
    exact .nil s
  | enter target next ih =>
    rw [exec_enter, exec_enterScope]
    unfold moves
    cases s.resolve target with
    | error e => exact ih (.error e) s
    | ok scope => exact .enter scope (ih (.ok ()) _)
  | leave next ih =>
    rw [exec_leave]
    exact s.moves_leaving.append (ih _ _)
  | inScope target body next ihbody ih =>
    rw [exec_inScope]
    unfold moves
    dsimp only
    rw [exec_inScope_eq]
    cases s.resolve target with
    | error e => exact ih (.error e) s
    | ok scope =>
      dsimp only
      refine .enter scope ((ihbody _).append (.append ?_ (ih _ _)))
      rw [exec_closeScope_snd]
      exact Session.moves_leaving _

end ScopeProgram

/-! ## Targets -/

/-- The names that a target needs. -/
def ScopeTarget.names : ScopeTarget → List Iri
  | .default => []
  | .graph _ => []
  | .named i => [i]
  | .union is => is

/-- The first name of a target that no graph has. -/
def Session.missing? (s : Session) (target : ScopeTarget) : Option Iri :=
  target.names.find? fun i => (s.store.collection.ref? (some i)).isNone

namespace Session

variable (s : Session)

/-- Named graphs have a merge unless one is missing, and the first one that is missing is named. -/
theorem result_mergeNamed_cases (g : Graph) (is : List Iri) :
    (∃ i, s.missing? (.union is) = some i ∧
      ((StoreM.mergeNamed g is).exec s).1 = .error (.graphNotFound i)) ∨
    (s.missing? (.union is) = none ∧ ∃ m, ((StoreM.mergeNamed g is).exec s).1 = .ok m) := by
  unfold missing? ScopeTarget.names
  induction is generalizing g with
  | nil => exact .inr ⟨rfl, g, rfl⟩
  | cons i is ih =>
    unfold StoreM.mergeNamed
    rw [(StoreM.readsOnly_requireGraph i).result_bind, result_requireGraph, List.find?_cons]
    cases s.store.collection.ref? (some i) with
    | none => exact .inl ⟨i, rfl, rfl⟩
    | some r => exact ih _

theorem resolve_named_cases (i : Iri) :
    (s.missing? (.named i) = some i ∧ s.resolve (.named i) = .error (.graphNotFound i)) ∨
    (s.missing? (.named i) = none ∧ ∃ scope, s.resolve (.named i) = .ok scope) := by
  unfold missing? ScopeTarget.names
  rw [resolve_named, List.find?_singleton]
  cases s.store.collection.ref? (some i) with
  | none => exact .inl ⟨rfl, rfl⟩
  | some r => exact .inr ⟨rfl, _, rfl⟩

/-- A target has a scope unless one of its names is missing. -/
theorem resolve_cases (target : ScopeTarget) :
    (∃ i, s.missing? target = some i ∧ s.resolve target = .error (.graphNotFound i)) ∨
    (s.missing? target = none ∧ ∃ scope, s.resolve target = .ok scope) := by
  cases target with
  | default => exact .inr ⟨rfl, _, s.resolve_default⟩
  | graph r => exact .inr ⟨rfl, .graph r, rfl⟩
  | named i => exact s.resolve_named_cases i |>.imp_left fun h => ⟨i, h⟩
  | union is =>
    rcases resolve_union_cases is with ⟨i, rfl⟩ | hmerged
    · exact s.resolve_named_cases i |>.imp_left fun h => ⟨i, h⟩
    · rw [hmerged]
      rcases s.result_mergeNamed_cases (.empty none) is with ⟨i, hi, hm⟩ | ⟨hnone, m, hm⟩
      · exact .inl ⟨i, hi, by rw [hm]; rfl⟩
      · exact .inr ⟨hnone, .merged m, by rw [hm]; rfl⟩

/-- The scopes after one is left, if there is one to return to. -/
theorem scopes_leaveScope :
    (StoreM.leaveScope.exec s).2.handle.scopes = scopesLeft s.handle.scopes := by
  rw [StoreM.exec_leaveScope]
  unfold scopesLeft
  cases hstack : s.handle.stack with
  | nil =>
    have htail : s.handle.scopes.tail = [] := hstack
    rw [htail, if_pos rfl]
  | cons scope rest =>
    have htail : s.handle.scopes.tail = scope :: rest := hstack
    rw [htail, if_neg (List.cons_ne_nil scope rest)]
    rfl

end Session

/-! ## What an action leaves behind -/

namespace StoreM

variable {α : Type}

theorem result_closeScope (result : Except StoreError α) (s : Session) :
    ((closeScope result).exec s).1 =
      match result, s.handle.stack with
      | .ok _, [] => .error .emptyScopeStack
      | result, _ => result := by
  have hclose : ((closeScope result).exec s).1 = (do
      let a ← result
      (leaveScope.exec s).1
      return a) := rfl
  rw [hclose, exec_leaveScope]
  cases result with
  | error e => cases s.handle.stack <;> rfl
  | ok a => cases s.handle.stack <;> rfl

variable {s : Session} {target : ScopeTarget} {scope : Scope}

theorem exec_inScope_of_ok (h : s.resolve target = .ok scope) (m : StoreM α) :
    (inScope target m).exec s =
      (closeScope (m.exec (s.within scope)).1).exec (m.exec (s.within scope)).2 := by
  rw [exec_inScope_eq, h]

theorem exec_inScope_of_error {e : StoreError} (h : s.resolve target = .error e) (m : StoreM α) :
    (inScope target m).exec s = (.error e, s) := by
  rw [exec_inScope_eq, h]

/-- What is left after a program has run inside a scope: the scopes as the program changes them,
one of them less, and all the rest as before. -/
theorem session_after_inScope (h : s.resolve target = .ok scope) (f : ScopeProgram α) :
    ((inScope target f.run).exec s).2.store = s.store ∧
    ((inScope target f.run).exec s).2.handle.defaultGraph = s.handle.defaultGraph ∧
    ((inScope target f.run).exec s).2.handle.scopes =
      scopesLeft ((ScopeChange.ofMoves (f.moves (s.within scope))).apply
        (scope :: s.handle.scopes)) := by
  have hinside := f.moves_run (s.within scope)
  obtain ⟨hstore, hdefault⟩ := (hinside.append (Session.moves_leaving _)).frame
  rw [exec_inScope_of_ok h, exec_closeScope_snd]
  exact ⟨hstore, hdefault,
    (Session.scopes_leaveScope _).trans (congrArg scopesLeft hinside.scopes_eq.1)⟩

/-- **What runs inside a scope restores the session just if it puts back what it takes off.** Where
there was nothing to return to, it may also leave its own scope, and then leaving it again is an
error. If a name of the target is missing, the action does not run and nothing changes. -/
theorem inScope_restores_iff (s : Session) (target : ScopeTarget) (f : ScopeProgram α) :
    (∃ i, s.missing? target = some i ∧
      ∀ {β : Type} (m : StoreM β), (inScope target m).exec s = (.error (.graphNotFound i), s)) ∨
    (s.missing? target = none ∧ ∃ scope, s.resolve target = .ok scope ∧
      let change := ScopeChange.ofMoves (f.moves (s.within scope))
      let ended := f.run.exec (s.within scope)
      let after := (inScope target f.run).exec s
      (after.2 = s ↔
        change.PutsBack s.handle.scopes ∨ (s.handle.stack = [] ∧ change = ⟨1, []⟩)) ∧
      after.1 = match ended.1, ended.2.handle.stack with
        | .ok _, [] => .error .emptyScopeStack
        | result, _ => result) := by
  rcases s.resolve_cases target with ⟨i, hmissing, hresolve⟩ | ⟨hnone, scope, hresolve⟩
  · exact .inl ⟨i, hmissing, fun m => exec_inScope_of_error hresolve m⟩
  · refine .inr ⟨hnone, scope, hresolve, ?_, ?_⟩
    · obtain ⟨hstore, hdefault, hscopes⟩ := session_after_inScope hresolve f
      have hleft := (f.moves_run (s.within scope)).scopes_eq.2
      have hone : s.handle.scopes.length = 1 ↔ s.handle.stack = [] :=
        Nat.succ_inj.trans List.length_eq_zero_iff
      have hne : s.handle.scopes ≠ [] := List.cons_ne_nil _ _
      rw [← hone, ← ScopeChange.scopesLeft_apply_eq_iff hne hleft, ← hscopes]
      exact ⟨fun h => congrArg (·.handle.scopes) h, Session.eq_of_scopes hstore hdefault⟩
    · rw [exec_inScope_of_ok hresolve]
      exact result_closeScope _ _

/-- A session with one graph, whose name is `urn:a`. -/
def oneGraphSession : Session :=
  Session.new.withCollection (Collection.empty.enter (.empty (some ⟨"urn:a"⟩))).2

/-- A program that goes back to the default graph by entering it, and stays there. -/
def goToDefault : ScopeProgram Unit := .enter .default .done

/-- The program comes to an end without an error, but the graph that it ran in is the current scope
now, in the place of the whole store. -/
theorem inScope_stays_after_enter :
    ((inScope (.named ⟨"urn:a"⟩) goToDefault.run).exec oneGraphSession).1 = .ok () ∧
      oneGraphSession.handle.scopes = [.everything] ∧
      ((inScope (.named ⟨"urn:a"⟩) goToDefault.run).exec oneGraphSession).2.handle.scopes =
        [.graph ⟨0⟩, .everything] ∧
      ((inScope (.named ⟨"urn:a"⟩) goToDefault.run).exec oneGraphSession).2 ≠ oneGraphSession := by
  have hafter : ((inScope (.named ⟨"urn:a"⟩) goToDefault.run).exec
      oneGraphSession).2.handle.scopes = [.graph ⟨0⟩, .everything] := rfl
  refine ⟨rfl, rfl, hafter, fun h => ?_⟩
  rw [h] at hafter
  exact nomatch hafter

end StoreM

end RdfStore
