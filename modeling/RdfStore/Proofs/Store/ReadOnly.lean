import RdfStore.Query.Evaluate

/-!
# Actions that only read

An action run in a session gives a result and a session (`StoreM.exec`). Solving a pattern enters
scopes and leaves them again, whatever fails on the way, so that the session is afterwards what
it was (`StoreM.readsOnly_solutions`).
-/

namespace RdfStore

namespace Session

/-- The session inside a scope. -/
def within (s : Session) (scope : Scope) : Session :=
  { s with
    handle := { s.handle with current := scope, stack := s.handle.current :: s.handle.stack } }

/-- The session with another collection. -/
def withCollection (s : Session) (c : Collection) : Session :=
  { s with store := { s.store with collection := c } }

/-- The session with another supply of blank nodes. -/
def withSupply (s : Session) (u : Supply) : Session :=
  { s with store := { s.store with supply := u } }

@[simp] theorem collection_withCollection {s : Session} {c : Collection} :
    (s.withCollection c).store.collection = c := rfl

end Session

namespace StoreM

variable {α β : Type}

/-! ## Running an action -/

/-- The result of an action in a session, and the session that it leaves. -/
def exec (m : StoreM α) (s : Session) : Except StoreError α × Session := (ExceptT.run m).run s

variable {s t : Session}

@[simp] theorem exec_pure (a : α) (s : Session) : (pure a : StoreM α).exec s = (.ok a, s) := rfl

@[simp] theorem exec_throw (e : StoreError) (s : Session) :
    (throw e : StoreM α).exec s = (.error e, s) := rfl

/-- A sequence goes on where its first action ends, unless that fails. -/
theorem exec_bind (m : StoreM α) (f : α → StoreM β) (s : Session) :
    (m >>= f).exec s =
      match m.exec s with
      | (.ok a, t) => (f a).exec t
      | (.error e, t) => (.error e, t) := by
  rcases h : m.exec s with ⟨_ | a, t⟩
  all_goals
    simp only [exec, ExceptT.run, StateT.run] at h
    simp [exec, ExceptT.run, StateT.run, bind, ExceptT.bind, ExceptT.mk, ExceptT.bindCont,
      StateT.bind, h]
  rfl

theorem exec_bind_of_ok {m : StoreM α} {f : α → StoreM β} {a : α}
    (h : m.exec s = (.ok a, t)) : (m >>= f).exec s = (f a).exec t := by
  rw [exec_bind, h]

theorem exec_bind_of_error {m : StoreM α} {f : α → StoreM β} {e : StoreError}
    (h : m.exec s = (.error e, t)) : (m >>= f).exec s = (.error e, t) := by
  rw [exec_bind, h]

/-- What follows an action matters only where the action ends. -/
theorem exec_bind_congr {m : StoreM α} {f g : α → StoreM β}
    (h : ∀ a t, m.exec s = (.ok a, t) → (f a).exec t = (g a).exec t) :
    (m >>= f).exec s = (m >>= g).exec s := by
  rcases hm : m.exec s with ⟨e | a, t⟩
  · rw [exec_bind_of_error hm, exec_bind_of_error hm]
  · rw [exec_bind_of_ok hm, exec_bind_of_ok hm, h a t hm]

@[simp] theorem exec_get (s : Session) : (get : StoreM Session).exec s = (.ok s, s) := rfl

@[simp] theorem exec_collection (s : Session) :
    collection.exec s = (.ok s.store.collection, s) := rfl

@[simp] theorem exec_lift {ε : Type} (wrap : ε → StoreError) (r : Except ε α) (s : Session) :
    (lift wrap r).exec s = (r.mapError wrap, s) := by
  cases r <;> rfl

theorem exec_lift_eq_ok_iff {ε : Type} {wrap : ε → StoreError} {r : Except ε α} {a : α} :
    (lift wrap r).exec s = (.ok a, t) ↔ r = .ok a ∧ s = t := by
  rw [exec_lift]
  cases r with
  | error e =>
    show (Except.error (wrap e), s) = (.ok a, t) ↔ _
    simp
  | ok b =>
    show (Except.ok b, s) = (.ok a, t) ↔ _
    simp

/-- A handler starts where the action has failed, and does not run otherwise. -/
theorem exec_tryCatch (m : StoreM α) (f : StoreError → StoreM α) (s : Session) :
    (tryCatch m f).exec s =
      match m.exec s with
      | (.ok a, t) => (.ok a, t)
      | (.error e, t) => (f e).exec t := by
  rcases h : m.exec s with ⟨_ | a, t⟩
  all_goals
    simp only [exec, ExceptT.run, StateT.run] at h
    simp [exec, ExceptT.run, StateT.run, bind, ExceptT.tryCatch, ExceptT.mk, StateT.bind, h,
      tryCatch, tryCatchThe, MonadExceptOf.tryCatch]
  rfl

/-- A sequence fails if its first action does, or the action after it where the first one ends. -/
theorem exec_bind_error_iff {m : StoreM α} {f : α → StoreM β} {e : StoreError} :
    (m >>= f).exec s = (.error e, t) ↔
      m.exec s = (.error e, t) ∨ ∃ a u, m.exec s = (.ok a, u) ∧ (f a).exec u = (.error e, t) := by
  rw [exec_bind]
  rcases m.exec s with ⟨_ | a, u⟩
  · simp
  · constructor
    · exact fun h => .inr ⟨a, u, rfl, h⟩
    · rintro (h | ⟨_, _, h, hf⟩)
      · exact nomatch h
      · cases h
        exact hf

/-! ## Reading -/

/-- The action leaves every session as it is. -/
def ReadsOnly (m : StoreM α) : Prop := ∀ s, (m.exec s).2 = s

theorem ReadsOnly.eq_of_exec {m : StoreM α} {r : Except StoreError α} (hm : m.ReadsOnly)
    (h : m.exec s = (r, t)) : t = s := by
  have hs := hm s
  rw [h] at hs
  exact hs

/-- What only reads and then fails has failed in the session that it was given, and so does what
comes after it. -/
theorem ReadsOnly.bind_error_iff {m : StoreM α} {f : α → StoreM β} {e : StoreError}
    (hm : m.ReadsOnly) : (m >>= f).exec s = (.error e, t) ↔
      (m.exec s = (.error e, s) ∧ t = s) ∨
        ∃ a, m.exec s = (.ok a, s) ∧ (f a).exec s = (.error e, t) := by
  rw [exec_bind_error_iff]
  constructor
  · rintro (h | ⟨a, u, hu, h⟩)
    · obtain rfl := hm.eq_of_exec h
      exact .inl ⟨h, rfl⟩
    · obtain rfl := hm.eq_of_exec hu
      exact .inr ⟨a, hu, h⟩
  · rintro (⟨h, rfl⟩ | ⟨a, hu, h⟩)
    · exact .inl h
    · exact .inr ⟨a, s, hu, h⟩

theorem readsOnly_pure (a : α) : (pure a : StoreM α).ReadsOnly := fun _ => rfl

theorem readsOnly_throw (e : StoreError) : (throw e : StoreM α).ReadsOnly := fun _ => rfl

theorem readsOnly_get : (get : StoreM Session).ReadsOnly := fun _ => rfl

theorem readsOnly_collection : collection.ReadsOnly := fun _ => rfl

theorem readsOnly_lift {ε : Type} (wrap : ε → StoreError) (r : Except ε α) :
    (lift wrap r).ReadsOnly := fun s => by rw [exec_lift]

theorem ReadsOnly.bind {m : StoreM α} {f : α → StoreM β} (hm : m.ReadsOnly)
    (hf : ∀ a, (f a).ReadsOnly) : (m >>= f).ReadsOnly := by
  intro s
  rcases h : m.exec s with ⟨e | a, t⟩
  · rw [exec_bind_of_error h]
    exact hm.eq_of_exec h
  · rw [exec_bind_of_ok h, hf a t]
    exact hm.eq_of_exec h

/-! ## Scopes -/

theorem readsOnly_requireGraph (i : Iri) : (requireGraph i).ReadsOnly := by
  refine readsOnly_collection.bind fun c => ?_
  cases c.ref? (some i) with
  | none => exact readsOnly_throw _
  | some r => exact readsOnly_pure r

theorem readsOnly_mergeNamed (g : Graph) (is : List Iri) : (mergeNamed g is).ReadsOnly := by
  induction is generalizing g with
  | nil => exact readsOnly_pure g
  | cons i is ih =>
    exact (readsOnly_requireGraph i).bind fun r => readsOnly_collection.bind fun c => ih _

theorem readsOnly_resolveScope (target : ScopeTarget) : (resolveScope target).ReadsOnly := by
  unfold resolveScope
  split
  · refine readsOnly_get.bind fun s => ?_
    cases s.handle.defaultGraph with
    | none => exact readsOnly_pure _
    | some r => exact readsOnly_pure _
  · exact readsOnly_pure _
  · exact (readsOnly_requireGraph _).bind fun r => readsOnly_pure _
  · exact (readsOnly_requireGraph _).bind fun r => readsOnly_pure _
  · exact (readsOnly_mergeNamed _ _).bind fun g => readsOnly_pure _

theorem exec_push (scope : Scope) (s : Session) : (push scope).exec s = (.ok (), s.within scope) :=
  rfl

/-- Leaving a scope restores the session from before it was entered. -/
theorem exec_closeScope (result : Except StoreError α) (s : Session) (scope : Scope) :
    (closeScope result).exec (s.within scope) = (result, s) := by
  cases result <;> rfl

/-- What is read inside a scope is read in the session that has this scope on top. -/
theorem exec_inScope {target : ScopeTarget} {action : StoreM α} (h : action.ReadsOnly)
    (s : Session) :
    (inScope target action).exec s =
      (do (action.exec (s.within (← ((resolveScope target).exec s).1))).1, s) := by
  unfold inScope enterScope
  rcases hr : (resolveScope target).exec s with ⟨e | scope, t⟩
  · obtain rfl := (readsOnly_resolveScope target).eq_of_exec hr
    rw [exec_bind_of_error (exec_bind_of_error hr)]
    rfl
  · obtain rfl := (readsOnly_resolveScope target).eq_of_exec hr
    -- The action finds the scope on top and leaves it there, so that leaving finds it again.
    have hinside : (liftM action.run : StoreM (Except StoreError α)).exec (t.within scope) =
        (.ok (action.exec (t.within scope)).1, t.within scope) :=
      congrArg (Prod.mk _) (h (t.within scope))
    rw [exec_bind_of_ok ((exec_bind_of_ok hr).trans (exec_push scope t)),
      exec_bind_of_ok hinside, exec_closeScope]
    rfl

theorem ReadsOnly.inScope {action : StoreM α} (h : action.ReadsOnly) (target : ScopeTarget) :
    (inScope target action).ReadsOnly := fun s => by rw [exec_inScope h]

/-! ## Queries -/

theorem readsOnly_inEach {solve : StoreM (List Row)} (h : solve.ReadsOnly) (name : String)
    (is : List Iri) : (inEach name solve is).ReadsOnly := by
  induction is with
  | nil => exact readsOnly_pure []
  | cons i is ih =>
    exact (h.inScope (.named i)).bind fun rows => ih.bind fun rest => readsOnly_pure _

/-- **Solving a pattern only reads.** The session is what it was, whether the pattern has
solutions or fails. -/
theorem readsOnly_solutions (now : DateTime) (p : GraphPattern) :
    (solutions now p).ReadsOnly := by
  induction p with
  | basic ps => exact readsOnly_get.bind fun s => readsOnly_pure _
  | join l r ihl ihr =>
    exact ihl.bind fun left => ihr.bind fun right => readsOnly_pure _
  | leftJoin l r condition ihl ihr =>
    exact ihl.bind fun left => ihr.bind fun right => readsOnly_lift _ _
  | union l r ihl ihr =>
    exact ihl.bind fun left => ihr.bind fun right => readsOnly_pure _
  | filter e p ih => exact ih.bind fun rows => readsOnly_lift _ _
  | extend p x e ih => exact ih.bind fun rows => readsOnly_lift _ _
  | graph target p ih =>
    cases target with
    | default => exact ih.inScope _
    | named i => exact ih.inScope _
    | union is => exact ih.inScope _
    | var x => exact readsOnly_collection.bind fun c => readsOnly_inEach ih x _

/-- The solutions of the pattern of a query, in the scope of its dataset if it has one. -/
def solveQuery (q : Query) (now : DateTime) : StoreM (List Row) :=
  match q.dataset with
  | some is => inScope (.union is) (solutions now q.pattern)
  | none => solutions now q.pattern

theorem readsOnly_solveQuery (q : Query) (now : DateTime) : (solveQuery q now).ReadsOnly := by
  unfold solveQuery
  split
  · exact (readsOnly_solutions now q.pattern).inScope _
  · exact readsOnly_solutions now q.pattern

/-- The standard engine solves the pattern and makes an answer of the rows. -/
theorem evaluateStandard_eq (q : Query) (now : DateTime) :
    evaluateStandard q now = solveQuery q now >>= answer q := by
  unfold evaluateStandard solveQuery
  cases q.dataset with
  | none => rfl
  | some is => rfl

theorem readsOnly_engine : engine.ReadsOnly := by
  refine readsOnly_get.bind fun s => ?_
  dsimp only
  split
  · exact readsOnly_pure _
  · exact readsOnly_throw _

/-- Only the answer to a construction is more than reading. -/
theorem readsOnly_answer (q : Query) (rows : List Row)
    (h : ∀ template, q.form ≠ .construct template) : (answer q rows).ReadsOnly := by
  unfold answer
  split
  · exact readsOnly_pure _
  · exact readsOnly_pure _
  · next template hform => exact absurd hform (h template)
  · exact readsOnly_get.bind fun s => readsOnly_pure _

theorem readsOnly_query (q : Query) (now : DateTime)
    (h : ∀ template, q.form ≠ .construct template) : (query q now).ReadsOnly := by
  refine readsOnly_engine.bind fun e => ?_
  cases e with
  | constant name a => exact readsOnly_pure a
  | standard =>
    show (evaluateStandard q now).ReadsOnly
    rw [evaluateStandard_eq]
    exact (readsOnly_solveQuery q now).bind fun rows => readsOnly_answer q rows h

/-! ## Taking blank nodes -/

/-- The action changes nothing in a session but the supply of blank nodes. -/
def TakesBlanks (m : StoreM α) : Prop := ∀ s, ∃ u, (m.exec s).2 = s.withSupply u

theorem ReadsOnly.takesBlanks {m : StoreM α} (h : m.ReadsOnly) : m.TakesBlanks :=
  fun s => ⟨s.store.supply, h s⟩

theorem TakesBlanks.bind {m : StoreM α} {f : α → StoreM β} (hm : m.TakesBlanks)
    (hf : ∀ a, (f a).TakesBlanks) : (m >>= f).TakesBlanks := by
  intro s
  obtain ⟨u, hu⟩ := hm s
  rcases h : m.exec s with ⟨e | a, t⟩
  · rw [h] at hu
    rw [exec_bind_of_error h]
    exact ⟨u, hu⟩
  · rw [h] at hu
    obtain rfl : t = s.withSupply u := hu
    rw [exec_bind_of_ok h]
    exact hf a (s.withSupply u)

theorem takesBlanks_constructGraph (template : List Pattern) (rows : List Row) :
    (constructGraph template rows).TakesBlanks :=
  fun s => ⟨(construct template rows s.store.supply).2, rfl⟩

theorem takesBlanks_answer (q : Query) (rows : List Row) : (answer q rows).TakesBlanks := by
  by_cases h : ∃ template, q.form = .construct template
  · obtain ⟨template, h⟩ := h
    unfold answer
    rw [h]
    exact (takesBlanks_constructGraph template rows).bind fun g => (readsOnly_pure _).takesBlanks
  · exact (readsOnly_answer q rows fun template ht => h ⟨template, ht⟩).takesBlanks

theorem takesBlanks_query (q : Query) (now : DateTime) : (query q now).TakesBlanks := by
  refine readsOnly_engine.takesBlanks.bind fun e => ?_
  cases e with
  | constant name a => exact (readsOnly_pure a).takesBlanks
  | standard =>
    show (evaluateStandard q now).TakesBlanks
    rw [evaluateStandard_eq]
    exact (readsOnly_solveQuery q now).takesBlanks.bind fun rows => takesBlanks_answer q rows

/-- **Queries leave the session as it is.** Whatever a query asks for, and whether it is answered
or fails, the current scope, the scopes to return to, the default graph, the collection and the
reasoners are afterwards what they were before: nothing but the supply of blank nodes has changed,
and that only by a construction. -/
theorem session_after_query (q : Query) (now : DateTime) (s : Session) :
    (∃ u, ((query q now).exec s).2 = s.withSupply u) ∧
      ((∀ template, q.form ≠ .construct template) → ((query q now).exec s).2 = s) :=
  ⟨takesBlanks_query q now s, fun h => readsOnly_query q now h s⟩

end StoreM

end RdfStore
