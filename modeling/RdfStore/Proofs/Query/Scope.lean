import RdfStore.Proofs.Query.JoinAlgebra
import RdfStore.Proofs.Query.Rows
import RdfStore.Proofs.Update.Atomicity

/-!
# Variables in scope

The variables in scope of a pattern are read off the pattern, without a store. They are enough:
in every session a solution binds no other (`StoreM.yields_solutions`). So a query for all
variables shows the solutions as they are, and a modification fills its templates from just the
solutions of its pattern (`StoreM.solutions_within_scope`).
-/

namespace RdfStore

/-! ## Rows within names -/

namespace Row

variable {xs ys : List String} {a b c row : Row}

/-- The row binds no other variables than the named ones. -/
def Within (row : Row) (xs : List String) : Prop := ∀ x ∈ row.keys, x ∈ xs

theorem Within.mono (h : row.Within xs) (hsub : xs ⊆ ys) : row.Within ys :=
  fun x hx => hsub (h x hx)

/-- Where all names count, all bindings are kept. -/
theorem Within.project_eq (h : row.Within xs) : row.project xs = row := by
  refine SortedMap.ext_find? fun x => ?_
  unfold project
  rw [SortedMap.find?_filter]
  cases hx : row.find? x with
  | none => rfl
  | some t =>
    have hmem : x ∈ xs := h x (SortedMap.mem_keys_iff.2 ⟨t, hx⟩)
    simp [Option.filter, hmem]

theorem Grows.within {X : Set String} (h : Grows X a b) (ha : a.Within xs)
    (hX : ∀ x ∈ X, x ∈ xs) : b.Within xs :=
  fun x hx => ((h.binds x).1 hx).elim (ha x) (hX x)

theorem within_empty : Within .empty xs := fun _ hx => absurd hx SortedMap.not_mem_keys_empty

theorem Within.insert (h : row.Within xs) {x : String} (hx : x ∈ xs) (t : Term) :
    Within (row.insert x t) xs := by
  intro y hy
  obtain ⟨u, hu⟩ := SortedMap.mem_keys_iff.1 hy
  rw [SortedMap.find?_insert_eq] at hu
  split at hu
  · next he => exact he ▸ hx
  · exact h y (SortedMap.mem_keys_iff.2 ⟨u, hu⟩)

theorem Within.extended (h : row.Within xs) {x : String} (hx : x ∈ xs) (now : DateTime)
    (e : Expr) : (row.extended now x e).Within xs := by
  unfold Row.extended
  split
  · exact h.insert hx _
  · exact h

end Row

/-- No row of a list binds other variables than the named ones. -/
def RowsWithin (xs : List String) (rows : List Row) : Prop := ∀ row ∈ rows, row.Within xs

namespace RowsWithin

variable {xs ys : List String} {A B rows : List Row} {x : String}

theorem mono (h : RowsWithin xs rows) (hsub : xs ⊆ ys) : RowsWithin ys rows :=
  fun row hrow => (h row hrow).mono hsub

theorem append (hA : RowsWithin xs A) (hB : RowsWithin xs B) : RowsWithin xs (A ++ B) :=
  fun row hrow => (List.mem_append.1 hrow).elim (hA row) (hB row)

theorem filter (h : RowsWithin xs rows) (keep : Row → Bool) : RowsWithin xs (rows.filter keep) :=
  fun row hrow => h row (List.mem_of_mem_filter hrow)

theorem mergeWith {a : Row} (ha : a.Within xs) (hB : RowsWithin xs B) :
    RowsWithin xs (a.mergeWith B) := by
  intro row hrow x hx
  obtain ⟨b, hb, hab⟩ := List.mem_filterMap.1 hrow
  exact ((Row.merge?_eq_some_iff.1 hab).2.2 x hx).elim (ha x) (hB b hb x)

theorem joinRows (hA : RowsWithin xs A) (hB : RowsWithin xs B) :
    RowsWithin xs (joinRows A B) := by
  intro row hrow
  obtain ⟨a, ha, hmerge⟩ := List.mem_flatMap.1 hrow
  exact mergeWith (hA a ha) hB row hmerge

theorem optional {l : Row} (hl : l.Within xs) (h : RowsWithin xs rows) :
    RowsWithin xs (l.optional rows) := by
  unfold Row.optional
  split
  · intro row hrow
    obtain rfl := List.mem_singleton.1 hrow
    exact hl
  · exact h

theorem bindRows (h : RowsWithin xs rows) (hx : x ∈ xs) (t : Term) :
    RowsWithin xs (bindRows x t rows) := by
  intro row hrow
  obtain ⟨a, ha, hbind⟩ := List.mem_filterMap.1 hrow
  refine (Slot.bind?_eq_some_iff.1 hbind).1.within (h a ha) fun y hy => ?_
  obtain rfl : y = x := hy
  exact hx

theorem map_project_eq (h : RowsWithin xs rows) : rows.map (·.project xs) = rows :=
  (List.map_congr_left fun row hrow => (h row hrow).project_eq).trans (List.map_id' rows)

end RowsWithin

namespace StoreM

variable {α β : Type} {P : α → Prop} {Q : β → Prop}

/-! ## Results of actions -/

/-- Whatever the session, a result of the action has the property. -/
def Yields (m : StoreM α) (P : α → Prop) : Prop := ∀ s a t, m.exec s = (.ok a, t) → P a

theorem yields_pure {a : α} (h : P a) : (pure a : StoreM α).Yields P := by
  intro s b t hb
  cases hb
  exact h

theorem yields_lift {ε : Type} {wrap : ε → StoreError} {r : Except ε α}
    (h : ∀ a, r = .ok a → P a) : (lift wrap r).Yields P :=
  fun _ _ _ ha => h _ (exec_lift_eq_ok_iff.1 ha).1

theorem Yields.bind {m : StoreM α} {f : α → StoreM β} (hm : m.Yields P)
    (hf : ∀ a, P a → (f a).Yields Q) : (m >>= f).Yields Q := by
  intro s b u hb
  rcases h : m.exec s with ⟨e | a, t⟩
  · rw [exec_bind_of_error h] at hb
    exact nomatch hb
  · rw [exec_bind_of_ok h] at hb
    exact hf a (hm s a t h) t b u hb

/-- A result inside a scope is a result. -/
theorem Yields.inScope {m : StoreM α} (hm : m.Yields P) (hread : m.ReadsOnly)
    (target : ScopeTarget) : (inScope target m).Yields P := by
  intro s a t ha
  rw [exec_inScope hread] at ha
  cases hscope : ((resolveScope target).exec s).1 with
  | error e =>
    rw [hscope] at ha
    exact nomatch ha
  | ok scope =>
    rw [hscope] at ha
    have hresult : (m.exec (s.within scope)).1 = .ok a := congrArg Prod.fst ha
    exact hm (s.within scope) a _ (Prod.ext hresult rfl)

/-! ## Solutions -/

theorem yields_inEach {xs : List String} {solve : StoreM (List Row)}
    (h : solve.Yields (RowsWithin xs)) (hread : solve.ReadsOnly) {x : String} (hx : x ∈ xs)
    (is : List Iri) : (inEach x solve is).Yields (RowsWithin xs) := by
  induction is with
  | nil => exact yields_pure nofun
  | cons i is ih =>
    exact (h.inScope hread (.named i)).bind fun rows hrows => ih.bind fun rest hrest =>
      yields_pure ((hrows.bindRows hx _).append hrest)

/-- **Solutions bind variables in scope only.** By induction on the pattern, in all sessions at
once, since a pattern in other graphs is solved in other sessions. -/
theorem yields_solutions (now : DateTime) (p : GraphPattern) :
    (solutions now p).Yields (RowsWithin p.bindable) := by
  induction p with
  | basic ps =>
    intro s rows t h
    rw [exec_solutions_basic] at h
    cases h
    intro row hrow
    refine (Pattern.grows_of_mem_joinAll hrow).within Row.within_empty ?_
    rintro x ⟨p, hp, hx⟩
    exact List.mem_flatMap.2 ⟨p, hp, Pattern.mem_varNames.2 hx⟩
  | join l r ihl ihr =>
    exact ihl.bind fun left hleft => ihr.bind fun right hright =>
      yields_pure ((hleft.mono (List.subset_append_left _ _)).joinRows
        (hright.mono (List.subset_append_right _ _)))
  | leftJoin l r condition ihl ihr =>
    refine ihl.bind fun left hleft => ihr.bind fun right hright => yields_lift fun rows h => ?_
    rw [leftJoinRows_eq, unlessFault_eq_ok_iff] at h
    obtain ⟨-, rfl⟩ := h
    intro row hrow
    obtain ⟨a, ha, hmerge⟩ := List.mem_flatMap.1 hrow
    have ha' : a.Within (l.bindable ++ r.bindable) :=
      (hleft a ha).mono (List.subset_append_left _ _)
    have hright' := hright.mono (List.subset_append_right l.bindable r.bindable)
    exact ((RowsWithin.mergeWith ha' hright').filter _).optional ha' row hmerge
  | union l r ihl ihr =>
    exact ihl.bind fun left hleft => ihr.bind fun right hright =>
      yields_pure ((hleft.mono (List.subset_append_left _ _)).append
        (hright.mono (List.subset_append_right _ _)))
  | filter e p ih =>
    refine ih.bind fun rows hrows => yields_lift fun kept h => ?_
    rw [filterRows_eq, unlessFault_eq_ok_iff] at h
    obtain ⟨-, rfl⟩ := h
    exact hrows.filter _
  | extend p x e ih =>
    refine ih.bind fun rows hrows => yields_lift fun out h => ?_
    rw [extendRows_eq, unlessFault_eq_ok_iff] at h
    obtain ⟨-, rfl⟩ := h
    intro row hrow
    obtain ⟨a, ha, rfl⟩ := List.mem_map.1 hrow
    exact ((hrows a ha).mono (List.subset_cons_self _ _)).extended List.mem_cons_self now e
  | graph target p ih =>
    have hread := readsOnly_solutions now p
    cases target with
    | default => exact ih.inScope hread _
    | named i => exact ih.inScope hread _
    | union is => exact ih.inScope hread _
    | var x =>
      have ih' : (solutions now p).Yields (RowsWithin (x :: p.bindable)) :=
        fun s rows t h => (ih s rows t h).mono (List.subset_cons_self _ _)
      have hcollection : collection.Yields fun _ => True := fun _ _ _ _ => trivial
      exact hcollection.bind fun c _ => yields_inEach ih' hread List.mem_cons_self _

/-! ## Uses of solutions -/

theorem yields_solveQuery (q : Query) (now : DateTime) :
    (solveQuery q now).Yields (RowsWithin q.pattern.bindable) := by
  unfold solveQuery
  split
  · exact (yields_solutions now q.pattern).inScope (readsOnly_solutions now q.pattern) _
  · exact yields_solutions now q.pattern

/-- A query for all variables shows the solutions as they are. -/
theorem exec_selectAll (dataset : Option (List Iri)) (p : GraphPattern) (now : DateTime)
    (s : Session) : (evaluateStandard ⟨.select none false, dataset, p⟩ now).exec s =
      (do return Answer.table ⟨p.scope.toList,
        ← solveQuery ⟨.select none false, dataset, p⟩ now⟩).exec s := by
  rw [evaluateStandard_eq]
  refine exec_bind_congr fun rows t h => ?_
  -- Projection to the variables in scope leaves out nothing.
  have hscope : RowsWithin p.scope.toList rows :=
    (yields_solveQuery _ now s rows t h).mono fun x hx => SortedSet.mem_ofList.2 hx
  exact congrArg (fun rows => (pure (Answer.table ⟨p.scope.toList, rows⟩) : StoreM Answer).exec t)
    hscope.map_project_eq

end StoreM

/-- The pattern in the graph of a name; the default graph is where a pattern is solved anyway. -/
def GraphPattern.inGraph (name : GraphName) (p : GraphPattern) : GraphPattern :=
  match name with
  | some i => .graph (.named i) p
  | none => p

/-- The session has the standard engine for its queries. -/
def Session.UsesStandard (s : Session) : Prop :=
  s.store.engines.find? s.store.settings.queryEngine = some .standard

namespace StoreM

variable {s : Session}

theorem exec_engine (h : s.UsesStandard) : engine.exec s = (.ok .standard, s) := by
  unfold engine
  rw [exec_bind_of_ok (exec_get s)]
  dsimp only
  rw [h]
  rfl

/-- The rows of a modification are the solutions of its pattern in the graph. -/
theorem exec_modifiedRows (h : s.UsesStandard) (name : GraphName) (p : GraphPattern)
    (now : DateTime) :
    (modifiedRows name p now).exec s = (solutions now (p.inGraph name)).exec s := by
  have hanswer : (query ⟨.select none false, none, p.inGraph name⟩ now).exec s =
      (do return Answer.table ⟨(p.inGraph name).scope.toList,
        ← solutions now (p.inGraph name)⟩).exec s :=
    (exec_bind_of_ok (exec_engine h)).trans (exec_selectAll none (p.inGraph name) now s)
  show (query ⟨.select none false, none, p.inGraph name⟩ now >>= _).exec s = _
  rw [exec_bind, hanswer]
  rcases hexec : (solutions now (p.inGraph name)).exec s with ⟨e | rows, t⟩
  · rw [exec_bind_of_error hexec]
  · rw [exec_bind_of_ok hexec]
    rfl

theorem exec_runCommand_modify (h : s.UsesStandard) (now : DateTime) (name : GraphName)
    (delete insert : List Pattern) (p : GraphPattern) :
    (runCommand now (.modify name delete insert p)).exec s = (do
      if !insert.isEmpty then requireWritable name
      if name.isNone || (← collection).contains name then
        replaceTriples name delete insert (← solutions now (p.inGraph name))).exec s := by
  have hrest : (do
        if name.isNone || (← collection).contains name then
          replaceTriples name delete insert (← modifiedRows name p now)).exec s =
      (do
        if name.isNone || (← collection).contains name then
          replaceTriples name delete insert (← solutions now (p.inGraph name))).exec s := by
    refine exec_bind_congr fun c t hc => ?_
    obtain rfl := readsOnly_collection.eq_of_exec hc
    split
    · rw [exec_bind, exec_bind, exec_modifiedRows h]
    · rfl
  show (modifyGraph name delete insert p now).exec s = _
  unfold modifyGraph
  dsimp only
  split
  · refine exec_bind_congr fun a t ha => ?_
    obtain rfl := (readsOnly_requireWritable name).eq_of_exec ha
    exact hrest
  · exact hrest

/-- **No binding is lost.** The variables of a solution are in the scope of the pattern. So a query
for all variables shows the solutions as they are, in whatever dataset; and a modification that is
allowed, and finds its graph, replaces triples for just the solutions of its pattern in that
graph. -/
theorem solutions_within_scope (now : DateTime) (s : Session) (p : GraphPattern) :
    (∀ rows, ((solutions now p).exec s).1 = .ok rows →
      ∀ row ∈ rows, ∀ x ∈ row.keys, x ∈ p.scope) ∧
    (∀ dataset, (evaluateStandard ⟨.select none false, dataset, p⟩ now).exec s =
      (do return Answer.table ⟨p.scope.toList,
        ← solveQuery ⟨.select none false, dataset, p⟩ now⟩).exec s) ∧
    (s.UsesStandard → ∀ name delete insert,
      (runCommand now (.modify name delete insert p)).exec s = (do
        if !insert.isEmpty then requireWritable name
        if name.isNone || (← collection).contains name then
          replaceTriples name delete insert (← solutions now (p.inGraph name))).exec s) := by
  refine ⟨fun rows hrows row hrow x hx => ?_, fun dataset => exec_selectAll dataset p now s,
    fun hstandard name delete insert => exec_runCommand_modify hstandard now name delete insert p⟩
  exact SortedSet.mem_ofList.2
    (yields_solutions now p s rows s (exec_solutions_of_ok hrows) row hrow x hx)

/-- Children in a graph that is searched for, with their own children and the day if there are
any: two solutions, of which one binds all variables in scope. -/
theorem solutions_within_scope_family :
    let p : GraphPattern := .graph (.var "g") (.leftJoin (.basic [childPattern "x" "y"])
      (.extend (.basic [childPattern "y" "z"]) "n" (.call .now [])) none)
    let insert : List Pattern := [childPattern "y" "x"]
    familySession.UsesStandard ∧
    ((solutions noon p).exec familySession).1.toOption.map (·.map (·.keys.length)) =
      some [5, 3] ∧
    (∀ rows, ((solutions noon p).exec familySession).1 = .ok rows →
      ∀ row ∈ rows, ∀ x ∈ row.keys, x ∈ p.scope) ∧
    (runCommand noon (.modify none [] insert p)).exec familySession = (do
      if !insert.isEmpty then requireWritable none
      if Option.isNone (none : GraphName) || (← collection).contains none then
        replaceTriples none [] insert (← solutions noon p)).exec familySession := by
  intro p insert
  have hstandard : familySession.UsesStandard := rfl
  obtain ⟨hscope, -, hmodify⟩ := solutions_within_scope noon familySession p
  exact ⟨hstandard, by decide +kernel, hscope, hmodify hstandard none [] insert⟩

end StoreM

end RdfStore
