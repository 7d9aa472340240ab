import Mathlib.Data.List.Flatten
import Mathlib.Data.List.Perm.Subperm
import RdfStore.Proofs.Query.Solving
import RdfStore.Proofs.Query.JoinAlgebra
import RdfStore.Proofs.Update.Atomicity

/-!
# More triples, more solutions

A pattern without optional parts keeps its solutions when the store grows: in a session whose
graphs have all triples that their counterparts have in another one (`Session.Below`), every row is
a solution at least as often (`StoreM.solutions_monotone`). With optional parts this fails, since a
row that was kept for want of a merge may have one.
-/

namespace RdfStore

open List (Subperm)

/-! ## Lists with more rows -/

/-- Lists made of the elements of a list grow with it and with what is made of each element. -/
theorem subperm_flatMap {α β : Type} {A B : List α} {f g : α → List β} (h : A.Subperm B)
    (hfg : ∀ a ∈ A, (f a).Subperm (g a)) : (A.flatMap f).Subperm (B.flatMap g) := by
  obtain ⟨C, hperm, hsub⟩ := h
  have hC : (A.flatMap f).Subperm (C.flatMap g) := by
    refine (hperm.symm.flatMap_right f).subperm.trans ?_
    have hC : ∀ a ∈ C, (f a).Subperm (g a) := fun a ha => hfg a (hperm.mem_iff.1 ha)
    clear hperm hsub hfg
    induction C with
    | nil => exact Subperm.refl _
    | cons c C ih =>
      rw [List.flatMap_cons, List.flatMap_cons]
      exact (hC c List.mem_cons_self).append (ih fun a ha => hC a (List.mem_cons_of_mem c ha))
  exact hC.trans (hsub.flatMap g).subperm

theorem subperm_filterMap {α β : Type} {A B : List α} (h : A.Subperm B) (f : α → Option β) :
    (A.filterMap f).Subperm (B.filterMap f) := by
  obtain ⟨C, hperm, hsub⟩ := h
  exact ⟨C.filterMap f, hperm.filterMap f, hsub.filterMap f⟩

theorem subperm_map {α β : Type} {A B : List α} (h : A.Subperm B) (f : α → β) :
    (A.map f).Subperm (B.map f) := by
  obtain ⟨C, hperm, hsub⟩ := h
  exact ⟨C.map f, hperm.map f, hsub.map f⟩

theorem subperm_joinRows {A B C D : List Row} (hAB : A.Subperm B) (hCD : C.Subperm D) :
    (joinRows A C).Subperm (joinRows B D) :=
  subperm_flatMap hAB fun l _ => subperm_filterMap hCD (l.merge? ·)

/-- With more of each triple, patterns have more of each row. -/
theorem multiplicity_mono {m n : Triple → Nat} (h : ∀ t, m t ≤ n t) (row : Row)
    (ps : List Pattern) : multiplicity m row ps ≤ multiplicity n row ps := by
  induction ps with
  | nil => exact Nat.le_refl 1
  | cons p ps ih =>
    refine Nat.mul_le_mul ?_ ih
    dsimp only
    cases p.resolve? row with
    | none => exact Nat.le_refl 0
    | some t => exact h t

/-- With more graphs that have a triple, patterns have at least as many of each row. -/
theorem subperm_joinAll {gs hs : List Graph} (ps : List Pattern)
    (h : ∀ t, gs.countP (·.contains t) ≤ hs.countP (·.contains t)) :
    (Pattern.joinAll (Selection.find gs) [.empty] ps).Subperm
      (Pattern.joinAll (Selection.find hs) [.empty] ps) := by
  rw [List.subperm_ext_iff]
  intro row hrow
  have hgrows := Pattern.grows_of_mem_joinAll hrow
  rw [Pattern.count_joinAll (Selection.gives_find gs) hgrows,
    Pattern.count_joinAll (Selection.gives_find hs) hgrows]
  exact multiplicity_mono h row ps

/-! ## Sessions with more triples -/

/-- The pattern has no optional part. -/
def GraphPattern.isOptionalFree : GraphPattern → Bool
  | basic _ => true
  | join l r => l.isOptionalFree && r.isOptionalFree
  | leftJoin _ _ _ => false
  | union l r => l.isOptionalFree && r.isOptionalFree
  | filter _ p => p.isOptionalFree
  | extend p _ _ => p.isOptionalFree
  | graph _ p => p.isOptionalFree

/-- Every graph of the first collection has a counterpart of its name with at least its triples. -/
def Collection.Below (c d : Collection) : Prop :=
  ∀ name g, c.graph? name = some g → ∃ h, d.graph? name = some h ∧ g.members ⊆ h.members

/-- Both scopes are everything, or both are one graph and the second one has at least the triples
of the first. -/
inductive Scope.Below (c d : Collection) : Scope → Scope → Prop
  | everything : Below c d .everything .everything
  | one {a b : Scope} {g h : Graph} : a.graphs c = [g] → b.graphs d = [h] →
      g.members ⊆ h.members → Below c d a b

/-- The second session has at least the triples of the first: in its graphs, in its scope and in its
default graph. -/
structure Session.Below (s t : Session) : Prop where
  /-- Named graphs and the default graph of the collection. -/
  graphs : s.store.collection.Below t.store.collection
  /-- The current scope. -/
  current : Scope.Below s.store.collection t.store.collection s.handle.current t.handle.current
  /-- The default graph of the handle, or everything where it has none. -/
  default : Scope.Below s.store.collection t.store.collection s.handle.defaultScope
    t.handle.defaultScope

namespace Collection

/-- Graphs of a collection are counted by their names. -/
theorem countP_refs (c : Collection) (p : Graph → Bool) :
    (c.refs.map c.deref).countP p = c.names.countP fun name => (c.graph? name).any p := by
  unfold refs names SortedMap.values SortedMap.keys
  rw [List.countP_map, List.countP_map, List.countP_map]
  refine List.countP_congr fun e he => ?_
  have hgraph : c.graph? e.1 = some (c.deref e.2) := by
    unfold graph? ref?
    rw [SortedMap.find?_eq_some_iff.2 he]
    rfl
  simp only [Function.comp_apply, hgraph, Option.any_some]

variable {c d : Collection}

theorem mem_names {name : GraphName} : name ∈ c.names ↔ ∃ g, c.graph? name = some g := by
  unfold names graph? ref?
  rw [SortedMap.mem_keys_iff]
  constructor
  · rintro ⟨r, hr⟩
    exact ⟨c.deref r, by rw [hr]; rfl⟩
  · rintro ⟨g, hg⟩
    obtain ⟨r, hr, -⟩ := Option.map_eq_some_iff.1 hg
    exact ⟨r, hr⟩

/-- There are finitely many graphs to look at. -/
instance : Decidable (c.Below d) :=
  decidable_of_iff (∀ name ∈ c.names, (d.graph? name).any fun h =>
      (c.graph? name).all fun g => decide (g.members ⊆ h.members)) <| by
    simp only [Option.any_eq_true, Option.all_eq_true, decide_eq_true_eq]
    constructor
    · intro h name g hg
      obtain ⟨k, hk, hsub⟩ := h name (mem_names.2 ⟨g, hg⟩)
      exact ⟨k, hk, hsub g hg⟩
    · intro h name hname
      obtain ⟨g, hg⟩ := mem_names.1 hname
      obtain ⟨k, hk, hsub⟩ := h name g hg
      exact ⟨k, hk, fun g' hg' => Option.some.inj (hg.symm.trans hg') ▸ hsub⟩

theorem Below.subperm_names (h : c.Below d) : c.names.Subperm d.names := by
  refine List.subperm_of_subset c.directory.nodup_keys fun name hname => ?_
  obtain ⟨g, hg⟩ := mem_names.1 hname
  obtain ⟨k, hk, -⟩ := h name g hg
  exact mem_names.2 ⟨k, hk⟩

theorem Below.countP_le (h : c.Below d) (t : Triple) :
    (c.refs.map c.deref).countP (·.contains t) ≤ (d.refs.map d.deref).countP (·.contains t) := by
  rw [countP_refs, countP_refs]
  calc c.names.countP (fun name => (c.graph? name).any (·.contains t))
      ≤ c.names.countP (fun name => (d.graph? name).any (·.contains t)) := by
        refine List.countP_mono_left fun name _ hname => ?_
        obtain ⟨g, hg, ht⟩ := (Option.any_eq_true _ _).1 hname
        obtain ⟨k, hk, hsub⟩ := h name g hg
        refine (Option.any_eq_true _ _).2 ⟨k, hk, ?_⟩
        rw [Graph.contains_iff, ← Graph.mem_members] at ht ⊢
        exact hsub ht
    _ ≤ d.names.countP (fun name => (d.graph? name).any (·.contains t)) :=
        h.subperm_names.countP_le _

end Collection

namespace Session.Below

variable {s t : Session} {c d : Scope} {now : DateTime}

theorem countP_le (h : s.Below t) (x : Triple) :
    s.graphs.countP (·.contains x) ≤ t.graphs.countP (·.contains x) := by
  unfold Session.graphs
  generalize hc : s.handle.current = c
  generalize hd : t.handle.current = d
  have hscope := h.current
  rw [hc, hd] at hscope
  cases hscope with
  | everything => exact h.graphs.countP_le x
  | @one _ _ g k hg hk hsub =>
    rw [hg, hk]
    have hx : g.contains x = true → k.contains x = true := by
      rw [Graph.contains_iff, Graph.contains_iff, ← Graph.mem_members, ← Graph.mem_members]
      exact fun hx => hsub hx
    cases hgx : g.contains x with
    | false => simp [hgx]
    | true => simp [hgx, hx hgx]

theorem within (h : s.Below t)
    (hscope : Scope.Below s.store.collection t.store.collection c d) :
    (s.within c).Below (t.within d) where
  graphs := h.graphs
  current := hscope
  default := h.default

/-! ## Scopes of targets -/

theorem resolve_default (h : s.Below t) (hc : s.resolve .default = .ok c)
    (hd : t.resolve .default = .ok d) :
    Scope.Below s.store.collection t.store.collection c d := by
  rw [Session.resolve_default] at hc hd
  obtain rfl := Except.ok.inj hc
  obtain rfl := Except.ok.inj hd
  exact h.default

theorem resolve_union {is : List Iri} (h : s.Below t) (hc : s.resolve (.union is) = .ok c)
    (hd : t.resolve (.union is) = .ok d) :
    Scope.Below s.store.collection t.store.collection c d := by
  obtain ⟨g, hcg, hg⟩ := graphs_of_resolve_union hc
  obtain ⟨k, hdk, hk⟩ := graphs_of_resolve_union hd
  refine .one hcg hdk fun x hx => ?_
  rw [Graph.mem_members, hg] at hx
  rw [Graph.mem_members, hk]
  obtain ⟨i, hi, a, ha, hxa⟩ := hx
  obtain ⟨b, hb, hsub⟩ := h.graphs _ a ha
  exact ⟨i, hi, b, hb, Graph.mem_members.1 (hsub (Graph.mem_members.2 hxa))⟩

theorem resolve_named {i : Iri} (h : s.Below t) (hc : s.resolve (.named i) = .ok c)
    (hd : t.resolve (.named i) = .ok d) :
    Scope.Below s.store.collection t.store.collection c d := by
  rw [← resolve_union_singleton] at hc hd
  exact h.resolve_union hc hd

end Session.Below

/-! ## Solutions -/

namespace Session

variable {s t : Session} {now : DateTime} {p : GraphPattern} {A B : List Row}

/-- A pattern that keeps its rows wherever sessions grow. -/
def Keeps (now : DateTime) (p : GraphPattern) : Prop :=
  ∀ {s t : Session}, s.Below t → ∀ {A B}, s.solve now p = .ok A → t.solve now p = .ok B →
    A.Subperm B

theorem Keeps.solveIn (hp : Keeps now p) (h : s.Below t) {target : ScopeTarget}
    (hscope : ∀ {c d}, s.resolve target = .ok c → t.resolve target = .ok d →
      Scope.Below s.store.collection t.store.collection c d)
    (hA : s.solveIn now target p = .ok A) (hB : t.solveIn now target p = .ok B) :
    A.Subperm B := by
  obtain ⟨c, hc, hA⟩ := bind_eq_ok_iff.1 hA
  obtain ⟨d, hd, hB⟩ := bind_eq_ok_iff.1 hB
  exact hp (h.within (hscope hc hd)) hA hB

theorem Keeps.solveEach (hp : Keeps now p) (h : s.Below t) {x : String} {is js : List Iri}
    (hsub : is.Subperm js) (hA : s.solveEach now x p is = .ok A)
    (hB : t.solveEach now x p js = .ok B) : A.Subperm B := by
  obtain ⟨hrows, rfl⟩ := (s.solveEach_eq_ok_iff now p x).1 hA
  obtain ⟨hmore, rfl⟩ := (t.solveEach_eq_ok_iff now p x).1 hB
  refine subperm_flatMap hsub fun i hi => subperm_filterMap ?_ _
  exact hp.solveIn h h.resolve_named (hrows i hi) (hmore i (hsub.subset hi))

/-- By induction on the pattern, in all sessions at once: the rows of each kind of pattern are made
of the rows of its parts in a way that keeps rows. -/
theorem keeps_of_isOptionalFree (now : DateTime) (hp : p.isOptionalFree = true) :
    Keeps now p := by
  intro s t h A B hA hB
  induction p generalizing s t A B with
  | basic ps =>
    obtain rfl := Except.ok.inj ((s.solve_basic now ps).symm.trans hA)
    obtain rfl := Except.ok.inj ((t.solve_basic now ps).symm.trans hB)
    exact subperm_joinAll ps h.countP_le
  | join l r ihl ihr =>
    obtain ⟨hl, hr⟩ := (Bool.and_eq_true _ _).mp hp
    rw [solve_join] at hA hB
    obtain ⟨A₁, hA₁, hA⟩ := bind_eq_ok_iff.1 hA
    obtain ⟨A₂, hA₂, hA⟩ := bind_eq_ok_iff.1 hA
    obtain ⟨B₁, hB₁, hB⟩ := bind_eq_ok_iff.1 hB
    obtain ⟨B₂, hB₂, hB⟩ := bind_eq_ok_iff.1 hB
    obtain rfl := Except.ok.inj hA
    obtain rfl := Except.ok.inj hB
    exact subperm_joinRows (ihl hl h hA₁ hB₁) (ihr hr h hA₂ hB₂)
  | leftJoin l r condition ihl ihr => exact nomatch hp
  | union l r ihl ihr =>
    obtain ⟨hl, hr⟩ := (Bool.and_eq_true _ _).mp hp
    rw [solve_union] at hA hB
    obtain ⟨A₁, hA₁, hA⟩ := bind_eq_ok_iff.1 hA
    obtain ⟨A₂, hA₂, hA⟩ := bind_eq_ok_iff.1 hA
    obtain ⟨B₁, hB₁, hB⟩ := bind_eq_ok_iff.1 hB
    obtain ⟨B₂, hB₂, hB⟩ := bind_eq_ok_iff.1 hB
    obtain rfl := Except.ok.inj hA
    obtain rfl := Except.ok.inj hB
    exact (ihl hl h hA₁ hB₁).append (ihr hr h hA₂ hB₂)
  | filter e p ih =>
    rw [solve_filter] at hA hB
    obtain ⟨A₁, hA₁, hA⟩ := bind_eq_ok_iff.1 hA
    obtain ⟨B₁, hB₁, hB⟩ := bind_eq_ok_iff.1 hB
    obtain ⟨-, rfl⟩ := unlessFault_eq_ok_iff.1 hA
    obtain ⟨-, rfl⟩ := unlessFault_eq_ok_iff.1 hB
    exact (ih hp h hA₁ hB₁).filter _
  | extend p x e ih =>
    rw [solve_extend] at hA hB
    obtain ⟨A₁, hA₁, hA⟩ := bind_eq_ok_iff.1 hA
    obtain ⟨B₁, hB₁, hB⟩ := bind_eq_ok_iff.1 hB
    obtain ⟨-, rfl⟩ := unlessFault_eq_ok_iff.1 hA
    obtain ⟨-, rfl⟩ := unlessFault_eq_ok_iff.1 hB
    exact subperm_map (ih hp h hA₁ hB₁) _
  | graph target p ih =>
    have hkeeps : Keeps now p := ih hp
    cases target with
    | default =>
      rw [solve_graph_default] at hA hB
      exact hkeeps.solveIn h h.resolve_default hA hB
    | named i =>
      rw [solve_graph_named] at hA hB
      exact hkeeps.solveIn h h.resolve_named hA hB
    | union is =>
      rw [solve_graph_union] at hA hB
      exact hkeeps.solveIn h h.resolve_union hA hB
    | var x =>
      rw [solve_graph_var] at hA hB
      exact hkeeps.solveEach h (subperm_filterMap h.graphs.subperm_names id) hA hB

end Session

namespace StoreM

variable {now : DateTime} {s t : Session} {p : GraphPattern} {A B : List Row}

/-- **Patterns without optional parts are monotone.** If a session has at least the triples of
another one, and a pattern without optional parts has solutions in both, then every row is a
solution at least as often in the session that has more. -/
theorem solutions_monotone (h : s.Below t) (hp : p.isOptionalFree = true)
    (hA : ((solutions now p).exec s).1 = .ok A) (hB : ((solutions now p).exec t).1 = .ok B) :
    ∀ row, A.count row ≤ B.count row :=
  fun row => (Session.keeps_of_isOptionalFree now hp h hA hB).count_le row

/-- The session of the family when one more child and one more graph are known. -/
def grownSession : Session :=
  ((do
    let term (name : String) : Term := .iri ⟨name⟩
    let _ ← addGraph (.ofTriples (some ⟨"urn:family"⟩)
      [⟨term "urn:cid", term "urn:parent", term "urn:dan"⟩]) true
    addGraph (.ofTriples (some ⟨"urn:other"⟩)
      [⟨term "urn:ann", term "urn:parent", term "urn:bob"⟩]) false).exec familySession).2

theorem below_grownSession : familySession.Below grownSession where
  graphs := by decide +kernel
  current := .everything
  default := .everything

/-- Children, in all graphs and in each of them: there are four solutions, and later eight. -/
theorem solutions_monotone_family :
    let p : GraphPattern := .union (.basic [childPattern "x" "y"])
      (.graph (.var "g") (.filter (.const (.ofBool true)) (.basic [childPattern "x" "y"])))
    p.isOptionalFree = true ∧ familySession.Below grownSession ∧
      ((solutions noon p).exec familySession).1.toOption.map List.length = some 4 ∧
      ((solutions noon p).exec grownSession).1.toOption.map List.length = some 8 ∧
      ∃ A B, ((solutions noon p).exec familySession).1 = .ok A ∧
        ((solutions noon p).exec grownSession).1 = .ok B ∧ ∀ row, A.count row ≤ B.count row := by
  intro p
  have hfew : ((solutions noon p).exec familySession).1.toOption.map List.length = some 4 := by
    decide +kernel
  have hmore : ((solutions noon p).exec grownSession).1.toOption.map List.length = some 8 := by
    decide +kernel
  obtain ⟨A, hA⟩ := Session.solves_of_length hfew
  obtain ⟨B, hB⟩ := Session.solves_of_length hmore
  exact ⟨rfl, below_grownSession, hfew, hmore, A, B, hA, hB,
    solutions_monotone below_grownSession rfl hA hB⟩

end StoreM

end RdfStore
