import RdfStore.Proofs.Expr.Renaming
import RdfStore.Proofs.Pattern.Renaming
import RdfStore.Proofs.Query.Solving
import RdfStore.Proofs.Query.JoinAlgebra
import RdfStore.Proofs.Update.Atomicity

/-!
# Queries do not see the names of blank nodes

Renaming the blank nodes of a session and of a pattern, also inside formulas and in the terms of
expressions, renames those of the solutions and changes nothing else
(`StoreM.solutions_rename`): so the numbers of blank nodes decide nothing, although every sorted set
has another order under other names.
-/

namespace RdfStore

variable {π : Equiv.Perm Blank}

/-! ## Sessions and patterns under other names -/

/-- The collection with other names for the blank nodes of its graphs. -/
def Collection.rename (π : Equiv.Perm Blank) (c : Collection) : Collection :=
  { c with shared := c.shared.map (Graph.rename π) }

/-- The scope with other names for the blank nodes of a merge. -/
def Scope.rename (π : Equiv.Perm Blank) : Scope → Scope
  | everything => everything
  | graph r => graph r
  | merged g => merged (g.rename π)

def Scope.InOrder : Scope → Prop
  | merged g => g.InOrder
  | _ => True

namespace Session

/-- The session with other names for the blank nodes of its graphs and scopes. Solving looks at
nothing else. -/
def rename (π : Equiv.Perm Blank) (s : Session) : Session where
  store := { s.store with collection := s.store.collection.rename π }
  handle :=
    { s.handle with
      current := s.handle.current.rename π
      stack := s.handle.stack.map (Scope.rename π) }

/-- The formulas in the graphs and in the scope are in order. -/
structure InOrder (s : Session) : Prop where
  shared : ∀ g ∈ s.store.collection.shared, g.InOrder
  current : s.handle.current.InOrder

end Session

namespace GraphPattern

/-- The pattern with other names for the blank nodes of its terms. -/
def rename (π : Equiv.Perm Blank) : GraphPattern → GraphPattern
  | basic ps => basic (ps.map (Pattern.rename π))
  | join l r => join (l.rename π) (r.rename π)
  | leftJoin l r condition =>
    leftJoin (l.rename π) (r.rename π) (condition.map (Expr.rename π))
  | union l r => union (l.rename π) (r.rename π)
  | filter e p => filter (e.rename π) (p.rename π)
  | extend p x e => extend (p.rename π) x (e.rename π)
  | graph target p => graph target (p.rename π)

/-- The formulas in the terms of the pattern are in order. -/
def InOrder : GraphPattern → Prop
  | basic ps => ∀ p ∈ ps, p.InOrder
  | join l r => l.InOrder ∧ r.InOrder
  | leftJoin l r condition => l.InOrder ∧ r.InOrder ∧ ∀ e ∈ condition, e.InOrder
  | union l r => l.InOrder ∧ r.InOrder
  | filter e p => e.InOrder ∧ p.InOrder
  | extend p _ e => p.InOrder ∧ e.InOrder
  | graph _ p => p.InOrder

end GraphPattern

/-! ## Scopes -/

namespace Collection

variable {c : Collection} {r : GraphRef}

theorem deref_rename : (c.rename π).deref r = (c.deref r).rename π := by
  show ((c.shared.map (Graph.rename π))[r.index]?).getD (.empty none) = _
  unfold deref
  rw [List.getElem?_map]
  cases c.shared[r.index]? with
  | none => rfl
  | some g => rfl

theorem inOrder_deref (h : ∀ g ∈ c.shared, g.InOrder) : (c.deref r).InOrder := by
  unfold deref
  cases hg : c.shared[r.index]? with
  | none => exact fun t ht => absurd ht SortedSet.not_mem_empty
  | some g => exact h g (List.mem_of_getElem? hg)

end Collection

namespace Session

variable {s : Session} {target : ScopeTarget} {scope : Scope} {is : List Iri} {g : Graph}

theorem graphs_rename : (s.rename π).graphs = s.graphs.map (Graph.rename π) := by
  show (s.handle.current.rename π).graphs (s.store.collection.rename π) = _
  unfold graphs
  cases s.handle.current with
  | everything =>
    show (s.store.collection.refs.map (s.store.collection.rename π).deref) =
      (s.store.collection.refs.map s.store.collection.deref).map (Graph.rename π)
    rw [List.map_map]
    exact List.map_congr_left fun r _ => Collection.deref_rename
  | graph r => exact congrArg (fun g => [g]) Collection.deref_rename
  | merged g => rfl

theorem InOrder.graphs (h : s.InOrder) : ∀ g ∈ s.graphs, g.InOrder := by
  intro g hg
  unfold Session.graphs at hg
  have hcurrent := h.current
  cases hscope : s.handle.current with
  | everything =>
    rw [hscope] at hg
    obtain ⟨r, -, rfl⟩ := List.mem_map.1 hg
    exact Collection.inOrder_deref h.shared
  | graph r =>
    rw [hscope] at hg
    obtain rfl := List.mem_singleton.1 hg
    exact Collection.inOrder_deref h.shared
  | merged k =>
    rw [hscope] at hg hcurrent
    obtain rfl := List.mem_singleton.1 hg
    exact hcurrent

theorem InOrder.within (h : s.InOrder) (hscope : scope.InOrder) : (s.within scope).InOrder where
  shared := h.shared
  current := hscope

theorem ref?_rename {name : GraphName} :
    (s.rename π).store.collection.ref? name = s.store.collection.ref? name := rfl

theorem mergeNamed_rename :
    ((StoreM.mergeNamed (g.rename π) is).exec (s.rename π)).1 =
      ((StoreM.mergeNamed g is).exec s).1.map (Graph.rename π) := by
  induction is generalizing g with
  | nil => rfl
  | cons i is ih =>
    unfold StoreM.mergeNamed
    rw [(StoreM.readsOnly_requireGraph i).result_bind, (StoreM.readsOnly_requireGraph i).result_bind,
      result_requireGraph, result_requireGraph, ref?_rename]
    cases s.store.collection.ref? (some i) with
    | none => rfl
    | some r =>
      refine Eq.trans ?_ ih
      show ((StoreM.mergeNamed ((g.rename π).merge ((s.store.collection.rename π).deref r)).1
        is).exec (s.rename π)).1 = _
      rw [Collection.deref_rename, Graph.merge_rename]

theorem inOrder_mergeNamed (h : s.InOrder) (hg : g.InOrder) {m : Graph}
    (hm : ((StoreM.mergeNamed g is).exec s).1 = .ok m) : m.InOrder := by
  intro t ht
  rcases (mem_mergeNamed hm).1 ht with ht | ⟨i, -, k, hk, ht⟩
  · exact hg t ht
  · obtain ⟨r, -, rfl⟩ := Option.map_eq_some_iff.1 hk
    exact Collection.inOrder_deref h.shared t ht

theorem resolve_rename (s : Session) (target : ScopeTarget) :
    (s.rename π).resolve target = (s.resolve target).map (Scope.rename π) := by
  have hnamed (i : Iri) : (s.rename π).resolve (.named i) =
      (s.resolve (.named i)).map (Scope.rename π) := by
    rw [resolve_named, resolve_named, ref?_rename]
    cases s.store.collection.ref? (some i) with
    | none => rfl
    | some r => rfl
  cases target with
  | default =>
    rw [resolve_default, resolve_default]
    show Except.ok s.handle.defaultScope = .ok (s.handle.defaultScope.rename π)
    unfold Handle.defaultScope
    cases s.handle.defaultGraph with
    | none => rfl
    | some r => rfl
  | graph r => rfl
  | named i => exact hnamed i
  | union is =>
    rcases resolve_union_cases is with ⟨i, rfl⟩ | hmerged
    · exact hnamed i
    · rw [hmerged, hmerged]
      have hmerge : ((StoreM.mergeNamed (.empty none) is).exec (s.rename π)).1 =
          ((StoreM.mergeNamed (.empty none) is).exec s).1.map (Graph.rename π) :=
        mergeNamed_rename (g := .empty none)
      rw [hmerge]
      cases ((StoreM.mergeNamed (.empty none) is).exec s).1 with
      | error e => rfl
      | ok m => rfl

theorem InOrder.resolve (h : s.InOrder) (hscope : s.resolve target = .ok scope) :
    scope.InOrder := by
  cases target with
  | default =>
    rw [resolve_default] at hscope
    obtain rfl := Except.ok.inj hscope
    unfold Handle.defaultScope
    cases s.handle.defaultGraph with
    | none => trivial
    | some r => trivial
  | graph r => exact Except.ok.inj hscope ▸ trivial
  | named i =>
    obtain ⟨r, -, rfl⟩ := resolve_named_eq_ok hscope
    trivial
  | union is =>
    rcases resolve_union_eq_ok hscope with ⟨i, r, -, -, rfl⟩ | ⟨m, hm, rfl⟩
    · trivial
    · exact inOrder_mergeNamed h (fun t ht => absurd ht SortedSet.not_mem_empty) hm

end Session

/-! ## Conditions and extensions -/

namespace Expr

variable {row : Row} {now : DateTime} {e : Expr} {x : String}

theorem isSome_fatal?_rename (he : e.InOrder) (hrow : row.InOrder) :
    ((e.rename π).fatal? now (row.rename π)).isSome = (e.fatal? now row).isSome := by
  have hvalue := evaluate_rename (π := π) hrow now he
  unfold fatal?
  generalize e.evaluate row now = o at hvalue ⊢
  generalize (e.rename π).evaluate (row.rename π) now = o' at hvalue ⊢
  cases hvalue with
  | ok hvw => rfl
  | error hrecoverable =>
    dsimp only
    rw [hrecoverable]
    split
    · rfl
    · rfl

theorem keeps_rename (he : e.InOrder) (hrow : row.InOrder) :
    (e.rename π).keeps now (row.rename π) = e.keeps now row := by
  have htruth := (evaluate_rename (π := π) hrow now he).truth
  unfold keeps holds
  generalize (e.evaluate row now).truth = o at htruth ⊢
  generalize ((e.rename π).evaluate (row.rename π) now).truth = o' at htruth ⊢
  cases htruth with
  | ok hab => exact hab.symm
  | error hrecoverable => rfl

theorem extended_rename (he : e.InOrder) (hrow : row.InOrder) :
    (row.rename π).extended now x (e.rename π) = (row.extended now x e).rename π ∧
      (row.extended now x e).InOrder := by
  have hvalue := evaluate_rename (π := π) hrow now he
  unfold Row.extended
  generalize e.evaluate row now = o at hvalue ⊢
  generalize (e.rename π).evaluate (row.rename π) now = o' at hvalue ⊢
  cases hvalue with
  | @ok v w hvw =>
    obtain ⟨hv, rfl⟩ := hvw
    refine ⟨?_, hrow.insert (Value.inOrder_toTerm hv)⟩
    dsimp only
    rw [Row.rename_insert, Value.toTerm_rename]
  | error hrecoverable => exact ⟨rfl, hrow⟩

theorem isSome_extendFault?_rename (he : e.InOrder) (hrow : row.InOrder) :
    (extendFault? now x (e.rename π) (row.rename π)).isSome =
      (extendFault? now x e row).isSome := by
  unfold extendFault?
  rw [Row.contains_rename]
  split
  · rfl
  · rw [Option.isSome_map, Option.isSome_map, isSome_fatal?_rename he hrow]

end Expr

section Conditions

variable {row : Row} {now : DateTime} {condition : Option Expr}

theorem isSome_conditionFatal?_rename (hc : ∀ e ∈ condition, e.InOrder) (hrow : row.InOrder) :
    (conditionFatal? now (condition.map (Expr.rename π)) (row.rename π)).isSome =
      (conditionFatal? now condition row).isSome := by
  cases condition with
  | none => rfl
  | some e => exact Expr.isSome_fatal?_rename (hc e rfl) hrow

theorem conditionKeeps_rename (hc : ∀ e ∈ condition, e.InOrder) (hrow : row.InOrder) :
    conditionKeeps now (condition.map (Expr.rename π)) (row.rename π) =
      conditionKeeps now condition row := by
  cases condition with
  | none => rfl
  | some e => exact Expr.keeps_rename (hc e rfl) hrow

end Conditions

namespace RowsMirror

variable {A B : List Row} {l : Row}

/-- Something is wrong with a row of one list if something is with a row of the other. -/
theorem isSome_findSome? {ε : Type} {f g : Row → Option ε} (h : RowsMirror π A B)
    (hfg : ∀ row ∈ A, (g (row.rename π)).isSome = (f row).isSome) :
    (B.findSome? g).isSome = (A.findSome? f).isSome := by
  rw [Bool.eq_iff_iff, List.findSome?_isSome_iff, List.findSome?_isSome_iff]
  simp only [h.perm.mem_iff, List.mem_map, exists_exists_and_eq_and]
  exact exists_congr fun row => and_congr_right fun hrow => by rw [hfg row hrow]

theorem optional (hl : l.InOrder) (h : RowsMirror π A B) :
    RowsMirror π (l.optional A) ((l.rename π).optional B) := by
  have hempty : B.isEmpty = A.isEmpty := by
    rw [Bool.eq_iff_iff, List.isEmpty_iff, List.isEmpty_iff]
    constructor
    · rintro rfl
      exact List.map_eq_nil_iff.1 h.perm.nil_eq.symm
    · rintro rfl
      exact h.perm.eq_nil
  unfold Row.optional
  rw [hempty]
  split
  · exact ⟨fun row hrow => List.mem_singleton.1 hrow ▸ hl, .refl _⟩
  · exact h

end RowsMirror

/-! ## Solutions -/

/-- Both results are errors, or both are rows that are the same but for names. -/
inductive ResultsMirror (π : Equiv.Perm Blank) :
    Except StoreError (List Row) → Except StoreError (List Row) → Prop
  | ok {A B : List Row} : RowsMirror π A B → ResultsMirror π (.ok A) (.ok B)
  | error {e e' : StoreError} : ResultsMirror π (.error e) (.error e')

namespace ResultsMirror

variable {r r' : Except StoreError (List Row)}

theorem bind {f g : List Row → Except StoreError (List Row)} (h : ResultsMirror π r r')
    (hfg : ∀ A B, RowsMirror π A B → ResultsMirror π (f A) (g B)) :
    ResultsMirror π (r >>= f) (r' >>= g) := by
  cases h with
  | ok hAB => exact hfg _ _ hAB
  | error => exact .error

theorem unlessFault {fault fault' : Option StoreError} {A B : List Row}
    (hfault : fault'.isSome = fault.isSome) (h : RowsMirror π A B) :
    ResultsMirror π (unlessFault fault A) (unlessFault fault' B) := by
  cases fault with
  | none =>
    cases fault' with
    | none => exact .ok h
    | some e => exact nomatch hfault
  | some e =>
    cases fault' with
    | none => exact nomatch hfault
    | some e' => exact .error

end ResultsMirror

namespace Session

variable {s : Session} {now : DateTime} {p : GraphPattern}

/-- A pattern whose solutions keep up with names, in every session. -/
def Follows (π : Equiv.Perm Blank) (now : DateTime) (p : GraphPattern) : Prop :=
  ∀ {s : Session}, s.InOrder →
    ResultsMirror π (s.solve now p) ((s.rename π).solve now (p.rename π))

theorem Follows.solveIn (hp : Follows π now p) (h : s.InOrder) (target : ScopeTarget) :
    ResultsMirror π (s.solveIn now target p) ((s.rename π).solveIn now target (p.rename π)) := by
  unfold Session.solveIn
  rw [resolve_rename]
  cases hscope : s.resolve target with
  | error e => exact .error
  | ok scope => exact hp (h.within (h.resolve hscope))

theorem Follows.solveEach (hp : Follows π now p) (h : s.InOrder) (x : String) (is : List Iri) :
    ResultsMirror π (s.solveEach now x p is) ((s.rename π).solveEach now x (p.rename π) is) := by
  induction is with
  | nil => exact .ok .nil
  | cons i is ih =>
    refine (hp.solveIn h (.named i)).bind fun A B hAB => ih.bind fun C D hCD => .ok ?_
    exact (hAB.bindRows x i).append hCD

/-- By induction on the pattern, in all sessions at once: whatever is done with the rows of the
parts of a pattern can as well be done under other names. -/
theorem follows_of_inOrder (π : Equiv.Perm Blank) (now : DateTime) (hp : p.InOrder) :
    Follows π now p := by
  intro s h
  induction p generalizing s with
  | basic ps =>
    have hfind : Lookup.Mirrors π (Selection.find s.graphs) (Selection.find (s.rename π).graphs) := by
      rw [graphs_rename]
      exact Selection.mirrors_find h.graphs
    have hstart : RowsMirror π [.empty] [.empty] :=
      ⟨fun row hrow => List.mem_singleton.1 hrow ▸ Row.inOrder_empty, .refl _⟩
    exact .ok (.joinAll hfind hp hstart)
  | join l r ihl ihr =>
    show ResultsMirror π _ ((s.rename π).solve now (.join (l.rename π) (r.rename π)))
    rw [solve_join, solve_join]
    exact (ihl hp.1 h).bind fun A B hAB => (ihr hp.2 h).bind fun C D hCD => .ok (hAB.joinRows hCD)
  | leftJoin l r condition ihl ihr =>
    obtain ⟨hl, hr, hc⟩ := hp
    show ResultsMirror π _ ((s.rename π).solve now
      (.leftJoin (l.rename π) (r.rename π) (condition.map (Expr.rename π))))
    rw [solve_leftJoin, solve_leftJoin]
    refine (ihl hl h).bind fun A B hAB => (ihr hr h).bind fun C D hCD => ?_
    have hjoin := hAB.joinRows hCD
    refine .unlessFault ?_ (hAB.flatMap fun row hrow => ?_)
    · rw [Option.isSome_map, Option.isSome_map]
      exact hjoin.isSome_findSome? fun row hrow =>
        isSome_conditionFatal?_rename hc (hjoin.inOrder row hrow)
    · have hmerge := RowsMirror.mergeWith (hAB.inOrder row hrow) hCD
      exact .optional (hAB.inOrder row hrow)
        (hmerge.filter fun m hm => conditionKeeps_rename hc (hmerge.inOrder m hm))
  | union l r ihl ihr =>
    show ResultsMirror π _ ((s.rename π).solve now (.union (l.rename π) (r.rename π)))
    rw [solve_union, solve_union]
    exact (ihl hp.1 h).bind fun A B hAB => (ihr hp.2 h).bind fun C D hCD => .ok (hAB.append hCD)
  | filter e p ih =>
    obtain ⟨he, hp⟩ := hp
    show ResultsMirror π _ ((s.rename π).solve now (.filter (e.rename π) (p.rename π)))
    rw [solve_filter, solve_filter]
    refine (ih hp h).bind fun A B hAB => .unlessFault ?_ ?_
    · rw [Option.isSome_map, Option.isSome_map]
      exact hAB.isSome_findSome? fun row hrow =>
        Expr.isSome_fatal?_rename he (hAB.inOrder row hrow)
    · exact hAB.filter fun row hrow => Expr.keeps_rename he (hAB.inOrder row hrow)
  | extend p x e ih =>
    obtain ⟨hp, he⟩ := hp
    show ResultsMirror π _ ((s.rename π).solve now (.extend (p.rename π) x (e.rename π)))
    rw [solve_extend, solve_extend]
    refine (ih hp h).bind fun A B hAB => .unlessFault ?_ ?_
    · exact hAB.isSome_findSome? fun row hrow =>
        Expr.isSome_extendFault?_rename he (hAB.inOrder row hrow)
    · exact hAB.map (fun row hrow => (Expr.extended_rename he (hAB.inOrder row hrow)).1)
        fun row hrow => (Expr.extended_rename (π := π) he (hAB.inOrder row hrow)).2
  | graph target p ih =>
    have hfollows : Follows π now p := ih hp
    cases target with
    | default =>
      show ResultsMirror π _ ((s.rename π).solve now (.graph .default (p.rename π)))
      rw [solve_graph_default, solve_graph_default]
      exact hfollows.solveIn h .default
    | named i =>
      show ResultsMirror π _ ((s.rename π).solve now (.graph (.named i) (p.rename π)))
      rw [solve_graph_named, solve_graph_named]
      exact hfollows.solveIn h (.named i)
    | union is =>
      show ResultsMirror π _ ((s.rename π).solve now (.graph (.union is) (p.rename π)))
      rw [solve_graph_union, solve_graph_union]
      exact hfollows.solveIn h (.union is)
    | var x =>
      show ResultsMirror π _ ((s.rename π).solve now (.graph (.var x) (p.rename π)))
      rw [solve_graph_var, solve_graph_var]
      exact hfollows.solveEach h x _

end Session

namespace StoreM

/-- **Names of blank nodes are opaque to patterns.** For every bijection on blank nodes, a pattern
has solutions in a session exactly if the renamed pattern has solutions in the renamed session, and
then the rows there are the renamed rows, each as often. All that is asked of session and pattern is
that formulas list their triples as sets do. -/
theorem solutions_rename (π : Equiv.Perm Blank) (now : DateTime) {s : Session} {p : GraphPattern}
    (hs : s.InOrder) (hp : p.InOrder) :
    ((s.rename π).Solves now (p.rename π) ↔ s.Solves now p) ∧
      ∀ A B, ((solutions now p).exec s).1 = .ok A →
        ((solutions now (p.rename π)).exec (s.rename π)).1 = .ok B →
          B.Perm (A.map (Row.rename π)) := by
  have hmirror : ResultsMirror π ((solutions now p).exec s).1
      ((solutions now (p.rename π)).exec (s.rename π)).1 := Session.follows_of_inOrder π now hp hs
  unfold Session.Solves
  generalize ((solutions now p).exec s).1 = r at hmirror ⊢
  generalize ((solutions now (p.rename π)).exec (s.rename π)).1 = r' at hmirror ⊢
  cases hmirror with
  | @ok A B hAB =>
    refine ⟨⟨fun _ => ⟨A, rfl⟩, fun _ => ⟨B, rfl⟩⟩, fun A' B' hA hB => ?_⟩
    rw [← Except.ok.inj hA, ← Except.ok.inj hB]
    exact hAB.perm
  | error =>
    have hnone {e : StoreError} : ¬∃ rows : List Row, Except.error e = .ok rows :=
      fun ⟨_, h⟩ => nomatch h
    exact ⟨iff_of_false hnone hnone, fun _ _ hA => nomatch hA⟩

/-- A claim of somebody without a name: two people have children. -/
def rumour : Term :=
  .ofTriples (.ofList [⟨.blank ⟨1⟩, .iri ⟨"urn:parent"⟩, .iri ⟨"urn:cid"⟩⟩,
    ⟨.blank ⟨2⟩, .iri ⟨"urn:parent"⟩, .iri ⟨"urn:bob"⟩⟩])

/-- What is known of people without names. -/
def gossip : List Triple :=
  [⟨.blank ⟨1⟩, .iri ⟨"urn:parent"⟩, .iri ⟨"urn:bob"⟩⟩,
    ⟨.blank ⟨2⟩, .iri ⟨"urn:says"⟩, rumour⟩]

def gossipSession : Session :=
  ((addGraph (.ofTriples (some ⟨"urn:gossip"⟩) gossip) false).exec ⟨Store.default .new, .new⟩).2

theorem inOrder_rumour : rumour.InOrder := by
  refine Term.inOrder_ofTriples fun t ht => ?_
  have hmem := SortedSet.mem_ofList.1 ht
  simp only [List.mem_cons, List.not_mem_nil, or_false] at hmem
  rcases hmem with rfl | rfl
  · exact ⟨trivial, trivial, trivial⟩
  · exact ⟨trivial, trivial, trivial⟩

theorem inOrder_gossipSession : gossipSession.InOrder where
  current := trivial
  shared := by
    intro g hg
    have hshared : gossipSession.store.collection.shared =
        [.ofTriples (some ⟨"urn:gossip"⟩) gossip] := rfl
    rw [hshared] at hg
    obtain rfl := List.mem_singleton.1 hg
    intro t ht
    have hmem := Graph.mem_ofTriples.1 ht
    simp only [gossip, List.mem_cons, List.not_mem_nil, or_false] at hmem
    rcases hmem with rfl | rfl
    · exact ⟨trivial, trivial, trivial⟩
    · exact ⟨trivial, trivial, inOrder_rumour⟩

/-- Parents without a name, and the one who tells the rumour, under exchanged names. -/
theorem solutions_rename_gossip :
    let π := Equiv.swap (⟨1⟩ : Blank) ⟨2⟩
    let p : GraphPattern := .union
      (.filter (.call (.kindTest .blank) [.var "x"]) (.basic [childPattern "x" "y"]))
      (.filter (.call .sameTerm [.var "x", .const (.blank ⟨2⟩)])
        (.basic [⟨.var "x", .fixed (.iri ⟨"urn:says"⟩), .fixed rumour⟩]))
    gossipSession.InOrder ∧ p.InOrder ∧ rumour.rename π ≠ rumour ∧
      ((solutions noon p).exec gossipSession).1.toOption.map List.length = some 2 ∧
      ∃ A B, ((solutions noon p).exec gossipSession).1 = .ok A ∧
        ((solutions noon (p.rename π)).exec (gossipSession.rename π)).1 = .ok B ∧
        B.Perm (A.map (Row.rename π)) := by
  intro π p
  have hp : p.InOrder := by
    refine ⟨⟨?_, ?_⟩, ?_, ?_⟩
    · exact Expr.allInOrder_iff.2 fun e he => List.mem_singleton.1 he ▸ trivial
    · exact fun q hq => List.mem_singleton.1 hq ▸ ⟨trivial, trivial, trivial⟩
    · refine Expr.allInOrder_iff.2 (List.forall_mem_cons.2 ⟨trivial, fun e he => ?_⟩)
      exact List.mem_singleton.1 he ▸ trivial
    · exact fun q hq => List.mem_singleton.1 hq ▸ ⟨trivial, trivial, inOrder_rumour⟩
  have hrows : ((solutions noon p).exec gossipSession).1.toOption.map List.length = some 2 := by
    decide +kernel
  have hrename := solutions_rename π noon inOrder_gossipSession hp
  obtain ⟨A, hA⟩ := Session.solves_of_length hrows
  obtain ⟨B, hB⟩ := hrename.1.2 ⟨A, hA⟩
  exact ⟨inOrder_gossipSession, hp, by decide +kernel, hrows, A, B, hA, hB, hrename.2 A B hA hB⟩

end StoreM

end RdfStore
