import RdfStore.Proofs.Store.Contents

/-!
# Events of a collection

Whoever has subscribed to a collection can follow it by the events alone. Each event is a legal step
from the names in use before it, and together the events lead from the names in use at the time of
the subscription to those in use now (`Collection.events_replay`).
-/

namespace RdfStore

/-! ## Events and the names in use -/

/-- The names after an event, if it is legal: a graph comes in under a name that is not in use, and
triples come in, or a graph goes out, under one that is. -/
def GraphEvent.replay? (names : Finset GraphName) : GraphEvent → Option (Finset GraphName)
  | added name => if name ∈ names then none else some (insert name names)
  | merged name => if name ∈ names then some names else none
  | removed name => if name ∈ names then some (names.erase name) else none

/-- The names after events one after the other, if all are legal. -/
def replayEvents? (names : Finset GraphName) : List GraphEvent → Option (Finset GraphName)
  | [] => some names
  | e :: es => (e.replay? names).bind fun names => replayEvents? names es

theorem replayEvents?_append (names : Finset GraphName) (es fs : List GraphEvent) :
    replayEvents? names (es ++ fs) =
      (replayEvents? names es).bind fun names => replayEvents? names fs := by
  induction es generalizing names with
  | nil => rfl
  | cons e es ih =>
    dsimp only [List.cons_append, replayEvents?]
    rw [Option.bind_assoc]
    exact Option.bind_congr fun names _ => ih names

/-! ## Operations and histories -/

/-- What is done to the graphs of a collection. -/
inductive CollectionOperation where
  /-- Adds a graph. -/
  | add (g : Graph) (mergeIfExists : Bool)
  /-- Asks for a graph. -/
  | getOrCreate (name : GraphName)
  /-- Takes a graph out. -/
  | remove (name : GraphName)

namespace CollectionOperation

def run (c : Collection) : CollectionOperation → Collection
  | add g mergeIfExists =>
    match c.add g mergeIfExists with
    | .ok (_, d) => d
    | .error _ => c
  | getOrCreate name => (c.getOrCreate name).2
  | remove name => (c.remove name).2

/-- Whether an operation comes to nothing: the graph is refused, is there already, or is absent. -/
def isIdle (c : Collection) : CollectionOperation → Bool
  | add g mergeIfExists =>
    match c.add g mergeIfExists with
    | .ok _ => false
    | .error _ => true
  | getOrCreate name => c.contains name
  | remove name => !c.contains name

/-- The event that an operation has to send where some names are in use. -/
def event? (names : Finset GraphName) : CollectionOperation → Option GraphEvent
  | add g mergeIfExists =>
    if g.name ∉ names then some (.added g.name)
    else if mergeIfExists then some (.merged g.name)
    else none
  | getOrCreate name => if name ∉ names then some (.added name) else none
  | remove name => if name ∈ names then some (.removed name) else none

end CollectionOperation

/-- What happens in the life of a collection. -/
inductive CollectionAction where
  /-- Graphs come or go. -/
  | operate (o : CollectionOperation)
  /-- One more subscriber comes. -/
  | subscribe
  /-- A subscriber goes. -/
  | unsubscribe (i : Nat)
  /-- A subscriber takes the events that wait for it. -/
  | takeEvents (i : Nat)

namespace CollectionAction

def run (c : Collection) : CollectionAction → Collection
  | operate o => o.run c
  | subscribe => c.subscribe.2
  | unsubscribe i => c.unsubscribe i
  | takeEvents i => (c.takeEvents i).2

/-- The events that are sent by an action. -/
def events (names : Finset GraphName) : CollectionAction → List GraphEvent
  | operate o => (o.event? names).toList
  | _ => []

/-- The events that a subscriber takes by an action. -/
def taken (c : Collection) (i : Nat) : CollectionAction → List GraphEvent
  | takeEvents j => if i = j then (c.takeEvents j).1.getD [] else []
  | _ => []

end CollectionAction

namespace Collection

variable {c d : Collection} {r : GraphRef} {g : Graph} {name : GraphName} {i : Nat}
  {a : CollectionAction} {e : Option GraphEvent} {es : List GraphEvent}

/-- The names in use, as a plain set. -/
def nameSet (c : Collection) : Finset GraphName := c.names.toFinset

/-- The collection after actions one after the other. -/
def after (c : Collection) (as : List CollectionAction) : Collection :=
  as.foldl (fun c a => a.run c) c

/-- All events that a subscriber receives in the course of actions: those that it takes on the way,
and those that wait for it in the end. -/
def received (c : Collection) (i : Nat) : List CollectionAction → List GraphEvent
  | [] => (c.inboxes.find? i).getD []
  | a :: as => a.taken c i ++ (a.run c).received i as

/-- All events that are sent in the course of actions. -/
def sent (c : Collection) : List CollectionAction → List GraphEvent
  | [] => []
  | a :: as => a.events c.nameSet ++ (a.run c).sent as

theorem mem_nameSet : name ∈ c.nameSet ↔ ∃ r, c.ref? name = some r :=
  List.mem_toFinset.trans SortedMap.mem_keys_iff

theorem not_mem_nameSet : name ∉ c.nameSet ↔ c.ref? name = none := by
  rw [mem_nameSet]
  cases c.ref? name with
  | none => simp
  | some r => simp

theorem contains_of_none (h : c.ref? name = none) : c.contains name = false :=
  congrArg Option.isSome h

theorem contains_of_some (h : c.ref? name = some r) : c.contains name = true :=
  congrArg Option.isSome h

/-! ## What an operation comes to -/

/-- An operation takes a graph in, merges triples into one that is there, takes a graph out, or does
nothing, and each of these has its event. -/
inductive Step (c : Collection) : Option GraphEvent → Collection → Prop where
  | enter (g : Graph) (h : c.ref? g.name = none) : Step c (some (.added g.name)) (c.enter g).2
  | merge (g : Graph) (r : GraphRef) (h : c.ref? g.name = some r) :
    Step c (some (.merged g.name))
      ((c.write r ((c.deref r).merge g).1).notify (.merged g.name))
  | remove (name : GraphName) (r : GraphRef) (h : c.ref? name = some r) :
    Step c (some (.removed name)) (c.remove name).2
  | nothing : Step c none c

/-- The names in use decide what an operation comes to. -/
theorem step_run (c : Collection) (o : CollectionOperation) :
    c.Step (o.event? c.nameSet) (o.run c) ∧ o.isIdle c = (o.event? c.nameSet).isNone := by
  cases o with
  | add g merge =>
    dsimp only [CollectionOperation.run, CollectionOperation.isIdle, CollectionOperation.event?]
    cases h : c.ref? g.name with
    | none =>
      rw [add_of_none h, if_pos (not_mem_nameSet.2 h)]
      exact ⟨.enter g h, rfl⟩
    | some r =>
      have hname : g.name ∈ c.nameSet := mem_nameSet.2 ⟨r, h⟩
      rw [add_of_some h, if_neg (not_not.2 hname)]
      cases merge with
      | true => exact ⟨.merge g r h, rfl⟩
      | false => exact ⟨.nothing, rfl⟩
  | getOrCreate name =>
    dsimp only [CollectionOperation.run, CollectionOperation.isIdle, CollectionOperation.event?]
    cases h : c.ref? name with
    | none =>
      rw [getOrCreate_of_none h, contains_of_none h, if_pos (not_mem_nameSet.2 h)]
      exact ⟨.enter (.empty name) h, rfl⟩
    | some r =>
      have hname : name ∈ c.nameSet := mem_nameSet.2 ⟨r, h⟩
      rw [getOrCreate_of_some h, contains_of_some h, if_neg (not_not.2 hname)]
      exact ⟨.nothing, rfl⟩
  | remove name =>
    dsimp only [CollectionOperation.run, CollectionOperation.isIdle, CollectionOperation.event?]
    cases h : c.ref? name with
    | none =>
      rw [remove_of_none h, contains_of_none h, if_neg (not_mem_nameSet.2 h)]
      exact ⟨.nothing, rfl⟩
    | some r =>
      rw [contains_of_some h, if_pos (mem_nameSet.2 ⟨r, h⟩)]
      exact ⟨.remove name r h, rfl⟩

/-! ## Names -/

theorem Step.replay (h : c.Step e d) : replayEvents? c.nameSet e.toList = some d.nameSet := by
  cases h with
  | nothing => rfl
  | enter g h =>
    have hset : insert g.name c.nameSet = (c.enter g).2.nameSet := by
      ext name
      rw [Finset.mem_insert, mem_nameSet, mem_nameSet, ref?_enter]
      by_cases hname : name = g.name
      · simp [hname]
      · simp [hname]
    simp [replayEvents?, GraphEvent.replay?, not_mem_nameSet.2 h, hset]
  | merge g r h =>
    have hname : g.name ∈ c.nameSet := mem_nameSet.2 ⟨r, h⟩
    simp only [Option.toList_some, replayEvents?, GraphEvent.replay?, if_pos hname,
      Option.bind_some]
    rfl
  | remove name r h =>
    have hset : c.nameSet.erase name = (c.remove name).2.nameSet := by
      ext name'
      rw [Finset.mem_erase, mem_nameSet, mem_nameSet, ref?_remove]
      by_cases hname : name' = name
      · simp [hname]
      · simp [hname]
    simp [replayEvents?, GraphEvent.replay?, mem_nameSet.2 ⟨r, h⟩, hset]

theorem replay_run (c : Collection) (a : CollectionAction) :
    replayEvents? c.nameSet (a.events c.nameSet) = some (a.run c).nameSet := by
  cases a with
  | operate o => exact (c.step_run o).1.replay
  | subscribe => rfl
  | unsubscribe i => rfl
  | takeEvents i =>
    dsimp only [CollectionAction.run, CollectionAction.events, takeEvents]
    split
    · rfl
    · rfl

/-- What is sent leads from the names in use before to the names in use after. -/
theorem replay_sent (c : Collection) (as : List CollectionAction) :
    replayEvents? c.nameSet (c.sent as) = some (c.after as).nameSet := by
  induction as generalizing c with
  | nil => rfl
  | cons a as ih =>
    dsimp only [sent]
    rw [replayEvents?_append, replay_run, Option.bind_some]
    exact ih (a.run c)

/-! ## Inboxes -/

theorem find?_inboxes_notify (c : Collection) (e : GraphEvent) (i : Nat) :
    (c.notify e).inboxes.find? i = (c.inboxes.find? i).map (· ++ [e]) :=
  SortedMap.find?_mapValues

theorem Step.inboxes (h : c.Step e d) (i : Nat) :
    d.inboxes.find? i = (c.inboxes.find? i).map (· ++ e.toList) := by
  cases h with
  | enter g h => exact find?_inboxes_notify _ _ i
  | merge g r h => exact find?_inboxes_notify _ _ i
  | remove name r h =>
    rw [remove_of_some h]
    exact find?_inboxes_notify _ _ i
  | nothing =>
    cases c.inboxes.find? i with
    | none => rfl
    | some es => exact congrArg some (List.append_nil es).symm

theorem Step.nextInbox (h : c.Step e d) : d.nextInbox = c.nextInbox := by
  cases h with
  | enter g h => rfl
  | merge g r h => rfl
  | remove name r h =>
    rw [remove_of_some h]
    rfl
  | nothing => rfl

/-- Events wait for a subscriber, and no later subscriber will have its number. -/
structure Waits (c : Collection) (i : Nat) (es : List GraphEvent) : Prop where
  inbox : c.inboxes.find? i = some es
  number : i < c.nextInbox

/-- A subscriber that stays receives just what an action sends, at once or by taking what waits. -/
theorem Waits.run (hi : c.Waits i es) (ha : a ≠ .unsubscribe i) :
    ∃ fs, (a.run c).Waits i fs ∧ a.taken c i ++ fs = es ++ a.events c.nameSet := by
  cases a with
  | operate o =>
    have hstep := (c.step_run o).1
    refine ⟨es ++ (o.event? c.nameSet).toList, ⟨?_, ?_⟩, rfl⟩
    · have hinbox := hstep.inboxes i
      rw [hi.inbox] at hinbox
      exact hinbox
    · have hnext := hstep.nextInbox
      exact hnext ▸ hi.number
  | subscribe =>
    refine ⟨es, ⟨?_, Nat.lt_succ_of_lt hi.number⟩, (List.append_nil es).symm⟩
    have hne : i ≠ c.nextInbox := Nat.ne_of_lt hi.number
    show (c.inboxes.insert c.nextInbox []).find? i = some es
    rw [SortedMap.find?_insert_eq, if_neg hne, hi.inbox]
  | unsubscribe j =>
    refine ⟨es, ⟨?_, hi.number⟩, (List.append_nil es).symm⟩
    have hne : i ≠ j := by
      rintro rfl
      exact ha rfl
    show (c.inboxes.erase j).find? i = some es
    rw [SortedMap.find?_erase_eq, if_neg hne, hi.inbox]
  | takeEvents j =>
    dsimp only [CollectionAction.run, CollectionAction.taken, CollectionAction.events, takeEvents]
    by_cases hij : i = j
    · subst hij
      rw [hi.inbox, if_pos rfl]
      exact ⟨[], ⟨SortedMap.find?_insert_self, hi.number⟩, rfl⟩
    · rw [if_neg hij]
      refine ⟨es, ?_, (List.append_nil es).symm⟩
      cases c.inboxes.find? j with
      | none => exact hi
      | some fs =>
        refine ⟨?_, hi.number⟩
        show (c.inboxes.insert j []).find? i = some es
        rw [SortedMap.find?_insert_eq, if_neg hij, hi.inbox]

/-- A subscriber that stays receives what waits for it and all that is sent from then on. -/
theorem Waits.received (hi : c.Waits i es) {as : List CollectionAction}
    (has : .unsubscribe i ∉ as) :
    (∃ fs, (c.after as).Waits i fs) ∧ c.received i as = es ++ c.sent as := by
  induction as generalizing c es with
  | nil =>
    refine ⟨⟨es, hi⟩, ?_⟩
    dsimp only [Collection.received, sent]
    rw [hi.inbox, List.append_nil]
    rfl
  | cons a as ih =>
    rw [List.mem_cons, not_or] at has
    obtain ⟨fs, hfs, htaken⟩ := hi.run (Ne.symm has.1)
    obtain ⟨hafter, hreceived⟩ := ih hfs has.2
    refine ⟨hafter, ?_⟩
    dsimp only [Collection.received, sent]
    rw [hreceived, ← List.append_assoc, htaken, List.append_assoc]

theorem waits_subscribe (c : Collection) : c.subscribe.2.Waits c.subscribe.1 [] :=
  ⟨SortedMap.find?_insert_self, Nat.lt_succ_self _⟩

/-! ## Subscribers that go

Where events are sent over channels, a subscriber that has gone is noticed when the next event cannot
be delivered to it. Here its inbox goes at once. Nobody else can tell the difference: to forget a
subscriber and then to operate on the graphs comes to the same as the other way round. -/

theorem notify_unsubscribe (c : Collection) (i : Nat) (event : GraphEvent) :
    (c.unsubscribe i).notify event = (c.notify event).unsubscribe i := by
  have hinboxes : (c.inboxes.erase i).mapValues (· ++ [event]) =
      (c.inboxes.mapValues (· ++ [event])).erase i := by
    refine SortedMap.ext_find? fun j => ?_
    rw [SortedMap.find?_mapValues, SortedMap.find?_erase_eq, SortedMap.find?_erase_eq,
      SortedMap.find?_mapValues]
    split
    · rfl
    · rfl
  unfold notify unsubscribe
  dsimp only
  rw [hinboxes]

theorem enter_unsubscribe (c : Collection) (i : Nat) (g : Graph) :
    ((c.unsubscribe i).enter g).2 = (c.enter g).2.unsubscribe i :=
  notify_unsubscribe { (c.share g).2 with directory := c.directory.insert g.name (c.share g).1 } i _

theorem run_unsubscribe (c : Collection) (i : Nat) (o : CollectionOperation) :
    o.run (c.unsubscribe i) = (o.run c).unsubscribe i := by
  have href (name : GraphName) : (c.unsubscribe i).ref? name = c.ref? name := rfl
  cases o with
  | add g merge =>
    dsimp only [CollectionOperation.run]
    cases h : c.ref? g.name with
    | none =>
      rw [add_of_none h, add_of_none ((href _).trans h)]
      exact c.enter_unsubscribe i g
    | some r =>
      rw [add_of_some h, add_of_some ((href _).trans h)]
      cases merge with
      | true => exact notify_unsubscribe (c.write r ((c.deref r).merge g).1) i _
      | false => rfl
  | getOrCreate name =>
    dsimp only [CollectionOperation.run]
    cases h : c.ref? name with
    | none =>
      rw [getOrCreate_of_none h, getOrCreate_of_none ((href _).trans h)]
      exact c.enter_unsubscribe i (.empty name)
    | some r => rw [getOrCreate_of_some h, getOrCreate_of_some ((href _).trans h)]
  | remove name =>
    dsimp only [CollectionOperation.run]
    cases h : c.ref? name with
    | none => rw [remove_of_none h, remove_of_none ((href _).trans h)]
    | some r =>
      rw [remove_of_some h, remove_of_some ((href _).trans h)]
      exact notify_unsubscribe { c with directory := c.directory.erase name } i _

theorem after_unsubscribe (c : Collection) (i : Nat) (os : List CollectionOperation) :
    (c.unsubscribe i).after (os.map .operate) = (c.after (os.map .operate)).unsubscribe i := by
  induction os generalizing c with
  | nil => rfl
  | cons o os ih =>
    show (o.run (c.unsubscribe i)).after (os.map .operate) = _
    rw [run_unsubscribe]
    exact ih (o.run c)

/-! ## Names of graphs -/

/-- Every graph has the name that it is kept under. -/
structure Labelled (c : Collection) : Prop extends c.Coherent where
  named : ∀ name r, c.ref? name = some r → (c.deref r).name = name

theorem Labelled.step (hc : c.Labelled) (h : c.Step e d) : d.Labelled := by
  cases h with
  | nothing => exact hc
  | enter g h =>
    refine ⟨hc.toCoherent.enter g, fun name r hr => ?_⟩
    rw [ref?_enter] at hr
    rw [deref_enter]
    split at hr
    · next hname =>
      cases hr
      rw [if_pos rfl, hname]
    · rw [if_neg (hc.toCoherent.ne_enter hr)]
      exact hc.named name r hr
  | merge g r h =>
    refine ⟨(hc.toCoherent.write r _).notify _, fun name r' hr => ?_⟩
    have hname := hc.named name r' hr
    show ((c.write r _).deref r').name = name
    rw [deref_write]
    -- The graph that triples come into keeps its name.
    split
    · next he =>
      obtain ⟨rfl, -⟩ := he
      rw [Graph.name_merge]
      exact hname
    · exact hname
  | remove name r h =>
    refine ⟨hc.toCoherent.remove name, fun name' r' hr => ?_⟩
    have hderef : (c.remove name).2.deref r' = c.deref r' := by
      unfold deref
      rw [shared_remove]
    rw [ref?_remove] at hr
    rw [hderef]
    split at hr
    · exact nomatch hr
    · exact hc.named name' r' hr

theorem Labelled.run (hc : c.Labelled) (a : CollectionAction) : (a.run c).Labelled := by
  cases a with
  | operate o => exact hc.step (c.step_run o).1
  | subscribe => exact ⟨⟨hc.bounded, hc.separate⟩, hc.named⟩
  | unsubscribe i => exact ⟨⟨hc.bounded, hc.separate⟩, hc.named⟩
  | takeEvents i =>
    dsimp only [CollectionAction.run, takeEvents]
    split
    · exact hc
    · exact ⟨⟨hc.bounded, hc.separate⟩, hc.named⟩

theorem labelled_after (as : List CollectionAction) : (empty.after as).Labelled := by
  induction as using List.reverseRecOn with
  | nil => exact ⟨coherent_of_ref? fun _ => rfl, nofun⟩
  | append_singleton as a ih =>
    have hsnoc : empty.after (as ++ [a]) = a.run (empty.after as) := by
      unfold after
      rw [List.foldl_append]
      rfl
    rw [hsnoc]
    exact ih.run a

/-- **Events are a faithful log.** After any history of a new collection, every graph has the name
that it is kept under, and an operation sends every subscriber, and nobody else, one event, or none
if it comes to nothing. Whoever subscribes then and stays is still there after any further history,
and the events received by then are legal one after the other and lead from the names in use at the
time of the subscription to those in use now. -/
theorem events_replay (as : List CollectionAction) :
    let c := empty.after as
    (∀ name r, c.ref? name = some r → (c.deref r).name = name) ∧
    (∀ o : CollectionOperation, ∃ es : List GraphEvent,
      es.length = (if o.isIdle c then 0 else 1) ∧
      ∀ i, (o.run c).inboxes.find? i = (c.inboxes.find? i).map (· ++ es)) ∧
    ∀ bs : List CollectionAction, .unsubscribe c.subscribe.1 ∉ bs →
      ((c.subscribe.2.after bs).inboxes.find? c.subscribe.1).isSome = true ∧
      replayEvents? c.nameSet (c.subscribe.2.received c.subscribe.1 bs) =
        some (c.subscribe.2.after bs).nameSet := by
  intro c
  refine ⟨(labelled_after as).named, fun o => ?_, fun bs hbs => ?_⟩
  · obtain ⟨hstep, hidle⟩ := c.step_run o
    refine ⟨(o.event? c.nameSet).toList, ?_, hstep.inboxes⟩
    rw [hidle]
    cases o.event? c.nameSet with
    | none => rfl
    | some e => rfl
  · obtain ⟨⟨fs, hfs⟩, hreceived⟩ := c.waits_subscribe.received hbs
    refine ⟨?_, ?_⟩
    · rw [hfs.inbox]
      rfl
    · rw [hreceived, List.nil_append]
      exact c.subscribe.2.replay_sent bs

/-- A subscriber comes when there is one graph, takes its events once, and stays while another one
comes and goes: of seven operations it is told the three that come to something. -/
theorem events_replay_family :
    let family : GraphName := some ⟨"urn:family"⟩
    let as : List CollectionAction := [.operate (.add (.empty family) false)]
    let bs : List CollectionAction :=
      [.operate (.add (.empty family) true), .operate (.add (.empty family) false), .takeEvents 0,
        .subscribe, .operate (.getOrCreate none), .operate (.getOrCreate family), .unsubscribe 1,
        .operate (.remove family), .operate (.remove family), .operate (.getOrCreate none)]
    let c := empty.after as
    .unsubscribe c.subscribe.1 ∉ bs ∧
      c.subscribe.2.received c.subscribe.1 bs = [.merged family, .added none, .removed family] ∧
      replayEvents? c.nameSet (c.subscribe.2.received c.subscribe.1 bs) =
        some (c.subscribe.2.after bs).nameSet := by
  intro family as bs c
  have hstays : .unsubscribe c.subscribe.1 ∉ bs := by
    have hnumber : c.subscribe.1 = 0 := by decide +kernel
    rw [hnumber]
    simp [bs]
  exact ⟨hstays, by decide +kernel, ((events_replay as).2.2 bs hstays).2⟩

end Collection

end RdfStore
