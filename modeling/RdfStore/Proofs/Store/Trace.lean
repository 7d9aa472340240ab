import RdfStore.Update.Basic
import RdfStore.Proofs.Store.ReadOnly

/-!
# Which reasoners are run

Every operation that runs reasoners is given once more, as an action that tells beside its result
which reasoners it runs over which graphs (`Traced`). Without these calls the second form is
the first again (`Operation.action_traced`), so the calls are those of the operation itself.
-/

namespace RdfStore

/-- A run of a reasoner. -/
inductive ReasonerCall where
  /-- Over one graph. -/
  | extend (e : Reasoner) (g : Graph)
  /-- From a graph into another one. -/
  | derive (e : Reasoner) (input output : Graph)

/-- The call brings a triple into the graph that it writes. -/
def ReasonerCall.Produces : ReasonerCall → Triple → Prop
  | extend e g, t => t ∈ (e.extend g).1.triples ∧ t ∉ g.triples
  | derive e input output, t => t ∈ (e.derive input output).1.triples ∧ t ∉ output.triples

/-- An action and the calls of reasoners that it makes in a session, in order. -/
structure Traced (α : Type) where
  /-- The action. -/
  action : StoreM α
  /-- Its calls. -/
  calls : Session → List ReasonerCall

namespace Traced

open StoreM

variable {α β : Type}

/-- An action that calls no reasoner. -/
def quiet (m : StoreM α) : Traced α := ⟨m, fun _ => []⟩

instance : MonadLift StoreM Traced := ⟨quiet⟩

instance : Monad Traced where
  pure a := quiet (pure a)
  bind m f :=
    ⟨m.action >>= fun a => (f a).action, fun s =>
      m.calls s ++
        match m.action.exec s with
        | (.ok a, t) => (f a).calls t
        | (.error _, _) => []⟩

instance : MonadExcept StoreError Traced where
  throw e := quiet (throw e)
  tryCatch m f :=
    ⟨tryCatch m.action fun e => (f e).action, fun s =>
      m.calls s ++
        match m.action.exec s with
        | (.ok _, _) => []
        | (.error e, t) => (f e).calls t⟩

section Calls

variable {m : Traced α} {f : α → Traced β} {h : StoreError → Traced α} {s t : Session} {a : α}
  {e : StoreError}

theorem calls_bind_of_ok (hm : m.action.exec s = (.ok a, t)) :
    (m >>= f).calls s = m.calls s ++ (f a).calls t := by
  show m.calls s ++
    (match m.action.exec s with
    | (.ok a, t) => (f a).calls t
    | (.error _, _) => []) = _
  rw [hm]

theorem calls_bind_of_error (hm : m.action.exec s = (.error e, t)) :
    (m >>= f).calls s = m.calls s := by
  show m.calls s ++
    (match m.action.exec s with
    | (.ok a, t) => (f a).calls t
    | (.error _, _) => []) = _
  rw [hm, List.append_nil]

theorem calls_tryCatch_of_ok (hm : m.action.exec s = (.ok a, t)) :
    (tryCatch m h).calls s = m.calls s := by
  show m.calls s ++
    (match m.action.exec s with
    | (.ok _, _) => []
    | (.error e, t) => (h e).calls t) = _
  rw [hm, List.append_nil]

theorem calls_tryCatch_of_error (hm : m.action.exec s = (.error e, t)) :
    (tryCatch m h).calls s = m.calls s ++ (h e).calls t := by
  show m.calls s ++
    (match m.action.exec s with
    | (.ok _, _) => []
    | (.error e, t) => (h e).calls t) = _
  rw [hm]

end Calls

/-! ## Operations with their calls -/

/-- Runs a reasoner over a graph. -/
def extend (e : Reasoner) (g : Graph) : Traced (Graph × Except ReasonerError Unit) :=
  ⟨pure (e.extend g), fun _ => [.extend e g]⟩

/-- Runs a reasoner from a graph into another one. -/
def derive (e : Reasoner) (input output : Graph) : Traced (Graph × Except ReasonerError Unit) :=
  ⟨pure (e.derive input output), fun _ => [.derive e input output]⟩

/-- The graph with what reasoners add to it one after the other. -/
def extendAll : List Reasoner → Graph → Traced Graph
  | [], g => return g
  | e :: es, g => do
    match ← extend e g with
    | (g, .ok _) => extendAll es g
    | (_, .error cause) => throw (.reasoner cause)

/-- The second graph with what reasoners infer from the first one after the other. -/
def deriveAll (input : Graph) : List Reasoner → Graph → Traced Graph
  | [], output => return output
  | e :: es, output => do
    match ← derive e input output with
    | (output, .ok _) => deriveAll input es output
    | (_, .error cause) => throw (.reasoner cause)

/-- Adds a graph with what the reasoners infer from it. -/
def addGraph (g : Graph) (mergeIfExists : Bool) : Traced GraphRef := do
  let s := (← (get : StoreM Session)).store
  if g.name = some s.inferenceGraph then throw (.reserved s.inferenceGraph)
  else
    match s.settings.inferenceMode with
    | .inline => enter (← extendAll s.reasoners g) mergeIfExists
    | .externalized =>
      if s.reasoners.isEmpty then enter g mergeIfExists
      else
        let inferred ← deriveAll g s.reasoners (.empty (some s.inferenceGraph))
        let r ← enter g mergeIfExists
        let aux ← auxiliary
        writeRef aux (((← collection).deref aux).merge inferred).1
        return r

/-- Runs one reasoner over a shared graph. -/
def applyReasoner (e : Reasoner) (r : GraphRef) : Traced Unit := do
  match (← (get : StoreM Session)).store.settings.inferenceMode with
  | .inline =>
    let (g, result) ← extend e ((← collection).deref r)
    writeRef r g
    StoreM.lift .reasoner result
  | .externalized =>
    let aux ← auxiliary
    let c ← collection
    let (g, result) ← derive e (c.deref r) (c.deref aux)
    writeRef aux g
    StoreM.lift .reasoner result

/-- Runs all reasoners over a shared graph. -/
def applyInference (r : GraphRef) : Traced Unit := do
  (← (get : StoreM Session)).store.reasoners.forM fun e => applyReasoner e r

/-- Registers a reasoner and runs it over every graph of the collection. -/
def addReasoner (e : Reasoner) : Traced Unit := do
  modifyStore fun s => { s with reasoners := s.reasoners ++ [e] }
  try
    (← collection).refs.forM fun r => applyReasoner e r
  catch error =>
    let _ ← removeReasoner e.id
    throw error

/-- Adds triples to a graph, which is added to the store if there is none of the name. -/
def insertInto (name : GraphName) (ts : List Triple) : Traced Unit := do
  requireWritable name
  match (← collection).ref? name with
  | some r => writeRef r (((← collection).deref r).assertAll ts).1
  | none =>
    let _ ← addGraph (.ofTriples name ts) true

/-- Removes and adds the triples of templates for rows. -/
def replaceTriples (name : GraphName) (delete insert : List Pattern) (rows : List Row) :
    Traced Unit := do
  let removed ← constructGraph delete rows
  let added ← constructGraph insert rows
  deleteFrom name removed.triples.toList
  insertInto name added.triples.toList

/-- Removes and adds the triples of templates for the solutions of a pattern. -/
def modifyGraph (name : GraphName) (delete insert : List Pattern) (p : GraphPattern)
    (now : DateTime) : Traced Unit := do
  if !insert.isEmpty then requireWritable name
  if name.isNone || (← collection).contains name then
    replaceTriples name delete insert (← modifiedRows name p now)

/-- Runs one command. Those that only remove call no reasoner. -/
def runCommand (now : DateTime) : Command → Traced Unit
  | .insertData name ts => insertInto name ts
  | .modify name delete insert p => modifyGraph name delete insert p now
  | .create i silent => do
    if (← collection).contains (some i) then
      if !silent then throw (.update ("graph <" ++ i.text ++ "> already exists"))
    else
      let _ ← addGraph (.empty (some i)) false
  | command => quiet (StoreM.runCommand now command)

end Traced

/-- An operation on a store. -/
inductive Operation where
  /-- Adds a graph. -/
  | addGraph (g : Graph) (mergeIfExists : Bool)
  /-- Removes a graph. -/
  | removeGraph (name : GraphName)
  /-- Answers a query. -/
  | query (q : Query) (now : DateTime)
  /-- Runs the commands of an update. -/
  | update (now : DateTime) (commands : List Command)
  /-- Registers a reasoner. -/
  | addReasoner (e : Reasoner)
  /-- Removes a reasoner. -/
  | removeReasoner (id : Nat)
  /-- Removes all reasoners. -/
  | clearReasoners
  /-- Runs all reasoners over a shared graph. -/
  | applyInference (r : GraphRef)

namespace Operation

/-- The operation as an action, without its result. -/
def run : Operation → StoreM Unit
  | addGraph g mergeIfExists => do let _ ← StoreM.addGraph g mergeIfExists
  | removeGraph name => do let _ ← StoreM.removeGraph name
  | query q now => do let _ ← StoreM.query q now
  | update now commands => StoreM.update now commands
  | addReasoner e => StoreM.addReasoner e
  | removeReasoner id => do let _ ← StoreM.removeReasoner id
  | clearReasoners => StoreM.clearReasoners
  | applyInference r => StoreM.applyInference r

/-- The operation with its calls. -/
def traced : Operation → Traced Unit
  | addGraph g mergeIfExists => do let _ ← Traced.addGraph g mergeIfExists
  | update now commands => commands.forM (Traced.runCommand now)
  | addReasoner e => Traced.addReasoner e
  | applyInference r => Traced.applyInference r
  | o => Traced.quiet o.run

end Operation

/-! ## Without the calls -/

namespace Traced

open StoreM

variable {α β : Type}

theorem action_bind {m : Traced α} {n : StoreM α} {f : α → Traced β} {h : α → StoreM β}
    (hm : m.action = n) (hf : ∀ a, (f a).action = h a) : (m >>= f).action = n >>= h := by
  obtain rfl := hm
  exact congrArg (m.action >>= ·) (funext hf)

theorem action_tryCatch {m : Traced α} {n : StoreM α} {f : StoreError → Traced α}
    {h : StoreError → StoreM α} (hm : m.action = n) (hf : ∀ e, (f e).action = h e) :
    (tryCatch m f).action = tryCatch n h := by
  obtain rfl := hm
  exact congrArg (tryCatch m.action ·) (funext hf)

theorem action_forM {xs : List α} {f : α → Traced Unit} {h : α → StoreM Unit}
    (hf : ∀ x, (f x).action = h x) : (xs.forM f).action = xs.forM h := by
  induction xs with
  | nil => rfl
  | cons x xs ih => exact action_bind (hf x) fun _ => ih

theorem action_extend_bind {e : Reasoner} {g : Graph}
    {f : Graph × Except ReasonerError Unit → Traced β} :
    (extend e g >>= f).action = (f (e.extend g)).action := pure_bind _ fun p => (f p).action

theorem action_derive_bind {e : Reasoner} {input output : Graph}
    {f : Graph × Except ReasonerError Unit → Traced β} :
    (derive e input output >>= f).action = (f (e.derive input output)).action :=
  pure_bind _ fun p => (f p).action

theorem action_extendAll (es : List Reasoner) (g : Graph) :
    (extendAll es g).action = lift .reasoner (StoreM.extendAll es g) := by
  induction es generalizing g with
  | nil => rfl
  | cons e es ih =>
    simp only [extendAll, StoreM.extendAll, action_extend_bind]
    rcases e.extend g with ⟨g', cause | _⟩
    · rfl
    · exact ih g'

theorem action_deriveAll (input : Graph) (es : List Reasoner) (output : Graph) :
    (deriveAll input es output).action = lift .reasoner (StoreM.deriveAll input es output) := by
  induction es generalizing output with
  | nil => rfl
  | cons e es ih =>
    simp only [deriveAll, StoreM.deriveAll, action_derive_bind]
    rcases e.derive input output with ⟨output', cause | _⟩
    · rfl
    · exact ih output'

theorem action_addGraph (g : Graph) (mergeIfExists : Bool) :
    (addGraph g mergeIfExists).action = StoreM.addGraph g mergeIfExists := by
  refine action_bind rfl fun s => ?_
  dsimp only
  split
  · rfl
  · cases s.store.settings.inferenceMode with
    | inline => exact action_bind (action_extendAll s.store.reasoners g) fun _ => rfl
    | externalized =>
      dsimp only
      split
      · rfl
      · exact action_bind (action_deriveAll g s.store.reasoners _) fun _ => rfl

theorem action_applyReasoner (e : Reasoner) (r : GraphRef) :
    (applyReasoner e r).action = StoreM.applyReasoner e r := by
  refine action_bind rfl fun s => ?_
  cases s.store.settings.inferenceMode with
  | inline => rfl
  | externalized => rfl

theorem action_applyInference (r : GraphRef) :
    (applyInference r).action = StoreM.applyInference r :=
  action_bind rfl fun _ => action_forM fun e => action_applyReasoner e r

theorem action_addReasoner (e : Reasoner) : (addReasoner e).action = StoreM.addReasoner e :=
  action_bind rfl fun _ =>
    action_tryCatch (action_bind rfl fun _ => action_forM fun r => action_applyReasoner e r)
      fun _ => rfl

theorem action_insertInto (name : GraphName) (ts : List Triple) :
    (insertInto name ts).action = StoreM.insertInto name ts := by
  refine action_bind rfl fun _ => action_bind rfl fun c => ?_
  cases c.ref? name with
  | none => exact action_bind (action_addGraph _ true) fun _ => rfl
  | some r => rfl

theorem action_modifyGraph (name : GraphName) (delete insert : List Pattern) (p : GraphPattern)
    (now : DateTime) : (modifyGraph name delete insert p now).action =
      StoreM.modifyGraph name delete insert p now := by
  have hreplace (rows : List Row) : (replaceTriples name delete insert rows).action =
      StoreM.replaceTriples name delete insert rows :=
    action_bind rfl fun _ => action_bind rfl fun _ => action_bind rfl fun _ =>
      action_insertInto name _
  have hrest (c : Collection) : (if name.isNone || c.contains name then
        (modifiedRows name p now : Traced (List Row)) >>= replaceTriples name delete insert
      else pure ()).action =
      if name.isNone || c.contains name then
        modifiedRows name p now >>= StoreM.replaceTriples name delete insert
      else pure () := by
    split
    · exact action_bind rfl hreplace
    · rfl
  unfold modifyGraph StoreM.modifyGraph
  dsimp only
  split
  · exact action_bind rfl fun _ => action_bind rfl hrest
  · exact action_bind rfl hrest

theorem action_runCommand (now : DateTime) (command : Command) :
    (runCommand now command).action = StoreM.runCommand now command := by
  cases command with
  | insertData name ts => exact action_insertInto name ts
  | modify name delete insert p => exact action_modifyGraph name delete insert p now
  | create i silent =>
    refine action_bind rfl fun c => ?_
    split
    · split
      · rfl
      · rfl
    · exact action_bind (action_addGraph _ false) fun _ => rfl
  | deleteData name ts => rfl
  | clear name => rfl
  | drop name silent => rfl

end Traced

/-- **The calls are those of the operation itself.** -/
theorem Operation.action_traced (o : Operation) : o.traced.action = o.run := by
  cases o with
  | addGraph g mergeIfExists =>
    exact Traced.action_bind (Traced.action_addGraph g mergeIfExists) fun _ => rfl
  | update now commands => exact Traced.action_forM (Traced.action_runCommand now)
  | addReasoner e => exact Traced.action_addReasoner e
  | applyInference r => exact Traced.action_applyInference r
  | _ => rfl

end RdfStore
