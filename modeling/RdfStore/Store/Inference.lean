import RdfStore.Store.Basic

/-!
# Graphs and reasoners of a store

Reasoners run over every graph that is added, before it is taken in, and over every graph that
is there when they are registered. Inferred triples go into the graph itself or into one graph
for all of them, as the settings say; that graph has a reserved name.
-/

namespace RdfStore.StoreM

/-- The graph with what reasoners add to it one after the other. -/
def extendAll : List Reasoner → Graph → Except ReasonerError Graph
  | [], g => .ok g
  | r :: rs, g =>
    match r.extend g with
    | (g, .ok _) => extendAll rs g
    | (_, .error e) => .error e

/-- The second graph with what reasoners infer from the first one after the other. -/
def deriveAll (input : Graph) : List Reasoner → Graph → Except ReasonerError Graph
  | [], output => .ok output
  | r :: rs, output =>
    match r.derive input output with
    | (output, .ok _) => deriveAll input rs output
    | (_, .error e) => .error e

def enter (g : Graph) (mergeIfExists : Bool) : StoreM GraphRef := do
  let (r, c) ← lift .graphExists ((← collection).add g mergeIfExists)
  setCollection c
  return r

/-- The graph of inferred triples, which is created if there is none. -/
def auxiliary : StoreM GraphRef := do
  let s := (← get).store
  let (r, c) := s.collection.getOrCreate (some s.inferenceGraph)
  setCollection c
  return r

def writeRef (r : GraphRef) (g : Graph) : StoreM Unit := do
  setCollection ((← collection).write r g)

/-- Adds a graph with what the reasoners infer from it. Nothing changes if a reasoner fails or
the graph is refused. -/
def addGraph (g : Graph) (mergeIfExists : Bool) : StoreM GraphRef := do
  let s := (← get).store
  if g.name = some s.inferenceGraph then throw (.reserved s.inferenceGraph)
  match s.settings.inferenceMode with
  | .inline => enter (← lift .reasoner (extendAll s.reasoners g)) mergeIfExists
  | .externalized =>
    if s.reasoners.isEmpty then enter g mergeIfExists
    else
      let inferred ← lift .reasoner (deriveAll g s.reasoners (.empty (some s.inferenceGraph)))
      let r ← enter g mergeIfExists
      let aux ← auxiliary
      writeRef aux (((← collection).deref aux).merge inferred).1
      return r

def removeGraph (name : GraphName) : StoreM Bool := do
  let (r, c) := (← collection).remove name
  setCollection c
  return r.isSome

def applyReasoner (e : Reasoner) (r : GraphRef) : StoreM Unit := do
  match (← get).store.settings.inferenceMode with
  | .inline =>
    let (g, result) := e.extend ((← collection).deref r)
    writeRef r g
    lift .reasoner result
  | .externalized =>
    let aux ← auxiliary
    let c ← collection
    let (g, result) := e.derive (c.deref r) (c.deref aux)
    writeRef aux g
    lift .reasoner result

def applyInference (r : GraphRef) : StoreM Unit := do
  (← get).store.reasoners.forM fun e => applyReasoner e r

/-- Removes all registrations of a reasoner and tells whether there was one. -/
def removeReasoner (id : Nat) : StoreM Bool := do
  let before := (← get).store.reasoners
  let after := before.filter fun e => e.id ≠ id
  modifyStore fun s => { s with reasoners := after }
  return before.length ≠ after.length

def clearReasoners : StoreM Unit := modifyStore fun s => { s with reasoners := [] }

/-- Registers a reasoner and runs it over every graph of the collection. One that fails is
removed again. -/
def addReasoner (e : Reasoner) : StoreM Unit := do
  modifyStore fun s => { s with reasoners := s.reasoners ++ [e] }
  try
    (← collection).refs.forM fun r => applyReasoner e r
  catch error =>
    let _ ← removeReasoner e.id
    throw error

end RdfStore.StoreM
