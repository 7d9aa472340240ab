import RdfStore.Store.Inference
import RdfStore.Query.Evaluate

/-!
# Updates

Commands change one graph each and are run in order; every command sees what those before it
did, and the first that fails ends the run. The graph of inferred triples is closed to
insertions. A modification computes all its triples before it changes anything.
-/

namespace RdfStore

inductive Command where
  | insertData (name : GraphName) (triples : List Triple)
  | deleteData (name : GraphName) (triples : List Triple)
  /-- Removes the triples of one template and adds those of another, for the solutions of a
  pattern. -/
  | modify (name : GraphName) (delete insert : List Pattern) (pattern : GraphPattern)
  | clear (name : GraphName)
  | create (i : Iri) (silent : Bool)
  | drop (name : GraphName) (silent : Bool)

def GraphName.absence : GraphName → String
  | some i => "graph <" ++ i.text ++ "> does not exist"
  | none => "the default graph does not exist"

namespace StoreM

def requireWritable (name : GraphName) : StoreM Unit := do
  let s := (← get).store
  if name = some s.inferenceGraph then throw (.reserved s.inferenceGraph)

/-- Adds triples to a graph, which is added to the store if there is none of the name. -/
def insertInto (name : GraphName) (ts : List Triple) : StoreM Unit := do
  requireWritable name
  match (← collection).ref? name with
  | some r => writeRef r (((← collection).deref r).assertAll ts).1
  | none =>
    let _ ← addGraph (.ofTriples name ts) true

def deleteFrom (name : GraphName) (ts : List Triple) : StoreM Unit := do
  match (← collection).ref? name with
  | some r => writeRef r (((← collection).deref r).retractAll ts).1
  | none => return

/-- The solutions for which a modification of a graph is made. -/
def modifiedRows (name : GraphName) (p : GraphPattern) (now : DateTime) : StoreM (List Row) := do
  let pattern :=
    match name with
    | some i => .graph (.named i) p
    | none => p
  match ← query ⟨.select none false, none, pattern⟩ now with
  | .table t => return t.rows
  | _ => throw (.update "WHERE clause did not produce solutions")

/-- Removes and adds the triples of templates for rows. -/
def replaceTriples (name : GraphName) (delete insert : List Pattern) (rows : List Row) :
    StoreM Unit := do
  let removed ← constructGraph delete rows
  let added ← constructGraph insert rows
  deleteFrom name removed.triples.toList
  insertInto name added.triples.toList

def modifyGraph (name : GraphName) (delete insert : List Pattern) (p : GraphPattern)
    (now : DateTime) : StoreM Unit := do
  if !insert.isEmpty then requireWritable name
  if name.isNone || (← collection).contains name then
    replaceTriples name delete insert (← modifiedRows name p now)

/-- Runs one command at a time that all its expressions see. -/
def runCommand (now : DateTime) : Command → StoreM Unit
  | .insertData name ts => insertInto name ts
  | .deleteData name ts => deleteFrom name ts
  | .modify name delete insert p => modifyGraph name delete insert p now
  | .clear name => do
    match (← collection).ref? name with
    | some r => writeRef r ((← collection).deref r).clear
    | none => return
  | .create i silent => do
    if (← collection).contains (some i) then
      if !silent then throw (.update ("graph <" ++ i.text ++ "> already exists"))
    else
      let _ ← addGraph (.empty (some i)) false
  | .drop name silent => do
    let removed ← removeGraph name
    if !removed && !silent then
      throw (.update name.absence)

def update (now : DateTime) (commands : List Command) : StoreM Unit :=
  commands.forM (runCommand now)

def updateText (parse : String → Except String (List Command)) (text : String) (now : DateTime) :
    StoreM Unit := do
  update now (← lift .parse (parse text))

end StoreM

end RdfStore
