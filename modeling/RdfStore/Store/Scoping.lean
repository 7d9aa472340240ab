import RdfStore.Store.Basic

/-!
# Scopes

Entering a scope keeps the current one on a stack, and leaving returns to it. An action can be
run inside a scope (`StoreM.inScope`), after which the scope is left whatever became of the
action.
-/

namespace RdfStore

inductive ScopeTarget where
  /-- The default graph of the handle, or everything if it has none. -/
  | default
  | graph (r : GraphRef)
  | named (i : Iri)
  | union (is : List Iri)

namespace StoreM

def push (scope : Scope) : StoreM Unit :=
  modifyHandle fun h => { h with current := scope, stack := h.current :: h.stack }

def requireGraph (i : Iri) : StoreM GraphRef := do
  match (← collection).ref? (some i) with
  | some r => return r
  | none => throw (.graphNotFound i)

/-- The merge of graphs of the collection, added to a graph. -/
def mergeNamed (g : Graph) : List Iri → StoreM Graph
  | [] => return g
  | i :: is => do
    let r ← requireGraph i
    mergeNamed (g.merge ((← collection).deref r)).1 is

/-- The scope of a target. One name in a union is the graph of that name itself. -/
def resolveScope : ScopeTarget → StoreM Scope
  | .default => do
    match (← get).handle.defaultGraph with
    | some r => return .graph r
    | none => return .everything
  | .graph r => return .graph r
  | .named i => return .graph (← requireGraph i)
  | .union [i] => return .graph (← requireGraph i)
  | .union is => return .merged (← mergeNamed (.empty none) is)

def enterScope (target : ScopeTarget) : StoreM Unit := do push (← resolveScope target)

/-- Returns to the scope before the current one. -/
def leaveScope : StoreM Unit := do
  match (← get).handle.stack with
  | [] => throw .emptyScopeStack
  | scope :: rest => modifyHandle fun h => { h with current := scope, stack := rest }

/-- Leaves a scope after an action, whose result is given; an error of the action wins over an
error of leaving. -/
def closeScope {α : Type} (result : Except StoreError α) : StoreM α := ExceptT.mk do
  let left ← leaveScope.run
  return do
    let a ← result
    left
    return a

def inScope {α : Type} (target : ScopeTarget) (action : StoreM α) : StoreM α := do
  enterScope target
  closeScope (← (liftM action.run : StoreM (Except StoreError α)))

def setDefaultGraph (r : Option GraphRef) : StoreM Unit :=
  modifyHandle fun h => { h with defaultGraph := r }

end StoreM

def Scope.text (c : Collection) : Scope → String
  | everything => "WholeStore"
  | graph r => "Graph(" ++ GraphName.label (c.deref r).name ++ ")"
  | merged g => "Graph(" ++ GraphName.label g.name ++ ")"

def Session.text (s : Session) : String :=
  "TripleStore \x7b graphs: " ++ Number.natText s.store.collection.size ++ ", current: " ++
    s.handle.current.text s.store.collection ++ ", scope_depth: " ++
    Number.natText s.handle.stack.length ++ " \x7d"

end RdfStore
