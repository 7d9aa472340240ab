import RdfStore.Store.Error
import RdfStore.Reasoning.Reasoner
import RdfStore.Pattern.Template
import RdfStore.Selection.Graphs
import RdfStore.Query.Basic

/-!
# Stores and sessions

A store is a collection of graphs with reasoners, query engines and settings. It is used through
handles: each has a current scope, a stack of the scopes to return to, and perhaps a default
graph. A session is a store seen through one handle, and operations are actions on sessions:
each gives a result or an error, and in both cases a session.
-/

namespace RdfStore

/-- Something that answers queries: the standard engine, or one that gives the same answer to all.
An engine is asked with the store in hand. Of those that registration lets in, the ones whose
answer depends on the query or on the store, and the ones that change the store, are left out. -/
inductive Engine where
  | standard
  | constant (name : String) (answer : Answer)

def Engine.name : Engine → String
  | standard => standardEngine
  | constant name _ => name

/-- A collection of graphs with what works on it. -/
structure Store where
  collection : Collection
  reasoners : List Reasoner
  engines : SortedMap String Engine
  settings : Settings
  inferenceGraph : Iri
  baseIri : Option Iri
  supply : Supply

/-- What selection ranges over. -/
inductive Scope where
  | everything
  | graph (r : GraphRef)
  /-- A merge of graphs, made for this scope. -/
  | merged (g : Graph)

/-- One user's view of a store. -/
structure Handle where
  current : Scope
  /-- The scopes to return to, the last one first. -/
  stack : List Scope
  defaultGraph : Option GraphRef

def Handle.new : Handle := ⟨.everything, [], none⟩

/-- A handle with the same default graph and no scopes of its own. -/
def Handle.fork (h : Handle) : Handle := ⟨.everything, [], h.defaultGraph⟩

def Handle.isScoped (h : Handle) : Bool :=
  match h.current with
  | .everything => false
  | _ => true

/-- A store seen through a handle. -/
structure Session where
  store : Store
  handle : Handle

/-- An action on a session that may fail. -/
abbrev StoreM := ExceptT StoreError (StateM Session)

namespace Store

def build (settings : Settings) (inferenceGraph : Iri) (baseIri : Option Iri) (supply : Supply) :
    Store :=
  { collection := .empty
    reasoners := []
    engines := SortedMap.empty.insert standardEngine .standard
    settings
    inferenceGraph
    baseIri
    supply }

def default (supply : Supply) : Store := build .default ⟨defaultInferenceGraph⟩ none supply

def new (settings : Settings) (supply : Supply) : Except SettingsError Store := do
  settings.check
  return build settings (← settings.inferenceGraphIri) (← settings.base) supply

def deref (s : Store) (r : GraphRef) : Graph := s.collection.deref r

end Store

def Scope.graphs (c : Collection) : Scope → List Graph
  | everything => c.refs.map c.deref
  | graph r => [c.deref r]
  | merged g => [g]

namespace Session

def graphs (s : Session) : List Graph := s.handle.current.graphs s.store.collection

/-- The graphs of the collection with the given names, in the order of the collection. -/
def graphsNamed (s : Session) (names : List Iri) : List Graph :=
  (s.store.collection.refsNamed names).map s.store.deref

end Session

namespace StoreM

def collection : StoreM Collection := do return (← get).store.collection

def modifyStore (f : Store → Store) : StoreM Unit :=
  modify fun s => { s with store := f s.store }

def setCollection (c : Collection) : StoreM Unit :=
  modifyStore fun s => { s with collection := c }

def modifyHandle (f : Handle → Handle) : StoreM Unit :=
  modify fun s => { s with handle := f s.handle }

/-- A result or the error of a kind that stores pass on. -/
def lift {ε α : Type} (wrap : ε → StoreError) (r : Except ε α) : StoreM α :=
  match r with
  | .ok a => pure a
  | .error e => throw (wrap e)

end StoreM

end RdfStore
