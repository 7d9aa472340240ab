import RdfStore.Expr.Error
import RdfStore.Reasoning.Rule
import RdfStore.Store.Settings
import RdfStore.Store.Collection

/-!
# Errors of a store

Every way in which an operation of a store can fail.
-/

namespace RdfStore

inductive StoreError where
  /-- An expression has no value, and that is fatal. -/
  | eval (cause : EvalError)
  | graphNotFound (i : Iri)
  | emptyScopeStack
  | settings (cause : SettingsError)
  | reasoner (cause : ReasonerError)
  | graphExists (cause : GraphExists)
  | term (cause : TermError)
  | parse (message : String)
  /-- The graph is for inferred triples only. -/
  | reserved (i : Iri)
  | update (message : String)
  | alreadyBound (name : String)

def StoreError.message : StoreError → String
  | eval cause => cause.message
  | graphNotFound i => "graph <" ++ i.text ++ "> does not exist in this store"
  | emptyScopeStack => "cannot reset the active graph: the scope stack is empty"
  | settings cause => cause.message
  | reasoner cause => cause.message
  | graphExists cause => cause.message
  | term cause => cause.message
  | parse message => "parse error: " ++ message
  | reserved i => "<" ++ i.text ++ "> is reserved for inferred triples"
  | update message => "update failed: " ++ message
  | alreadyBound x => "invalid pattern: BIND to ?" ++ x ++ " which is already bound"

end RdfStore
