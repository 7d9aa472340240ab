import RdfStore.Pattern.Basic
import RdfStore.Graph.Basic

/-!
# Rules

A rule derives its conclusions for every row under which all its premises are triples of a
graph. A rule that may be used has a premise, and each variable of a conclusion stands in a
premise (`Rule.fault?`).
-/

namespace RdfStore

structure Rule where
  name : String
  premises : List Pattern
  conclusions : List Pattern
  deriving DecidableEq, Inhabited

inductive ReasonerError where
  | failed (reasoner message : String)
  | noPremise (rule : String)
  /-- Variables of a conclusion stand in no premise. -/
  | unboundConclusion (rule : String) (names : List String)
  deriving DecidableEq, Repr

def ReasonerError.message : ReasonerError → String
  | failed reasoner message => "reasoner '" ++ reasoner ++ "' failed: " ++ message
  | noPremise rule => "invalid rule: " ++ rule ++ " has no premise"
  | unboundConclusion rule names =>
    "invalid rule: " ++ rule ++ " concludes unbound variables " ++
      Text.join ", " (names.map ("?" ++ ·))

/-- The triple that a conclusion gives for a row, if every variable has a term and the terms may
stand there: an IRI or a blank node as subject, an IRI as predicate, no variable as object. -/
def Pattern.conclude? (p : Pattern) (row : Row) : Option Triple :=
  (p.resolve? row).filter fun t =>
    (t.subject.isIri || t.subject.isBlank) && t.predicate.isIri && !t.object.isVariable

namespace Rule

def premiseVariables (r : Rule) : SortedSet String :=
  .ofList (r.premises.flatMap fun p => p.varNames.toList)

/-- The variables of conclusions that stand in no premise. -/
def unboundVariables (r : Rule) : SortedSet String :=
  (SortedSet.ofList (r.conclusions.flatMap fun p => p.varNames.toList)).filter fun x =>
    !r.premiseVariables.contains x

def fault? (r : Rule) : Option ReasonerError :=
  if r.premises.isEmpty then some (.noPremise r.name)
  else if r.unboundVariables.isEmpty then none
  else some (.unboundConclusion r.name r.unboundVariables.toList)

/-- The rows under which all premises are triples of a graph; without premises there is none. -/
def rows (r : Rule) (g : Graph) : List Row :=
  if r.premises.isEmpty then [] else Pattern.joinAll g.find [.empty] r.premises

def conclude (r : Rule) (g : Graph) : List Triple :=
  (r.rows g).flatMap fun row => r.conclusions.filterMap fun c => c.conclude? row

def text (r : Rule) : String :=
  r.name ++ ": " ++ Text.join ", " (r.premises.map Pattern.text) ++ " => " ++
    Text.join ", " (r.conclusions.map Pattern.text)

end Rule

end RdfStore
