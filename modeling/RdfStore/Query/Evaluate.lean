import RdfStore.Store.Scoping
import RdfStore.Expr.Evaluate

/-!
# Evaluation of queries

The solutions of a pattern in the current scope, and the answers of the standard engine. A
condition that fails recoverably is not passed; an extension whose expression fails recoverably
leaves the row as it is. Other errors end the evaluation. Every scope that is entered on the way
is left again.
-/

namespace RdfStore

def Expr.passes (now : DateTime) (e : Expr) (row : Row) : Except EvalError Bool :=
  match e.holds row now with
  | .ok b => .ok b
  | .error err => if err.isRecoverable then .ok false else .error err

def filterRows (now : DateTime) (e : Expr) : List Row → Except EvalError (List Row)
  | [] => .ok []
  | row :: rows => do
    let keep ← e.passes now row
    let rest ← filterRows now e rows
    return if keep then row :: rest else rest

/-- The merges of a row with those of other rows that fit. -/
def Row.mergeWith (row : Row) (others : List Row) : List Row := others.filterMap (row.merge? ·)

def joinRows (left right : List Row) : List Row := left.flatMap fun l => l.mergeWith right

/-- The merges of the rows of two lists that fit and pass a condition, and the rows of the first
list for which there is none. -/
def leftJoinRows (now : DateTime) (condition : Option Expr) (right : List Row) :
    List Row → Except EvalError (List Row)
  | [] => .ok []
  | l :: ls => do
    let merged := l.mergeWith right
    let kept ←
      match condition with
      | some e => filterRows now e merged
      | none => .ok merged
    let rest ← leftJoinRows now condition right ls
    return (if kept.isEmpty then [l] else kept) ++ rest

/-- Rows with one more variable, which no row may bind. -/
def extendRows (now : DateTime) (name : String) (e : Expr) :
    List Row → Except StoreError (List Row)
  | [] => .ok []
  | row :: rows =>
    if row.contains name then .error (.alreadyBound name)
    else
      match e.evaluate row now with
      | .ok v => (extendRows now name e rows).map (row.insert name v.toTerm :: ·)
      | .error err =>
        if err.isRecoverable then (extendRows now name e rows).map (row :: ·)
        else .error (.eval err)

/-- The rows in which a variable stands for a term, or can. -/
def bindRows (name : String) (t : Term) (rows : List Row) : List Row :=
  rows.filterMap fun row => (Slot.var name).bind? t row

/-- The terms in the positions of a description: terms as they are, and those of a variable in
all rows; each once, where it occurs first. -/
def describedTerms (slots : List Slot) (rows : List Row) : List Term :=
  (slots.flatMap fun slot =>
    match slot with
    | .fixed t => [t]
    | .var x => rows.filterMap (·.find? x)).eraseDups

namespace StoreM

/-- The solutions of a pattern in each of some named graphs, whose name a variable takes. -/
def inEach (name : String) (solve : StoreM (List Row)) : List Iri → StoreM (List Row)
  | [] => return []
  | i :: is => do
    let rows ← inScope (.named i) solve
    let rest ← inEach name solve is
    return bindRows name (.iri i) rows ++ rest

def solutions (now : DateTime) : GraphPattern → StoreM (List Row)
  | .basic ps => do return Pattern.joinAll (Selection.find (← get).graphs) [.empty] ps
  | .join l r => do
    let left ← solutions now l
    let right ← solutions now r
    return joinRows left right
  | .leftJoin l r condition => do
    let left ← solutions now l
    let right ← solutions now r
    lift .eval (leftJoinRows now condition right left)
  | .union l r => do
    let left ← solutions now l
    let right ← solutions now r
    return left ++ right
  | .filter e p => do
    let rows ← solutions now p
    lift .eval (filterRows now e rows)
  | .extend p x e => do
    let rows ← solutions now p
    lift id (extendRows now x e rows)
  | .graph .default p => inScope .default (solutions now p)
  | .graph (.named i) p => inScope (.named i) (solutions now p)
  | .graph (.union is) p => inScope (.union is) (solutions now p)
  | .graph (.var x) p => do
    inEach x (solutions now p) ((← collection).names.filterMap id)

def constructGraph (template : List Pattern) (rows : List Row) : StoreM Graph := do
  let (g, supply) := construct template rows (← get).store.supply
  modifyStore fun s => { s with supply }
  return g

/-- The answer to a form of a query, given the solutions of its pattern. -/
def answer (q : Query) (rows : List Row) : StoreM Answer :=
  match q.form with
  | .ask => return .boolean (!rows.isEmpty)
  | .select names distinct =>
    let columns := names.getD q.pattern.scope.toList
    let rows := rows.map (·.project columns)
    return .table ⟨columns, if distinct then dedupRows rows else rows⟩
  | .construct template => do return .graph (← constructGraph template rows)
  | .describe slots => do
    let gs := (← get).graphs
    let about := (describedTerms slots rows).flatMap fun t => Selection.find gs (some t) none none
    return .graph (.ofTriples none about)
where
  dedupRows (rows : List Row) : List Row :=
    rows.foldl (fun seen row => if seen.any (row.same ·) then seen else seen ++ [row]) []

/-- The answer of the standard engine. A dataset is the scope of the pattern, not of the
answer. -/
def evaluateStandard (q : Query) (now : DateTime) : StoreM Answer := do
  let rows ←
    match q.dataset with
    | some is => inScope (.union is) (solutions now q.pattern)
    | none => solutions now q.pattern
  answer q rows

def evaluateWith (e : Engine) (q : Query) (now : DateTime) : StoreM Answer :=
  match e with
  | .standard => evaluateStandard q now
  | .constant _ a => return a

def engine : StoreM Engine := do
  let s := (← get).store
  match s.engines.find? s.settings.queryEngine with
  | some e => return e
  | none => throw (.settings (.unknownEngine s.settings.queryEngine))

def registerEngine (e : Engine) : StoreM Unit :=
  modifyStore fun s => { s with engines := s.engines.insert e.name e }

def query (q : Query) (now : DateTime) : StoreM Answer := do
  evaluateWith (← engine) q now

def queryText (parse : String → Except String Query) (text : String) (now : DateTime) :
    StoreM Answer := do
  query (← lift .parse (parse text)) now

end StoreM

end RdfStore
