import RdfStore.Reasoning.Rule
import RdfStore.Term.Vocabulary

/-!
# Forward chaining

A rule base adds the conclusions of all its rules to a graph, round by round, until a round adds
nothing. The number of rounds that may add something is limited; a graph that needs more is left
with the triples of the allowed rounds, and the reasoner fails.
-/

namespace RdfStore

/-- Rules with a limit to the rounds of their use. -/
structure RuleBase where
  name : String
  rules : List Rule
  maxRounds : Nat
  deriving DecidableEq, Inhabited

namespace RuleBase

def defaultRounds : Nat := 10000

def new (name : String) : RuleBase := ⟨name, [], defaultRounds⟩

/-- The rule base with one more rule, if the rule may be used. -/
def addRule (b : RuleBase) (r : Rule) : Except ReasonerError RuleBase :=
  match r.fault? with
  | some e => .error e
  | none => .ok { b with rules := b.rules ++ [r] }

/-- Adds rules in turn and leaves out those that may not be used. For each rule comes the number
of rules after it or why it is left out. -/
def addRules (b : RuleBase) : List Rule → RuleBase × List (Except ReasonerError Nat)
  | [] => (b, [])
  | r :: rs =>
    match b.addRule r with
    | .ok b =>
      let (all, results) := b.addRules rs
      (all, .ok b.rules.length :: results)
    | .error e =>
      let (all, results) := b.addRules rs
      (all, .error e :: results)

/-- The conclusions of all rules that are not in a graph. -/
def conclusions (b : RuleBase) (g : Graph) : TripleSet :=
  .ofList ((b.rules.flatMap fun r => r.conclude g).filter fun t => !g.contains t)

def noFixpoint (b : RuleBase) : ReasonerError :=
  .failed b.name ("no fixpoint after " ++ Number.natText b.maxRounds ++ " rounds")

/-- Adds conclusions in at most so many rounds, and tells whether the last graph has no more. -/
def saturate (b : RuleBase) (g : Graph) : Nat → Graph × Bool
  | 0 => (g, (b.conclusions g).isEmpty)
  | rounds + 1 =>
    let new := b.conclusions g
    if new.isEmpty then (g, true) else b.saturate (g.assertAll new.toList).1 rounds

/-- The graph with the conclusions of the rules, and an error if the rounds do not suffice. -/
def extend (b : RuleBase) (g : Graph) : Graph × Except ReasonerError Unit :=
  match b.saturate g b.maxRounds with
  | (g, true) => (g, .ok ())
  | (g, false) => (g, .error b.noFixpoint)

/-- The second graph with what follows from both graphs together and is in neither. It stays as
it is if the rounds do not suffice. -/
def derive (b : RuleBase) (input output : Graph) : Graph × Except ReasonerError Unit :=
  match b.saturate (input.merge output).1 b.maxRounds with
  | (_, false) => (output, .error b.noFixpoint)
  | (facts, true) =>
    let new := facts.triples.toList.filter fun t => !input.contains t && !output.contains t
    ((output.assertAll new).1, .ok ())

@[simp] theorem name_saturate {b : RuleBase} {g : Graph} {n : Nat} :
    (b.saturate g n).1.name = g.name := by
  induction n generalizing g with
  | zero => rfl
  | succ n ih =>
    unfold saturate
    dsimp only
    split
    · rfl
    · exact ih.trans Graph.name_assertAll

theorem name_extend {b : RuleBase} {g : Graph} : (b.extend g).1.name = g.name := by
  have h := name_saturate (b := b) (g := g) (n := b.maxRounds)
  unfold extend
  split <;> simp_all

def ruleVariable (name : String) : Slot := .ofRuleName name

def ruleIri (i : Iri) : Slot := .fixed (.iri i)

/-- The rules of RDF Schema: classes and properties are transitive, instances move up to more
general classes and properties, and a property classifies its subjects and objects. -/
def schemaRules : List Rule :=
  let v := ruleVariable
  let type := ruleIri Vocabulary.rdfType
  let subClass := ruleIri Vocabulary.subClassOf
  let subProperty := ruleIri Vocabulary.subPropertyOf
  let domain := ruleIri Vocabulary.domain
  let range := ruleIri Vocabulary.range
  [⟨"rdfs11", [⟨v "c", subClass, v "d"⟩, ⟨v "d", subClass, v "e"⟩], [⟨v "c", subClass, v "e"⟩]⟩,
    ⟨"rdfs9", [⟨v "c", subClass, v "d"⟩, ⟨v "x", type, v "c"⟩], [⟨v "x", type, v "d"⟩]⟩,
    ⟨"rdfs5", [⟨v "p", subProperty, v "q"⟩, ⟨v "q", subProperty, v "r"⟩],
      [⟨v "p", subProperty, v "r"⟩]⟩,
    ⟨"rdfs7", [⟨v "p", subProperty, v "q"⟩, ⟨v "x", v "p", v "y"⟩], [⟨v "x", v "q", v "y"⟩]⟩,
    ⟨"rdfs2", [⟨v "p", domain, v "c"⟩, ⟨v "x", v "p", v "y"⟩], [⟨v "x", type, v "c"⟩]⟩,
    ⟨"rdfs3", [⟨v "p", range, v "c"⟩, ⟨v "x", v "p", v "y"⟩], [⟨v "y", type, v "c"⟩]⟩]

def schema : RuleBase := ⟨"rdfs", schemaRules, defaultRounds⟩

end RuleBase

end RdfStore
