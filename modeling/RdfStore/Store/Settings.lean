import RdfStore.Term.Coding

/-!
# Settings of a store

Which engine answers queries, where inferred triples go, and the IRIs of the graph for them and
of the base. Settings are read from JSON with defaults for what is missing, and checked before a
store is built on them.
-/

namespace RdfStore

/-- Where reasoners put the triples that they infer. -/
inductive InferenceMode where
  | inline
  | externalized
  deriving DecidableEq, Repr, Inhabited

def InferenceMode.text : InferenceMode → String
  | inline => "inline"
  | externalized => "externalized"

structure Settings where
  queryEngine : String
  inferenceMode : InferenceMode
  inferenceGraph : String
  baseIri : Option String
  deriving DecidableEq, Repr

inductive SettingsError where
  | unknownEngine (name : String)
  | emptyEngineName
  | inferenceGraph (cause : TermError)
  | baseIri (cause : TermError)
  | unreadable
  deriving DecidableEq, Repr

def SettingsError.message : SettingsError → String
  | unknownEngine name => "unknown query engine '" ++ name ++ "'"
  | emptyEngineName => "invalid configuration: query engine name is empty"
  | inferenceGraph cause => "invalid configuration: inference graph: " ++ cause.message
  | baseIri cause => "invalid configuration: base IRI: " ++ cause.message
  | unreadable => "cannot read configuration"

def standardEngine : String := "standard"

def defaultInferenceGraph : String := "urn:kestrel:inference-graph"

namespace Settings

def default : Settings := ⟨standardEngine, .inline, defaultInferenceGraph, none⟩

def inferenceGraphIri (s : Settings) : Except SettingsError Iri :=
  (Iri.read s.inferenceGraph).mapError .inferenceGraph

def base (s : Settings) : Except SettingsError (Option Iri) :=
  match s.baseIri with
  | none => .ok none
  | some text => ((Iri.read text).mapError .baseIri).map some

/-- Checks settings. The name of the engine comes first, then the graph, then the base. -/
def check (s : Settings) : Except SettingsError Unit := do
  if (Text.trim s.queryEngine).isEmpty then throw .emptyEngineName
  let _ ← s.inferenceGraphIri
  let _ ← s.base

/-- A mode as JSON: its name, alone or as the only member of an object. -/
def readMode? : Json → Option InferenceMode
  | .string s => ofName s
  | v =>
    match v.asCase? with
    | some (s, .null) => ofName s
    | _ => none
where
  ofName (s : String) : Option InferenceMode :=
    if s = "inline" then some .inline
    else if s = "externalized" then some .externalized
    else none

def readOptional? : Json → Option (Option String)
  | .null => some none
  | v => v.asText?.map some

def fieldNames : List String := ["query_engine", "inference_mode", "inference_graph", "base_iri"]

/-- The values of the settings in order, absent ones as `none`: an object in which no setting
occurs twice, or an array of the first few values. -/
def fieldValues? : Json → Option (List (Option Json))
  | .object ms =>
    fieldNames.mapM fun n =>
      match ms.filter fun m => m.1 = n with
      | [] => some none
      | [m] => some (some m.2)
      | _ => none
  | .array vs =>
    if vs.length ≤ fieldNames.length then
      some ((List.range fieldNames.length).map fun i => vs[i]?)
    else none
  | _ => none

def readOr? {α : Type} (fallback : α) (read : Json → Option α) : Option Json → Option α
  | none => some fallback
  | some v => read v

def ofJson? (v : Json) : Option Settings :=
  match fieldValues? v with
  | some [engine, mode, graph, base] => do
    return ⟨← readOr? default.queryEngine Json.asText? engine,
      ← readOr? default.inferenceMode readMode? mode,
      ← readOr? default.inferenceGraph Json.asText? graph,
      ← readOr? default.baseIri readOptional? base⟩
  | _ => none

/-- The settings that a JSON text holds, checked. -/
def read (text : String) : Except SettingsError Settings :=
  match (Json.read? text).bind ofJson? with
  | none => .error .unreadable
  | some s =>
    match s.check with
    | .ok _ => .ok s
    | .error e => .error e

def toJson (s : Settings) : Json :=
  .object [("query_engine", .string s.queryEngine),
    ("inference_mode", .string s.inferenceMode.text),
    ("inference_graph", .string s.inferenceGraph),
    ("base_iri", match s.baseIri with | some b => .string b | none => .null)]

end Settings

end RdfStore
