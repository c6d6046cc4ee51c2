import Structex.Rule.Basic

/-!
# Registries

The rules of an engine in the order of their registration, one for each name. A rule that is
registered again takes the place of the one before it. Every change tells what happened, so that
it can be logged.
-/

namespace Structex

/-- Something that happened to a registry or in a cascade. -/
inductive Event where
  | added (rule watch : String) (replaced : Bool)
  | removed (rule : String)
  | skipped (key kind : Value)
  | emitted (rule : String) (key kind : Value)
  | fileLoaded (file : String) (count : Nat)

namespace Event

/-- The message of an event. -/
def message : Event → String
  | .added .. => "Pattern added"
  | .removed .. => "Pattern removed"
  | .skipped .. => "Cascade skipped"
  | .emitted .. => "Reaction emitted"
  | .fileLoaded .. => "Pattern file loaded"

/-- The context of an event. -/
def context : Event → Entries
  | .added rule watch replaced =>
    [(.str "pattern", .str rule), (.str "watch", .str watch), (.str "replaced", .bool replaced)]
  | .removed rule => [(.str "pattern", .str rule)]
  | .skipped key kind => [(.str "key", key), (.str "type", kind)]
  | .emitted rule key kind =>
    [(.str "pattern", .str rule), (.str "key", key), (.str "type", kind)]
  | .fileLoaded file count => [(.str "file", .str file), (.str "patterns", .int count)]

end Event

/-- The rules of an engine in order. -/
abbrev Registry := List Rule

namespace Registry

/-- The names of the rules in order. -/
def names (registry : Registry) : List String :=
  List.map (·.name) registry

/-- The rule of a name. -/
def get? (registry : Registry) (name : String) : Option Rule :=
  List.find? (fun rule => rule.name == name) registry

/-- Whether a name is registered. -/
def has (registry : Registry) (name : String) : Bool :=
  List.any registry fun rule => rule.name == name

/-- The registry with a rule put in the place of the one of its name, or at the end. -/
def put : Registry → Rule → Registry
  | [], rule => [rule]
  | other :: rest, rule => if other.name == rule.name then rule :: rest else other :: put rest rule

/-- The registry without the rule of a name. -/
def erase (registry : Registry) (name : String) : Registry :=
  List.filter (fun rule => rule.name != name) registry

/-- Registers what is given. -/
def add (registry : Registry) (given : RuleArgument) :
    Except RuleFault (Rule × Registry × Event) := do
  let rule ← Rule.compile given
  return (rule, registry.put rule, .added rule.name rule.watch (registry.has rule.name))

/-- Removes the rule of a name, and tells whether it was registered. -/
def remove (registry : Registry) (name : String) : Bool × Registry × List Event :=
  if registry.has name then (true, registry.erase name, [.removed name])
  else (false, registry, [])

/-- What comes of registering several rules: the registry as far as it got, what happened, and the
rules or the fault of the first that could not be registered. -/
structure Loaded where
  registry : Registry
  events : List Event
  outcome : Except RuleFault (List Rule)

/-- Registers what is given in order, up to the first that is no rule. -/
def addAll (registry : Registry) : List RuleArgument → Loaded
  | [] => ⟨registry, [], .ok []⟩
  | given :: rest =>
    match registry.add given with
    | .error fault => ⟨registry, [], .error fault⟩
    | .ok (rule, registry, event) =>
      let loaded := addAll registry rest
      ⟨loaded.registry, event :: loaded.events, loaded.outcome.map (rule :: ·)⟩

/-- The names of the rules that watch, guard and do not veto a document. -/
def wouldMatch (registry : Registry) (document : Document) :
    Except EvaluationFault (List String) := do
  let payload ← (payloadText document.data).mapError .interchange
  let matching ← List.filterM (fun rule : Rule => do
    return (← rule.watches document.key) && rule.admits payload) registry
  return matching.map (·.name)

end Registry

end Structex
