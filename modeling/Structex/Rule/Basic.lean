import Structex.Glob
import Structex.Match
import Structex.Rule.Definition
import Structex.Rule.Document
import Structex.Template.Expand

/-!
# Rules

A rule with its glob and patterns ready, and what it makes of one document: nothing, or a reaction
whose key, type and payload come from the document. Identifiers for the key are drawn before those
for the payload.
-/

namespace Structex

/-- A rule that is ready to be applied. -/
structure Rule where
  name : String
  watch : String
  glob : Glob
  emit : String
  emitPath : String
  template : Value
  extract : Option Regex.Pattern
  guard : Option Regex.Pattern
  veto : Option Regex.Pattern
  following : Option String

/-- The version that the bookkeeping of a reaction gives. -/
def reactionVersion : Int := 1

/-- The text of a payload that patterns see: a text itself, anything else as interchange text. -/
def payloadText : Value → Except InterchangeFault String
  | .str text => .ok text
  | data => Interchange.text data

namespace Rule

/-- The pattern of a field, if the field counts as a yes. -/
def optionalPattern (name source : Value) : Except RuleFault (Option Regex.Pattern) :=
  if source.isTruthy then
    ((Check.pattern (.value source) {}).mapError (RuleFault.ofRefusal name)).map some
  else .ok none

/-- The rule of what is given. -/
def compile (given : RuleArgument) : Except RuleFault Rule := do
  let value ← given.toValue.mapError .uncopyable
  let definition ← RuleDefinition.ofValue value
  let extract ← optionalPattern definition.name definition.extract
  let guard ← optionalPattern definition.name definition.guard
  let veto ← optionalPattern definition.name definition.veto
  return {
    name := definition.name.plain
    watch := definition.watch.plain
    glob := Glob.compile definition.watch.plain
    emit := definition.emit.plain
    emitPath := definition.emitPath.plain
    template := definition.template
    extract := extract
    guard := guard
    veto := veto
    following := if definition.following.isNull then none else some definition.following.plain }

/-- Whether guard and veto let a payload pass. -/
def admits (rule : Rule) (payload : String) : Bool :=
  (match rule.guard with
    | some pattern => pattern.containsMatch payload
    | none => true) &&
  (match rule.veto with
    | some pattern => !pattern.containsMatch payload
    | none => true)

/-- Whether the rule watches a key, which must be a text. -/
def watches (rule : Rule) (key : Value) : Except EvaluationFault Bool :=
  match key with
  | .str path => .ok (rule.glob.isMatch path)
  | other => .error (.keyKind other.typeName)

/-- The groups that a rule takes out of a payload, none if it extracts nothing or does not
match. -/
def captured (rule : Rule) (payload : String) : List String :=
  match rule.extract with
  | some pattern => pattern.firstGroups payload
  | none => []

/-- What the placeholders of a rule see of a document. -/
def context (rule : Rule) (document : Document) (payload : String) : TemplateContext where
  captures := some ((rule.captured payload).map some)
  path := some (pathSegments document.key.plain)
  data := match document.data with
    | .map entries => .map entries
    | _ => .map []
  input := some payload

/-- The bookkeeping of the reactions of a rule. -/
def metadata (rule : Rule) : Metadata where
  version := .int reactionVersion
  producedBy := .str rule.name

section

variable {m : Type → Type} [Monad m] [MonadExceptOf EvaluationFault m]

/-- A result in the context, or its fault. -/
def orThrow {α : Type} : Except EvaluationFault α → m α
  | .ok value => pure value
  | .error fault => throw fault

/-- The reaction of a rule to a document whose payload it admits. -/
def reaction (rule : Rule) (document : Document) (payload : String) (newIdentifier : m String) :
    m Document := do
  let context := rule.context document payload
  let key ← Template.expand rule.emitPath context newIdentifier
  let data ← Template.expandValue context newIdentifier rule.template
  return ⟨.str key, .str rule.emit, data, some rule.metadata⟩

/-- What a rule makes of a document. The payload is looked at only if the key is watched. -/
def fire? (rule : Rule) (document : Document) (newIdentifier : m String) :
    m (Option Document) := do
  if ← orThrow (rule.watches document.key) then
    let payload ← orThrow ((payloadText document.data).mapError .interchange)
    if rule.admits payload then
      return some (← rule.reaction document payload newIdentifier)
    else return none
  else return none

end

end Rule

end Structex
