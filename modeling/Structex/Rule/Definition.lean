import Structex.Check
import Structex.Value.Copy

/-!
# Rule definitions

A rule as it is written down: a glob for the keys it watches, patterns that guard, veto and
extract, what it emits where, and the rule that may follow. A definition can be given as an object
or as a mapping. Of an object the mapping of its fields is made first, with copies of what they
hold, and then both are checked in the same way.
-/

namespace Structex

/-- The fields of a rule as they are given; what is null is not there. -/
structure RuleDefinition where
  name : Value
  watch : Value
  emit : Value
  emitPath : Value
  template : Value := .null
  extract : Value := .null
  guard : Value := .null
  veto : Value := .null
  following : Value := .null

/-- What is given for a rule. -/
inductive RuleArgument where
  | definition (given : RuleDefinition)
  | value (given : Value)

/-- Why no rule comes of what is given. -/
inductive RuleFault where
  /-- A check did not pass; the name is the one that is given. -/
  | invalid (cause : Invalid) (name : Value)
  /-- A pattern has counts or flags that reading gives up on. -/
  | unreadable (fault : Regex.Fault)
  /-- A field of an object has no copy. -/
  | uncopyable (fault : CopyFault)

/-- What a fault is told as. -/
inductive RuleReport where
  /-- As a refusal, with a message and the name that is given. -/
  | refused (message : String) (name : Value)
  /-- As the fault of a source. -/
  | source (fault : Regex.Fault)
  /-- As an error of another name. -/
  | other (errorName : String)

namespace RuleFault

/-- What a fault is told as. A refusal whose message cannot be written is none. -/
def report : RuleFault → RuleReport
  | .invalid cause name =>
    if cause.isWritable then .refused cause.message name else .other "ValueError"
  | .unreadable fault => .source fault
  | .uncopyable fault => .other fault.errorName

/-- A refusal, with the name that is given. -/
def ofRefusal (name : Value) : Refusal → RuleFault
  | .invalid cause => .invalid cause name
  | .unreadable fault => .unreadable fault

end RuleFault

namespace RuleDefinition

/-- All fields of a definition in order, by their names. -/
def namedFields (definition : RuleDefinition) : List (String × Value) := [
  ("name", definition.name), ("watch", definition.watch), ("emit", definition.emit),
  ("emit_path", definition.emitPath), ("template", definition.template),
  ("x", definition.extract), ("g", definition.guard), ("v", definition.veto),
  ("then", definition.following)]

/-- The definition as a mapping of the copies of its fields, those that are null left out. -/
def toValue (definition : RuleDefinition) : Except CopyFault Value :=
  .map <$> Value.presentFields definition.namedFields

/-- The name that a value gives for a rule, if it is a mapping. -/
def nameOf : Value → Value
  | .map pairs => (Entries.get? pairs "name").getD .null
  | _ => .null

/-- The fields that entries give; a field that is missing is null. -/
def ofEntries (entries : Entries) : RuleDefinition where
  name := (entries.get? "name").getD .null
  watch := (entries.get? "watch").getD .null
  emit := (entries.get? "emit").getD .null
  emitPath := (entries.get? "emit_path").getD .null
  template := (entries.get? "template").getD .null
  extract := (entries.get? "x").getD .null
  guard := (entries.get? "g").getD .null
  veto := (entries.get? "v").getD .null
  following := (entries.get? "then").getD .null

/-- The definition that a value gives, if it passes the checks. -/
def ofValue (value : Value) : Except RuleFault RuleDefinition := do
  (Check.definition value).mapError (RuleFault.ofRefusal (nameOf value))
  match value with
  | .map pairs => return ofEntries pairs
  | _ => throw (.invalid .definitionKind .null)

/-- The names of the fields, those that must be given first. -/
def fieldNames : List String :=
  ["name", "watch", "emit", "emit_path", "template", "x", "g", "v", "then"]

/-- The definition with exactly these fields, if they are fields of a rule and the first four are
there. -/
def ofFields? (entries : Entries) : Option RuleDefinition :=
  if List.all entries (fun entry => match entry.1 with
      | .str field => fieldNames.contains field
      | _ => false) &&
      (fieldNames.take 4).all entries.hasKey
  then some (ofEntries entries) else none

end RuleDefinition

namespace RuleArgument

/-- The mapping of what is given. -/
def toValue : RuleArgument → Except CopyFault Value
  | .definition given => given.toValue
  | .value given => .ok given

end RuleArgument

end Structex
