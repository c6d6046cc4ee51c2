import Structex.Command.Basic
import Structex.Template.Placeholder
import Structex.Value.Interchange
import Structex.Value.Key
import Structex.Value.Show

/-!
# Expanding templates

What placeholders stand for in a context of values, in a single pass: text that a placeholder
gives is not looked at again. A placeholder for which the context has nothing keeps the text it
was written as. Whole values are expanded in order, each key before what stands under it, so that
identifiers are drawn in the order in which a reader meets their placeholders.
-/

namespace Structex

/-- The values that placeholders can ask for; null data counts as none. -/
structure TemplateContext where
  captures : Option (List (Option String)) := none
  path : Option (List String) := none
  data : Value := .null
  input : Option String := none

/-- Why a template cannot be expanded, or a rule not be applied to a document. -/
inductive EvaluationFault where
  /-- A number has more digits than are read. -/
  | numberTooLong
  /-- A value has no interchange text. -/
  | interchange (fault : InterchangeFault)
  /-- A document's key is no text. -/
  | keyKind (typeName : String)
  /-- A document's key or type holds something that can change. -/
  | unhashable
  deriving DecidableEq, Repr

namespace Template

/-- The number that digits of any script write. -/
def number (digits : List Char) : Except EvaluationFault Nat :=
  if digits.length ≤ Decimal.longestInteger then
    .ok (Decimal.ofDigits 10 (digits.map fun c => (Text.digitValue? c).getD 0))
  else
    .error .numberTooLong

/-- The text at a place of a sequence: empty beyond its end and where there is none. -/
def textAt (items : List (Option String)) (digits : List Char) : Except EvaluationFault String := do
  let index ← number digits
  return ((items[index]?).join).getD ""

/-- The value reached by one step: by key into a mapping, by number into a sequence. -/
def step (value : Value) (part : List Char) : Except EvaluationFault Value :=
  match value with
  | .map pairs => .ok ((Entries.get? pairs (String.ofList part)).getD .null)
  | .list items => item items
  | .tuple items => item items
  | _ => .ok .null
where
  /-- The item at the place that digits write. -/
  item (items : List Value) : Except EvaluationFault Value := do
    if !part.isEmpty && part.all Text.isAsciiDigit then
      return (items[← number part]?).getD .null
    else
      return .null

/-- The value reached by steps one after another. -/
def follow (value : Value) : List (List Char) → Except EvaluationFault Value
  | [] => .ok value
  | part :: rest => do follow (← step value part) rest

/-- The value under a dotted path. -/
def lookup (data : Value) (path : List Char) : Except EvaluationFault Value :=
  follow data (Text.splitChars '.' path)

/-- The text of a value that a placeholder gives. -/
def render (value : Value) : Except EvaluationFault String :=
  match value with
  | .null => .ok ""
  | .str text => .ok text
  | .bool flag => .ok (if flag then "true" else "false")
  | .date day => .ok day.text
  | .moment time => .ok time.text
  | .pattern ready => .ok ready.shown
  | .record traits _ => .ok traits.plain
  | .object traits _ => .ok traits.plain
  | other => (Interchange.text other).mapError .interchange

/-- What a placeholder other than an identifier gives, if the context has a value for it. -/
def lookUp (context : TemplateContext) : Placeholder → Except EvaluationFault (Option String)
  | .capture digits => context.captures.mapM fun items => textAt items digits
  | .path digits => context.path.mapM fun items => textAt (items.map some) digits
  | .identifier => .ok none
  | .input => .ok context.input
  | .data path =>
    match context.data with
    | .null => .ok none
    | data => do return some (← render (← lookup data path))

section

variable {m : Type → Type} [Monad m] [MonadExceptOf EvaluationFault m]

/-- What a part of a template gives. -/
def expandPart (context : TemplateContext) (newIdentifier : m String) :
    TemplatePart → m String
  | .literal c => pure (String.ofList [c])
  | .hole .identifier _ => newIdentifier
  | .hole placeholder source =>
    match lookUp context placeholder with
    | .ok value => pure (value.getD (String.ofList source))
    | .error fault => throw fault

/-- What parts of a template give, in order. -/
def expandParts (context : TemplateContext) (newIdentifier : m String) :
    List TemplatePart → m String
  | [] => pure ""
  | part :: rest => do
    let first ← expandPart context newIdentifier part
    let others ← expandParts context newIdentifier rest
    return first ++ others

/-- What a template gives. -/
def expand (template : String) (context : TemplateContext) (newIdentifier : m String) :
    m String :=
  expandParts context newIdentifier (TemplatePart.read template)

mutual

/-- A value with its texts and text keys expanded. Keys that become the same are one key, with the
value that stands last. -/
def expandValue (context : TemplateContext) (newIdentifier : m String) : Value → m Value
  | .str text => do return .str (← expand text context newIdentifier)
  | .list items => do return .list (← expandItems context newIdentifier items)
  | .tuple items => do return .tuple (← expandItems context newIdentifier items)
  | .map entries => do
    return .map (Entries.ofList (← expandEntries context newIdentifier entries))
  | other => pure other

/-- Items expanded in order. -/
def expandItems (context : TemplateContext) (newIdentifier : m String) :
    List Value → m (List Value)
  | [] => pure []
  | item :: rest => do
    let first ← expandValue context newIdentifier item
    let others ← expandItems context newIdentifier rest
    return first :: others

/-- Entries expanded in order, each key before its value. -/
def expandEntries (context : TemplateContext) (newIdentifier : m String) :
    List (Value × Value) → m (List (Value × Value))
  | [] => pure []
  | (key, item) :: rest => do
    let newKey ← match key with
      | .str text => do pure (Value.str (← expand text context newIdentifier))
      | other => pure other
    let newItem ← expandValue context newIdentifier item
    let others ← expandEntries context newIdentifier rest
    return (newKey, newItem) :: others

end

/-- A command that gives a template with the text at hand as its input. -/
def command (template : String) (context : TemplateContext) (newIdentifier : m String) :
    Command m :=
  fun text => expand template { context with input := some text } newIdentifier

end

end Template

end Structex
