import Structex.Regex.Argument
import Structex.Value.Key

/-!
# Checks

What must hold of patterns, globs, names and rule definitions before they are used. A check stops
at the first thing that is wrong and says what it is.
-/

namespace Structex

/-- The bounds that the checks use. -/
structure Limits where
  pattern : Nat
  ruleName : Nat
  tokenName : Nat

/-- The longest sources and names that are accepted, in characters. -/
def limits : Limits := ⟨4096, 255, 255⟩

/-- The kind of token that stands for text that no definition takes. -/
def errorTokenName : String := "ERROR"

/-- What is wrong with something that was checked. -/
inductive Invalid where
  | patternKind (typeName : String)
  | patternLength
  | patternSource (source : String) (fault : Regex.Fault)
  | globKind (typeName : String)
  | globEmpty
  | globLength
  | globNull
  | nameKind (kind : String) (name : Value)
  | nameLength (kind : String) (most : Int)
  | definitionKind
  | fieldMissing (field : String)
  | emitKind (value : Value)
  | emitPathKind (value : Value)
  | reservedName
  | documentField (field : String)

/-- The message of a failed check. -/
def Invalid.message : Invalid → String
  | .patternKind typeName => "Regex pattern must be string, got " ++ typeName
  | .patternLength =>
    "Regex pattern exceeds maximum length (" ++ toString limits.pattern ++ ")"
  | .patternSource source fault =>
    "Failed to compile regex pattern " ++ Text.quoted source ++ ": " ++ fault.message
  | .globKind typeName => "Glob pattern must be string, got " ++ typeName
  | .globEmpty => "Glob pattern cannot be empty"
  | .globLength => "Glob pattern exceeds maximum length (" ++ toString limits.pattern ++ ")"
  | .globNull => "Invalid glob pattern: contains null bytes"
  | .nameKind kind name => kind ++ " name must be a non-empty string: " ++ name.shown
  | .nameLength kind most => kind ++ " name exceeds maximum length (" ++ toString most ++ ")"
  | .definitionKind => "Pattern definition must be a mapping"
  | .fieldMissing field => "Pattern definition must have '" ++ field ++ "' field"
  | .emitKind value => "Pattern emit must be string: " ++ value.shown
  | .emitPathKind value => "Pattern emit_path must be string: " ++ value.shown
  | .reservedName =>
    "Token name " ++ Text.quoted errorTokenName ++ " is reserved for unmatched input"
  | .documentField field => "Document missing field: " ++ Text.quoted field

/-- Whether the message of a failed check can be written: the value in it may have no text. -/
def Invalid.isWritable : Invalid → Bool
  | .nameKind _ value | .emitKind value | .emitPathKind value => value.isWritable
  | _ => true

/-- Why a check did not pass: something is invalid, or a pattern has counts or flags that reading
gives up on. -/
inductive Refusal where
  | invalid (cause : Invalid)
  | unreadable (fault : Regex.Fault)

namespace Check

/-- The pattern that is given, if it is short enough and can be read. -/
def pattern (argument : PatternArgument) (flags : Regex.Flags) : Except Refusal Regex.Pattern :=
  match argument with
  | .compiled ready => .ok ready
  | .value (.str source) =>
    if source.length > limits.pattern then .error (.invalid .patternLength)
    else
      match Regex.Pattern.parse source flags with
      | .ok compiled => .ok compiled
      | .error (.malformed cause position text) =>
        .error (.invalid (.patternSource source (.malformed cause position text)))
      | .error fault => .error (.unreadable fault)
  | .value (.pattern ready) => .ok ready
  | .value other => .error (.invalid (.patternKind other.typeName))

/-- A glob is a text that is neither empty nor too long and has no null character. -/
def glob (value : Value) : Except Refusal Unit :=
  match value with
  | .str text =>
    if text.isEmpty then .error (.invalid .globEmpty)
    else if text.length > limits.pattern then .error (.invalid .globLength)
    else if text.toList.contains (Char.ofNat 0) then .error (.invalid .globNull)
    else .ok ()
  | other => .error (.invalid (.globKind other.typeName))

/-- A name is a text that is neither empty nor too long. -/
def name (value : Value) (kind : String) (most : Int) : Except Refusal Unit :=
  match value with
  | .str text =>
    if text.isEmpty then .error (.invalid (.nameKind kind value))
    else if (text.length : Int) > most then .error (.invalid (.nameLength kind most))
    else .ok ()
  | _ => .error (.invalid (.nameKind kind value))

/-- The value of a field that a definition must have. -/
def field (entries : Entries) (key : String) : Except Refusal Value :=
  match entries.get? key with
  | none | some .null => .error (.invalid (.fieldMissing key))
  | some value => .ok value

/-- A field that may hold a pattern holds one unless it counts as a no. -/
def optionalPattern (entries : Entries) (key : String) : Except Refusal Unit :=
  match entries.get? key with
  | none => .ok ()
  | some value =>
    if value.isTruthy then do
      let _ ← pattern (.value value) {}
      return ()
    else .ok ()

/-- A rule definition has its four fields, each of its kind, patterns that can be read, and a
name for the rule that follows if there is one. -/
def definition (value : Value) : Except Refusal Unit :=
  match value with
  | .map pairs => do
    let entries : Entries := pairs
    let ruleName ← field entries "name"
    let watch ← field entries "watch"
    let emit ← field entries "emit"
    let emitPath ← field entries "emit_path"
    name ruleName "Rule" limits.ruleName
    glob watch
    match emit with
    | .str _ => pure ()
    | other => throw (.invalid (.emitKind other))
    match emitPath with
    | .str _ => pure ()
    | other => throw (.invalid (.emitPathKind other))
    optionalPattern entries "x"
    optionalPattern entries "g"
    optionalPattern entries "v"
    match entries.get? "then" with
    | none | some .null => pure ()
    | some following => name following "Cascade target" limits.ruleName
  | _ => throw (.invalid .definitionKind)

/-- The pattern of a token definition, if its name may be used. -/
def token (tokenName : Value) (argument : PatternArgument) : Except Refusal Regex.Pattern := do
  name tokenName "Token" limits.tokenName
  match tokenName with
  | .str text => if text == errorTokenName then throw (.invalid .reservedName)
  | _ => pure ()
  pattern argument {}

end Check

end Structex
