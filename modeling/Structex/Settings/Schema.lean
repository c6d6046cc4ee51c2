import Structex.Settings.Basic

/-!
# Schemas of settings

A schema has the shape of the settings, with kinds of values at its leaves. What is missing or null
at a leaf passes, and so does what the schema says nothing about. Any test for a kind may stand at
a leaf; those of the known types are given here. A truth value counts as an integer.
-/

namespace Structex

/-- A kind of values, by the test for it. What a mapping holds makes no difference to its kind. -/
structure Kind where
  holds : Value → Bool
  ofMap : ∀ entries others : Entries, holds (.map entries) = holds (.map others)

namespace Kind

/-- The values of types that are known by name. -/
def named (typeNames : List String) : Kind where
  holds value := !value.isObject && typeNames.contains value.typeName
  ofMap _ _ := rfl

def str : Kind := named ["str"]

def int : Kind := named ["int", "bool"]

def float : Kind := named ["float"]

def bool : Kind := named ["bool"]

def list : Kind := named ["list"]

def tuple : Kind := named ["tuple"]

def map : Kind := named ["dict"]

/-- Days; a moment is one of them. -/
def date : Kind := named ["date", "datetime"]

def moment : Kind := named ["datetime"]

end Kind

/-- What a leaf asks for: a kind, one of several, or something that is no kind at all. -/
inductive KindTest where
  | kind (wanted : Kind)
  | any (tests : List KindTest)
  | noKind
  deriving Inhabited

/-- A schema. -/
inductive Schema where
  | leaf (test : KindTest)
  | mapping (fields : List (String × Schema))
  /-- Says nothing about the value. -/
  | anything
  deriving Inhabited

/-- Why settings do not fit a schema. -/
inductive SchemaFault where
  | mappingExpected (path typeName : String)
  | wrongKind (path typeName : String)
  /-- A leaf asks for something that is no kind. -/
  | noKind
  /-- A layer of the settings is no mapping. -/
  | noMapping
  deriving DecidableEq, Repr

/-- The message of a fault. -/
def SchemaFault.message : SchemaFault → String
  | .mappingExpected path typeName => "Expected dict for " ++ path ++ ", got " ++ typeName
  | .wrongKind path typeName => "Invalid type for " ++ path ++ ": got " ++ typeName
  | .noKind => "Not a kind of values"
  | .noMapping => "Not a mapping"

namespace KindTest

mutual

/-- Whether a value passes a test; what is no kind shows only when it is reached. -/
def passes (value : Value) : KindTest → Except SchemaFault Bool
  | .kind wanted => .ok (wanted.holds value)
  | .any tests => passesAny value tests
  | .noKind => .error .noKind

/-- Whether a value passes one of several tests, tried in order. -/
def passesAny (value : Value) : List KindTest → Except SchemaFault Bool
  | [] => .ok false
  | test :: rest => do if ← passes value test then return true else passesAny value rest

end

end KindTest

namespace Schema

mutual

/-- Checks the value at a path. -/
def checkValue (path : String) (value : Value) : Schema → Except SchemaFault Unit
  | .anything => .ok ()
  | .leaf test =>
    if value.isNull then .ok ()
    else do
      unless ← test.passes value do throw (.wrongKind path value.typeName)
  | .mapping fields =>
    match value with
    | .map entries => checkFields (path ++ ".") entries fields
    | other => .error (.mappingExpected path other.typeName)

/-- Checks what entries have under the keys of fields, in the order of the fields. -/
def checkFields (before : String) (entries : Entries) :
    List (String × Schema) → Except SchemaFault Unit
  | [] => .ok ()
  | (key, schema) :: rest => do
    match entries.get? key with
    | none => pure ()
    | some value => checkValue (before ++ key) value schema
    checkFields before entries rest

end

/-- The schema of the settings that the library itself reads. -/
def own : List (String × Schema) := [
  (Settings.ownKey, .mapping [
    ("logging", .mapping [("level", .leaf (.kind .str)), ("file", .leaf (.kind .str))]),
    ("engine", .mapping [("patterns", .leaf (.kind .list)),
      ("pattern_files", .leaf (.any [.kind .list, .kind .str]))])])]

end Schema

namespace Settings

/-- Checks the whole of the settings. -/
def validate (settings : Settings) (fields : List (String × Schema)) : Except SchemaFault Unit :=
  match settings.all? with
  | none => .error .noMapping
  | some entries => Schema.checkFields "" entries fields

end Settings

end Structex
