import Structex.Regex.Grammar
import Structex.Value.Moment

/-!
# Values

The data that documents, rules, settings and log contexts are made of: scalars, sequences and
mappings. A mapping keeps its entries in the order of their first insertion, and any scalar may be
a key. Callers may hand over other objects as well, which are taken for what is seen of them: a
pattern that is ready, a record with fields, or an object of which nothing is known but how it
shows, how it is compared and what comes of copying it.
-/

namespace Structex

/-- What is seen of an object of a class of its own. Objects that are equal have one number. -/
structure Traits where
  typeName : String
  number : Nat
  /-- Its text in messages. -/
  shown : String
  /-- Its text where it stands by itself. -/
  plain : String
  isTruthy : Bool
  /-- Whether it may be a key. -/
  isKey : Bool
  deriving DecidableEq, Repr, Inhabited

/-- What comes of copying an object. -/
inductive Copying (α : Type) where
  /-- The copy is equal to the object and looks like it. -/
  | same
  | other (copy : α)
  /-- There is none, and the error of this name says so. -/
  | refused (errorName : String)

/-- A value: a scalar, a sequence of values, a mapping between values, or an object. -/
inductive Value where
  | null
  | bool (flag : Bool)
  | int (number : Int)
  | float (number : Float)
  | str (text : String)
  | date (day : Date)
  | moment (time : Moment)
  | list (items : List Value)
  | tuple (items : List Value)
  | map (entries : List (Value × Value))
  | pattern (ready : Regex.Pattern)
  /-- An object of a class that declares its fields. -/
  | record (traits : Traits) (fields : List (String × Value))
  /-- An object of any other class: no text and no number, nothing that is gone through, and nothing
  with values under keys. -/
  | object (traits : Traits) (copying : Copying Value)
  deriving Inhabited

/-- The entries of a mapping, in order. -/
abbrev Entries := List (Value × Value)

namespace Value

/-- Whether the value counts as a yes: null, false, zero and everything empty do not. -/
def isTruthy : Value → Bool
  | .null => false
  | .bool flag => flag
  | .int number => number != 0
  | .float number => !(number == 0.0)
  | .str text => !text.isEmpty
  | .list items => !items.isEmpty
  | .tuple items => !items.isEmpty
  | .map entries => !entries.isEmpty
  | .record traits _ => traits.isTruthy
  | .object traits _ => traits.isTruthy
  | _ => true

/-- The name of the value's kind, as messages give it. -/
def typeName : Value → String
  | .null => "NoneType"
  | .bool _ => "bool"
  | .int _ => "int"
  | .float _ => "float"
  | .str _ => "str"
  | .date _ => "date"
  | .moment _ => "datetime"
  | .list _ => "list"
  | .tuple _ => "tuple"
  | .map _ => "dict"
  | .pattern _ => "Pattern"
  | .record traits _ => traits.typeName
  | .object traits _ => traits.typeName

/-- Whether the value is an object of a class of its own. -/
def isObject : Value → Bool
  | .record _ _ | .object _ _ => true
  | _ => false

/-- Whether the value is null. -/
def isNull : Value → Bool
  | .null => true
  | _ => false

theorem isNull_iff {value : Value} : value.isNull = true ↔ value = .null := by
  cases value <;> simp [isNull]

end Value

end Structex
