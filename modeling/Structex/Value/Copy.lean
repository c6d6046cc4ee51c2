import Structex.Value.Key

/-!
# Copies

What comes of taking a value apart and copying its parts. Sequences and mappings are made anew of
the copies of what they hold, a record becomes the mapping of its fields, and any other object is
copied in its own way. There is no copy where an object has none, or where the copy of a key is no
key.
-/

namespace Structex

/-- Why there is no copy: copying breaks off with the error of this name. -/
structure CopyFault where
  errorName : String
  deriving DecidableEq, Repr

/-- What comes of a copy that may be no key where a key is asked for. -/
def CopyFault.noKey : CopyFault := ⟨"TypeError"⟩

namespace Value

mutual

/-- The copy of a value. -/
def copied : Value → Except CopyFault Value
  | .list items => .list <$> copiedItems items
  | .tuple items => .tuple <$> copiedItems items
  | .map entries => (fun pairs => .map (Entries.ofList pairs)) <$> copiedEntries entries
  | .record _ fields => (fun pairs => .map (Entries.ofList pairs)) <$> copiedFields fields
  | .object _ (.other copy) => .ok copy
  | .object _ (.refused errorName) => .error ⟨errorName⟩
  | value => .ok value

/-- The copies of items. -/
def copiedItems : List Value → Except CopyFault (List Value)
  | [] => .ok []
  | item :: rest => do
    let copy ← copied item
    let copies ← copiedItems rest
    return copy :: copies

/-- The copies of keys and of what stands under them. -/
def copiedEntries : List (Value × Value) → Except CopyFault (List (Value × Value))
  | [] => .ok []
  | (key, item) :: rest => do
    let keyCopy ← copied key
    let copy ← copied item
    if !keyCopy.isKey then throw .noKey
    let copies ← copiedEntries rest
    return (keyCopy, copy) :: copies

/-- The copies of the fields of a record, under their names. -/
def copiedFields : List (String × Value) → Except CopyFault (List (Value × Value))
  | [] => .ok []
  | (name, item) :: rest => do
    let copy ← copied item
    let copies ← copiedFields rest
    return (.str name, copy) :: copies

end

/-- The copies of the fields of a record that are not null, under their names. -/
def presentFields (fields : List (String × Value)) : Except CopyFault Entries :=
  (fun pairs => List.filter (fun entry => !entry.2.isNull) (Entries.ofList pairs)) <$>
    copiedFields fields

end Value

end Structex
