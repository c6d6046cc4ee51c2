import Structex.Value.Path

/-!
# Values with shared mappings

One mapping may stand in several places of a value. It is the same mapping in all of them, so that
what is put into it shows in each. The places of a mapping carry its mark here; a mapping without a
mark stands in one place, or in the places of a marked mapping around it. Putting something under a
path changes the last mapping that the path goes through, and with it every place of the last
marked one.
-/

namespace Structex

/-- A value in which mappings are shared. -/
inductive Shared where
  | leaf (value : Value) (noMap : value.isMap = false)
  | list (items : List Shared)
  | tuple (items : List Shared)
  | map (mark : Option Nat) (entries : List (Value × Shared))

namespace Shared

instance : Inhabited Shared :=
  ⟨.leaf .null rfl⟩

/-! ## The value in it -/

mutual

/-- The value, in which it does not show what is shared. -/
def value : Shared → Value
  | .leaf value _ => value
  | .list items => .list (values items)
  | .tuple items => .tuple (values items)
  | .map _ entries => .map (valueEntries entries)

/-- The values of items. -/
def values : List Shared → List Value
  | [] => []
  | item :: rest => item.value :: values rest

/-- Entries with the values of what stands under their keys. -/
def valueEntries : List (Value × Shared) → List (Value × Value)
  | [] => []
  | (key, item) :: rest => (key, item.value) :: valueEntries rest

end

mutual

/-- A value in which nothing is shared. -/
def ofValue : Value → Shared
  | .map entries => .map none (ofEntries entries)
  | .null => .leaf .null rfl
  | .bool flag => .leaf (.bool flag) rfl
  | .int number => .leaf (.int number) rfl
  | .float number => .leaf (.float number) rfl
  | .str text => .leaf (.str text) rfl
  | .date day => .leaf (.date day) rfl
  | .moment time => .leaf (.moment time) rfl
  | .list items => .leaf (.list items) rfl
  | .tuple items => .leaf (.tuple items) rfl
  | .pattern ready => .leaf (.pattern ready) rfl
  | .record traits fields => .leaf (.record traits fields) rfl
  | .object traits copying => .leaf (.object traits copying) rfl

/-- Entries in which nothing is shared. -/
def ofEntries : List (Value × Value) → List (Value × Shared)
  | [] => []
  | (key, item) :: rest => (key, ofValue item) :: ofEntries rest

end

instance : Coe Value Shared :=
  ⟨ofValue⟩

mutual

@[simp] theorem value_ofValue (value : Value) : (ofValue value).value = value := by
  cases value with
  | map entries => rw [ofValue, Shared.value, valueEntries_ofEntries]
  | _ => rfl

@[simp] theorem valueEntries_ofEntries (entries : List (Value × Value)) :
    valueEntries (ofEntries entries) = entries := by
  match entries with
  | [] => rfl
  | (key, item) :: rest => rw [ofEntries, valueEntries, value_ofValue, valueEntries_ofEntries]

end

/-! ## Entries -/

/-- What stands under a text key. -/
def get? (entries : List (Value × Shared)) (key : String) : Option Shared :=
  (entries.find? fun entry => entry.1.sameKey (.str key)).map (·.2)

/-- The entries with something put under a key: in the key's place if they have it, else at the
end. -/
def put (entries : List (Value × Shared)) (key : Value) (item : Shared) : List (Value × Shared) :=
  match entries with
  | [] => [(key, item)]
  | (other, old) :: rest =>
    if other.sameKey key then (other, item) :: rest else (other, old) :: put rest key item

/-- The entries put one after another, so that a later one replaces an earlier one of its key. -/
def ofPairs (pairs : List (Value × Shared)) : List (Value × Shared) :=
  pairs.foldl (fun entries pair => put entries pair.1 pair.2) []

/-! ## Paths -/

/-- What stands under a path. -/
def at? : List String → Shared → Option Shared
  | [], content => some content
  | part :: rest, .map _ entries => (get? entries part).bind (at? rest)
  | _ :: _, _ => none

/-- Puts something under a path, in the one place that the path leads to. -/
def putAt (new : Shared) : List String → Shared → Except PathFault Shared
  | [], _ => .ok new
  | part :: rest, .map mark entries => do
    let inner ← putAt new rest ((get? entries part).getD (.map none []))
    return .map mark (put entries (.str part) inner)
  | [_], _ => .error .ends
  | _ :: _ :: _, _ => .error .goesOn

/-- Goes along a path in one place, making the mappings that are missing, and puts something at its
end: what has become of the place, and what was in the way. -/
def putInPlace (new : Shared) : List String → Shared → Shared × Except PathFault Unit
  | [], _ => (new, .ok ())
  | part :: rest, .map mark entries =>
    let (inner, outcome) := putInPlace new rest ((get? entries part).getD (.map none []))
    (.map mark (put entries (.str part) inner), outcome)
  | [_], content => (content, .error .ends)
  | _ :: _ :: _, content => (content, .error .goesOn)

/-- The last marked mapping that a path goes through: its mark, the mapping, and how the path goes
on from it. -/
def home? : List String → Shared → Option (Nat × Shared × List String)
  | part :: rest, .map mark entries =>
    ((get? entries part).bind (home? rest)).or
      (mark.map fun mark => (mark, .map mark entries, part :: rest))
  | _, _ => none

mutual

/-- What stands in all places of a mark once it has become something else. -/
def spread (mark : Nat) (changed : Shared) : Shared → Shared
  | .leaf value noMap => .leaf value noMap
  | .list items => .list (spreadItems mark changed items)
  | .tuple items => .tuple (spreadItems mark changed items)
  | .map own entries =>
    if own = some mark then changed else .map own (spreadEntries mark changed entries)

/-- Items in which the places of a mark are changed. -/
def spreadItems (mark : Nat) (changed : Shared) : List Shared → List Shared
  | [] => []
  | item :: rest => spread mark changed item :: spreadItems mark changed rest

/-- Entries in which the places of a mark are changed. -/
def spreadEntries (mark : Nat) (changed : Shared) : List (Value × Shared) → List (Value × Shared)
  | [] => []
  | (key, item) :: rest => (key, spread mark changed item) :: spreadEntries mark changed rest

end

/-- Puts something under a path, in all places of what is changed by that. -/
def assign (new : Shared) (path : List String) (content : Shared) : Except PathFault Shared :=
  match content.home? path with
  | none => putAt new path content
  | some (mark, held, rest) => do return spread mark (← putAt new rest held) content

/-- Goes along a path and puts something at its end, in all places of what is changed by that. -/
def assignInPlace (new : Shared) (path : List String) (content : Shared) :
    Shared × Except PathFault Unit :=
  match content.home? path with
  | none => putInPlace new path content
  | some (mark, held, rest) =>
    let (changed, outcome) := putInPlace new rest held
    (spread mark changed content, outcome)

end Shared

end Structex
