import Structex.Value.Key

/-!
# Paths into values

A path is a list of text keys, and leads from a mapping through the mappings under its keys. What
is found under a path, and the value with something put there: mappings that are missing on the
way are made, and anything else that stands in the way is a fault.
-/

namespace Structex

/-- What stands in the way of a path: something that is no mapping, in which the path goes on or
ends. -/
inductive PathFault where
  | goesOn
  | ends
  deriving DecidableEq, Repr

namespace Value

/-- Whether the value is a mapping. -/
def isMap : Value → Bool
  | .map _ => true
  | _ => false

/-- The value under a path. -/
def at? : List String → Value → Option Value
  | [], value => some value
  | part :: rest, .map entries => (Entries.get? entries part).bind (at? rest)
  | _ :: _, _ => none

/-- The value with a new one put under a path. -/
def putAt (new : Value) : List String → Value → Except PathFault Value
  | [], _ => .ok new
  | part :: rest, .map entries => do
    let inner ← putAt new rest ((Entries.get? entries part).getD (.map []))
    return .map (Entries.put entries (.str part) inner)
  | [_], _ => .error .ends
  | _ :: _ :: _, _ => .error .goesOn

mutual

/-- A value laid over another: mappings are joined key by key, anything else is replaced. -/
def overlay (below : Value) : Value → Value
  | .map above =>
    match below with
    | .map entries => .map (overlayEntries entries above)
    | _ => .map above
  | above => above

/-- Entries laid over those of a mapping. -/
def overlayEntries (below : Entries) : List (Value × Value) → Entries
  | [] => below
  | (key, item) :: rest =>
    let joined := match below.find? key with
      | some old => overlay old item
      | none => item
    overlayEntries (below.put key joined) rest

end

end Value

end Structex
