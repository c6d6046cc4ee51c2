import Structex.Value.Key
import Structex.Yaml.Form

/-!
# YAML texts

The value of a text, and with it one reader that settings and rules can be loaded with; neither
depends on it. The entries that a mapping merges in come before its own, those of a later mapping of
a list before those of an earlier one, so that its own entries and then the earlier mappings have
the last word. A mapping with an alias is shared by all the places where that stands, and so is a
mapping under a key that others merge in. A text without a document is null. Scalars, sequences and
mappings are read; the tags of sets, of pairs and of bytes are unknown here, and nothing can stand
in itself.
-/

namespace Structex.Yaml

namespace Node

/-- Whether a node is taken as a mapping or a sequence of its own kind; an exclamation mark alone
is no tag. -/
def isKind (tag : Option String) (kind : String) : Bool :=
  match tag with
  | none => true
  | some tag => tag == "!" || tag == ownTags ++ kind

/-- What a scalar is taken for. -/
def formOf (tag : Option String) (text : String) (plain : Bool) : Except Fault Form :=
  match tag with
  | none => .ok (if plain then Form.ofPlain text else .text)
  | some tag =>
    if tag == "!" then .ok (Form.ofPlain text)
    else
      match Form.ofTag? tag with
      | some form => .ok form
      | none => .error .unknownTag

/-- Whether a node is the key under which other mappings are merged in. -/
def isMerge : Node → Bool
  | .scalar _ none text plain => plain && Form.ofPlain text == .merge
  | .scalar _ (some tag) text _ =>
    tag == ownTags ++ "merge" || (tag == "!" && Form.ofPlain text == .merge)
  | _ => false

/-- The value of a scalar that is a key; the sign for a default stands for itself. -/
def keyText? : Node → Option String
  | .scalar _ none "=" plain => if plain then some "=" else none
  | _ => none

/-- The entries that are merged in with those of the mapping itself. -/
def joined (parts : List (Value × Shared) × List (Value × Shared)) : List (Value × Shared) :=
  parts.1 ++ parts.2

mutual

/-- The value of a node without aliases. -/
def value : Node → Except Fault Shared
  | .reference name => .error (.undefinedAlias name)
  | .scalar _ tag text plain => do return .ofValue (← (← formOf tag text plain).value text)
  | .sequence _ tag items => do
    unless isKind tag "seq" do throw .unknownTag
    return .list (← values items)
  | .mapping mark _ tag entries => do
    unless isKind tag "map" do throw .unknownTag
    return .map (some mark) (Shared.ofPairs (joined (← pairs entries)))

/-- The values of items. -/
def values : List Node → Except Fault (List Shared)
  | [] => .ok []
  | item :: rest => do
    let first ← value item
    return first :: (← values rest)

/-- The entries of a mapping: those that are merged in, and its own. -/
def pairs : List (Node × Node) → Except Fault (List (Value × Shared) × List (Value × Shared))
  | [] => .ok ([], [])
  | (key, item) :: rest => do
    if key.isMerge then
      let more ← merged item
      let (others, own) ← pairs rest
      return (more ++ others, own)
    else
      let name ← match key.keyText? with
        | some text => pure (Value.str text)
        | none => Shared.value <$> value key
      unless name.isKey do throw .changingKey
      let first ← value item
      let (others, own) ← pairs rest
      return (others, (name, first) :: own)

/-- The entries that a mapping, or a sequence of mappings, adds to another. -/
def merged : Node → Except Fault (List (Value × Shared))
  | .mapping _ _ _ entries => do return joined (← pairs entries)
  | .sequence _ _ items => mergedItems items
  | _ => .error .notMergeable

/-- The entries that a sequence of mappings adds, those of the last first. -/
def mergedItems : List Node → Except Fault (List (Value × Shared))
  | [] => .ok []
  | .mapping _ _ _ entries :: rest => do
    let first := joined (← pairs entries)
    return (← mergedItems rest) ++ first
  | _ :: _ => .error .notMergeable

end

end Node

/-- The value of a text. -/
def read (text : String) : Except Fault Shared := do
  match ← Node.ofTokens (← Token.scan text) with
  | none => return .ofValue .null
  | some node => (← node.resolve .start).1.value

/-- The reader of YAML texts. -/
def reader : TextReader := fun text =>
  (read text).mapError Fault.ofReading

end Structex.Yaml
