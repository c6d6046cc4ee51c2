import Structex.Settings.Layer
import Structex.Text.Split
import Structex.Value.Shared

/-!
# Settings

Settings in layers. A dotted key is looked up from the highest layer down, and the first layer
with something other than null under it answers; the whole of the settings is the layers laid over
each other from the lowest up. The files that layers were read from are kept so that they can be
read again. Within a layer mappings may be shared, as those of a file are that an alias stands for;
between layers nothing is.
-/

namespace Structex

/-- The settings: what each layer holds, if it holds anything, and the files that were read with
their layers, in order. -/
structure Settings where
  held : Layer → Option Shared
  files : List (String × Layer)

namespace Settings

/-- The value that a layer holds. -/
def layer (settings : Settings) (layer : Layer) : Option Value :=
  (settings.held layer).map Shared.value

/-- The name under which all settings of the library stand. -/
def ownKey : String := "pikesre"

/-- A mapping from text keys. -/
def mapping (entries : List (String × Value)) : Value :=
  .map (entries.map fun entry => (.str entry.1, entry.2))

/-- The settings that come with the library. -/
def defaults : Value :=
  mapping [(ownKey, mapping [
    ("logging", mapping [("level", .str "WARNING"), ("file", .null)]),
    ("engine", mapping [("patterns", .list []), ("pattern_files", .list [])])])]

/-- The parts of a dotted key. -/
def parts (key : String) : List String :=
  Text.split '.' key

/-- Settings with nothing but the defaults. -/
def initial : Settings where
  held := fun layer => if layer = .defaults then some defaults else none
  files := []

/-- The settings with a layer replaced or, by nothing, taken away. -/
def withLayer (settings : Settings) (layer : Layer) (content : Option Shared) : Settings :=
  { settings with held := fun other => if other = layer then content else settings.held other }

/-- What a layer holds, or an empty mapping of its own. -/
def contentOf (settings : Settings) (layer : Layer) : Shared :=
  (settings.held layer).getD (.map none [])

/-- What a layer has under a key, unless that is null. -/
def inLayer? (settings : Settings) (key : String) (layer : Layer) : Option Value :=
  match (settings.layer layer).bind (Value.at? (parts key)) with
  | some .null => none
  | found => found

/-- What the settings have under a key, with the layer that has it. -/
def find? (settings : Settings) (key : String) : Option (Value × Layer) :=
  Layer.all.reverse.findSome? fun layer =>
    (settings.inLayer? key layer).map fun value => (value, layer)

/-- What the settings have under a key. -/
def get? (settings : Settings) (key : String) : Option Value :=
  (settings.find? key).map (·.1)

/-- What the settings have under a key, or what is given for the case that they have nothing. -/
def getD (settings : Settings) (key : String) (default : Value) : Value :=
  (settings.get? key).getD default

/-- Puts a value under a key of a layer, step by step: the settings as far as it got, and what was
in the way. A layer that holds nothing is a mapping from then on. What the value has in it must not
stand in the layer already. -/
def setInPlace (settings : Settings) (key : String) (value : Shared) (layer : Layer) :
    Settings × Except PathFault Unit :=
  let (content, outcome) :=
    Shared.assignInPlace value (parts key) (settings.contentOf layer)
  (settings.withLayer layer (some content), outcome)

/-- Replaces a layer by a copy of what is given. -/
def load (settings : Settings) (content : Shared) (layer : Layer) : Settings :=
  settings.withLayer layer (some content)

/-- The layers that hold something, the lowest first. -/
def contents (settings : Settings) : List Value :=
  Layer.all.filterMap settings.layer

/-- The layers laid over each other, unless one of them is no mapping. -/
def all? (settings : Settings) : Option Entries :=
  settings.contents.foldlM (fun below content => match content with
    | .map above => some (Value.overlayEntries below above)
    | _ => none) []

/-- Takes a layer away; the defaults stay. -/
def clearLayer (settings : Settings) (layer : Layer) : Settings :=
  if layer = .defaults then settings else settings.withLayer layer none

/-- Takes all layers but the defaults away and forgets the files. -/
def clear (settings : Settings) : Settings where
  held := fun layer => if layer = .defaults then settings.held layer else none
  files := []

end Settings

end Structex
