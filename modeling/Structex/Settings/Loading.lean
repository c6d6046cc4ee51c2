import Structex.Settings.Basic
import Structex.Settings.Fault

/-!
# Settings from files

A file is read as a whole layer. Reading all files again goes through them in the order in which
they were first read and stops at the first of which nothing comes; what was read before stays.
-/

namespace Structex

namespace Files

/-- What a file is read as. -/
def content (files : Files) (reader : TextReader) (path : String) : Except FileCause Shared :=
  match files.read path with
  | .error .missing => .error .missing
  | .error (.directory plain) => .error (.directory plain)
  | .error (.unreadable reason) => .error (.unreadable reason)
  | .error .garbled => .error .garbled
  | .ok text => (reader text).mapError .malformed

/-- The value of a file. -/
def value (files : Files) (reader : TextReader) (path : String) : Except FileCause Value :=
  (files.content reader path).map Shared.value

end Files

namespace Settings

/-- The files with one recorded for a layer; a file that was recorded before keeps its place. -/
def record (path : String) (layer : Layer) : List (String × Layer) → List (String × Layer)
  | [] => [(path, layer)]
  | (other, old) :: rest =>
    if other == path then (other, layer) :: rest else (other, old) :: record path layer rest

/-- Reads a file as a layer. -/
def loadFile (settings : Settings) (reader : TextReader) (files : Files) (path : String)
    (layer : Layer) : Except LoadFault Settings :=
  match files.content reader path with
  | .ok (.map mark entries) =>
    .ok { settings.withLayer layer (some (.map mark entries)) with
      files := record ((Files.plainPath? path).getD path) layer settings.files }
  | .ok _ => .error ⟨.settings, path, .shape⟩
  | .error cause => .error ⟨.settings, path, cause⟩

/-- Reads files one after another, up to the first of which nothing comes. -/
def loadFiles (settings : Settings) (reader : TextReader) (files : Files) :
    List (String × Layer) → Settings × Except LoadFault Unit
  | [] => (settings, .ok ())
  | (path, layer) :: rest =>
    match settings.loadFile reader files path layer with
    | .error fault => (settings, .error fault)
    | .ok settings => loadFiles settings reader files rest

/-- Reads again all files that were read. -/
def reload (settings : Settings) (reader : TextReader) (files : Files) :
    Settings × Except LoadFault Unit :=
  settings.loadFiles reader files settings.files

end Settings

end Structex
