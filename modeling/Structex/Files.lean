import Structex.Text.Quoted
import Structex.Text.Split

/-!
# Files

The files of a working directory as a value: names with their content, and directories. What a file
holds is a text, or bytes that are the encoding of none, unless the system does not give it away.
Two paths name the same file if they are the same once empty steps and steps back are taken out.
Paths that lead out of the working directory are not followed and name nothing: those that begin
with a slash and those with more steps back than steps. Nor are paths with a step that begins with a
tilde, which stands for a home directory if it comes first.
-/

namespace Structex

/-- What stands under a name. -/
inductive FileEntry where
  | text (content : String)
  /-- Bytes that are the encoding of no text. -/
  | garbled
  /-- A file that cannot be read, as one without permission, and what the system says of it. -/
  | unreadable (reason : String)
  | directory
  deriving DecidableEq, Repr

/-- The files of a directory. -/
abbrev Files := List (String × FileEntry)

/-- Why a file cannot be used; a directory is given by its plain path. -/
inductive FileFault where
  | missing
  | directory (path : String)
  | unreadable (reason : String)
  | garbled
  deriving DecidableEq, Repr

namespace Files

/-- The steps of a path, those that lead back taken out with the step before. -/
def plainSteps : (done : List String) → List String → Option (List String)
  | done, [] => some done.reverse
  | done, step :: rest =>
    if step == "" || step == "." then plainSteps done rest
    else if step == ".." then
      match done with
      | [] => none
      | _ :: done => plainSteps done rest
    else plainSteps (step :: done) rest

/-- A path without empty steps and steps back; `none` if it is not followed. -/
def plainPath? (path : String) : Option String :=
  if path.startsWith "/" || (Text.split '/' path).any (·.startsWith "~") then none
  else (plainSteps [] (Text.split '/' path)).map fun steps =>
    if steps.isEmpty then "." else Text.join '/' steps

/-- What stands under a path. Whatever a name leads through is a directory. -/
def find? (files : Files) (path : String) : Option FileEntry := do
  let plain ← plainPath? path
  match List.lookup plain files with
  | some entry => some entry
  | none =>
    if plain == "." || List.any files fun entry => entry.1.startsWith (plain ++ "/") then
      some .directory
    else none

/-- The text of a file. -/
def read (files : Files) (path : String) : Except FileFault String :=
  match files.find? path with
  | some (.text content) => .ok content
  | some .directory => .error (.directory ((plainPath? path).getD path))
  | some (.unreadable reason) => .error (.unreadable reason)
  | some .garbled => .error .garbled
  | none => .error .missing

/-- The files with one written. -/
def write (files : Files) (path content : String) : Except FileFault Files :=
  match plainPath? path, files.find? path with
  | none, _ => .error .missing
  | some plain, some .directory => .error (.directory plain)
  | some plain, _ =>
    .ok ((plain, .text content) :: List.filter (fun entry => entry.1 != plain) files)

/-- The files without one. -/
def erase (files : Files) (path : String) : Except FileFault Files :=
  match plainPath? path, files.find? path with
  | some plain, some .directory => .error (.directory plain)
  | some plain, some _ => .ok (List.filter (fun entry => entry.1 != plain) files)
  | _, _ => .error .missing

end Files

/-- What the system says of a directory that is to be read. -/
def directoryText (path : String) : String :=
  "[Errno 21] Is a directory: " ++ Text.quoted path

end Structex
