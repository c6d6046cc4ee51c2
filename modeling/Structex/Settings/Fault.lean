import Structex.Code
import Structex.Files
import Structex.Value.Reader

/-!
# Faults of files with settings or rules

Why nothing comes of a file, and what is said of it.
-/

namespace Structex

/-- What a file is read for. -/
inductive FilePurpose where
  | settings
  | rules
  deriving DecidableEq, Repr

/-- Why nothing comes of a file. -/
inductive FileCause where
  | missing
  /-- The path leads to a directory, given by its plain path. -/
  | directory (path : String)
  /-- The file cannot be read, and what the system says of it. -/
  | unreadable (reason : String)
  /-- The bytes of the file are the encoding of no text. -/
  | garbled
  | malformed (fault : ReadFault)
  /-- The value of the file is not of the right kind. -/
  | shape
  deriving DecidableEq, Repr

/-- A file of which nothing comes. -/
structure LoadFault where
  purpose : FilePurpose
  path : String
  cause : FileCause
  deriving DecidableEq, Repr

/-- What a fault is told as. -/
inductive Report where
  /-- As a fault of the file, with a message and a code. -/
  | ofFile (message : String) (code : Code)
  /-- As bytes that are the encoding of no text. -/
  | encoding
  /-- As an error of another name. -/
  | other (errorName : String)
  deriving DecidableEq, Repr

namespace LoadFault

/-- What the system says of a file that it does not give away is told as a fault of the file. -/
def ofSystem (purpose : FilePurpose) (path reason : String) : Report :=
  .ofFile ((match purpose with
    | .settings => "Error loading config "
    | .rules => "Error loading patterns ") ++ path ++ ": " ++ reason) .internalError

/-- What a fault is told as. Only where a text has not the form that is asked for is that a fault of
the file; a malformed text is not described further. -/
def report (fault : LoadFault) : Report :=
  match fault.cause with
  | .missing =>
    .ofFile ((match fault.purpose with
      | .settings => "Config file not found: "
      | .rules => "Pattern file not found: ") ++ fault.path) .notFound
  | .directory path => ofSystem fault.purpose fault.path (directoryText path)
  | .unreadable reason => ofSystem fault.purpose fault.path reason
  | .garbled => .encoding
  | .malformed .form => .ofFile ("YAML parse error in " ++ fault.path) .invalidInput
  | .malformed (.other errorName) => .other errorName
  | .shape =>
    .ofFile ((match fault.purpose with
      | .settings => "Invalid config format in "
      | .rules => "Invalid pattern file format in ") ++ fault.path) .invalidInput

end LoadFault

end Structex
