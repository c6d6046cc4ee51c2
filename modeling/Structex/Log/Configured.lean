import Structex.Log.Basic
import Structex.Settings.Loading

/-!
# Logging by the settings

The logger of the process as the settings ask for it: its level, and a file beside the console.
-/

namespace Structex.Log

/-- Why logging cannot be set up. -/
inductive SetupFault where
  | level (fault : LevelFault)
  /-- The name of the file is no text. -/
  | fileKind (typeName : String)
  | file (fault : FileFault)

/-- The key of the settings for the level. -/
def levelKey : String := "pikesre.logging.level"

/-- The key of the settings for the file. -/
def fileKey : String := "pikesre.logging.file"

/-- The plain path of a file that can be written to: no directory, and in one that is there. -/
def writable (files : Files) (path : String) : Except FileFault String :=
  match Files.plainPath? path, files.find? path with
  | none, _ => .error .missing
  | some plain, some .directory => .error (.directory plain)
  | some plain, some _ => .ok plain
  | some plain, none =>
    match files.find? (Text.join '/' ((Text.split '/' plain).dropLast)) with
    | some .directory => .ok plain
    | _ => .error .missing

namespace Logs

/-- Sets up the logger of the process. Its channel is taken over even if the file cannot be
used. -/
def configure (logs : Logs) (files : Files) (settings : Settings) :
    Logs × Except SetupFault Logger :=
  match logs.create ownName (settings.getD levelKey (.str Level.warning.name)) [.console] with
  | .error fault => (logs, .error (.level fault))
  | .ok (logger, logs) =>
    let file := settings.getD fileKey .null
    if file.isTruthy then
      match file with
      | .str path =>
        match writable files path with
        | .ok plain =>
          ((logs.addOutlet logger (.file plain)).setProcessLogger logger, .ok logger)
        | .error fault => (logs, .error (.file fault))
      | other => (logs, .error (.fileKind other.typeName))
    else (logs.setProcessLogger logger, .ok logger)

end Logs

end Structex.Log
