import Structex.Log.Level
import Structex.Text.Split
import Structex.Value.Key
import Structex.Value.Show

/-!
# Logs

Loggers are handles on channels. Channels are shared by name: a new logger of a name takes its
channel over, with the level and the outlets that it asks for. Beside them there are the context
that is added to every message while it is pushed, and one logger that stands for the whole
process and is made when it is first asked for.
-/

namespace Structex.Log

/-- What is recorded of a message: its level, its text with the context, and the context. -/
structure Record where
  level : Level
  message : String
  context : Entries

/-- Where a channel's records go. -/
inductive Outlet where
  | console
  /-- A list that the caller keeps. -/
  | capture
  | file (name : String)
  deriving DecidableEq, Repr

/-- A channel: the lowest level that it lets through, zero to follow the channel above it, and
where its records go. -/
structure Channel where
  level : Int
  outlets : List Outlet
  deriving DecidableEq, Repr, Inhabited

/-- A handle on the channel of a name. Handles of one name differ by their number. -/
structure Logger where
  number : Nat
  name : String
  deriving DecidableEq, Repr, Inhabited

/-- The state of logging: the channels, how many loggers were made, the context that is pushed,
the lowest first, the logger of the process, and what went to each outlet. -/
structure Logs where
  channels : List (String × Channel) := []
  made : Nat := 0
  pushed : List Entries := []
  process : Option Logger := none
  sent : List (Outlet × String × Record) := []

/-- The name of the library's own channel. -/
def ownName : String := "pikesre"

/-- A message with its context after it. -/
def format (message : String) (context : Entries) : String :=
  if context.isEmpty then message
  else message ++ " | " ++ String.intercalate " "
    (List.map (fun entry : Value × Value => entry.1.plain ++ "=" ++ entry.2.plain) context)

namespace Logs

/-- The name under which the channel of a name is kept; the channel above all has none. -/
def channelName (name : String) : String :=
  if name == "root" then "" else name

/-- The channel of a name. One that was never used follows the channel above it, and the channel
above all lets warnings through. -/
def channel (logs : Logs) (name : String) : Channel :=
  match logs.channels.lookup (channelName name) with
  | some channel => channel
  | none => ⟨if channelName name == "" then Level.warning.number else 0, []⟩

/-- The state with a channel changed. -/
def setChannel (logs : Logs) (name : String) (channel : Channel) : Logs :=
  { logs with channels :=
    (channelName name, channel) :: logs.channels.filter fun entry => entry.1 != channelName name }

/-- The names of the channels above the one with these parts, the nearest first, itself
included. -/
def above : List String → List String
  | [] => []
  | part :: rest => (above rest).map (fun name => part ++ "." ++ name) ++ [part]

/-- The level from which a channel lets messages through. -/
def effectiveLevel (logs : Logs) (name : String) : Int :=
  let names := above (Text.split '.' (channelName name))
  let chain := names.map fun above => (logs.channel above).level
  match chain.find? fun level => level != 0 with
  | some level => level
  | none => (logs.channel "").level

/-- Whether a channel lets messages of a level through. -/
def isEnabled (logs : Logs) (name : String) (level : Int) : Bool :=
  0 < level && logs.effectiveLevel name ≤ level

/-- Makes a logger that takes over the channel of its name, at a level and with outlets. -/
def create (logs : Logs) (name : String) (level : Value) (outlets : List Outlet) :
    Except LevelFault (Logger × Logs) := do
  let number ← Level.numberOf level
  let logger : Logger := ⟨logs.made, name⟩
  return (logger, { logs.setChannel name ⟨number, outlets⟩ with made := logs.made + 1 })

/-- Sets the level of a logger's channel. -/
def setLevel (logs : Logs) (logger : Logger) (level : Value) : Except LevelFault Logs := do
  let number ← Level.numberOf level
  return logs.setChannel logger.name { logs.channel logger.name with level := number }

/-- The level of a logger's channel, if its number has a name. -/
def getLevel (logs : Logs) (logger : Logger) : Except LevelFault Level :=
  let number := (logs.channel logger.name).level
  match Level.ofNumber? number with
  | some level => .ok level
  | none => .error (.unnamed number)

/-- Whether a logger's channel lets a level through, asked for by name or number. -/
def enabled (logs : Logs) (logger : Logger) (level : Value) : Except LevelFault Bool :=
  match level with
  | .float number =>
    .ok (0.0 < number && Float.ofInt (logs.effectiveLevel logger.name) ≤ number)
  | other => do return logs.isEnabled logger.name (← Level.numberOf other)

/-- Adds an outlet to a logger's channel. -/
def addOutlet (logs : Logs) (logger : Logger) (outlet : Outlet) : Logs :=
  let channel := logs.channel logger.name
  logs.setChannel logger.name { channel with outlets := channel.outlets ++ [outlet] }

/-- The entries of the second put into the first. -/
def merged (below above : Entries) : Entries :=
  List.foldl (fun entries entry => entries.put entry.1 entry.2) below above

/-- The context that is pushed, as one. -/
def context (logs : Logs) : Entries :=
  logs.pushed.foldl merged []

/-- Pushes context. -/
def push (logs : Logs) (context : Entries) : Logs :=
  { logs with pushed := logs.pushed ++ [context] }

/-- Takes the context off that was pushed last. -/
def pop (logs : Logs) : Logs :=
  { logs with pushed := logs.pushed.dropLast }

/-- Logs a message at a level, with context of its own after the pushed one. -/
def log (logs : Logs) (logger : Logger) (level : Level) (message : String) (context : Entries) :
    Logs :=
  if logs.isEnabled logger.name level.number then
    let whole := merged logs.context context
    let record : Record := ⟨level, format message whole, whole⟩
    { logs with sent := logs.sent ++
      (logs.channel logger.name).outlets.map fun outlet => (outlet, logger.name, record) }
  else
    logs

/-- The context that tells of a failure, added to what is given. -/
def failureContext (kind text : String) (context : Entries) : Entries :=
  Entries.put (context.put (.str "exception_type") (.str kind)) (.str "exception_message")
    (.str text)

/-- The logger of the process if it has the name, else a new one of the name on the console, which
then stands for the process. -/
def processLogger (logs : Logs) (name : String) : Logger × Logs :=
  let fresh : Logger × Logs :=
    let logger : Logger := ⟨logs.made, name⟩
    (logger, { logs.setChannel name ⟨Level.warning.number, [.console]⟩ with
      made := logs.made + 1, process := some logger })
  match logs.process with
  | some logger => if logger.name == name then (logger, logs) else fresh
  | none => fresh

/-- Lets a logger stand for the process. -/
def setProcessLogger (logs : Logs) (logger : Logger) : Logs :=
  { logs with process := some logger }

/-- The records that went to an outlet, in order. -/
def sentTo (logs : Logs) (outlet : Outlet) : List Record :=
  (logs.sent.filter fun entry => entry.1 == outlet).map (·.2.2)

/-- The lines that went to a file, without the times at which they did. -/
def fileText (logs : Logs) (name : String) : String :=
  String.join ((logs.sent.filter fun entry => entry.1 == .file name).map fun entry =>
    entry.2.1 ++ " - " ++ entry.2.2.level.name ++ " - " ++ entry.2.2.message ++ "\n")

end Logs

end Structex.Log
