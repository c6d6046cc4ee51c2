import Structex.Lexer
import Structex.Log.Basic
import Structex.Rule.Cascade
import Structex.Rule.Loading

/-!
# Engines

An engine is a registry of rules with a logger that is told of every change and of every reaction.
Rules come one by one, in lists, from files, or from the settings, which name lists and files. What
was registered before something fails stays registered.
-/

namespace Structex

open Log

/-- Why an engine does not do what it is asked to. -/
inductive EngineFault where
  | rule (fault : RuleFault)
  | file (fault : LoadFault)
  /-- The settings have something other than a list for the rules or the files. -/
  | listKind (typeName : String)
  /-- The settings have something other than a text for a file. -/
  | pathKind (typeName : String)

/-- An engine: its rules and its logger. -/
structure Engine where
  registry : Registry
  logger : Logger

/-- What is there after an engine was asked for something. -/
structure Engine.After (α : Type) where
  engine : Engine
  logs : Logs
  result : Except EngineFault α

/-- The logs after a logger is told of an event. -/
def Log.Logs.note (logs : Logs) (logger : Logger) (event : Event) : Logs :=
  logs.log logger .debug event.message event.context

/-- The logs after a logger is told of events in order. -/
def Log.Logs.noteAll (logs : Logs) (logger : Logger) (events : List Event) : Logs :=
  events.foldl (fun logs event => logs.note logger event) logs

/-- The lexer of definitions, made known to the logger of the process. -/
def Lexer.build (logs : Logs) (arguments : List TokenArgument) :
    Except LexerFault (Lexer × Logs) := do
  let lexer ← Lexer.create arguments
  let (logger, logs) := logs.processLogger ownName
  return (lexer, logs.log logger .debug "Lexer compiled"
    [(.str "tokens", .int lexer.rules.length),
      (.str "groups", .int (TokenRule.groupTotal lexer.rules))])

namespace Engine

/-- The key of the settings for rules that are written there. -/
def rulesKey : String := "pikesre.engine.patterns"

/-- The key of the settings for files of rules. -/
def filesKey : String := "pikesre.engine.pattern_files"

/-- An engine without rules. Unless it is given a logger, it takes that of the process. -/
def create (logs : Logs) (logger : Option Logger) : Engine × Logs :=
  match logger with
  | some logger => (⟨[], logger⟩, logs)
  | none =>
    let (logger, logs) := logs.processLogger ownName
    (⟨[], logger⟩, logs)

/-- The engine with other rules. -/
def withRules (engine : Engine) (registry : Registry) : Engine :=
  { engine with registry := registry }

/-- Registers a rule. -/
def add (engine : Engine) (logs : Logs) (given : RuleArgument) : After Rule :=
  match engine.registry.add given with
  | .error fault => ⟨engine, logs, .error (.rule fault)⟩
  | .ok (rule, registry, event) =>
    ⟨engine.withRules registry, logs.note engine.logger event, .ok rule⟩

/-- Removes the rule of a name, and tells whether it was there. -/
def remove (engine : Engine) (logs : Logs) (name : String) : Bool × Engine × Logs :=
  let (found, registry, events) := engine.registry.remove name
  (found, engine.withRules registry, logs.noteAll engine.logger events)

/-- Removes all rules. -/
def clear (engine : Engine) : Engine :=
  engine.withRules []

/-- Registers several rules in order, up to the first that is none. -/
def addAll (engine : Engine) (logs : Logs) (given : List RuleArgument) : After (List Rule) :=
  let loaded := engine.registry.addAll given
  ⟨engine.withRules loaded.registry, logs.noteAll engine.logger loaded.events,
    loaded.outcome.mapError .rule⟩

/-- Registers the rules of a file. -/
def loadFile (engine : Engine) (logs : Logs) (reader : TextReader) (files : Files) (path : String) :
    After (List Rule) :=
  match RuleDefinition.loadFile reader files path with
  | .error fault => ⟨engine, logs, .error (.file fault)⟩
  | .ok items =>
    let after := engine.addAll logs (items.map .value)
    match after.result with
    | .error _ => after
    | .ok rules =>
      { after with logs := after.logs.note engine.logger (.fileLoaded path rules.length) }

/-- Registers the rules of files in order, up to the first that fails. -/
def loadFiles (engine : Engine) (logs : Logs) (reader : TextReader) (files : Files) :
    List Value → After Unit
  | [] => ⟨engine, logs, .ok ()⟩
  | .str path :: rest =>
    let after := engine.loadFile logs reader files path
    match after.result with
    | .error fault => ⟨after.engine, after.logs, .error fault⟩
    | .ok _ => after.engine.loadFiles after.logs reader files rest
  | other :: _ => ⟨engine, logs, .error (.pathKind other.typeName)⟩

/-- What a setting lists: its items, the keys of a mapping or the characters of a text. A setting
that counts as a no lists nothing. -/
def listed (setting : Value) : Except EngineFault (List Value) :=
  if setting.isTruthy then
    match setting with
    | .list items => .ok items
    | .tuple items => .ok items
    | .map entries => .ok (entries.map (·.1))
    | .str text => .ok (text.toList.map fun c => .str (String.singleton c))
    | other => .error (.listKind other.typeName)
  else .ok []

/-- The files that a setting lists; a text is a file by itself. -/
def listedFiles (setting : Value) : Except EngineFault (List Value) :=
  match setting with
  | .str path => if path.isEmpty then .ok [] else .ok [.str path]
  | other => listed other

/-- Registers what the settings have for an engine: the rules that are written there, then those of
files. -/
def loadSettings (engine : Engine) (logs : Logs) (reader : TextReader) (files : Files)
    (settings : Settings) : After Unit :=
  match listed (settings.getD rulesKey .null) with
  | .error fault => ⟨engine, logs, .error fault⟩
  | .ok items =>
    let after := engine.addAll logs (items.map .value)
    match after.result with
    | .error fault => ⟨after.engine, after.logs, .error fault⟩
    | .ok _ =>
      match listedFiles (settings.getD filesKey .null) with
      | .error fault => ⟨after.engine, after.logs, .error fault⟩
      | .ok paths => after.engine.loadFiles after.logs reader files paths

/-- What evaluations of an engine draw on and tell. -/
def surroundings {m : Type → Type} [MonadStateOf Logs m] (engine : Engine)
    (newIdentifier : m String) : Surroundings m where
  newIdentifier := newIdentifier
  note := fun event => modifyThe Logs fun logs => logs.note engine.logger event

end Engine

end Structex
