import Structex.Engine
import Structex.Proofs.Cascade.Closure
import Structex.Proofs.Rule.History
import Structex.Proofs.Result

/-!
# Who sets up the library's channel

A logger takes over the channel of its name. The library makes one by itself, when a lexer or an
engine without a logger asks for the logger of the process and none of its name stands for it; from
then on that one does. So a channel that a caller set up keeps its level and its outlets if the
caller's logger stands for the process, and else up to the first lexer or engine that asks. Nothing
else that engines do reaches it: they only send messages. How identifiers are drawn is up to the
caller; a source that makes loggers itself is not considered.
-/

namespace Structex

namespace Log.Logs

variable {before middle after logs : Logs}

/-- No channel and no logger of the process changes; messages may be sent. -/
structure Quiet (before after : Logs) : Prop where
  channels : after.channels = before.channels
  process : after.process = before.process

theorem Quiet.refl (logs : Logs) : Quiet logs logs :=
  ⟨rfl, rfl⟩

theorem Quiet.trans (first : Quiet before middle) (second : Quiet middle after) :
    Quiet before after :=
  ⟨second.channels.trans first.channels, second.process.trans first.process⟩

theorem Quiet.channel (quiet : Quiet before after) (name : String) :
    after.channel name = before.channel name := by
  rw [Logs.channel, Logs.channel, quiet.channels]

theorem quiet_log (logs : Logs) (logger : Logger) (level : Level) (message : String)
    (context : Entries) : Quiet logs (logs.log logger level message context) := by
  rw [log]
  split <;> exact ⟨rfl, rfl⟩

theorem quiet_note (logs : Logs) (logger : Logger) (event : Event) :
    Quiet logs (logs.note logger event) :=
  logs.quiet_log logger _ _ _

theorem quiet_noteAll (logs : Logs) (logger : Logger) (events : List Event) :
    Quiet logs (logs.noteAll logger events) :=
  List.foldlRecOn (motive := Quiet logs) events _ (.refl logs)
    fun _ quiet event _ => quiet.trans (quiet_note _ logger event)

/-! ### The logger of the process -/

/-- Whether a logger of the library's name stands for the process. -/
def hasOwnProcess (logs : Logs) : Bool :=
  logs.process.any fun logger => logger.name == ownName

/-- The channel as the library sets it up. -/
def ownChannel : Channel :=
  ⟨Level.warning.number, [.console]⟩

theorem Quiet.hasOwnProcess (quiet : Quiet before after) :
    after.hasOwnProcess = before.hasOwnProcess := by
  rw [Logs.hasOwnProcess, Logs.hasOwnProcess, quiet.process]

theorem channel_setChannel (logs : Logs) (name : String) (channel : Channel) :
    (logs.setChannel name channel).channel name = channel := by
  simp [Logs.channel, setChannel]

/-- Asking for the library's logger changes nothing if it stands for the process. -/
theorem processLogger_of_own (own : logs.hasOwnProcess = true) :
    (logs.processLogger ownName).2 = logs := by
  rw [processLogger]
  cases present : logs.process with
  | none =>
      rw [hasOwnProcess, present] at own
      cases own
  | some logger =>
      rw [hasOwnProcess, present, Option.any_some] at own
      dsimp only
      rw [if_pos own]

/-- Else the library takes its channel over, and its logger stands for the process. -/
theorem processLogger_of_other (other : logs.hasOwnProcess = false) :
    (logs.processLogger ownName).2.channel ownName = ownChannel ∧
      (logs.processLogger ownName).2.hasOwnProcess = true := by
  have fresh : (logs.processLogger ownName).2 =
      { logs.setChannel ownName ownChannel with
        made := logs.made + 1, process := some ⟨logs.made, ownName⟩ } := by
    rw [processLogger]
    cases present : logs.process with
    | none => rfl
    | some logger =>
        rw [hasOwnProcess, present, Option.any_some] at other
        dsimp only
        rw [if_neg (by simp [other])]
        rfl
  rw [fresh]
  exact ⟨logs.channel_setChannel ownName ownChannel, rfl⟩

end Log.Logs

/-! ## Evaluations -/

open Log Log.Logs

/-- An evaluation that draws on a source of identifiers and keeps a log, also when it fails. -/
abbrev Telling (source : Type) := ExceptT EvaluationFault (StateT Logs (StateM source))

/-- What comes of an evaluation: its result, the log and the source after it. -/
def Telling.from {source α : Type} (run : Telling source α) (logs : Logs) (start : source) :
    (Except EvaluationFault α × Logs) × source :=
  (run.run.run logs).run start

theorem Telling.from_modifyThe {source : Type} (change : Logs → Logs) (logs : Logs)
    (start : source) : (modifyThe Logs change : Telling source Unit).from logs start =
      ((.ok (), change logs), start) :=
  rfl

/-- An evaluation sends messages only. -/
def Telling.IsQuiet {source α : Type} (run : Telling source α) : Prop :=
  ∀ logs start, Quiet logs (run.from logs start).1.2

/-- Evaluations that send messages only can be put together. -/
theorem Telling.isKept_isQuiet (source : Type) :
    IsKept (m := Telling source) fun _ run => run.IsQuiet where
  pure value logs start := .refl logs
  throw fault logs start := .refl logs
  bind {α β first next} quiet later logs start := by
    have before := quiet logs start
    have whole : (first >>= next).from logs start =
        (ExceptT.bindCont next (first.from logs start).1.1).run
          (first.from logs start).1.2 (first.from logs start).2 := rfl
    rw [whole]
    rcases ran : first.from logs start with ⟨⟨result, middle⟩, rest⟩
    rw [ran] at before
    cases result with
    | error fault => exact before
    | ok value => exact before.trans (later value middle rest)

/-! ## What is done with the library -/

/-- A source of identifiers that sends messages at most. -/
structure IdentifierSource where
  State : Type
  draw : Telling State String
  isQuiet : draw.IsQuiet
  state : State

/-- A source that counts. -/
def IdentifierSource.counting : IdentifierSource where
  State := Nat
  draw := modifyGetThe Nat fun drawn => (toString drawn, drawn + 1)
  isQuiet := fun logs _ => .refl logs
  state := 0

/-- What is done with the library as far as it has to do with a log: lexers and engines without a
logger are made, and engines, whatever they have been through, are asked for something. -/
inductive Use : Type 1 where
  | makeLexer (arguments : List TokenArgument)
  | makeEngine
  | add (engine : Engine) (given : RuleArgument)
  | addAll (engine : Engine) (given : List RuleArgument)
  | remove (engine : Engine) (name : String)
  | loadFile (engine : Engine) (reader : TextReader) (files : Files) (path : String)
  | loadSettings (engine : Engine) (reader : TextReader) (files : Files) (settings : Settings)
  | apply (engine : Engine) (source : IdentifierSource) (steps : Nat) (document : Document)
  | applyOne (engine : Engine) (source : IdentifierSource) (name : String) (document : Document)

namespace Use

/-- The log after something was done, whether it failed or not. A cascade may still be going on. -/
def perform (logs : Logs) : Use → Logs
  | .makeLexer arguments =>
    match Lexer.build logs arguments with
    | .ok (_, after) => after
    | .error _ => logs
  | .makeEngine => (Engine.create logs none).2
  | .add engine given => (engine.add logs given).logs
  | .addAll engine given => (engine.addAll logs given).logs
  | .remove engine name => (engine.remove logs name).2.2
  | .loadFile engine reader files path => (engine.loadFile logs reader files path).logs
  | .loadSettings engine reader files settings =>
    (engine.loadSettings logs reader files settings).logs
  | .apply engine source steps document =>
    (Telling.from (engine.registry.cascade (engine.surroundings source.draw) steps document)
      logs source.state).1.2
  | .applyOne engine source name document =>
    (Telling.from (engine.registry.applyOne (engine.surroundings source.draw) name document)
      logs source.state).1.2

/-- Whether a lexer or an engine is made that asks for the logger of the process. -/
def constructs : Use → Bool
  | .makeLexer arguments => (Lexer.create arguments).toOption.isSome
  | .makeEngine => true
  | _ => false

end Use

namespace Engine

variable (engine : Engine) (logs : Logs)

theorem quiet_add (given : RuleArgument) : Quiet logs (engine.add logs given).logs := by
  rw [add]
  split
  · exact .refl logs
  · dsimp only
    exact quiet_note logs engine.logger _

theorem quiet_addAll (given : List RuleArgument) : Quiet logs (engine.addAll logs given).logs :=
  quiet_noteAll logs engine.logger _

theorem quiet_remove (name : String) : Quiet logs (engine.remove logs name).2.2 :=
  quiet_noteAll logs engine.logger _

theorem quiet_loadFile (reader : TextReader) (files : Files) (path : String) :
    Quiet logs (engine.loadFile logs reader files path).logs := by
  rw [loadFile]
  split
  · exact .refl logs
  · rename_i items _
    have added := engine.quiet_addAll logs (items.map .value)
    dsimp only
    split
    · exact added
    · dsimp only
      exact added.trans (quiet_note _ engine.logger _)

theorem quiet_loadFiles (reader : TextReader) (files : Files) (paths : List Value) :
    Quiet logs (engine.loadFiles logs reader files paths).logs := by
  induction paths generalizing engine logs with
  | nil => exact .refl logs
  | cons path rest inductionHypothesis =>
      cases path with
      | str path =>
          have loaded := engine.quiet_loadFile logs reader files path
          simp only [loadFiles]
          split
          · exact loaded
          · exact loaded.trans (inductionHypothesis _ _)
      | _ => exact .refl logs

theorem quiet_loadSettings (reader : TextReader) (files : Files) (settings : Settings) :
    Quiet logs (engine.loadSettings logs reader files settings).logs := by
  rw [loadSettings]
  split
  · exact .refl logs
  · rename_i items _
    have added := engine.quiet_addAll logs (items.map .value)
    dsimp only
    split
    · exact added
    · split
      · exact added
      · exact added.trans (quiet_loadFiles _ _ reader files _)

/-- An engine that notes an event sends a message. -/
theorem isQuiet_note (source : IdentifierSource) (event : Event) :
    ((engine.surroundings source.draw).note event).IsQuiet := by
  intro logs start
  rw [surroundings, Telling.from_modifyThe]
  dsimp only
  exact quiet_note logs engine.logger event

end Engine

namespace Use

variable {use : Use} (logs : Logs)

/-- What makes neither a lexer nor an engine only sends messages. -/
theorem perform_of_asking (asking : use.constructs = false) : Quiet logs (use.perform logs) := by
  cases use with
  | makeLexer arguments =>
      cases made : Lexer.create arguments with
      | error fault =>
          have refused : Lexer.build logs arguments = .error fault := by
            rw [Lexer.build, made]
            rfl
          rw [perform, refused]
          exact .refl logs
      | ok lexer =>
          rw [constructs, made] at asking
          cases asking
  | makeEngine => cases asking
  | add engine given => exact engine.quiet_add logs given
  | addAll engine given => exact engine.quiet_addAll logs given
  | remove engine name => exact engine.quiet_remove logs name
  | loadFile engine reader files path => exact engine.quiet_loadFile logs reader files path
  | loadSettings engine reader files settings =>
      exact engine.quiet_loadSettings logs reader files settings
  | apply engine source steps document =>
      exact (Telling.isKept_isQuiet source.State).cascade source.isQuiet
        (engine.isQuiet_note source) engine.registry steps document logs source.state
  | applyOne engine source name document =>
      have quiet : Telling.IsQuiet
          (engine.registry.applyOne (engine.surroundings source.draw) name document) :=
        (Telling.isKept_isQuiet source.State).applyOne source.isQuiet engine.registry name document
      exact quiet logs source.state

/-- What makes a lexer or an engine sends messages after it asked for the logger of the process. -/
theorem perform_of_constructs (making : use.constructs = true) :
    Quiet (logs.processLogger ownName).2 (use.perform logs) := by
  cases use with
  | makeLexer arguments =>
      cases made : Lexer.create arguments with
      | error fault =>
          rw [constructs, made] at making
          cases making
      | ok lexer =>
          have built : Lexer.build logs arguments = .ok (lexer,
              (logs.processLogger ownName).2.log (logs.processLogger ownName).1 .debug
                "Lexer compiled" [(.str "tokens", .int lexer.rules.length),
                  (.str "groups", .int (TokenRule.groupTotal lexer.rules))]) := by
            rw [Lexer.build, made]
            rfl
          rw [perform, built]
          exact quiet_log _ _ _ _ _
  | makeEngine => exact .refl _
  | _ => cases making

/-- The library's channel after any uses: the library has it from the first lexer or engine on, if
no logger of its name stood for the process before. -/
theorem channel_foldl (uses : List Use) :
    (uses.foldl perform logs).channel ownName =
      if logs.hasOwnProcess || !uses.any constructs then logs.channel ownName
      else ownChannel := by
  induction uses generalizing logs with
  | nil => simp
  | cons use rest inductionHypothesis =>
      rw [List.foldl_cons, inductionHypothesis, List.any_cons]
      cases kind : use.constructs with
      | false =>
          have quiet := perform_of_asking logs kind
          rw [quiet.hasOwnProcess, quiet.channel, Bool.false_or]
      | true =>
          have quiet := perform_of_constructs logs kind
          cases own : logs.hasOwnProcess with
          | true =>
              rw [processLogger_of_own own] at quiet
              simp [quiet.hasOwnProcess, quiet.channel, own]
          | false =>
              obtain ⟨taken, process⟩ := processLogger_of_other own
              simp [quiet.hasOwnProcess, quiet.channel, taken, process]

end Use

/-- A logger of the library's name that a caller makes, at any level and with any outlets, keeps
them through all uses of the library if it stands for the process. If it does not, it keeps them as
long as another logger of the name stands for the process or no lexer and no engine without a logger
is made, and then the library sets its channel up anew. -/
theorem channel_of_uses {logs made : Logs} {level : Value} {outlets : List Outlet}
    {logger : Logger} (created : logs.create ownName level outlets = .ok (logger, made))
    (uses : List Use) :
    ∃ number, Level.numberOf level = .ok number ∧
      (uses.foldl Use.perform (made.setProcessLogger logger)).channel ownName =
        ⟨number, outlets⟩ ∧
      (uses.foldl Use.perform made).channel ownName =
        if logs.hasOwnProcess || !uses.any Use.constructs then ⟨number, outlets⟩
        else ⟨Level.warning.number, [.console]⟩ := by
  obtain ⟨number, isNumber, same⟩ := bind_eq_ok_iff.mp created
  cases same
  have held : (logs.setChannel ownName ⟨number, outlets⟩).channel ownName = ⟨number, outlets⟩ :=
    logs.channel_setChannel ownName _
  refine ⟨number, isNumber, ?_, ?_⟩
  · rw [Use.channel_foldl]
    exact held
  · rw [Use.channel_foldl]
    exact congrArg (ite _ · _) held

/-- A lexer and an engine are made, the caller's own engine is given a rule, and a document is put
through one whose rule draws an identifier. -/
def mixedUses (logger : Logger) : List Use :=
  let drawing := { Engine.watchingRule "b" "/x" with template := .str "${uuid}" }
  [.makeLexer [], .makeEngine, .add ⟨[], logger⟩ (Engine.watching "a" "/x"),
    .apply ⟨[drawing], logger⟩ .counting 1 ⟨.str "/x", .str "s", .null, none⟩]

/-- A logger that lets everything through and stands for the process goes on to do so; if it does
not stand for it, it is left with warnings on the console. -/
theorem channel_of_uses_of_mixed :
    ∃ logger made, Logs.create {} ownName (.str "DEBUG") [.capture] = .ok (logger, made) ∧
      ((mixedUses logger).foldl Use.perform (made.setProcessLogger logger)).channel ownName =
        ⟨Level.debug.number, [.capture]⟩ ∧
      ((mixedUses logger).foldl Use.perform made).channel ownName =
        ⟨Level.warning.number, [.console]⟩ := by
  obtain ⟨logger, made, created⟩ : ∃ logger made,
      Logs.create {} ownName (.str "DEBUG") [.capture] = .ok (logger, made) := ⟨_, _, rfl⟩
  obtain ⟨number, isNumber, kept, lost⟩ := channel_of_uses created (mixedUses logger)
  cases isNumber
  exact ⟨logger, made, created, kept, lost⟩

/-- A caller's logger that does not stand for the process is set to warnings on the console by the
first lexer, and as well by the first engine. -/
theorem channel_lost_to_library :
    ∃ logger made lexer after,
      Logs.create {} ownName (.str "DEBUG") [.capture] = .ok (logger, made) ∧
      made.channel ownName = ⟨Level.debug.number, [.capture]⟩ ∧
      Lexer.build made [] = .ok (lexer, after) ∧
      after.channel ownName = ⟨Level.warning.number, [.console]⟩ ∧
      (Engine.create made none).2.channel ownName = ⟨Level.warning.number, [.console]⟩ :=
  ⟨_, _, _, _, rfl, rfl, rfl, rfl, rfl⟩

end Structex
