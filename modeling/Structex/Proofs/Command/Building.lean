import Structex.Builder
import Structex.Proofs.Command.Range
import Structex.Proofs.Region.Partition

/-!
# Builders as pipes

Each step of a builder stands for one command (`Builder.Step.command`), and the value of a builder
is what the pipe of these commands makes of its text. With a command of its own a step stands for
the command of its kind. Without one, a step on matches or gaps keeps the text, for it takes the
text apart and puts it together again; a filter drops what the opposite guard does not let pass; and
a step on a range stands for the command that gives what a command on the range would be given. A
command that counts as a no is left out on matches and gaps, where the other steps run it.

The commands of the steps may do anything their context allows, and may fail in it; what is said of
the value holds of that as well. Only `test` reads its pattern before the value is found, so that
where both fail it is the pattern that is told of.
-/

namespace Structex

namespace Command

variable {m : Type → Type} [Monad m]

/-- Regions that are rewritten to what they hold are the text. -/
theorem rewrite_keep [LawfulMonad m] (kind : RegionKind) (pattern : Regex.Pattern)
    (text : String) :
    Region.rewrite kind (fun region => keep region.text) (pattern.regions text) =
      (pure text : m String) := by
  have kept := Region.rewrite_text (m := m) kind (pattern.regions text)
  rwa [(Region.regions_partition pattern text).join_text] at kept

/-- A command on all matches that keeps their texts keeps the text. -/
theorem onMatches_keep [LawfulMonad m] (pattern : Regex.Pattern) :
    onMatches pattern keep = (keep : Command m) := by
  funext text
  rw [onMatches_eq_rewrite, rewrite_keep, keep]

/-- A command on all gaps that keeps their texts keeps the text. -/
theorem onGaps_keep [LawfulMonad m] (pattern : Regex.Pattern) :
    onGaps pattern keep = (keep : Command m) := by
  funext text
  rw [onGaps_eq_rewrite, rewrite_keep]
  split
  case isTrue nothing => rw [nothing.1]
  case isFalse => rfl

/-- To drop a text unless a pattern matches in it is to keep it where the pattern does. -/
theorem unlessMatched_delete (pattern : Regex.Pattern) :
    unlessMatched pattern delete = (keepMatched pattern : Command m) := by
  funext text
  rw [keepMatched, unlessMatched]
  split <;> rfl

/-- To drop a text in which a pattern matches is to keep it where the pattern does not. -/
theorem whenMatched_delete (pattern : Regex.Pattern) :
    whenMatched pattern delete = (keepUnmatched pattern : Command m) := by
  funext text
  rw [keepUnmatched, whenMatched]
  split <;> rfl

/-- The text that a command on a part of a text gives its own command: what it breaks off with if
that one breaks off with whatever it is given. -/
def innerText (part : Command (Except String) → Command (Except String)) (text : String) :
    String :=
  match part .error text with
  | .error inner => inner
  | .ok whole => whole

/-- The range of characters alone is what a command on the range gives its own. -/
theorem narrowCharacters_eq (start : Int) (stop : Option Int) :
    narrowCharacters start stop =
      fun text => (pure (innerText (onCharacters start stop) text) : m String) := by
  funext text
  rw [innerText, onCharacters_eq_map]
  rfl

/-- The range of lines alone is what a command on the range gives its own. -/
theorem narrowLines_eq (start : Int) (stop : Option Int) :
    narrowLines start stop =
      fun text => (pure (innerText (onLines start stop) text) : m String) := by
  funext text
  rw [innerText, onLines_eq_map]
  rfl

end Command

namespace Builder

variable {m : Type → Type} [Monad m]

/-- A step of a builder, with a command of its own or without. -/
inductive Step (m : Type → Type) where
  | onMatches (given : PatternArgument) (own : Option (GivenCommand m))
  | onGaps (given : PatternArgument) (own : Option (GivenCommand m))
  | whenMatched (given : PatternArgument) (own : Option (GivenCommand m))
  | unlessMatched (given : PatternArgument) (own : Option (GivenCommand m))
  | substitute (given : PatternArgument) (replacement : ReplacementArgument m)
  | change (value : String)
  | delete
  | keep
  | onCharacters (start : Int) (stop : Option Int) (own : Option (GivenCommand m))
  | onLines (start : Int) (stop : Option Int) (own : Option (GivenCommand m))
  | apply (command : GivenCommand m)

namespace Step

/-- What a step is given for its own command. -/
def inner : Option (GivenCommand m) → CommandArgument m
  | some command => .command command
  | none => .value .null

/-- The builder with the step added to it. -/
def addTo (builder : Builder m) : Step m → Except CommandFault (Builder m)
  | .onMatches given own => builder.onMatches given (inner own)
  | .onGaps given own => builder.onGaps given (inner own)
  | .whenMatched given own => builder.whenMatched given (inner own)
  | .unlessMatched given own => builder.unlessMatched given (inner own)
  | .substitute given replacement => builder.substitute given replacement
  | .change value => .ok (builder.push (Command.change value))
  | .delete => .ok (builder.push Command.delete)
  | .keep => .ok (builder.push Command.keep)
  | .onCharacters start stop own => builder.onCharacters start stop (inner own)
  | .onLines start stop own => builder.onLines start stop (inner own)
  | .apply command => .ok (builder.apply (.command command))

/-- The command that the step stands for. On matches and gaps a command of its own counts only if it
counts as a yes. -/
def command : Step m → Except CommandFault (Command m)
  | .onMatches given (some ⟨own, true⟩) => Checked.onMatches given (.command ⟨own, true⟩)
  | .onMatches given _ => (fun _ => Command.keep) <$> Checked.pattern given
  | .onGaps given (some ⟨own, true⟩) => Checked.onGaps given (.command ⟨own, true⟩)
  | .onGaps given _ => (fun _ => Command.keep) <$> Checked.pattern given
  | .whenMatched given (some own) => Checked.whenMatched given (.command own)
  | .whenMatched given none => Checked.unlessMatched given (.ofCommand Command.delete)
  | .unlessMatched given (some own) => Checked.unlessMatched given (.command own)
  | .unlessMatched given none => Checked.whenMatched given (.ofCommand Command.delete)
  | .substitute given replacement => Checked.substitute given replacement
  | .change value => .ok (Command.change value)
  | .delete => .ok Command.delete
  | .keep => .ok Command.keep
  | .onCharacters start stop (some own) => Checked.onCharacters start stop (.command own)
  | .onCharacters start stop none =>
    .ok fun text => pure (Command.innerText (Command.onCharacters start stop) text)
  | .onLines start stop (some own) => Checked.onLines start stop (.command own)
  | .onLines start stop none =>
    .ok fun text => pure (Command.innerText (Command.onLines start stop) text)
  | .apply command => .ok command.run

omit [Monad m] in
/-- A command that a pattern selects for is refused only with its pattern. -/
theorem selecting_eq {build : Regex.Pattern → Command m → Command m} {own : Command m}
    {made : Regex.Pattern → Command m} (same : ∀ pattern, build pattern own = made pattern)
    (given : PatternArgument) :
    Checked.selecting build given (.ofCommand own) = made <$> Checked.pattern given := by
  rw [← funext same]
  exact bind_pure_comp _ _

/-- A step adds the command that it stands for, and is refused as that is. -/
theorem addTo_eq [LawfulMonad m] (builder : Builder m) (step : Step m) :
    step.addTo builder = builder.push <$> step.command := by
  cases step with
  | onMatches given own =>
      have added : addTo builder (.onMatches given own) =
          builder.push <$> Checked.onMatches given (inner own).orKeep := bind_pure_comp _ _
      have kept : Checked.onMatches given (.ofCommand (Command.keep : Command m)) =
          (fun _ => Command.keep) <$> Checked.pattern given :=
        selecting_eq Command.onMatches_keep given
      rcases own with _ | ⟨own, _ | _⟩
      case none | some.false => exact added.trans (congrArg (builder.push <$> ·) kept)
      case some.true => exact added
  | onGaps given own =>
      have added : addTo builder (.onGaps given own) =
          builder.push <$> Checked.onGaps given (inner own).orKeep := bind_pure_comp _ _
      have kept : Checked.onGaps given (.ofCommand (Command.keep : Command m)) =
          (fun _ => Command.keep) <$> Checked.pattern given :=
        selecting_eq Command.onGaps_keep given
      rcases own with _ | ⟨own, _ | _⟩
      case none | some.false => exact added.trans (congrArg (builder.push <$> ·) kept)
      case some.true => exact added
  | whenMatched given own =>
      cases own with
      | some own => exact bind_pure_comp _ _
      | none =>
          rw [command, Checked.unlessMatched, selecting_eq Command.unlessMatched_delete,
            Functor.map_map]
          exact bind_pure_comp _ _
  | unlessMatched given own =>
      cases own with
      | some own => exact bind_pure_comp _ _
      | none =>
          rw [command, Checked.whenMatched, selecting_eq Command.whenMatched_delete,
            Functor.map_map]
          exact bind_pure_comp _ _
  | onCharacters start stop own =>
      cases own with
      | some own => rfl
      | none => rw [command, ← Command.narrowCharacters_eq]; rfl
  | onLines start stop own =>
      cases own with
      | some own => rfl
      | none => rw [command, ← Command.narrowLines_eq]; rfl
  | substitute | change | delete | keep | apply => rfl

end Step

/-- The builder of a text and steps, unless a step is refused. -/
def built (text : String) (steps : List (Step m)) : Except CommandFault (Builder m) :=
  steps.foldlM (fun builder step => step.addTo builder) (start text)

/-- The pipe of the commands that steps stand for, applied to a text, unless one is refused. -/
def piped (text : String) (steps : List (Step m)) : Except CommandFault (m String) := do
  let commands ← steps.mapM Step.command
  let pipe ← Checked.pipe (commands.map .ofCommand)
  return pipe text

/-- Steps add their commands one after another. -/
theorem foldlM_addTo [LawfulMonad m] (builder : Builder m) (steps : List (Step m)) :
    steps.foldlM (fun builder step => step.addTo builder) builder =
      (fun commands => commands.foldl push builder) <$> steps.mapM Step.command := by
  induction steps generalizing builder with
  | nil => rfl
  | cons step rest inductionHypothesis =>
      rw [List.foldlM_cons, Step.addTo_eq, List.mapM_cons]
      simp [inductionHypothesis]

omit [Monad m] in
theorem pipeFrom_commands (index : Nat) (commands : List (Command m)) :
    Checked.pipeFrom index (commands.map .ofCommand) = .ok commands := by
  induction commands generalizing index with
  | nil => rfl
  | cons command rest inductionHypothesis =>
      rw [List.map_cons, CommandArgument.ofCommand, Checked.pipeFrom, inductionHypothesis]
      rfl

/-- Commands are not refused by a pipe. -/
theorem pipe_commands (commands : List (Command m)) :
    Checked.pipe (commands.map .ofCommand) = .ok (Command.pipe commands) := by
  rw [Checked.pipe, pipeFrom_commands]
  rfl

section

variable [LawfulMonad m] [MonadExceptOf StepFault m]

/-- A command more is applied to what the builder gave before. -/
theorem value_push (builder : Builder m) (command : Command m) :
    (builder.push command).value = builder.value >>= command := by
  rw [value, push, List.foldlM_append, value]
  simp [runStep]

/-- Commands more are applied to it as their pipe. -/
theorem value_pushed (builder : Builder m) (commands : List (Command m)) :
    (commands.foldl push builder).value = builder.value >>= Command.pipe commands := by
  induction commands generalizing builder with
  | nil => exact (bind_pure builder.value).symm
  | cons command rest inductionHypothesis =>
      rw [List.foldl_cons, inductionHypothesis, value_push, Command.pipe_cons, bind_assoc]

/-- The value of a builder is what the pipe of the commands of its steps makes of its text. -/
theorem value_built (text : String) (steps : List (Step m)) :
    value <$> built text steps = piped text steps := by
  have started : (start text : Builder m).value = pure text := rfl
  rw [built, foldlM_addTo, Functor.map_map, piped]
  simp only [value_pushed, started, pure_bind, pipe_commands]
  exact (bind_pure_comp _ _).symm

variable [MonadExceptOf PatternFault m]

/-- The matches of what is given for a pattern, or a refusal in the context. -/
def matchesIn (given : PatternArgument) (text : String) : m (List Match) :=
  (·.findMatches text) <$> ready given

/-- Whether what is given for a pattern matches, or a refusal in the context. -/
def occursIn (given : PatternArgument) (text : String) : m Bool :=
  (·.containsMatch text) <$> ready given

theorem matchDetails_eq (builder : Builder m) (given : PatternArgument) :
    builder.matchDetails given = builder.value >>= matchesIn given := by
  simp only [matchDetails, bind_pure_comp]
  rfl

/-- A pattern that is not refused is looked for in the value. -/
theorem test_of_compile {given : PatternArgument} {pattern : Regex.Pattern}
    (compiled : given.compile {} = .ok pattern) (builder : Builder m) :
    builder.test given = builder.value >>= occursIn given := by
  have isReady : ready given = (pure pattern : m Regex.Pattern) := by rw [ready, compiled]
  have occurs : occursIn given = fun text => (pure (pattern.containsMatch text) : m Bool) := by
    funext text
    rw [occursIn, isReady, map_pure]
  simp [test, isReady, occurs]

/-- Any pattern is looked for in the value if that is there. -/
theorem test_of_value {builder : Builder m} {result : String}
    (there : builder.value = pure result) (given : PatternArgument) :
    builder.test given = occursIn given result := by
  simp [test, occursIn, there]

/-- What a builder gives of a text is told by the pipe of the commands that its steps stand for. A
builder is refused as the first of these commands that is refused. Its value is what the pipe makes
of the text, its matches and their texts are those in the value, and it says of a pattern whether
that matches in the value, provided that the pattern is not refused or the value is there. -/
theorem outcomes_eq_pipe (text : String) (steps : List (Step m)) (given : PatternArgument) :
    value <$> built text steps = piped text steps ∧
    (·.matchDetails given) <$> built text steps = (· >>= matchesIn given) <$> piped text steps ∧
    (·.matchTexts given) <$> built text steps =
      (fun value => List.map Match.text <$> (value >>= matchesIn given)) <$> piped text steps ∧
    ((∃ pattern, given.compile {} = .ok pattern) ∨
        (∃ result, piped text steps = .ok (pure result)) →
      (·.test given) <$> built text steps = (· >>= occursIn given) <$> piped text steps) := by
  rw [← value_built]
  simp only [Functor.map_map]
  refine ⟨trivial, ?_, ?_, ?_⟩
  · simp only [matchDetails_eq]
  · simp only [matchTexts, matchDetails_eq, bind_pure_comp]
  · rintro (⟨pattern, compiled⟩ | ⟨result, there⟩)
    · simp only [test_of_compile compiled]
    · cases shape : built text steps with
      | error fault => rfl
      | ok builder =>
          rw [shape] at there
          have isValue : builder.value = pure result := Except.ok.inj there
          have same : builder.test given = builder.value >>= occursIn given := by
            rw [test_of_value isValue, isValue, pure_bind]
          exact congrArg Except.ok same

end

/-- Steps that select the first line of a text, keep it, enclose its runs of the letter `a`, and
take away what encloses the first and the last. -/
def enclosingSteps : List (Step (ExceptT StepFault (Except PatternFault))) := [
  .onLines 0 (some 1) none,
  .onGaps (.compiled lettersPattern) none,
  .whenMatched (.compiled lettersPattern) none,
  .onMatches (.compiled lettersPattern) (some ⟨fun text => pure ("<" ++ text ++ ">"), true⟩),
  .onCharacters 2 (some (-2)) none]

/-- What these steps leave of a text of two lines, and that the letter is in it. -/
theorem outcomes_eq_pipe_of_enclosingSteps :
    value <$> built "baac\nb" enclosingSteps = .ok (pure "b<aa><>c") ∧
    (·.matchTexts (.compiled lettersPattern)) <$> built "baac\nb" enclosingSteps =
      .ok (pure ["", "", "aa", "", "", "", "", ""]) ∧
    (·.test (.compiled lettersPattern)) <$> built "baac\nb" enclosingSteps = .ok (pure true) := by
  obtain ⟨value, -, texts, test⟩ :=
    outcomes_eq_pipe "baac\nb" enclosingSteps (.compiled lettersPattern)
  have tested := test (.inl ⟨lettersPattern, rfl⟩)
  exact ⟨value.trans (by rfl), texts.trans (by rfl), tested.trans (by rfl)⟩

/-- A command that drops texts and counts as a no. -/
def droppingAsNo : GivenCommand (ExceptT StepFault (Except PatternFault)) :=
  ⟨Command.delete, false⟩

/-- On matches it is left out, though a command on the matches runs it and so does a guard. -/
theorem onMatches_leaves_out_command :
    value <$> built "a" [.onMatches (.compiled lettersPattern) (some droppingAsNo)] =
      .ok (pure "a") ∧
    (· "a") <$> Checked.onMatches (.compiled lettersPattern) (.command droppingAsNo) =
      .ok (pure "") ∧
    value <$> built "a" [.whenMatched (.compiled lettersPattern) (some droppingAsNo)] =
      .ok (pure "") :=
  ⟨by rfl, by rfl, by rfl⟩

end Builder

end Structex
