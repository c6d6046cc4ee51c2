import Mathlib
import Structex.Proofs.Regex.Scope

/-!
# The names of groups

A pattern that is read from a source names its groups by identifiers only. Names are given in one
place, after `checkName`, and every other reader leaves them alone. Each reader has one triple here,
from the steps of reading up to the grammar; `alternation_sequence_keeps` is the induction over its
two mutually recursive readers.
-/

namespace Structex.Regex

open Std.Do

set_option mvcgen.warning false

/-- All groups that are named have identifiers for names. -/
def Reading.WellNamed (reading : Reading) : Prop :=
  ∀ entry ∈ reading.names, Text.isIdentifier entry.1.toList = true

theorem Reading.wellNamed_start (source : String) : (Reading.start source).WellNamed :=
  fun _ => nofun

namespace Reader

variable {α : Type}

/-- The name that a group is opened with is an identifier. -/
def Opening.WellNamed : Opening → Prop
  | .capturing (some name) => Text.isIdentifier name = true
  | _ => True

/-- A reader that gives no group a name that is no identifier. -/
abbrev Keeps (reader : Reader α) : Prop :=
  ⦃fun reading => ⌜reading.WellNamed⌝⦄ reader ⦃⇓? _ reading => ⌜reading.WellNamed⌝⦄

/-- What a reader keeps holds in every state in which it ends. -/
theorem Keeps.of_run {reader : Reader α} (keeps : Keeps reader) {start ended : Reading} {answer : α}
    (named : start.WellNamed) (ran : reader.run start = .ok (answer, ended)) :
    ended.WellNamed := by
  have held := keeps start named
  simp only [wp, PredTrans.apply_pushArg, ran] at held
  exact held

/-! ## Refusals -/

section

variable {post : α → Assertion (.arg Reading (.except Fault .pure))}

/-- Nothing has to be shown of the state after a refusal. -/
theorem Refuses.spec {reader : Reader α} (refuses : reader.Refuses) :
    ⦃⌜True⌝⦄ reader ⦃PostCond.mayThrow post⦄ := by
  intro start _
  cases ran : reader.run start with
  | ok outcome => exact absurd ran (refuses start outcome)
  | error fault =>
      simp only [wp, PredTrans.apply_pushArg, ran]
      trivial

@[spec high] theorem throw_spec (fault : Fault) :
    ⦃⌜True⌝⦄ (throw fault : Reader α) ⦃PostCond.mayThrow post⦄ :=
  (throw_refuses fault).spec

@[spec] theorem failAt_spec (cause : Cause) (position : Nat) :
    ⦃⌜True⌝⦄ (failAt cause position : Reader α) ⦃PostCond.mayThrow post⦄ :=
  (failAt_refuses cause position).spec

@[spec] theorem fail_spec (cause : Cause) (back : Nat) :
    ⦃⌜True⌝⦄ (fail cause back : Reader α) ⦃PostCond.mayThrow post⦄ :=
  (fail_refuses cause back).spec

end

/-! ## Taking what comes next -/

@[spec] theorem drop_keeps (count : Nat) : Keeps (drop count) := by
  mvcgen [drop, checkEscape]

@[spec] theorem next_keeps : Keeps next := by
  mvcgen [next, peek]

@[spec] theorem accept_keeps (c : Char) : Keeps (accept c) := by
  mvcgen [accept, sees, peek]

@[spec] theorem takeSome_keeps (holds : Char → Bool) (most : Nat) :
    Keeps (takeSome holds most) := by
  induction most with
  | zero => mvcgen [takeSome]
  | succ most inductionHypothesis => mvcgen [takeSome, peek, inductionHypothesis]

@[spec] theorem takeName_keeps (terminator : Char) (what : String) :
    Keeps (takeName terminator what) := by
  have loop : ∀ fuel taken, Keeps (untilLoop terminator what fuel taken) := by
    intro fuel
    induction fuel with
    | zero =>
        intro taken
        mvcgen [untilLoop]
    | succ fuel inductionHypothesis =>
        intro taken
        mvcgen [untilLoop, inductionHypothesis]
  mvcgen [takeName, left, loop]

@[spec] theorem skipLine_keeps (fuel : Nat) : Keeps (skipLine fuel) := by
  induction fuel with
  | zero => mvcgen [skipLine]
  | succ fuel inductionHypothesis => mvcgen [skipLine, inductionHypothesis]

@[spec] theorem skipComment_keeps (place fuel : Nat) : Keeps (skipComment place fuel) := by
  induction fuel with
  | zero => mvcgen [skipComment]
  | succ fuel inductionHypothesis => mvcgen [skipComment, inductionHypothesis]

/-! ## Escapes, sets and repeats -/

@[spec] theorem hexEscape_keeps (letter : Char) (digits : Nat) :
    Keeps (hexEscape letter digits) := by
  mvcgen [hexEscape]

@[spec] theorem namedEscape_keeps : Keeps namedEscape := by
  mvcgen [namedEscape]

@[spec] theorem octalEscape_keeps (digits : List Char) : Keeps (octalEscape digits) := by
  mvcgen [octalEscape]

@[spec] theorem plainEscape_keeps (c : Char) : Keeps (plainEscape c) := by
  mvcgen [plainEscape]

@[spec] theorem referredWidth_keeps (group back : Nat) : Keeps (referredWidth group back) := by
  mvcgen [referredWidth]

@[spec] theorem checkLookbehind_keeps (group : Nat) : Keeps (checkLookbehind group) := by
  mvcgen [checkLookbehind]

@[spec] theorem groupReference_keeps (scope : Flags) (digits : List Char) :
    Keeps (groupReference scope digits) := by
  mvcgen [groupReference, groupCount, noteReference]

@[spec] theorem digitEscape_keeps (scope : Flags) (c : Char) : Keeps (digitEscape scope c) := by
  mvcgen [digitEscape]

@[spec] theorem escapePiece_keeps (scope : Flags) (c : Char) : Keeps (escapePiece scope c) := by
  mvcgen [escapePiece]

@[spec] theorem setMember_keeps (scope : Flags) (token : Token) :
    Keeps (setMember scope token) := by
  cases token with
  | plain c => mvcgen [setMember]
  | escape c => mvcgen [setMember, setEscape]

@[spec] theorem setMembers_keeps (scope : Flags) (place fuel : Nat) (members : List SetItem) :
    Keeps (setMembers scope place fuel members) := by
  induction fuel generalizing members with
  | zero => mvcgen [setMembers]
  | succ fuel inductionHypothesis => mvcgen [setMembers, inductionHypothesis]

@[spec] theorem signPiece_keeps (scope : Flags) (place : Nat) (c : Char) :
    Keeps (signPiece scope place c) := by
  mvcgen [signPiece, characterSet, left]

@[spec] theorem countsOf_keeps (low high : List Char) (place : Nat) :
    Keeps (countsOf low high place) := by
  mvcgen [countsOf]

@[spec] theorem repeatCounts_keeps (c : Char) : Keeps (repeatCounts c) := by
  mvcgen [repeatCounts, takeCounts, offset]

@[spec] theorem repeatLast_keeps (place least : Nat) (most : Option Nat) (pieces : List Piece) :
    Keeps (repeatLast place least most pieces) := by
  mvcgen [repeatLast, repeatGreed]

/-! ## Groups -/

@[spec] theorem flagsOn_keeps (fuel : Nat) (token : Token) (on : Flags) :
    Keeps (flagsOn fuel token on) := by
  induction fuel generalizing token on with
  | zero => mvcgen [flagsOn]
  | succ fuel inductionHypothesis => mvcgen [flagsOn, refuseFlag, inductionHypothesis]

@[spec] theorem flagsOff_keeps (fuel : Nat) (token : Token) (off : Flags) :
    Keeps (flagsOff fuel token off) := by
  induction fuel generalizing token off with
  | zero => mvcgen [flagsOff]
  | succ fuel inductionHypothesis => mvcgen [flagsOff, refuseFlag, inductionHypothesis]

@[spec] theorem flagsOpening_keeps (token : Token) :
    ⦃fun reading => ⌜reading.WellNamed⌝⦄ flagsOpening token
      ⦃⇓? opening reading => ⌜reading.WellNamed ∧ opening.WellNamed⌝⦄ := by
  mvcgen [flagsOpening, switchedOn, switchedOff, refuseFlag, left]

/-- Only identifiers pass as names. -/
@[spec] theorem checkName_keeps (name : List Char) :
    ⦃fun reading => ⌜reading.WellNamed⌝⦄ checkName name
      ⦃⇓? _ reading => ⌜reading.WellNamed ∧ Text.isIdentifier name = true⌝⦄ := by
  mvcgen [checkName]

@[spec] theorem opening_keeps :
    ⦃fun reading => ⌜reading.WellNamed⌝⦄ opening
      ⦃⇓? opening reading => ⌜reading.WellNamed ∧ opening.WellNamed⌝⦄ := by
  mvcgen [opening]

@[spec] theorem nameGroup_keeps {chars : List Char} (isName : Text.isIdentifier chars = true)
    (group : Nat) : Keeps (nameGroup chars group) := by
  mvcgen [nameGroup]
  rename_i before named unknown changed
  intro entry member
  rcases List.mem_append.mp member with old | new
  · exact named entry old
  · obtain rfl := List.mem_singleton.mp new
    rwa [String.toList_ofList]

/-- A group is named as it was opened. -/
@[spec] theorem openGroup_keeps {name : Option (List Char)}
    (isName : (Opening.capturing name).WellNamed) : Keeps (openGroup name) := by
  cases name with
  | none => mvcgen [openGroup, groupCount]
  | some chars => mvcgen [openGroup, groupCount]

@[spec] theorem namedGroup_keeps (name : List Char) : Keeps (namedGroup name) := by
  mvcgen [namedGroup]

@[spec] theorem noteCondition_keeps (group back : Nat) : Keeps (noteCondition group back) := by
  mvcgen [noteCondition]
  rename_i before named changed
  have names : changed.2.names = before.names := by
    change Reading.names (ite _ _ _) = _
    split <;> rfl
  rwa [Reading.WellNamed, names]

@[spec] theorem conditionGroup_keeps : Keeps conditionGroup := by
  -- What closes plain goals by itself would compute with the bound on group numbers.
  mvcgen -trivial [conditionGroup] <;> assumption

@[spec] theorem namedReference_keeps (scope : Flags) : Keeps (namedReference scope) := by
  mvcgen [namedReference]
  exact And.left ‹_›

theorem closing_keeps {contents : Reader α} (keeps : Keeps contents) (place : Nat) :
    Keeps (closing place contents) := by
  mvcgen [closing, close, keeps]

theorem lookingBehind_keeps {body : Reader α} (keeps : Keeps body) :
    Keeps (lookingBehind body) := by
  mvcgen [lookingBehind, limitReferences, groupCount, keeps]

theorem conditionBranches_keeps {branch : Reader Piece} (keeps : Keeps branch) :
    Keeps (conditionBranches branch) := by
  mvcgen [conditionBranches, sees, peek, keeps]

theorem groupPiece_keeps {branches : Flags → Reader Piece} {parts : Reader Piece}
    (ofBranches : ∀ scope, Keeps (branches scope)) (ofParts : Keeps parts) (scope : Flags)
    (place : Nat) {opening : Opening} (wellNamed : opening.WellNamed) :
    Keeps (groupPiece scope place branches parts opening) := by
  have inside := fun scope => closing_keeps (ofBranches scope) place
  cases opening with
  | comment => mvcgen [groupPiece, left]
  | flags on => mvcgen [groupPiece]
  | reference => mvcgen [groupPiece]
  | look ahead negated =>
      have contents : Keeps (if ahead then branches scope else lookingBehind (branches scope)) := by
        split
        · exact ofBranches scope
        · exact lookingBehind_keeps (ofBranches scope)
      have body := closing_keeps contents place
      mvcgen [groupPiece, body]
  | condition =>
      have both := closing_keeps (conditionBranches_keeps ofParts) place
      mvcgen [groupPiece, both]
  | atomic => mvcgen [groupPiece, inside]
  | grouping on off => mvcgen [groupPiece, inside]
  | capturing name => mvcgen [groupPiece, inside]

/-! ## The grammar -/

/-- Alternations and sequences name groups by identifiers. -/
theorem alternation_sequence_keeps (fuel : Nat) :
    (∀ scope, Keeps (alternation fuel scope)) ∧
      ∀ scope pieces, Keeps (sequence fuel scope pieces) := by
  -- The two readers hand on to each other with less fuel, so one induction serves both.
  induction fuel with
  | zero =>
      refine ⟨fun scope => ?_, fun scope pieces => ?_⟩
      · mvcgen [alternation]
      · mvcgen [sequence]
  | succ fuel inductionHypothesis =>
      obtain ⟨branches, parts⟩ := inductionHypothesis
      refine ⟨fun scope => ?_, fun scope pieces => ?_⟩
      · mvcgen [alternation, branches, parts]
      · have group := @groupPiece_keeps _ _ branches (parts scope []) scope
        mvcgen [sequence, parts, group, offset, peek, left]
        · exact And.right ‹_›
        · exact And.left ‹_›

theorem leadingFlags_keeps (scope : Flags) (fuel : Nat) : Keeps (leadingFlags scope fuel) := by
  induction fuel with
  | zero => mvcgen [leadingFlags]
  | succ fuel inductionHypothesis =>
      mvcgen [leadingFlags, offset, peek, left, inductionHypothesis]
      all_goals exact And.left ‹_›

theorem globalFlags_keeps (fuel : Nat) (given : Flags) : Keeps (globalFlags fuel given) := by
  induction fuel generalizing given with
  | zero => mvcgen [globalFlags]
  | succ fuel inductionHypothesis =>
      mvcgen [globalFlags, leadingFlags_keeps, left, rewind, inductionHypothesis]

end Reader

/-- A pattern that is read from a source names its groups by identifiers. -/
theorem Pattern.isIdentifier_of_parse {source : String} {flags : Flags} {pattern : Pattern}
    (parsed : Pattern.parse source flags = .ok pattern) :
    ∀ entry ∈ pattern.names, Text.isIdentifier entry.1.toList = true := by
  obtain ⟨reading, ran⟩ := Pattern.run_of_parse parsed
  obtain ⟨-, scope, start, piece, begun, read, -, rfl⟩ := Reader.run_pattern_eq_ok.mp ran
  have started : start.WellNamed :=
    (Reader.globalFlags_keeps _ _).of_run (Reading.wellNamed_start source) begun
  exact ((Reader.alternation_sequence_keeps _).1 scope).of_run started read

end Structex.Regex
