import Structex.Proofs.Regex.Subpattern

/-!
# The flags of a part

What a source means under flags depends on the five switches that a group can turn on, so that a
group with these switches may stand for flags given from outside. Flags for the whole pattern have
their place at the start of a source alone: where a source that begins with them stands inside
another, the whole is refused.
-/

namespace Structex.Regex

/-- The flags that tell how a source is read. -/
def Flags.core (flags : Flags) : Flags :=
  { flags with unicode := false, plain := false }

/-- Flags with the same core agree about blanks and comments. -/
theorem Flags.verbose_of_core {flags flags' : Flags} (same : flags.core = flags'.core) :
    flags.verbose = flags'.verbose := by
  change flags.core.verbose = flags'.core.verbose
  rw [same]

/-- What a group switches changes nothing but the switches. -/
theorem Flags.core_switched (flags on off : Flags) :
    (flags.core.switched on off).core = (flags.switched on off).core := by
  unfold switched
  cases on.choosesRepertoire <;> rfl

namespace Reader

theorem setMembers_core (scope : Flags) (start fuel : Nat) (members : List SetItem) :
    setMembers scope.core start fuel members = setMembers scope start fuel members := by
  have member : setMember scope.core = setMember scope := rfl
  induction fuel generalizing members with
  | zero => rfl
  | succ fuel inductionHypothesis =>
      rw [setMembers, setMembers]
      simp only [member, inductionHypothesis]

theorem characterSet_core (scope : Flags) (start : Nat) :
    characterSet scope.core start = characterSet scope start := by
  unfold characterSet
  simp only [setMembers_core]
  rfl

theorem signPiece_core (scope : Flags) (start : Nat) (c : Char) :
    signPiece scope.core start c = signPiece scope start c := by
  by_cases set : c = '['
  · subst set
    exact characterSet_core scope start
  · unfold signPiece
    split
    · rfl
    · rfl
    · rfl
    · contradiction
    · rfl

/-- A group reads the same under the core of the flags if what is in it does. -/
theorem groupPiece_core {branches : Flags → Reader Piece}
    (core : ∀ scope, branches scope.core = branches scope) (scope : Flags) (start : Nat)
    (parts : Reader Piece) (opening : Opening) :
    groupPiece scope.core start branches parts opening =
      groupPiece scope start branches parts opening := by
  cases opening with
  | grouping on off =>
      have inner : branches (scope.core.switched on off) = branches (scope.switched on off) := by
        rw [← core, Flags.core_switched, core]
      simp only [groupPiece, inner]
  | look ahead negated => simp only [groupPiece, core]
  | capturing name => simp only [groupPiece, core]
  | atomic => simp only [groupPiece, core]
  | _ => rfl

/-- Alternations and sequences read the same under the core of the flags. -/
theorem alternation_sequence_core (fuel : Nat) :
    (∀ scope, alternation fuel scope.core = alternation fuel scope) ∧
      ∀ scope pieces, sequence fuel scope.core pieces = sequence fuel scope pieces := by
  induction fuel with
  | zero => exact ⟨fun _ => rfl, fun _ _ => rfl⟩
  | succ fuel inductionHypothesis =>
      obtain ⟨branches, parts⟩ := inductionHypothesis
      refine ⟨fun scope => ?_, fun scope pieces => ?_⟩
      · rw [alternation, alternation, parts]
        simp only [branches]
      · rw [sequence, sequence]
        simp only [parts, groupPiece_core branches, signPiece_core]
        rfl

/-- What the flags for the whole pattern tell apart does not tell apart readings. -/
theorem alternation_congr {scope scope' : Flags} (same : scope.core = scope'.core) (fuel : Nat) :
    alternation fuel scope = alternation fuel scope' := by
  rw [← (alternation_sequence_core fuel).1 scope, same, (alternation_sequence_core fuel).1]

/-- How flags for the whole pattern are found from a character on: behind a blank, behind a comment
up to the end of its line or in a group, or right here. -/
inductive FlagsStep (scope on : Flags) (fuel : Nat) (start ended : Reading) : Char → Prop where
  | blank {c : Char} (verbose : scope.verbose = true) (space : Text.isAsciiSpace c = true)
      (further : (leadingFlags scope fuel).run (start.dropped 1) = .ok (some on, ended)) :
      FlagsStep scope on fuel start ended c
  | line (verbose : scope.verbose = true) {middle : Reading}
      (skipped : (skipLine ((start.dropped 1).rest.length + 1)).run (start.dropped 1) =
        .ok ((), middle))
      (further : (leadingFlags scope fuel).run middle = .ok (some on, ended)) :
      FlagsStep scope on fuel start ended '#'
  | comment {middle passed : Reading}
      (opened : opening.run (start.dropped 1) = .ok (.comment, middle))
      (skipped : (skipComment start.position (middle.rest.length + 1)).run middle =
        .ok ((), passed))
      (further : (leadingFlags scope fuel).run passed = .ok (some on, ended)) :
      FlagsStep scope on fuel start ended '('
  | flags (opened : opening.run (start.dropped 1) = .ok (.flags on, ended)) :
      FlagsStep scope on fuel start ended '('

/-- Flags for the whole pattern are found in one of these ways. -/
theorem leadingFlags_eq_some {scope on : Flags} {fuel : Nat} {start ended : Reading}
    (ran : (leadingFlags scope (fuel + 1)).run start = .ok (some on, ended)) :
    ∃ c, firstToken start.rest = some (.plain c) ∧ (start.dropped 1).rest ≠ ['\\'] ∧
      FlagsStep scope on fuel start ended c := by
  rw [leadingFlags, run_bind_of_ok (run_offset start), run_bind_of_ok (run_peek start)] at ran
  cases first : firstToken start.rest with
  | none =>
      rw [first] at ran
      cases ran
  | some token =>
      rw [first] at ran
      cases token with
      | escape c => cases ran
      | plain c =>
          dsimp only at ran
          split at ran
          · rename_i blank
            obtain ⟨verbose, space⟩ := Bool.and_eq_true_iff.mp blank
            obtain ⟨_, _, dropped, ranRest⟩ := run_bind_eq_ok.mp ran
            obtain ⟨escapes, rfl⟩ := run_drop_eq_ok.mp dropped
            exact ⟨c, rfl, escapes, .blank verbose space ranRest⟩
          split at ran
          · rename_i comment
            obtain ⟨verbose, hash⟩ := Bool.and_eq_true_iff.mp comment
            cases beq_iff_eq.mp hash
            obtain ⟨_, _, dropped, ranDropped⟩ := run_bind_eq_ok.mp ran
            obtain ⟨escapes, rfl⟩ := run_drop_eq_ok.mp dropped
            rw [run_bind_of_ok (run_left _)] at ranDropped
            obtain ⟨_, middle, skipped, ranRest⟩ := run_bind_eq_ok.mp ranDropped
            exact ⟨'#', rfl, escapes, .line verbose skipped ranRest⟩
          split at ran
          · rename_i paren
            cases beq_iff_eq.mp paren
            obtain ⟨_, _, dropped, ranDropped⟩ := run_bind_eq_ok.mp ran
            obtain ⟨escapes, rfl⟩ := run_drop_eq_ok.mp dropped
            obtain ⟨opened, middle, ranOpening, ranRest⟩ := run_bind_eq_ok.mp ranDropped
            refine ⟨'(', rfl, escapes, ?_⟩
            cases opened with
            | comment =>
                rw [run_bind_of_ok (run_left _)] at ranRest
                obtain ⟨_, passed, skipped, ranAfter⟩ := run_bind_eq_ok.mp ranRest
                exact .comment ranOpening skipped ranAfter
            | flags given =>
                cases ranRest
                exact .flags ranOpening
            | _ => cases ranRest
          · cases ran

/-- In each of these ways flags for the whole pattern are found. -/
theorem FlagsStep.run {scope on : Flags} {fuel : Nat} {start ended : Reading} {c : Char}
    (step : FlagsStep scope on fuel start ended c) (first : firstToken start.rest = some (.plain c))
    (escapes : (start.dropped 1).rest ≠ ['\\']) :
    (leadingFlags scope (fuel + 1)).run start = .ok (some on, ended) := by
  have dropped : (drop 1).run start = .ok ((), start.dropped 1) := run_drop escapes
  rw [leadingFlags, run_bind_of_ok (run_offset start), run_bind_of_ok (run_peek start), first]
  dsimp only
  cases step with
  | blank verbose space further =>
      rw [verbose, space, Bool.and_self, if_pos rfl, run_bind_of_ok dropped]
      exact further
  | line verbose skipped further =>
      rw [verbose, if_neg (by decide), if_pos (by decide), run_bind_of_ok dropped,
        run_bind_of_ok (run_left _), run_bind_of_ok skipped]
      exact further
  | comment opened skipped further =>
      rw [if_neg (by simp [Text.isAsciiSpace]), if_neg (by simp), if_pos (by decide),
        run_bind_of_ok dropped, run_bind_of_ok opened]
      dsimp only
      rw [run_bind_of_ok (run_left _), run_bind_of_ok skipped]
      exact further
  | flags opened =>
      rw [if_neg (by simp [Text.isAsciiSpace]), if_neg (by simp), if_pos (by decide),
        run_bind_of_ok dropped, run_bind_of_ok opened]
      rfl

/-- Where flags for the whole pattern are found, they are found too if blanks and comments are
passed over. -/
theorem leadingFlags_mono {scope scope' on : Flags}
    (mode : scope.verbose = true → scope'.verbose = true) {fuel : Nat} {start ended : Reading}
    (ran : (leadingFlags scope fuel).run start = .ok (some on, ended)) :
    (leadingFlags scope' fuel).run start = .ok (some on, ended) := by
  induction fuel generalizing start with
  | zero => cases ran
  | succ fuel inductionHypothesis =>
      obtain ⟨c, first, escapes, step⟩ := leadingFlags_eq_some ran
      refine FlagsStep.run ?_ first escapes
      cases step with
      | blank verbose space further =>
          exact .blank (mode verbose) space (inductionHypothesis further)
      | line verbose skipped further =>
          exact .line (mode verbose) skipped (inductionHypothesis further)
      | comment opened skipped further =>
          exact .comment opened skipped (inductionHypothesis further)
      | flags opened => exact .flags opened

/-- No flags are at the end. -/
theorem leadingFlags_of_end {start : Reading} (atEnd : start.rest = []) (scope : Flags)
    (fuel : Nat) (on : Flags) (ended : Reading) :
    (leadingFlags scope fuel).run start ≠ .ok (some on, ended) := by
  intro ran
  cases fuel with
  | zero => cases ran
  | succ fuel =>
      obtain ⟨c, first, -⟩ := leadingFlags_eq_some ran
      rw [atEnd] at first
      cases first

end Reader

namespace Frame

open Reader

variable {frame : Frame}

/-- Where a source begins with flags for the whole pattern, a sequence that reads it inside another
source is refused. -/
theorem leadingFlags_refused (frame : Frame) {scope scope' : Flags}
    (mode : scope.verbose = true → scope'.verbose = true) {fuel fuel' : Nat}
    {start ended : Reading} {on : Flags} (escapes : start.rest ≠ ['\\'])
    (enough : start.rest.length < fuel) (enough' : start.rest.length < fuel')
    (ran : (leadingFlags scope fuel).run start = .ok (some on, ended)) :
    start.Leads ended ∧ (frame.Hears ended →
      ∀ begun, frame.Agrees start (frame.embed start) begun →
        Refused ((sequence fuel' scope' []).run begun)) := by
  induction fuel generalizing start fuel' with
  | zero => exact absurd enough (Nat.not_lt_zero _)
  | succ fuel inductionHypothesis =>
      obtain ⟨fuel', rfl⟩ : ∃ less, fuel' = less + 1 := ⟨fuel' - 1, by omega⟩
      obtain ⟨c, first, escapesAfter, step⟩ := leadingFlags_eq_some ran
      have within : 1 ≤ start.rest.length := width_le_of_firstToken first
      have shorter : (start.dropped 1).rest.length < start.rest.length :=
        Reading.length_dropped_lt first
      have firstWhole : ∀ {begun}, frame.Agrees start (frame.embed start) begun →
          firstToken begun.rest = some (.plain c) :=
        fun agrees => agrees.rest ▸ firstToken_embed escapes first
      have leadsDropped := Reading.Leads.dropped escapesAfter
      have openingEmbeds : frame.RepeatsAt opening opening (start.dropped 1) :=
        opening_copies _ escapesAfter (Nat.le_refl _)
      cases step with
      | blank verbose space ranRest =>
          obtain ⟨leads, refused⟩ := inductionHypothesis escapesAfter (by omega)
            (Nat.lt_of_lt_of_le shorter (Nat.le_of_lt_succ enough')) ranRest
          refine ⟨leadsDropped.trans leads, fun heard begun agrees => ?_⟩
          rw [sequence_of_blank (firstWhole agrees) (agrees.escapes_dropped within) space
            (mode verbose)]
          exact refused heard _ (agrees.dropped within)
      | @line verbose middle skipped ranRest =>
          have enoughLine : (start.dropped 1).rest.length <
              (frame.embed (start.dropped 1)).rest.length + 1 := by
            rw [embed, List.length_append]
            omega
          obtain ⟨leadsLine, mirrored⟩ := skipLine_mirrors frame escapesAfter
            (Nat.lt_succ_self _) enoughLine skipped
          have remains := leadsLine.remains
          have enoughMiddle : middle.rest.length < fuel' := by omega
          obtain ⟨leads, refused⟩ :=
            inductionHypothesis leadsLine.escapes (by omega) enoughMiddle ranRest
          refine ⟨(leadsDropped.trans leadsLine).trans leads, fun heard begun agrees => ?_⟩
          rw [sequence_of_hash (firstWhole agrees) (agrees.escapes_dropped within) (mode verbose),
            (agrees.dropped within).rest]
          refine (mirrored (agrees.dropped within)).bind False.elim fun {_ middle'} either => ?_
          rcases either with agreesMiddle | ⟨nothing, -⟩
          · exact refused heard middle' agreesMiddle
          · exact absurd ranRest (leadingFlags_of_end nothing scope fuel on ended)
      | @comment middle passed opened skipped ranRest =>
          have leadsOpening := openingEmbeds.leads opened
          have commentEmbeds := fun place => comment_embeds frame _ start.position place middle
            leadsOpening.escapes (Nat.le_refl _)
          have commented := (run_bind_of_ok (run_left middle) fun count => do
            skipComment start.position (count + 1)
            return (none : Option Piece)).trans (run_bind_of_ok skipped _)
          have leadsComment := (commentEmbeds 0).leads commented
          have remains := (leadsOpening.trans leadsComment).remains
          have enoughPassed : passed.rest.length < fuel' := by omega
          obtain ⟨leads, refused⟩ :=
            inductionHypothesis leadsComment.escapes (by omega) enoughPassed ranRest
          refine ⟨((leadsDropped.trans leadsOpening).trans leadsComment).trans leads,
            fun heard begun agrees => ?_⟩
          have heardPassed := heard.before leads
          rw [sequence_of_open (firstWhole agrees) (agrees.escapes_dropped within)]
          refine openingEmbeds.refused_bind opened (heardPassed.before leadsComment)
            (agrees.dropped within) ?_
          rintro _ rfl between agreesMiddle
          refine (commentEmbeds _).refused_bind commented heardPassed agreesMiddle ?_
          rintro _ ⟨⟩ after agreesPassed
          exact refused heard after agreesPassed
      | flags opened =>
          refine ⟨leadsDropped.trans (openingEmbeds.leads opened), fun heard begun agrees => ?_⟩
          rw [sequence_of_open (firstWhole agrees) (agrees.escapes_dropped within)]
          refine openingEmbeds.refused_bind opened heard (agrees.dropped within) ?_
          rintro _ rfl between -
          exact .of_error rfl trivial id

/-- So is a group that the source is to be read in. -/
theorem closing_refused (frame : Frame) (place : Nat) {scope scope' : Flags}
    (mode : scope.verbose = true → scope'.verbose = true) {fuel : Nat}
    {start ended begun : Reading} {on : Flags} (escapes : start.rest ≠ ['\\'])
    (enough : start.rest.length + 2 ≤ fuel)
    (led : (leadingFlags scope (start.rest.length + 1)).run start = .ok (some on, ended))
    (heard : frame.Hears ended) (agrees : frame.Agrees start (frame.embed start) begun) :
    Refused ((closing place (alternation fuel scope')).run begun) := by
  obtain ⟨fuel, rfl⟩ : ∃ less, fuel = less + 1 := ⟨fuel - 1, by omega⟩
  have enoughBranch : start.rest.length < fuel := by omega
  have refused := (frame.leadingFlags_refused mode escapes (Nat.lt_succ_self _) enoughBranch
    led).2 heard begun agrees
  rw [closing, alternation]
  exact (refused.bind id False.elim).bind id False.elim

end Frame

namespace Reader

/-- Flags for the whole pattern are read on. -/
theorem globalFlags_advances (fuel : Nat) (given : Flags) : (globalFlags fuel given).Advances := by
  induction fuel generalizing given with
  | zero =>
      intro start flags ended escapes ran
      cases ran
      exact .refl escapes
  | succ fuel inductionHypothesis =>
      intro start flags ended escapes ran
      obtain ⟨here, _, got, ranHere⟩ := run_bind_eq_ok.mp ran
      cases got
      rw [run_bind_of_ok (run_left _)] at ranHere
      obtain ⟨on?, middle, led, ranRest⟩ := run_bind_eq_ok.mp ranHere
      cases on? with
      | none =>
          cases ranRest
          exact .refl escapes
      | some on =>
          obtain ⟨leads, -⟩ := Frame.leadingFlags_refused default (fun mode => mode) escapes
            (Nat.lt_succ_self _) (Nat.lt_succ_self _) led
          exact leads.trans (inductionHypothesis _ _ _ _ leads.escapes ranRest)

/-- The flags of a pattern are those given, unless it begins with some. -/
theorem run_globalFlags {fuel : Nat} {given flags : Flags} {start ended : Reading}
    (ran : (globalFlags (fuel + 1) given).run start = .ok (flags, ended)) :
    (∃ middle, (leadingFlags given (start.rest.length + 1)).run start = .ok (none, middle) ∧
        flags = given ∧ ended = start) ∨ ∃ on middle,
      (leadingFlags given (start.rest.length + 1)).run start = .ok (some on, middle) ∧
        (globalFlags fuel (given.union on)).run middle = .ok (flags, ended) := by
  obtain ⟨here, _, got, ranHere⟩ := run_bind_eq_ok.mp ran
  cases got
  rw [run_bind_of_ok (run_left _)] at ranHere
  obtain ⟨on?, middle, led, ranRest⟩ := run_bind_eq_ok.mp ranHere
  cases on? with
  | none =>
      cases ranRest
      exact .inl ⟨middle, led, rfl, rfl⟩
  | some on => exact .inr ⟨on, middle, led, ranRest⟩

/-- Only a source that has been read to its end is a pattern, if the conditions in it are on groups
that it has, and nothing in it is refused. -/
theorem run_checkWhole_eq_ok {flags : Flags} {node : Node} {start ended : Reading} :
    (checkWhole flags node).run start = .ok ((), ended) ↔
      (flags.ascii && flags.unicode) = false ∧ start.rest = [] ∧
        (∀ condition ∈ start.conditions, condition.1 ≤ start.widths.length) ∧
        node.firstCause flags.plain = none ∧ ended = start := by
  have got : (get : Reader Reading).run start = .ok (start, start) := rfl
  unfold checkWhole
  dsimp only
  cases clash : flags.ascii && flags.unicode with
  | true => exact ⟨fun ran => absurd ran ((throw_refuses _).bind _ _ _), fun fits => nomatch fits.1⟩
  | false =>
      rw [if_neg (by decide), run_bind_of_ok got]
      by_cases atEnd : start.rest = []
      · rw [atEnd, if_neg (by decide)]
        split
        · rename_i unknown
          have beyond := List.find?_some unknown
          refine ⟨fun ran => absurd ran (failAt_refuses _ _ _ _), fun fits => ?_⟩
          have within := fits.2.2.1 _ (List.mem_of_find?_eq_some unknown)
          simp only [decide_eq_true_eq] at beyond
          omega
        · rename_i known
          have within := List.find?_eq_none.mp known
          split
          · rename_i refused
            exact ⟨fun ran => absurd ran (throw_refuses _ _ _),
              fun fits => nomatch refused.symm.trans fits.2.2.2.1⟩
          · rename_i sound
            constructor
            · intro ran
              cases ran
              exact ⟨rfl, rfl, fun condition member => by simpa using within condition member,
                sound, rfl⟩
            · rintro ⟨-, -, -, -, rfl⟩
              rfl
      · rw [if_pos (by simpa using atEnd)]
        exact ⟨fun ran => absurd ran ((fail_refuses _ _).bind _ _ _),
          fun fits => absurd fits.2.1 atEnd⟩

/-- Without a choice of two repertoires, a pattern is refused only for breaking the grammar. -/
theorem checkWhole_declines {flags : Flags} (agreed : (flags.ascii && flags.unicode) = false)
    (node : Node) : (checkWhole flags node).Declines := by
  unfold checkWhole
  dsimp only
  rw [agreed, if_neg (by decide)]
  refine get_declines.bind fun reading => ?_
  split
  · exact fail_bind_declines _ _ _
  split
  · exact failAt_declines _ _
  split
  · intro start fault failed
    cases failed
    trivial
  · exact pure_declines ()

/-- A source is read as a pattern if it is an alternation behind its flags and is found sound. -/
theorem run_pattern_eq_ok {source : String} {given : Flags} {pattern : Pattern}
    {reading : Reading} :
    (Reader.pattern source given).run (Reading.start source) = .ok (pattern, reading) ↔
      source.toList ≠ ['\\'] ∧ ∃ flags start piece,
        (globalFlags (source.length + 1) given).run (Reading.start source) = .ok (flags, start) ∧
        (alternation (2 * source.length + 4) flags).run start = .ok (piece, reading) ∧
        (checkWhole flags piece.node).run reading = .ok ((), reading) ∧
        pattern = {
          source := source
          flags := if flags.ascii then flags else { flags with unicode := true }
          groups := reading.widths.length
          names := reading.names
          node := piece.node } := by
  constructor
  · intro ran
    obtain ⟨_, _, checked, ranChecked⟩ := run_bind_eq_ok.mp ran
    obtain ⟨escapes, rfl⟩ := run_checkEscape_eq_ok.mp checked
    obtain ⟨flags, start, begun, ranFlags⟩ := run_bind_eq_ok.mp ranChecked
    obtain ⟨piece, ended, read, ranPiece⟩ := run_bind_eq_ok.mp ranFlags
    obtain ⟨_, _, sound, ranWhole⟩ := run_bind_eq_ok.mp ranPiece
    obtain ⟨-, -, -, -, rfl⟩ := run_checkWhole_eq_ok.mp sound
    cases ranWhole
    exact ⟨escapes, flags, start, piece, begun, read, sound, rfl⟩
  · rintro ⟨escapes, flags, start, piece, begun, read, sound, rfl⟩
    have checked : checkEscape.run (Reading.start source) = .ok ((), Reading.start source) :=
      run_checkEscape_eq_ok.mpr ⟨escapes, rfl⟩
    rw [Reader.pattern, run_bind_of_ok checked, run_bind_of_ok begun, run_bind_of_ok read,
      run_bind_of_ok sound]
    rfl

end Reader

/-- What is parsed is read up to some state. -/
theorem Pattern.run_of_parse {source : String} {given : Flags} {pattern : Pattern}
    (parsed : Pattern.parse source given = .ok pattern) :
    ∃ own, (Reader.pattern source given).run (Reading.start source) = .ok (pattern, own) := by
  change (Reader.pattern source given).run' _ = _ at parsed
  rw [StateT.run'_eq] at parsed
  cases outcome : (Reader.pattern source given).run (Reading.start source) with
  | error fault =>
      rw [outcome] at parsed
      cases parsed
  | ok read =>
      rw [outcome] at parsed
      cases parsed
      exact ⟨read.2, rfl⟩

/-- What is not parsed is refused when it is read. -/
theorem Pattern.run_of_parse_eq_error {source : String} {given : Flags} {fault : Fault}
    (refused : Pattern.parse source given = .error fault) :
    (Reader.pattern source given).run (Reading.start source) = .error fault := by
  change (Reader.pattern source given).run' _ = _ at refused
  rw [StateT.run'_eq] at refused
  cases outcome : (Reader.pattern source given).run (Reading.start source) with
  | error other =>
      rw [outcome] at refused
      cases refused
      rfl
  | ok read =>
      rw [outcome] at refused
      cases refused

/-- What is read up to some state is parsed. -/
theorem Pattern.parse_of_run {source : String} {given : Flags} {pattern : Pattern}
    {own : Reading}
    (ran : (Reader.pattern source given).run (Reading.start source) = .ok (pattern, own)) :
    Pattern.parse source given = .ok pattern := by
  rw [Pattern.parse, StateT.run'_eq, ran]
  rfl

end Structex.Regex
