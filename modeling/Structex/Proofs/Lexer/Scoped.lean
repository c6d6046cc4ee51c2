import Structex.Lexer
import Structex.Proofs.Regex.Numbering
import Structex.Proofs.Regex.Scope

/-!
# A pattern in a group that keeps its flags

A lexer puts the source of a pattern in a group that switches its flags on. What is read there is
the tree of the pattern, its groups counted after those before it. A reference by number means the
group that has this number in the whole. The source is refused there if it begins with flags for the
whole pattern, or if it gives a group a name that was given before; a pattern that asks for no group
by its number is refused for nothing else.
-/

namespace Structex

open Regex Regex.Reader

/-- A pattern that has been read from its source and that asks for no group by its number. -/
def Regex.Pattern.ReadByName (pattern : Pattern) : Prop :=
  ∃ given reading,
    (Reader.pattern pattern.source given).run (Reading.start pattern.source) =
      .ok (pattern, reading) ∧ reading.Quiet

/-- Whether a pattern is what its source is read as under flags, and asks for no group by its
number. -/
def Regex.Pattern.readsByName (pattern : Pattern) (given : Flags) : Bool :=
  match (Reader.pattern pattern.source given).run (Reading.start pattern.source) with
  | .ok (read, reading) =>
    read == pattern && reading.references.isEmpty && reading.conditions.isEmpty
  | .error _ => false

/-- The check suffices. -/
theorem Regex.Pattern.ReadByName.of_readsByName {pattern : Pattern} {given : Flags}
    (checked : pattern.readsByName given = true) : pattern.ReadByName := by
  rw [Pattern.readsByName] at checked
  split at checked
  · rename_i read reading ran
    simp only [Bool.and_eq_true, beq_iff_eq, List.isEmpty_iff] at checked
    obtain ⟨⟨same, noReferences⟩, noConditions⟩ := checked
    subst same
    exact ⟨given, reading, ran, noReferences, noConditions⟩
  · cases checked

/-- A pattern that has been read from its source. -/
def Regex.Pattern.Read (pattern : Pattern) : Prop :=
  ∃ given own, (Reader.pattern pattern.source given).run (Reading.start pattern.source) =
    .ok (pattern, own)

/-- A pattern that asks for no group by its number has been read. -/
theorem Regex.Pattern.ReadByName.read {pattern : Pattern} (byName : pattern.ReadByName) :
    pattern.Read := by
  obtain ⟨given, own, ran, -⟩ := byName
  exact ⟨given, own, ran⟩

/-- A pattern that has been read is read in a way that asks for no group by its number, if there is
one. -/
theorem Regex.Pattern.Read.run {pattern : Pattern} (read : pattern.Read) :
    ∃ given own, (Reader.pattern pattern.source given).run (Reading.start pattern.source) =
      .ok (pattern, own) ∧ (pattern.ReadByName → own.Quiet) := by
  by_cases byName : pattern.ReadByName
  · obtain ⟨given, own, ran, quiet⟩ := byName
    exact ⟨given, own, ran, fun _ => quiet⟩
  · obtain ⟨given, own, ran⟩ := read
    exact ⟨given, own, ran, fun known => absurd known byName⟩

/-- What is parsed has been read from its source. -/
theorem Regex.Pattern.read_of_parse {source : String} {given : Flags} {pattern : Pattern}
    (parsed : Pattern.parse source given = .ok pattern) : pattern.Read := by
  obtain ⟨own, ran⟩ := Pattern.run_of_parse parsed
  obtain ⟨-, flags, start, piece, -, -, -, made⟩ := run_pattern_eq_ok.mp ran
  have same : pattern.source = source := by rw [made]
  exact ⟨given, own, same ▸ ran⟩

namespace Regex

/-- A source that is read does not begin with a question mark: nothing is before it to repeat. -/
theorem Pattern.Read.noQuestion {pattern : Pattern} (read : pattern.Read) :
    firstToken pattern.source.toList ≠ some (.plain '?') := by
  intro first
  obtain ⟨given, reading, ran⟩ := read
  obtain ⟨-, flags, start, piece, begun, readAll, -⟩ := run_pattern_eq_ok.mp ran
  rcases run_globalFlags begun with ⟨-, -, rfl, rfl⟩ | ⟨on, middle, led, -⟩
  · obtain ⟨_, _, ranBranch, -⟩ := run_bind_eq_ok.mp readAll
    have escapes := escapes_of_sequence first (by decide) ranBranch
    rw [sequence_of_repeat first escapes (.inr (.inr rfl))] at ranBranch
    exact (failAt_refuses _ _).bind _ _ _ ranBranch
  · obtain ⟨c, firstFlags, -, step⟩ := leadingFlags_eq_some led
    cases first.symm.trans firstFlags
    cases step with
    | blank verbose space further => cases space

/-- The flags that a source begins with do not switch off what was given. -/
theorem run_globalFlags_verbose {fuel : Nat} {given flags : Flags} {start ended : Reading}
    (ran : (globalFlags fuel given).run start = .ok (flags, ended))
    (verbose : given.verbose = true) : flags.verbose = true := by
  induction fuel generalizing given start with
  | zero =>
      cases ran
      exact verbose
  | succ fuel inductionHypothesis =>
      rcases run_globalFlags ran with ⟨-, -, rfl, -⟩ | ⟨on, middle, -, further⟩
      · exact verbose
      · exact inductionHypothesis further (by simp [Flags.union, verbose])

/-- Whether a pattern begins with flags for the whole of it. -/
def Pattern.opensWithFlags (pattern : Pattern) : Bool :=
  match (leadingFlags pattern.flags (pattern.source.length + 1)).run
      (Reading.start pattern.source) with
  | .ok (some _, _) => true
  | _ => false

theorem Pattern.opensWithFlags_iff {pattern : Pattern} :
    pattern.opensWithFlags = true ↔ ∃ on ended,
      (leadingFlags pattern.flags (pattern.source.length + 1)).run
        (Reading.start pattern.source) = .ok (some on, ended) := by
  unfold opensWithFlags
  constructor
  · intro opens
    split at opens
    · rename_i on ended found
      exact ⟨on, ended, found⟩
    · cases opens
  · rintro ⟨on, ended, found⟩
    rw [found]

/-- The group that is asked for where the groups of a pattern are counted from a number on: a name
stands for the group that has it, and a number for the group that has it in the whole. -/
def Pattern.Asks (pattern : Pattern) (shift group group' : Nat) : Prop :=
  (pattern.ReadByName ∨ group ∈ pattern.names.map Prod.snd) ∧ group' = shift + group ∨
    ¬ pattern.ReadByName ∧ group' = group

/-- What surrounds the source of a pattern in a group behind what has been read. -/
def Pattern.frameIn (pattern : Pattern) (start : Reading) (after : List Char) : Frame where
  source := start.source
  position := start.position
  names := start.names
  widths := start.widths
  conditions := start.conditions
  references := start.references
  verbose := pattern.flags.verbose
  after := after
  exact := pattern.ReadByName
  named := pattern.names.map Prod.snd

/-- A pattern is not refused behind what has been read. -/
structure Pattern.Fits (pattern : Pattern) (start : Reading) : Prop where
  byName : pattern.ReadByName
  begins : pattern.opensWithFlags = false
  apart : ∀ entry ∈ pattern.names, start.names.lookup entry.1 = none

/-- What comes of reading a pattern inside another source up to its closing parenthesis: its tree,
the groups counted after those before, with their names. -/
structure Pattern.ReadInside (pattern : Pattern) (start : Reading) (after : List Char)
    (piece : Regex.Piece) (ended : Reading) : Prop where
  begins : pattern.opensWithFlags = false
  apart : ∀ entry ∈ pattern.names, start.names.lookup entry.1 = none
  rest : ended.rest = after
  groups : ended.widths.length = start.widths.length + pattern.groups
  names : ended.names =
    start.names ++ pattern.names.map fun entry => (entry.1, start.widths.length + entry.2)
  node : Node.Alike (start.widths.length + ·) (pattern.Asks start.widths.length)
    pattern.ReadByName pattern.node piece.node
  conditions : pattern.ReadByName → ended.conditions = start.conditions

section

variable {pattern : Pattern} {start ended : Reading} {after : List Char} {piece : Regex.Piece}

/-- Characters that are dropped before a pattern do not matter. -/
theorem Pattern.Fits.dropped (fits : pattern.Fits start) (count : Nat) :
    pattern.Fits (start.dropped count) :=
  ⟨fits.byName, fits.begins, fits.apart⟩

theorem Pattern.ReadInside.of_dropped {count : Nat}
    (inside : pattern.ReadInside (start.dropped count) after piece ended) :
    pattern.ReadInside start after piece ended :=
  ⟨inside.begins, inside.apart, inside.rest, inside.groups, inside.names, inside.node,
    inside.conditions⟩

/-- Nothing but the tree of a part matters. -/
theorem Pattern.ReadInside.of_node {other : Regex.Piece}
    (inside : pattern.ReadInside start after piece ended) (same : other.node = piece.node) :
    pattern.ReadInside start after other ended :=
  ⟨inside.begins, inside.apart, inside.rest, inside.groups, inside.names, same ▸ inside.node,
    inside.conditions⟩

/-- The parenthesis behind a group is passed. -/
theorem Pattern.ReadInside.dropped_close
    (inside : pattern.ReadInside start (')' :: after) piece ended) :
    pattern.ReadInside start after piece (ended.dropped 1) := by
  refine ⟨inside.begins, inside.apart, ?_, inside.groups, inside.names, inside.node,
    inside.conditions⟩
  rw [Reading.dropped, inside.rest]
  rfl

/-- What has been read of the whole is what its frame tells. -/
theorem Pattern.frameIn_agrees (settled : start.lookbehindLimit = none)
    (rest : start.rest = pattern.source.toList ++
      ((if pattern.flags.verbose then ['\n'] else []) ++ ')' :: after)) :
    (pattern.frameIn start after).Agrees (Reading.start pattern.source)
      ((pattern.frameIn start after).embed (Reading.start pattern.source)) start := by
  refine ⟨rest, by simp [Frame.embed, Reading.start, frameIn],
    by simp [Frame.embed, Reading.start, frameIn], nofun, fun _ => ?_⟩
  cases start
  subst rest settled
  simp [Frame.embed, Reading.start, Frame.tail, Frame.blank, frameIn]
  rfl

/-- A pattern begins with flags for the whole of it if these are found under the flags that are
given from outside. -/
theorem Pattern.opensWithFlags_iff_given {given flags : Flags} {begun : Reading}
    (same : pattern.flags.verbose = flags.verbose)
    (ran : (globalFlags (pattern.source.length + 1) given).run (Reading.start pattern.source) =
      .ok (flags, begun)) :
    pattern.opensWithFlags = true ↔ ∃ on ended,
      (leadingFlags given ((Reading.start pattern.source).rest.length + 1)).run
        (Reading.start pattern.source) = .ok (some on, ended) := by
  have size : (Reading.start pattern.source).rest.length = pattern.source.length := by
    rw [Reading.start, String.length_toList]
  rw [opensWithFlags_iff, size]
  constructor
  · rintro ⟨on, ended, found⟩
    rcases run_globalFlags ran with ⟨_, -, rfl, -⟩ | ⟨on, middle, led, -⟩
    · exact ⟨on, ended, leadingFlags_mono (fun verbose => same ▸ verbose) found⟩
    · exact ⟨on, middle, size ▸ led⟩
  · rintro ⟨on, ended, found⟩
    refine ⟨on, ended, leadingFlags_mono (fun verbose => ?_) found⟩
    rw [same, run_globalFlags_verbose ran verbose]

/-- A source that begins with flags for the whole of it, and is read to its end behind them, is
refused inside another one. -/
theorem Frame.closing_refused_of_read (frame : Frame) (place : Nat) {given flags on scope : Flags}
    (modes : given.verbose = true → scope.verbose = true) {fuel fuelFlags fuelRead : Nat}
    {first middle behind own begun : Reading} {part : Regex.Piece} (escapes : first.rest ≠ ['\\'])
    (enough : first.rest.length + 2 ≤ fuel)
    (led : (leadingFlags given (first.rest.length + 1)).run first = .ok (some on, middle))
    (further : (globalFlags fuelFlags (given.union on)).run middle = .ok (flags, behind))
    (readAll : (alternation fuelRead flags).run behind = .ok (part, own))
    (heard : frame.Hears own) (agrees : frame.Agrees first (frame.embed first) begun) :
    Frame.Refused ((closing place (alternation fuel scope)).run begun) := by
  have leadsLed := (frame.leadingFlags_refused modes escapes (Nat.lt_succ_self _)
    (Nat.lt_succ_self _) led).1
  have leadsFurther := globalFlags_advances _ _ _ _ _ leadsLed.escapes further
  have leadsAll := alternation_advances _ _ _ _ _ leadsFurther.escapes readAll
  exact frame.closing_refused place modes escapes enough led
    ((heard.before leadsAll).before leadsFurther) agrees

/-- The source of a pattern is read inside another one up to the parenthesis after it. -/
theorem Pattern.Read.inside (read : pattern.Read) (settled : start.lookbehindLimit = none)
    (rest : start.rest = pattern.source.toList ++
      ((if pattern.flags.verbose then ['\n'] else []) ++ ')' :: after))
    (escapesAfter : after ≠ ['\\']) {scope : Flags} (same : scope.core = pattern.flags.core)
    {fuel place : Nat} (enough : 2 * pattern.source.length + 4 ≤ fuel) :
    Gives (pattern.Fits start) (pattern.ReadInside start after)
      Fault.IsMalformed ((closing place (alternation fuel scope)).run start) := by
  obtain ⟨given, own, ranOwn, quiet⟩ := read.run
  obtain ⟨escapes, flags, begun, part, begunFlags, readAll, sound, made⟩ :=
    run_pattern_eq_ok.mp ranOwn
  obtain ⟨-, atEnd, -⟩ := run_checkWhole_eq_ok.mp sound
  have sameFlags : pattern.flags.core = flags.core := by
    rw [made]
    dsimp only
    split <;> rfl
  have sameMode := Flags.verbose_of_core sameFlags
  have sameNames : pattern.names = own.names := by rw [made]
  have sameNode : pattern.node = part.node := by rw [made]
  have size : (Reading.start pattern.source).rest.length = pattern.source.length := by
    rw [Reading.start, String.length_toList]
  have agrees := Pattern.frameIn_agrees settled rest
  have heard : (pattern.frameIn start after).Hears own :=
    ⟨quiet, fun entry known => List.mem_map.mpr ⟨entry, sameNames ▸ known, rfl⟩⟩
  have opens := Pattern.opensWithFlags_iff_given sameMode begunFlags
  rcases run_globalFlags begunFlags with ⟨_, none, rfl, rfl⟩ | ⟨on, middle, led, further⟩
  · have begins : pattern.opensWithFlags = false := by
      rw [Bool.eq_false_iff, ne_eq, opens]
      rintro ⟨on, ended, found⟩
      cases found.symm.trans none
    have embeds := (Frame.branches_parts_embed (pattern.frameIn start after)
      (2 * pattern.source.length + 4)).1 pattern.source.length fuel flags (by omega) (by omega) _
      escapes (Nat.le_of_eq size)
    have placed : (pattern.frameIn start after).ends flags.verbose own =
        some ((pattern.frameIn start after).finish own) := by
      rw [Frame.ends, if_pos atEnd]
      exact if_pos sameMode.symm
    rw [alternation_congr (same.trans sameFlags)]
    refine (embeds.mirrors readAll heard placed agrees).bind (fun fits => ⟨fits.byName,
      fun entry known => fits.apart entry (sameNames ▸ known)⟩) fun {piece middle} both => ?_
    obtain ⟨stands, atClose⟩ := both
    have restClose : middle.rest = ')' :: after := atClose.rest
    have closedAt : (close place).run middle = .ok ((), middle.dropped 1) :=
      run_close_eq_ok.mpr ⟨atClose.firstToken_finish, by rwa [restClose], rfl⟩
    refine .of_ok (run_bind_of_ok closedAt _) ⟨begins, fun entry known => ?_, ?_, ?_, ?_, ?_, ?_⟩
    · exact atClose.apart entry (sameNames ▸ known)
    · rw [Reading.dropped, restClose]
      rfl
    · rw [made]
      exact atClose.groups.trans List.length_append
    · rw [made]
      exact atClose.names
    · rw [sameNode]
      exact stands.node
    · exact fun byName => atClose.exact byName ▸ rfl
  · -- The source begins with flags for the whole pattern, which are refused inside another.
    have opened := opens.mpr ⟨on, middle, led⟩
    have modes : given.verbose = true → scope.verbose = true := by
      intro verbose
      have after := run_globalFlags_verbose begunFlags verbose
      rw [Flags.verbose_of_core (same.trans sameFlags), after]
    have enoughWhole : (Reading.start pattern.source).rest.length + 2 ≤ fuel := by omega
    have refused := (pattern.frameIn start after).closing_refused_of_read place modes escapes
      enoughWhole led further readAll heard agrees
    exact refused.mono (fun fits => Bool.eq_false_iff.mp fits.begins opened) False.elim

end

/-! ## Groups with flags -/

/-- The letters that a group can switch on for its contents, whatever repertoire is chosen. -/
def isScopeLetter (c : Char) : Bool :=
  ['i', 'm', 's', 'x', 'a'].contains c

/-- A letter is none of the signs that flags are read by, and stands for a flag of a group. -/
theorem isScopeLetter_iff {c : Char} :
    isScopeLetter c = true ↔ c = 'i' ∨ c = 'm' ∨ c = 's' ∨ c = 'x' ∨ c = 'a' := by
  simp [isScopeLetter]

/-- The flags with those of letters switched on. -/
def withLetters (letters : List Char) (on : Flags) : Flags :=
  letters.foldl (fun flags c => flags.union (flagOf (.plain c))) on

/-- A letter that chooses no second repertoire is read. -/
theorem flagsOn_succ {letter : Char} (known : isScopeLetter letter = true) {on : Flags}
    (repertoire : on.unicode = false) (fuel : Nat) :
    (on.union (flagOf (.plain letter))).unicode = false ∧
      flagsOn (fuel + 1) (.plain letter) on = (do
        match ← next with
        | none => fail .missingFlagsEnd 0
        | some following =>
          if following == .plain ')' || following == .plain '-' || following == .plain ':' then
            return (on.union (flagOf (.plain letter)), following)
          else if isFlagLetter following then
            flagsOn fuel following (on.union (flagOf (.plain letter)))
          else refuseFlag following .missingFlagsEnd) := by
  have unicode : (on.union (flagOf (.plain letter))).unicode = false := by
    rcases isScopeLetter_iff.mp known with rfl | rfl | rfl | rfl | rfl <;>
      simp [Flags.union, repertoire, flagOf, Flags.ofLetter?]
  have noLocale : (Token.plain letter == .plain 'L') = false := by
    rcases isScopeLetter_iff.mp known with rfl | rfl | rfl | rfl | rfl <;> decide
  refine ⟨unicode, ?_⟩
  rw [flagsOn]
  simp only [noLocale, unicode, Bool.and_false]
  rfl

/-- Letters are read as the flags that they stand for. -/
theorem run_flagsOn {letters more : List Char} {letter : Char} {on : Flags} {fuel : Nat}
    {start : Reading} (known : ∀ c ∈ letter :: letters, isScopeLetter c = true)
    (repertoire : on.unicode = false) (rest : start.rest = letters ++ ':' :: more)
    (escapes : more ≠ ['\\']) (enough : letters.length < fuel) :
    (flagsOn fuel (.plain letter) on).run start =
      .ok ((withLetters (letter :: letters) on, .plain ':'),
        start.dropped (letters.length + 1)) := by
  induction letters generalizing letter on fuel start with
  | nil =>
      obtain ⟨fuel, rfl⟩ : ∃ less, fuel = less + 1 := ⟨fuel - 1, by omega⟩
      obtain ⟨-, step⟩ := flagsOn_succ (known letter List.mem_cons_self) repertoire fuel
      have first : firstToken start.rest = some (.plain ':') :=
        rest ▸ firstToken_cons (by decide) _
      have dropped : start.rest.drop 1 ≠ ['\\'] := by
        rw [rest]
        exact escapes
      rw [step, run_bind_of_ok (run_next first dropped)]
      rfl
  | cons c letters inductionHypothesis =>
      obtain ⟨fuel, rfl⟩ : ∃ less, fuel = less + 1 := ⟨fuel - 1, by omega⟩
      obtain ⟨single, step⟩ := flagsOn_succ (known letter List.mem_cons_self) repertoire fuel
      have knownNext := known c (List.mem_cons_of_mem _ List.mem_cons_self)
      have signs : c ≠ '\\' ∧ (Token.plain c == .plain ')' || Token.plain c == .plain '-' ||
          Token.plain c == .plain ':') = false ∧ isFlagLetter (.plain c) = true := by
        rcases isScopeLetter_iff.mp knownNext with rfl | rfl | rfl | rfl | rfl <;> decide
      have first : firstToken start.rest = some (.plain c) :=
        rest ▸ firstToken_cons signs.1 _
      have dropped : (start.dropped 1).rest = letters ++ ':' :: more := by
        rw [Reading.dropped, rest]
        rfl
      have escapesNext : letters ++ ':' :: more ≠ ['\\'] := by
        cases letters <;> simp
      rw [step, run_bind_of_ok
        (run_next first (fun alone => escapesNext (dropped.symm.trans alone)))]
      dsimp only
      rw [signs.2.1, signs.2.2]
      have further := inductionHypothesis
        (fun d member => known d (List.mem_cons_of_mem _ member)) single dropped
        (Nat.lt_of_succ_lt_succ enough)
      rw [Reading.dropped_dropped, Nat.add_comm] at further
      exact further

/-- Letters of a group do not forbid repetition. -/
theorem withLetters_plain {letters : List Char} (known : ∀ c ∈ letters, isScopeLetter c = true)
    {on : Flags} (repetition : on.plain = false) : (withLetters letters on).plain = false := by
  induction letters generalizing on with
  | nil => exact repetition
  | cons c letters inductionHypothesis =>
      refine inductionHypothesis (fun d member => known d (List.mem_cons_of_mem _ member)) ?_
      rcases isScopeLetter_iff.mp (known c List.mem_cons_self) with
        rfl | rfl | rfl | rfl | rfl <;> simp [Flags.union, repetition, flagOf, Flags.ofLetter?]

/-- A group that letters open switches their flags on and none off. -/
theorem run_flagsOpening {letters more : List Char} {letter : Char} {start : Reading}
    (known : ∀ c ∈ letter :: letters, isScopeLetter c = true)
    (rest : start.rest = letters ++ ':' :: more) (escapes : more ≠ ['\\']) :
    (flagsOpening (.plain letter)).run start =
      .ok (.grouping (withLetters (letter :: letters) {}) {},
        start.dropped (letters.length + 1)) := by
  have size : letters.length < start.rest.length + 1 := by
    rw [rest, List.length_append]
    omega
  have noDash : (Token.plain letter == .plain '-') = false := by
    rcases isScopeLetter_iff.mp (known letter List.mem_cons_self) with
      rfl | rfl | rfl | rfl | rfl <;> decide
  have switched : (switchedOn (start.rest.length + 1) (.plain letter)).run start =
      .ok ((withLetters (letter :: letters) {}, .plain ':'),
        start.dropped (letters.length + 1)) := by
    rw [switchedOn, noDash]
    exact run_flagsOn known rfl rest escapes size
  have repetition := withLetters_plain known (rfl : ({} : Flags).plain = false)
  have none : (withLetters (letter :: letters) {}).meets {} = false := by simp [Flags.meets]
  have noneOff : (switchedOff (start.rest.length + 1) (.plain ':')).run
      (start.dropped (letters.length + 1)) = .ok ({}, start.dropped (letters.length + 1)) := rfl
  rw [flagsOpening, run_bind_of_ok (run_left start), run_bind_of_ok switched]
  dsimp only
  rw [if_neg (by decide), if_neg (by simp [repetition]), run_bind_of_ok noneOff,
    if_neg (by decide), if_neg (by simp [none])]
  rfl

/-- A bracket without a question mark behind it opens a capturing group. -/
theorem run_opening_capturing {start : Reading}
    (noQuestion : firstToken start.rest ≠ some (.plain '?')) :
    opening.run start = .ok (.capturing none, start) := by
  rw [opening, run_bind_of_ok (run_accept_of_ne noQuestion)]
  rfl

/-- A group that switches letters on is opened by them. -/
theorem run_opening_letters {letters more : List Char} {letter : Char} {start : Reading}
    (known : ∀ c ∈ letter :: letters, isScopeLetter c = true)
    (rest : start.rest = '?' :: letter :: letters ++ ':' :: more) (escapes : more ≠ ['\\']) :
    opening.run start = .ok (.grouping (withLetters (letter :: letters) {}) {},
      start.dropped (letters.length + 3)) := by
  have escapesLetters : letters ++ ':' :: more ≠ ['\\'] := by
    cases letters <;> simp
  have signs : letter ≠ '\\' := by
    rcases isScopeLetter_iff.mp (known letter List.mem_cons_self) with
      rfl | rfl | rfl | rfl | rfl <;> decide
  have mark : firstToken start.rest = some (.plain '?') :=
    rest ▸ firstToken_cons (by decide) _
  have afterMark : (start.dropped 1).rest = letter :: (letters ++ ':' :: more) := by
    rw [Reading.dropped, rest]
    rfl
  have first : firstToken (start.dropped 1).rest = some (.plain letter) :=
    afterMark ▸ firstToken_cons signs _
  have escapesMark : start.rest.drop 1 ≠ ['\\'] := by
    rw [rest]
    simp
  have escapesLetter : (start.dropped 1).rest.drop 1 ≠ ['\\'] := by
    rw [afterMark]
    exact escapesLetters
  have afterLetter : ((start.dropped 1).dropped 1).rest = letters ++ ':' :: more := by
    rw [Reading.dropped, afterMark]
    rfl
  have opened := run_flagsOpening known afterLetter escapes
  have passed : ((start.dropped 1).dropped 1).dropped (letters.length + 1) =
      start.dropped (letters.length + 3) := by
    simp only [Reading.dropped_dropped]
    congr 1
    omega
  rw [passed] at opened
  rw [opening, run_bind_of_ok (run_accept mark escapesMark)]
  refine (run_bind_of_ok (run_next first escapesLetter) _).trans ?_
  rcases isScopeLetter_iff.mp (known letter List.mem_cons_self) with
    rfl | rfl | rfl | rfl | rfl <;> exact opened

/-- The letters of flags switch them on for a group. -/
theorem core_switched_flagLetters (flags : Flags) :
    (Flags.switched {} (withLetters (TokenRule.flagLetters flags) {}) {}).core = flags.core := by
  obtain ⟨i, m, s, x, a, u, t⟩ := flags
  cases i <;> cases m <;> cases s <;> cases x <;> cases a <;> rfl

/-- Without letters the flags are those of a pattern that has none. -/
theorem core_of_flagLetters_nil {flags : Flags} (none : TokenRule.flagLetters flags = []) :
    ({} : Flags).core = flags.core := by
  obtain ⟨i, m, s, x, a, u, t⟩ := flags
  cases i <;> cases m <;> cases s <;> cases x <;> cases a <;> first | rfl | cases none

/-- The letters of flags can stand in a group. -/
theorem isScopeLetter_of_mem {flags : Flags} {c : Char}
    (member : c ∈ TokenRule.flagLetters flags) : isScopeLetter c = true := by
  obtain ⟨i, m, s, x, a, u, t⟩ := flags
  rw [isScopeLetter_iff]
  simp only [TokenRule.flagLetters, List.mem_append, List.mem_ite_nil_right,
    List.mem_singleton] at member
  grind

/-! ## The scoped source -/

section

variable {pattern : Pattern}

/-- A group that switches on the letters of a pattern before its source is read as the pattern. -/
theorem Pattern.Read.lettersGroup (read : pattern.Read) {start : Reading}
    (settled : start.lookbehindLimit = none) {letter : Char} {others after : List Char}
    (letters : TokenRule.flagLetters pattern.flags = letter :: others)
    (rest : start.rest = '(' :: ('?' :: letter :: others ++ ':' :: (pattern.source.toList ++
      ((if pattern.flags.verbose then ['\n'] else []) ++ ')' :: ')' :: after))))
    {fuel : Nat} (enough : 2 * start.rest.length ≤ fuel) :
    Gives (pattern.Fits start) (pattern.ReadInside start (')' :: after))
      Fault.IsMalformed ((sequence fuel {} []).run start) := by
  have known : ∀ c ∈ letter :: others, isScopeLetter c = true :=
    fun c member => isScopeLetter_of_mem (letters ▸ member)
  have first : firstToken start.rest = some (.plain '(') :=
    rest ▸ firstToken_cons (by decide) _
  have escapesOpen : start.rest.drop 1 ≠ ['\\'] := by
    rw [rest]
    simp
  have afterOpen : (start.dropped 1).rest = '?' :: letter :: others ++ ':' ::
      (pattern.source.toList ++ ((if pattern.flags.verbose then ['\n'] else []) ++
        ')' :: ')' :: after)) := by
    rw [Reading.dropped, rest]
    rfl
  have escapesLetters : pattern.source.toList ++
      ((if pattern.flags.verbose then ['\n'] else []) ++ ')' :: ')' :: after) ≠ ['\\'] := by
    intro alone
    have size := congrArg List.length alone
    simp only [List.length_append, List.length_cons, List.length_nil] at size
    omega
  have size : pattern.source.length + 6 ≤ start.rest.length := by
    rw [rest, ← String.length_toList]
    simp only [List.length_append, List.length_cons]
    omega
  have opened := run_opening_letters known afterOpen escapesLetters
  obtain ⟨fuel, rfl⟩ : ∃ less, fuel = less + 2 := ⟨fuel - 2, by omega⟩
  have afterLetters : ((start.dropped 1).dropped (others.length + 3)).rest =
      pattern.source.toList ++ ((if pattern.flags.verbose then ['\n'] else []) ++
        ')' :: ')' :: after) := by
    rw [Reading.dropped, afterOpen]
    simp
  have same := core_switched_flagLetters pattern.flags
  rw [letters] at same
  have enoughInside : 2 * pattern.source.length + 4 ≤ fuel + 1 := by omega
  have settledInside : ((start.dropped 1).dropped (others.length + 3)).lookbehindLimit = none :=
    settled
  have inside : Gives (pattern.Fits start) (pattern.ReadInside start (')' :: after))
      Fault.IsMalformed ((closing start.position (alternation (fuel + 1)
        (Flags.switched {} (withLetters (letter :: others) {}) {}))).run
          ((start.dropped 1).dropped (others.length + 3))) :=
    (read.inside settledInside afterLetters (by simp) same enoughInside).mono
      (fun fits => (fits.dropped 1).dropped _) fun inside => inside.of_dropped.of_dropped
  have group : Gives (pattern.Fits start)
      (fun given inner => ∃ body, given = some body ∧
        pattern.ReadInside start (')' :: after) body inner)
      Fault.IsMalformed
      ((groupPiece {} start.position (alternation (fuel + 1)) (sequence (fuel + 1) {} [])
        (.grouping (withLetters (letter :: others) {}) {})).run
          ((start.dropped 1).dropped (others.length + 3))) :=
    inside.bind id fun {body inner} inside => .of_ok rfl ⟨_, rfl, inside.of_node rfl⟩
  rw [sequence_of_open first escapesOpen, run_bind_of_ok opened]
  refine group.bind id fun {given inner} read => ?_
  obtain ⟨body, rfl, inside⟩ := read
  have closeNext : firstToken inner.rest = some (.plain ')') :=
    inside.rest ▸ firstToken_cons (by decide) _
  exact .of_ok (sequence_of_close closeNext _ _ _) inside

/-- The source of a pattern in a group that keeps its flags is read as the pattern. -/
theorem Pattern.Read.scoped (read : pattern.Read) {start : Reading}
    (settled : start.lookbehindLimit = none) {after : List Char} (escapesAfter : after ≠ ['\\'])
    (rest : start.rest = (TokenRule.scopedSource pattern).toList ++ ')' :: after)
    {fuel place : Nat} (enough : 2 * start.rest.length + 4 ≤ fuel) :
    Gives (pattern.Fits start) (pattern.ReadInside start after)
      Fault.IsMalformed ((closing place (alternation fuel {})).run start) := by
  unfold TokenRule.scopedSource at rest
  cases letters : TokenRule.flagLetters pattern.flags with
  | nil =>
      have same := core_of_flagLetters_nil letters
      have noBlank : pattern.flags.verbose = false := (Flags.verbose_of_core same).symm
      refine read.inside settled ?_ escapesAfter same ?_
      · rw [rest, letters, noBlank]
        rfl
      · have size : pattern.source.length ≤ start.rest.length := by
          rw [rest, letters, List.length_append, ← String.length_toList]
          exact Nat.le_add_right _ _
        omega
  | cons letter others =>
      have expanded : start.rest = '(' :: ('?' :: letter :: others ++ ':' ::
          (pattern.source.toList ++ ((if pattern.flags.verbose then ['\n'] else []) ++
            ')' :: ')' :: after))) := by
        rw [rest, letters]
        cases pattern.flags.verbose <;> simp
      obtain ⟨fuel, rfl⟩ : ∃ less, fuel = less + 1 := ⟨fuel - 1, by omega⟩
      have group := read.lettersGroup settled letters expanded (show _ ≤ fuel by omega)
      have branch : Gives (pattern.Fits start) (pattern.ReadInside start (')' :: after))
          Fault.IsMalformed ((alternation (fuel + 1) {}).run start) := by
        rw [alternation]
        refine group.bind id fun {piece middle} inside => ?_
        have closeNext : firstToken middle.rest = some (.plain ')') :=
          inside.rest ▸ firstToken_cons (by decide) _
        rw [run_bind_of_ok (run_accept_of_ne (by rw [closeNext]; decide))]
        exact .of_ok rfl (inside.of_node rfl)
      refine branch.bind id fun {piece middle} inside => ?_
      have closedAt : (close place).run middle = .ok ((), middle.dropped 1) := by
        refine run_close_eq_ok.mpr ⟨inside.rest ▸ firstToken_cons (by decide) _, ?_, rfl⟩
        rw [inside.rest]
        exact escapesAfter
      exact .of_ok (run_bind_of_ok closedAt _) inside.dropped_close

/-- A closing parenthesis is no lone backslash. -/
theorem append_close_escapes (chars after : List Char) : chars ++ ')' :: after ≠ ['\\'] := by
  cases chars <;> simp

/-- The source of a pattern in a group that keeps its flags does not begin with a question mark. -/
theorem Pattern.Read.scoped_noQuestion (read : pattern.Read) (after : List Char) :
    firstToken ((TokenRule.scopedSource pattern).toList ++ ')' :: after) ≠ some (.plain '?') := by
  have noQuestion := read.noQuestion
  obtain ⟨given, own, ran⟩ := read
  obtain ⟨escapes, -⟩ := run_pattern_eq_ok.mp ran
  unfold TokenRule.scopedSource
  cases letters : TokenRule.flagLetters pattern.flags with
  | nil =>
      by_cases empty : pattern.source.toList = []
      · simp [empty, firstToken_cons]
      · simpa [firstToken_append empty escapes] using noQuestion
  | cons letter others => simp [firstToken_cons]

end

end Regex

end Structex
