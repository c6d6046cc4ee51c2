import Mathlib.Algebra.Group.Nat.Defs
import Structex.Proofs.Regex.Scope

/-!
# What refuses a source

A source that breaks the grammar is refused with its own text. Two more things can be wrong with
it, and they are told by the text alone: it writes a number that is beyond all bounds, or it asks
for two repertoires of characters. Reading only goes forward, so what has been taken last stands in
the source before what is left (`Reading.Behind`). A reader that keeps this and finds nothing that
the source does not write is followed along the grammar (`Traces`).
-/

namespace Structex.Regex

/-! ## What a source writes -/

/-- How the counts of a repetition are written behind the opening brace. -/
inductive CountsText : (low high : List Char) → List Char → Prop where
  | same (low : List Char) : CountsText low low (low ++ ['\x7d'])
  | range (low high : List Char) : CountsText low high (low ++ ',' :: high ++ ['\x7d'])

/-- A source writes a number that is beyond all bounds. -/
inductive WritesLarge (source : List Char) : Prop where
  /-- As the count of a repetition. -/
  | count {low high text : List Char} (counts : CountsText low high text)
      (digits : ∀ c ∈ low ++ high, Text.isAsciiDigit c = true)
      (written : '\x7b' :: text <:+: source)
      (large : countBound ≤ Decimal.ofDigits 10 (low.map Decimal.digitOf) ∨
        countBound ≤ Decimal.ofDigits 10 (high.map Decimal.digitOf))
  /-- As the number of a character, in eight hexadecimal digits. -/
  | character {digits : List Char} (eight : digits.length = 8)
      (hex : ∀ c ∈ digits, Text.isHexDigit c = true) (written : '\\' :: 'U' :: digits <:+: source)
      (large : 0x7fffffff < Decimal.ofDigits 16 (digits.map Decimal.digitOf))

/-- A source has a group of letters that switches on a flag for the whole pattern. -/
def SwitchesOn (source : List Char) (letter : Char) : Prop :=
  ∃ letters, letter ∈ letters ∧ (∀ c ∈ letters, (Flags.ofLetter? c).isSome = true) ∧
    '(' :: '?' :: letters ++ [')'] <:+: source

/-- What a fault says of the source is so. -/
def Fault.WrittenIn (source : List Char) : Fault → Prop
  | .malformed _ _ text => text = source
  | .numberTooLarge => WritesLarge source
  | .repertoireClash => SwitchesOn source 'a' ∧ SwitchesOn source 'u'

/-- The source goes on with what was taken last and then with what is left. -/
structure Reading.Behind (source taken : List Char) (reading : Reading) : Prop where
  whole : reading.source = source
  follows : taken ++ reading.rest <:+ source

namespace Reading.Behind

variable {source taken : List Char} {reading : Reading}

/-- What was taken stands in the source. -/
theorem written (behind : reading.Behind source taken) : taken <:+: source :=
  (List.prefix_append _ _).isInfix.trans behind.follows.isInfix

/-- What was taken earlier need not be remembered. -/
theorem forget {earlier : List Char} (behind : reading.Behind source (earlier ++ taken)) :
    reading.Behind source taken where
  whole := behind.whole
  follows := by
    refine List.IsSuffix.trans ?_ behind.follows
    rw [List.append_assoc]
    exact List.suffix_append _ _

/-- Nothing need be remembered. -/
theorem forgetAll (behind : reading.Behind source taken) : reading.Behind source [] :=
  @forget source [] reading taken (by rwa [List.append_nil])

/-- Characters that come next are taken. -/
theorem dropped (behind : reading.Behind source taken) {chars after : List Char}
    (next : reading.rest = chars ++ after) {count : Nat} (size : chars.length = count) :
    (reading.dropped count).Behind source (taken ++ chars) where
  whole := behind.whole
  follows := by
    have rest : (reading.dropped count).rest = after := by
      rw [Reading.dropped, next, ← size, List.drop_left]
    rw [rest, List.append_assoc, ← next]
    exact behind.follows

/-- A change of the state that leaves the source alone. -/
theorem of_same {other : Reading} (behind : reading.Behind source taken)
    (sameSource : other.source = reading.source) (sameRest : other.rest = reading.rest) :
    other.Behind source taken :=
  ⟨sameSource.trans behind.whole, sameRest ▸ behind.follows⟩

end Reading.Behind

/-- Reading is begun before the whole source. -/
theorem Reading.behind_start (source : String) :
    (Reading.start source).Behind source.toList [] :=
  ⟨rfl, List.suffix_refl _⟩

namespace Reader

variable {α β : Type} {source taken : List Char} {start : Reading}

/-- What is known of an outcome: an answer is as it should be, and a fault is told by the source. -/
abbrev Tells (source : List Char) (right : α → Reading → Prop)
    (outcome : Except Fault (α × Reading)) : Prop :=
  Gives False right (·.WrittenIn source) outcome

/-- A reader goes forward, and what it finds wrong is so. -/
def Traces (reader : Reader α) : Prop :=
  ∀ source start, start.Behind source [] →
    Tells source (fun _ ended => ended.Behind source []) (reader.run start)

/-- A reader goes forward by the characters that its answer tells. -/
def Takes (chars : α → List Char) (reader : Reader α) : Prop :=
  ∀ source taken start, start.Behind source taken →
    Tells source (fun answer ended => ended.Behind source (taken ++ chars answer))
      (reader.run start)

theorem Takes.traces {chars : α → List Char} {reader : Reader α} (takes : reader.Takes chars) :
    reader.Traces :=
  fun source start behind => (takes source [] start behind).mono id Reading.Behind.forgetAll

theorem Traces.bind {first : Reader α} {second : α → Reader β} (ofFirst : first.Traces)
    (ofSecond : ∀ given, (second given).Traces) : (first >>= second).Traces :=
  fun source start behind =>
    (ofFirst source start behind).bind id fun still => ofSecond _ source _ still

/-- What goes on from characters that have been taken may look back on them. -/
theorem Takes.bind {chars : α → List Char} {first : Reader α} {second : α → Reader β}
    (takes : first.Takes chars) (behind : start.Behind source taken)
    {right : β → Reading → Prop}
    (ofSecond : ∀ {given middle}, middle.Behind source (taken ++ chars given) →
      Tells source right ((second given).run middle)) :
    Tells source right ((first >>= second).run start) :=
  (takes source taken start behind).bind id ofSecond

theorem pure_takes {chars : α → List Char} {answer : α} (none : chars answer = []) :
    (pure answer : Reader α).Takes chars :=
  fun _ _ _ behind => .of_ok rfl (by rwa [none, List.append_nil])

theorem pure_traces (answer : α) : (pure answer : Reader α).Traces :=
  fun _ _ behind => .of_ok rfl behind

theorem get_traces : (get : Reader Reading).Traces :=
  fun _ _ behind => .of_ok rfl behind

theorem modify_traces {change : Reading → Reading}
    (source : ∀ reading, (change reading).source = reading.source)
    (rest : ∀ reading, (change reading).rest = reading.rest) :
    (modify change : Reader Unit).Traces :=
  fun _ _ behind => .of_ok rfl (behind.of_same (source _) (rest _))

theorem failAt_traces (cause : Cause) (position : Nat) :
    (failAt cause position : Reader α).Traces :=
  fun _ _ behind => .of_error rfl behind.whole id

theorem fail_traces (cause : Cause) (back : Nat) : (fail cause back : Reader α).Traces :=
  fun _ _ behind => .of_error rfl behind.whole id

/-- Nothing comes after a refusal. -/
theorem fail_bind_traces (cause : Cause) (back : Nat) (second : α → Reader β) :
    (fail cause back >>= second).Traces :=
  fun _ _ behind => .of_error rfl behind.whole id

/-! ## Taking what comes next -/

/-- Characters that come next are dropped. -/
theorem run_drop_tells (behind : start.Behind source taken) {chars after : List Char}
    (next : start.rest = chars ++ after) {count : Nat} (size : chars.length = count) :
    Tells source (fun _ ended => ended.Behind source (taken ++ chars))
      ((drop count).run start) := by
  have dropped := behind.dropped next size
  refine ⟨fun ran => ?_, fun failed => ?_, False.elim⟩
  · obtain ⟨-, rfl⟩ := run_drop_eq_ok.mp ran
    exact dropped
  · have failed : checkEscape.run (start.dropped count) = .error _ := failed
    unfold checkEscape at failed
    rw [run_bind_of_ok (show (get : Reader Reading).run _ = .ok (_, _) from rfl)] at failed
    split at failed
    · exact (failAt_traces _ _ _ _ dropped.forgetAll).wrong failed
    · cases failed

/-- The next token is dropped. -/
theorem run_dropToken_tells (behind : start.Behind source taken) {token : Token}
    (first : firstToken start.rest = some token) :
    Tells source (fun _ ended => ended.Behind source (taken ++ token.chars))
      ((drop token.width).run start) :=
  run_drop_tells behind (eq_append_of_firstToken first) rfl

theorem next_takes : next.Takes (·.elim [] Token.chars) := by
  intro source taken start behind
  rw [next, run_bind_of_ok (run_peek start)]
  cases first : firstToken start.rest with
  | none => exact pure_takes rfl _ _ _ behind
  | some token => exact (run_dropToken_tells behind first).bind id fun later => .of_ok rfl later

theorem accept_takes (c : Char) : (accept c).Takes fun seen => if seen then [c] else [] := by
  intro source taken start behind
  rw [accept, run_bind_of_ok (run_sees c start)]
  cases seen : firstToken start.rest == some (.plain c) with
  | false => exact pure_takes rfl _ _ _ behind
  | true =>
      have first : firstToken start.rest = some (.plain c) := beq_iff_eq.mp seen
      exact (run_dropToken_tells behind first).bind id fun later => .of_ok rfl later

/-- Characters of a class are taken. -/
theorem takeSome_takes (holds : Char → Bool) (most : Nat) :
    ∀ source taken start, start.Behind source taken →
      Tells source (fun chars ended => ended.Behind source (taken ++ chars) ∧
        ∀ c ∈ chars, holds c = true) ((takeSome holds most).run start) := by
  induction most with
  | zero => exact fun _ _ _ behind => .of_ok rfl ⟨by rwa [List.append_nil], nofun⟩
  | succ most inductionHypothesis =>
      intro source taken start behind
      have nothing : Tells source (fun chars ended => ended.Behind source (taken ++ chars) ∧
          ∀ c ∈ chars, holds c = true) ((pure [] : Reader (List Char)).run start) :=
        .of_ok rfl ⟨by rwa [List.append_nil], nofun⟩
      rw [takeSome, run_bind_of_ok (run_peek start)]
      split
      · rename_i c first
        split
        · rename_i held
          refine (run_dropToken_tells behind first).bind id fun {_ middle} after => ?_
          refine (inductionHypothesis source _ middle after).bind id fun {chars ended} later => ?_
          refine .of_ok rfl ⟨?_, List.forall_mem_cons.mpr ⟨held, later.2⟩⟩
          have whole := later.1
          rwa [List.append_assoc] at whole
        · exact nothing
      · exact nothing

theorem next_traces : next.Traces := next_takes.traces

theorem accept_traces (c : Char) : (accept c).Traces := (accept_takes c).traces

theorem takeSome_traces (holds : Char → Bool) (most : Nat) : (takeSome holds most).Traces :=
  fun source start behind => (takeSome_takes holds most source [] start behind).mono id
    fun later => later.1.forgetAll

theorem peek_traces : peek.Traces := get_traces.bind fun _ => pure_traces _

theorem sees_traces (c : Char) : (sees c).Traces := peek_traces.bind fun _ => pure_traces _

theorem left_traces : left.Traces := get_traces.bind fun _ => pure_traces _

theorem groupCount_traces : groupCount.Traces := get_traces.bind fun _ => pure_traces _

theorem untilLoop_traces (terminator : Char) (what : String) (fuel : Nat) (chars : List Char) :
    (untilLoop terminator what fuel chars).Traces := by
  induction fuel generalizing chars with
  | zero => exact pure_traces _
  | succ fuel inductionHypothesis =>
      refine next_traces.bind fun token => ?_
      cases token with
      | none =>
          dsimp only
          split
          · exact fail_traces _ _
          · exact fail_traces _ _
      | some token =>
          dsimp only
          split
          · split
            · exact fail_traces _ _
            · exact pure_traces _
          · exact inductionHypothesis _

theorem takeName_traces (terminator : Char) (what : String) :
    (takeName terminator what).Traces :=
  left_traces.bind fun _ => untilLoop_traces _ _ _ _

theorem skipLine_traces (fuel : Nat) : (skipLine fuel).Traces := by
  induction fuel with
  | zero => exact pure_traces ()
  | succ fuel inductionHypothesis =>
      refine next_traces.bind fun token => ?_
      cases token with
      | none => exact pure_traces ()
      | some token =>
          dsimp only
          split
          · exact pure_traces ()
          · exact inductionHypothesis

theorem skipComment_traces (place fuel : Nat) : (skipComment place fuel).Traces := by
  induction fuel with
  | zero => exact pure_traces ()
  | succ fuel inductionHypothesis =>
      refine next_traces.bind fun token => ?_
      cases token with
      | none => exact failAt_traces _ _
      | some token =>
          dsimp only
          split
          · exact pure_traces ()
          · exact inductionHypothesis

/-! ## Groups that are known -/

theorem checkName_traces (name : List Char) : (checkName name).Traces := by
  unfold checkName
  split
  · exact pure_traces ()
  · exact fail_traces _ _

theorem nameGroup_traces (chars : List Char) (group : Nat) : (nameGroup chars group).Traces := by
  refine get_traces.bind fun reading => ?_
  split
  · exact fail_traces _ _
  · exact modify_traces (fun _ => rfl) fun _ => rfl

theorem openGroup_traces (name : Option (List Char)) : (openGroup name).Traces := by
  have opened : ∀ group : Nat, (do
      modify fun reading => { reading with widths := reading.widths ++ [none] }
      return group : Reader Nat).Traces :=
    fun group => Traces.bind (modify_traces (fun _ => rfl) fun _ => rfl) fun _ => pure_traces group
  refine groupCount_traces.bind fun count => ?_
  cases name with
  | none => exact opened _
  | some chars => exact (nameGroup_traces _ _).bind fun _ => opened _

theorem closeGroup_traces (group : Nat) (width : Width) : (closeGroup group width).Traces :=
  modify_traces (fun _ => rfl) fun _ => rfl

theorem namedGroup_traces (name : List Char) : (namedGroup name).Traces := by
  refine get_traces.bind fun reading => ?_
  split
  · exact pure_traces _
  · exact fail_traces _ _

theorem referredWidth_traces (group back : Nat) : (referredWidth group back).Traces := by
  refine get_traces.bind fun reading => ?_
  split
  · exact pure_traces _
  · exact fail_traces _ _

theorem noteReference_traces (group : Nat) : (noteReference group).Traces :=
  modify_traces (fun _ => rfl) fun _ => rfl

theorem noteCondition_traces (group back : Nat) : (noteCondition group back).Traces := by
  refine modify_traces (fun reading => ?_) fun reading => ?_
  · split <;> rfl
  · split <;> rfl

theorem checkLookbehind_traces (group : Nat) : (checkLookbehind group).Traces := by
  refine get_traces.bind fun reading => ?_
  split
  · exact pure_traces ()
  split
  · exact fail_traces _ _
  split
  · exact fail_traces _ _
  · exact pure_traces ()

theorem limitReferences_traces (limit : Option Nat) : (limitReferences limit).Traces :=
  modify_traces (fun _ => rfl) fun _ => rfl

theorem lookingBehind_traces {body : Reader α} (traces : body.Traces) :
    (lookingBehind body).Traces := by
  refine get_traces.bind fun reading => ?_
  split
  · exact traces
  · exact groupCount_traces.bind fun _ => (limitReferences_traces _).bind fun _ =>
      traces.bind fun _ => (limitReferences_traces _).bind fun _ => pure_traces _

theorem close_traces (place : Nat) : (close place).Traces := by
  refine (accept_traces _).bind fun closed => ?_
  split
  · exact pure_traces ()
  · exact failAt_traces _ _

theorem closing_traces {contents : Reader α} (traces : contents.Traces) (place : Nat) :
    (closing place contents).Traces :=
  traces.bind fun _ => (close_traces place).bind fun _ => pure_traces _

/-! ## Escapes and sets -/

/-- Digits of a base write less than its power. -/
theorem ofDigits_lt {base : Nat} {digits : List Nat} (small : ∀ digit ∈ digits, digit < base) :
    Decimal.ofDigits base digits < base ^ digits.length := by
  have behind : ∀ value, digits.foldl (fun value digit => value * base + digit) value <
      (value + 1) * base ^ digits.length := by
    induction digits with
    | nil => simp
    | cons digit rest inductionHypothesis =>
        intro value
        obtain ⟨below, others⟩ := List.forall_mem_cons.mp small
        have next : value * base + digit + 1 ≤ (value + 1) * base := by
          rw [Nat.succ_mul]
          omega
        rw [List.foldl_cons, List.length_cons, Nat.pow_succ', ← Nat.mul_assoc]
        exact Nat.lt_of_lt_of_le (inductionHypothesis others _) (Nat.mul_le_mul_right _ next)
  simpa [Decimal.ofDigits] using behind 0

theorem digitOf_lt (c : Char) : Decimal.digitOf c < 16 := by
  have code : c.toNat = c.val.toNat := rfl
  simp only [Decimal.digitOf, Text.isAsciiDigit, Bool.and_eq_true, decide_eq_true_eq, Char.le_def,
    UInt32.le_iff_toNat_le, Char.reduceVal, UInt32.reduceToNat, code]
  split
  · omega
  split
  · omega
  split
  · omega
  · decide

/-- Only eight digits can write the number of a character that is too large. -/
theorem hexEscape_tells {letter : Char} {digits : Nat}
    (behind : start.Behind source ['\\', letter])
    (few : digits ≤ 4 ∨ letter = 'U' ∧ digits = 8) :
    Tells source (fun _ ended => ended.Behind source []) ((hexEscape letter digits).run start) := by
  refine (takeSome_takes Text.isHexDigit digits source _ start behind).bind id
    fun {chars middle} taken => ?_
  obtain ⟨later, hex⟩ := taken
  dsimp only
  split
  · exact fail_bind_traces _ _ _ _ _ later.forgetAll
  · rename_i size
    have size : chars.length = digits := by simpa using size
    split
    · rename_i large
      refine .of_error rfl ?_ id
      rcases few with few | ⟨rfl, rfl⟩
      · have small : ∀ digit ∈ chars.map Decimal.digitOf, digit < 16 :=
          List.forall_mem_map.mpr fun c _ => digitOf_lt c
        have below := ofDigits_lt small
        have bound : 16 ^ (chars.map Decimal.digitOf).length ≤ 16 ^ 4 :=
          Nat.pow_le_pow_right (by decide) (by rw [List.length_map]; omega)
        omega
      · exact .character size hex later.written large
    · split
      · exact fail_bind_traces _ _ _ _ _ later.forgetAll
      · exact .of_ok rfl later.forgetAll

theorem namedEscape_traces : namedEscape.Traces := by
  refine (accept_traces _).bind fun opened => ?_
  split
  · exact fail_bind_traces _ _ _
  · refine (takeName_traces _ _).bind fun name => ?_
    split
    · exact pure_traces _
    · exact fail_traces _ _

theorem octalEscape_traces (digits : List Char) : (octalEscape digits).Traces := by
  unfold octalEscape
  dsimp only
  split
  · exact fail_bind_traces _ _ _
  · exact pure_traces _

theorem plainEscape_traces (c : Char) : (plainEscape c).Traces := by
  unfold plainEscape
  split
  · exact fail_bind_traces _ _ _
  · exact pure_traces _

/-- An escape by the number or the name of a character, if it is one, after its letter. -/
theorem numberEscape_tells {c : Char} (behind : start.Behind source ['\\', c]) (make : Nat → α)
    {other : Reader α} (ofOther : other.Traces) :
    Tells source (fun _ ended => ended.Behind source [])
      ((if c == 'x' then do return make (← hexEscape c 2)
        else if c == 'u' then do return make (← hexEscape c 4)
        else if c == 'U' then do return make (← hexEscape c 8)
        else if c == 'N' then do return make (← namedEscape)
        else other : Reader α).run start) := by
  split
  · exact (hexEscape_tells behind (.inl (by decide))).bind id fun later => .of_ok rfl later
  split
  · exact (hexEscape_tells behind (.inl (by decide))).bind id fun later => .of_ok rfl later
  split
  · rename_i long
    exact (hexEscape_tells behind (.inr ⟨beq_iff_eq.mp long, rfl⟩)).bind id
      fun later => .of_ok rfl later
  split
  · exact namedEscape_traces.bind (fun _ => pure_traces _) _ _ behind.forgetAll
  · exact ofOther _ _ behind.forgetAll

/-- An escape in a set, whose characters have been taken. -/
theorem setEscape_tells (scope : Flags) {c : Char} (behind : start.Behind source ['\\', c]) :
    Tells source (fun _ ended => ended.Behind source []) ((setEscape scope c).run start) := by
  unfold setEscape
  split
  · exact .of_ok rfl behind.forgetAll
  · exact .of_ok rfl behind.forgetAll
  split
  · exact .of_ok rfl behind.forgetAll
  refine numberEscape_tells behind _ ?_
  split
  · exact (takeSome_traces _ _).bind fun _ => (octalEscape_traces _).bind fun _ => pure_traces _
  · exact (plainEscape_traces c).bind fun _ => pure_traces _

theorem groupReference_traces (scope : Flags) (digits : List Char) :
    (groupReference scope digits).Traces := by
  refine groupCount_traces.bind fun count => ?_
  split
  · exact (referredWidth_traces _ _).bind fun _ => (checkLookbehind_traces _).bind fun _ =>
      (noteReference_traces _).bind fun _ => pure_traces _
  · exact fail_traces _ _

theorem digitEscape_traces (scope : Flags) (c : Char) : (digitEscape scope c).Traces := by
  unfold digitEscape
  split
  · exact (takeSome_traces _ _).bind fun _ => pure_traces _
  · refine (takeSome_traces _ _).bind fun taken => ?_
    split
    · exact groupReference_traces _ _
    · split
      · refine (takeSome_traces _ _).bind fun taken => ?_
        split
        · exact groupReference_traces _ _
        · exact (octalEscape_traces _).bind fun _ => pure_traces _
      · exact groupReference_traces _ _

/-- An escape outside sets, whose characters have been taken. -/
theorem escapePiece_tells (scope : Flags) {c : Char} (behind : start.Behind source ['\\', c]) :
    Tells source (fun _ ended => ended.Behind source []) ((escapePiece scope c).run start) := by
  unfold escapePiece
  split
  · exact .of_ok rfl behind.forgetAll
  · exact .of_ok rfl behind.forgetAll
  · exact .of_ok rfl behind.forgetAll
  refine numberEscape_tells behind _ ?_
  split
  · exact digitEscape_traces scope c
  · exact (plainEscape_traces c).bind fun _ => pure_traces _

/-- A member of a set, whose token has been taken. -/
theorem setMember_tells (scope : Flags) {token : Token}
    (behind : start.Behind source token.chars) :
    Tells source (fun _ ended => ended.Behind source []) ((setMember scope token).run start) := by
  cases token with
  | plain c => exact .of_ok rfl behind.forgetAll
  | escape c => exact setEscape_tells scope behind

theorem setMembers_traces (scope : Flags) (place fuel : Nat) (members : List SetItem) :
    (setMembers scope place fuel members).Traces := by
  induction fuel generalizing members with
  | zero => exact pure_traces _
  | succ fuel inductionHypothesis =>
      intro source start behind
      refine next_takes.bind behind fun {low middle} atLow => ?_
      cases low with
      | none => exact failAt_traces _ _ _ _ atLow.forgetAll
      | some low =>
          dsimp only
          split
          · exact .of_ok rfl atLow.forgetAll
          refine (setMember_tells scope atLow.forget).bind id fun {first middle} afterLow => ?_
          refine (accept_traces _ _ _ afterLow).bind id fun {range middle} afterSign => ?_
          split
          · refine next_takes.bind afterSign fun {high middle} atHigh => ?_
            cases high with
            | none => exact failAt_traces _ _ _ _ atHigh.forgetAll
            | some high =>
                dsimp only
                split
                · exact .of_ok rfl atHigh.forgetAll
                refine (setMember_tells scope atHigh.forget).bind id
                  fun {second middle} afterHigh => ?_
                split
                · split
                  · exact fail_traces _ _ _ _ afterHigh
                  · exact inductionHypothesis _ _ _ afterHigh
                · exact fail_traces _ _ _ _ afterHigh
          · exact inductionHypothesis _ _ _ afterSign

theorem characterSet_traces (scope : Flags) (place : Nat) :
    (characterSet scope place).Traces :=
  (accept_traces _).bind fun _ => left_traces.bind fun _ => (setMembers_traces _ _ _ _).bind
    fun _ => pure_traces _

theorem signPiece_traces (scope : Flags) (place : Nat) (c : Char) :
    (signPiece scope place c).Traces := by
  unfold signPiece
  split
  · exact pure_traces _
  · exact pure_traces _
  · exact pure_traces _
  · exact characterSet_traces scope place
  · exact pure_traces _

/-! ## Repetitions -/

/-- Counts that are recognized are written behind the brace. -/
theorem eq_append_of_countsNext? {rest low high : List Char} {width : Nat}
    (counts : countsNext? rest = some (low, high, width)) :
    ∃ text after, CountsText low high text ∧ (∀ c ∈ low ++ high, Text.isAsciiDigit c = true) ∧
      rest = text ++ after ∧ text.length = width := by
  have whole : ∀ chars : List Char, chars =
      chars.takeWhile Text.isAsciiDigit ++ chars.dropWhile Text.isAsciiDigit :=
    fun chars => List.takeWhile_append_dropWhile.symm
  have digits : ∀ chars : List Char, ∀ c ∈ chars.takeWhile Text.isAsciiDigit,
      Text.isAsciiDigit c = true :=
    fun _ => List.all_eq_true.mp List.all_takeWhile
  unfold countsNext? at counts
  dsimp only at counts
  split at counts
  · rename_i after closed
    split at counts
    · cases counts
    · cases counts
      refine ⟨_, after, .same _, ?_, ?_, by simp⟩
      · exact List.forall_mem_append.mpr ⟨digits _, digits _⟩
      · rw [List.append_assoc, List.singleton_append, ← closed]
        exact whole rest
  · rename_i second comma
    split at counts
    · rename_i after closed
      cases counts
      refine ⟨_, after, .range _ _, ?_, ?_, by simp; omega⟩
      · exact List.forall_mem_append.mpr ⟨digits _, digits _⟩
      · have later := whole second
        rw [closed] at later
        conv_lhs => rw [whole rest, comma, later]
        simp
    · cases counts
  · cases counts

/-- Counts are too large only if they are written so. -/
theorem countsOf_tells {low high text : List Char} (counts : CountsText low high text)
    (digits : ∀ c ∈ low ++ high, Text.isAsciiDigit c = true)
    (behind : start.Behind source ('\x7b' :: text)) (place : Nat) :
    Tells source (fun _ ended => ended.Behind source []) ((countsOf low high place).run start) := by
  unfold countsOf
  dsimp only
  split
  · rename_i large
    have large := of_decide_eq_true (Bool.and_eq_true_iff.mp large).2
    exact .of_error rfl (.count counts digits behind.written (.inl large)) id
  split
  · rename_i large
    have large := of_decide_eq_true (Bool.and_eq_true_iff.mp large).2
    exact .of_error rfl (.count counts digits behind.written (.inr large)) id
  split
  · exact .of_error rfl behind.whole id
  · exact .of_ok rfl behind.forgetAll

/-- The counts of a repeat sign that has been taken. -/
theorem repeatCounts_tells {c : Char} (sign : c = '*' ∨ c = '+' ∨ c = '?' ∨ c = '\x7b')
    (behind : start.Behind source [c]) :
    Tells source (fun _ ended => ended.Behind source []) ((repeatCounts c).run start) := by
  have forgot := behind.forgetAll
  unfold repeatCounts
  split
  · exact .of_ok rfl forgot
  split
  · exact .of_ok rfl forgot
  split
  · exact .of_ok rfl forgot
  rename_i question star plus
  obtain rfl : c = '\x7b' := by
    rcases sign with rfl | rfl | rfl | brace
    · exact absurd rfl star
    · exact absurd rfl plus
    · exact absurd rfl question
    · exact brace
  have got : (get : Reader Reading).run start = .ok (start, start) := rfl
  rw [run_bind_of_ok got]
  cases next : countsNext? start.rest with
  | none => exact .of_ok rfl forgot
  | some counts =>
      obtain ⟨low, high, width⟩ := counts
      obtain ⟨text, after, written, digits, rest, size⟩ := eq_append_of_countsNext? next
      rw [takeCounts, run_bind_of_ok (run_offset start)]
      refine (run_drop_tells behind rest size).bind id fun {_ middle} taken => ?_
      exact (countsOf_tells written digits taken _).bind id fun later => .of_ok rfl later

theorem repeatLast_traces (place least : Nat) (most : Option Nat) (pieces : List Piece) :
    (repeatLast place least most pieces).Traces := by
  unfold repeatLast
  split
  · exact failAt_traces _ _
  · split
    · exact failAt_traces _ _
    · exact failAt_traces _ _
    · refine Traces.bind ((accept_traces _).bind fun lazy => ?_) fun _ => pure_traces _
      split
      · exact pure_traces _
      · refine (accept_traces _).bind fun possessive => ?_
        split
        · exact pure_traces _
        · exact pure_traces _

/-! ## Openings -/

/-- The flags that are chosen between repertoires are switched on by the letters. -/
structure Lettered (letters : List Char) (on : Flags) : Prop where
  known : ∀ c ∈ letters, (Flags.ofLetter? c).isSome = true
  ascii : on.ascii = true → 'a' ∈ letters
  unicode : on.unicode = true → 'u' ∈ letters

/-- The flags of a pattern that choose a repertoire are switched on in its source. -/
structure Chosen (source : List Char) (flags : Flags) : Prop where
  ascii : flags.ascii = true → SwitchesOn source 'a'
  unicode : flags.unicode = true → SwitchesOn source 'u'

theorem refuseFlag_traces (token : Token) (otherwise : Cause) :
    (refuseFlag token otherwise : Reader α).Traces :=
  fail_traces _ _

theorem flagOf_repertoire (c : Char) :
    ((flagOf (.plain c)).ascii = true → c = 'a') ∧
      ((flagOf (.plain c)).unicode = true → c = 'u') := by
  simp only [flagOf, Flags.ofLetter?]
  split <;> simp

/-- One more letter switches on its flag. -/
theorem Lettered.letter {letters : List Char} {on : Flags} (lettered : Lettered letters on)
    {c : Char} (known : (Flags.ofLetter? c).isSome = true) :
    Lettered (letters ++ [c]) (on.union (flagOf (.plain c))) where
  known := List.forall_mem_append.mpr ⟨lettered.known, List.forall_mem_singleton.mpr known⟩
  ascii := by
    intro either
    rcases Bool.or_eq_true_iff.mp either with before | new
    · exact List.mem_append_left _ (lettered.ascii before)
    · exact (flagOf_repertoire c).1 new ▸ List.mem_append_right _ List.mem_cons_self
  unicode := by
    intro either
    rcases Bool.or_eq_true_iff.mp either with before | new
    · exact List.mem_append_left _ (lettered.unicode before)
    · exact (flagOf_repertoire c).2 new ▸ List.mem_append_right _ List.mem_cons_self

/-- Letters in a group of flags for the whole pattern choose for the source. -/
theorem Lettered.chosen {letters : List Char} {on : Flags} (lettered : Lettered letters on)
    (written : '(' :: '?' :: letters ++ [')'] <:+: source) : Chosen source on where
  ascii := fun isOn => ⟨letters, lettered.ascii isOn, lettered.known, written⟩
  unicode := fun isOn => ⟨letters, lettered.unicode isOn, lettered.known, written⟩

/-- The letters up to a sign have been taken. -/
def LettersTaken (source : List Char) (given : Flags × Token) (ended : Reading) : Prop :=
  ∃ letters, Lettered letters given.1 ∧
    ended.Behind source ('(' :: '?' :: letters ++ given.2.chars)

/-- The flags that a group switches on are those of its letters. -/
theorem flagsOn_tells {fuel : Nat} {token : Token} (isFlag : isFlagLetter token = true)
    {letters : List Char} {on : Flags} (lettered : Lettered letters on)
    (behind : start.Behind source ('(' :: '?' :: letters ++ token.chars)) :
    Tells source (LettersTaken source) ((flagsOn fuel token on).run start) := by
  induction fuel generalizing token letters on start with
  | zero => exact .of_ok rfl ⟨letters, lettered, behind⟩
  | succ fuel inductionHypothesis =>
      unfold flagsOn
      dsimp only
      split
      · exact .of_error rfl behind.whole id
      rename_i noLocale
      obtain ⟨c, rfl, known⟩ : ∃ c, token = .plain c ∧ (Flags.ofLetter? c).isSome = true := by
        cases token with
        | escape c => cases isFlag
        | plain c =>
            refine ⟨c, rfl, ?_⟩
            rcases Bool.or_eq_true_iff.mp isFlag with locale | known
            · exact absurd (beq_iff_eq.mp locale ▸ beq_self_eq_true _) noLocale
            · exact known
      have more := lettered.letter known
      split
      · exact .of_error rfl behind.whole id
      refine next_takes.bind behind fun {following middle} after => ?_
      cases following with
      | none => exact .of_error rfl after.whole id
      | some following =>
          have after : middle.Behind source
              ('(' :: '?' :: (letters ++ [c]) ++ following.chars) := by
            simp only [List.cons_append, List.append_assoc] at after ⊢
            exact after
          dsimp only
          split
          · exact .of_ok rfl ⟨_, more, after⟩
          split
          · rename_i isFlag
            exact inductionHypothesis isFlag more after
          · exact .of_error rfl after.whole id

theorem switchedOn_tells {fuel : Nat} {token : Token}
    (isFlag : isFlagLetter token = true ∨ token = .plain '-')
    (behind : start.Behind source ('(' :: '?' :: token.chars)) :
    Tells source (LettersTaken source) ((switchedOn fuel token).run start) := by
  have none : Lettered [] {} := ⟨nofun, nofun, nofun⟩
  unfold switchedOn
  split
  · exact .of_ok rfl ⟨[], none, behind⟩
  · rename_i noMinus
    refine flagsOn_tells (isFlag.resolve_right fun minus => noMinus ?_) none behind
    exact beq_iff_eq.mpr minus

theorem flagsOff_traces (fuel : Nat) (token : Token) (off : Flags) :
    (flagsOff fuel token off).Traces := by
  induction fuel generalizing token off with
  | zero => exact pure_traces _
  | succ fuel inductionHypothesis =>
      unfold flagsOff
      dsimp only
      split
      · exact fail_bind_traces _ _ _
      refine next_traces.bind fun following => ?_
      cases following with
      | none => exact fail_traces _ _
      | some following =>
          dsimp only
          split
          · exact pure_traces _
          split
          · exact inductionHypothesis _ _
          · exact refuseFlag_traces _ _

theorem switchedOff_traces (fuel : Nat) (sign : Token) : (switchedOff fuel sign).Traces := by
  unfold switchedOff
  split
  · refine next_traces.bind fun following => ?_
    cases following with
    | none => exact fail_traces _ _
    | some following =>
        dsimp only
        split
        · exact flagsOff_traces _ _ _
        · exact refuseFlag_traces _ _
  · exact pure_traces _

/-- Flags for the whole pattern that an opening gives are switched on in the source. -/
def Opening.ChosenIn (source : List Char) : Opening → Prop
  | .flags on => Chosen source on
  | _ => True

/-- The opening signs have been taken. -/
abbrev Opened (source : List Char) (opening : Opening) (ended : Reading) : Prop :=
  opening.ChosenIn source ∧ ended.Behind source []

theorem flagsOpening_tells {token : Token}
    (isFlag : isFlagLetter token = true ∨ token = .plain '-')
    (behind : start.Behind source ('(' :: '?' :: token.chars)) :
    Tells source (Opened source) ((flagsOpening token).run start) := by
  unfold flagsOpening
  rw [run_bind_of_ok (run_left start)]
  refine (switchedOn_tells isFlag behind).bind id fun {given middle} taken => ?_
  obtain ⟨on, sign⟩ := given
  obtain ⟨letters, lettered, after⟩ := taken
  dsimp only
  split
  · rename_i closed
    obtain rfl := beq_iff_eq.mp closed
    exact .of_ok rfl ⟨lettered.chosen after.written, after.forgetAll⟩
  split
  · exact .of_error rfl after.whole id
  refine (switchedOff_traces _ _ _ _ after.forgetAll).bind id fun {off middle} later => ?_
  split
  · exact .of_error rfl later.whole id
  split
  · exact .of_error rfl later.whole id
  · exact .of_ok rfl ⟨trivial, later⟩

theorem conditionGroup_traces : conditionGroup.Traces := by
  refine (takeName_traces _ _).bind fun name => ?_
  dsimp only
  split
  · exact namedGroup_traces name
  split
  · exact fail_traces _ _
  split
  · exact fail_bind_traces _ _ _
  split
  · exact fail_bind_traces _ _ _
  split
  · exact fail_bind_traces _ _ _
  · exact (noteCondition_traces _ _).bind fun _ => pure_traces _

theorem namedReference_traces (scope : Flags) : (namedReference scope).Traces :=
  (takeName_traces _ _).bind fun _ => (checkName_traces _).bind fun _ =>
    (namedGroup_traces _).bind fun _ => (referredWidth_traces _ _).bind fun _ =>
      (checkLookbehind_traces _).bind fun _ => pure_traces _

/-- The opening signs of a group whose parenthesis has been taken. -/
theorem opening_tells (behind : start.Behind source ['(']) :
    Tells source (Opened source) (opening.run start) := by
  unfold opening
  refine (accept_takes '?').bind behind fun {question middle} asked => ?_
  cases question with
  | false => exact .of_ok rfl ⟨trivial, asked.forgetAll⟩
  | true =>
      refine next_takes.bind asked fun {token middle} after => ?_
      have forgot := after.forgetAll
      cases token with
      | none => exact .of_error rfl after.whole id
      | some token =>
          dsimp only
          split
          · refine (accept_traces _ _ _ forgot).bind id fun {named middle} later => ?_
            split
            · refine (takeName_traces _ _ _ _ later).bind id fun {name middle} later => ?_
              exact (checkName_traces name _ _ later).bind id fun last => .of_ok rfl ⟨trivial, last⟩
            refine (accept_traces _ _ _ later).bind id fun {reference middle} later => ?_
            split
            · exact .of_ok rfl ⟨trivial, later⟩
            refine (next_traces _ _ later).bind id fun {other middle} last => ?_
            cases other with
            | none => exact .of_error rfl last.whole id
            | some other => exact .of_error rfl last.whole id
          · exact .of_ok rfl ⟨trivial, forgot⟩
          · exact .of_ok rfl ⟨trivial, forgot⟩
          · exact .of_ok rfl ⟨trivial, forgot⟩
          · exact .of_ok rfl ⟨trivial, forgot⟩
          · refine (next_traces _ _ forgot).bind id fun {sign middle} later => ?_
            split
            · exact .of_error rfl later.whole id
            · exact .of_ok rfl ⟨trivial, later⟩
            · exact .of_ok rfl ⟨trivial, later⟩
            · exact .of_error rfl later.whole id
          · exact .of_ok rfl ⟨trivial, forgot⟩
          · exact .of_ok rfl ⟨trivial, forgot⟩
          · split
            · rename_i isFlag
              have letter := (Bool.or_eq_true_iff.mp isFlag).imp_right beq_iff_eq.mp
              exact flagsOpening_tells letter after
            · exact .of_error rfl after.whole id

/-! ## The grammar -/

theorem conditionBranches_traces {branch : Reader Piece} (traces : branch.Traces) :
    (conditionBranches branch).Traces := by
  refine traces.bind fun present => (accept_traces _).bind fun more => ?_
  split
  · refine traces.bind fun absent => (sees_traces _).bind fun third => ?_
    split
    · exact fail_bind_traces _ _ _
    · exact pure_traces _
  · exact pure_traces _

/-- A group is traced if what it is read by is. -/
theorem groupPiece_traces {branches : Flags → Reader Piece} {parts : Reader Piece}
    (ofBranches : ∀ scope, (branches scope).Traces) (ofParts : parts.Traces) (scope : Flags)
    (place : Nat) (opening : Opening) :
    (groupPiece scope place branches parts opening).Traces := by
  cases opening with
  | comment => exact left_traces.bind fun _ => (skipComment_traces _ _).bind fun _ => pure_traces _
  | flags on => exact failAt_traces _ _
  | reference => exact (namedReference_traces scope).bind fun _ => pure_traces _
  | look ahead negated =>
      have contents :
          (if ahead then branches scope else lookingBehind (branches scope)).Traces := by
        split
        · exact ofBranches scope
        · exact lookingBehind_traces (ofBranches scope)
      exact (closing_traces contents place).bind fun _ => pure_traces _
  | condition =>
      exact conditionGroup_traces.bind fun _ => (checkLookbehind_traces _).bind fun _ =>
        (closing_traces (conditionBranches_traces ofParts) place).bind fun _ => pure_traces _
  | atomic => exact (closing_traces (ofBranches scope) place).bind fun _ => pure_traces _
  | grouping on off => exact (closing_traces (ofBranches _) place).bind fun _ => pure_traces _
  | capturing name =>
      exact (openGroup_traces name).bind fun _ => (closing_traces (ofBranches scope) place).bind
        fun _ => (closeGroup_traces _ _).bind fun _ => pure_traces _

/-- Alternations and sequences are traced. -/
theorem alternation_sequence_traces (fuel : Nat) :
    (∀ scope, (alternation fuel scope).Traces) ∧
      ∀ scope pieces, (sequence fuel scope pieces).Traces := by
  -- The two readers hand on to each other with less fuel, so one induction serves both.
  induction fuel with
  | zero => exact ⟨fun scope => pure_traces _, fun scope pieces => pure_traces _⟩
  | succ fuel inductionHypothesis =>
      obtain ⟨branches, parts⟩ := inductionHypothesis
      refine ⟨fun scope => ?_, fun scope pieces => ?_⟩
      · refine (parts scope []).bind fun branch => (accept_traces _).bind fun more => ?_
        split
        · exact (branches scope).bind fun _ => pure_traces _
        · exact pure_traces _
      · intro source start behind
        rw [sequence, run_bind_of_ok (run_offset start), run_bind_of_ok (run_peek start)]
        split
        · exact .of_ok rfl behind
        · rename_i c first
          refine (run_dropToken_tells behind first).bind id fun {_ middle} taken => ?_
          exact (escapePiece_tells scope taken).bind id fun later => parts scope _ _ _ later
        · rename_i c first
          split
          · exact .of_ok rfl behind
          refine (run_dropToken_tells behind first).bind id fun {_ middle} taken => ?_
          have forgot := taken.forgetAll
          split
          · exact parts scope pieces _ _ forgot
          split
          · exact (left_traces.bind fun _ => (skipLine_traces _).bind fun _ =>
              parts scope pieces) _ _ forgot
          split
          · rename_i sign
            have sign : c = '*' ∨ c = '+' ∨ c = '?' ∨ c = '\x7b' := by
              simpa [or_assoc] using sign
            refine (repeatCounts_tells sign taken).bind id fun {counts middle} later => ?_
            split
            · exact parts scope _ _ _ later
            · exact ((repeatLast_traces _ _ _ _).bind fun _ => parts scope _) _ _ later
          split
          · rename_i paren
            obtain rfl := beq_iff_eq.mp paren
            refine (opening_tells taken).bind id fun {given middle} opened => ?_
            refine Traces.bind (groupPiece_traces branches (parts scope []) scope _ given)
              (fun piece => ?_) _ _ opened.2
            split
            · exact parts scope _
            · exact parts scope pieces
          · exact ((signPiece_traces scope _ c).bind fun _ => parts scope _) _ _ forgot

/-- Flags for the whole pattern that are found are switched on in the source. -/
theorem leadingFlags_tells (scope : Flags) {fuel : Nat} (behind : start.Behind source []) :
    Tells source (fun on? ended => (∀ on ∈ on?, Chosen source on) ∧ ended.Behind source [])
      ((leadingFlags scope fuel).run start) := by
  induction fuel generalizing start with
  | zero => exact .of_ok rfl ⟨nofun, behind⟩
  | succ fuel inductionHypothesis =>
      rw [leadingFlags, run_bind_of_ok (run_offset start), run_bind_of_ok (run_peek start)]
      split
      · rename_i c first
        have taken := run_dropToken_tells behind first
        split
        · exact taken.bind id fun later => inductionHypothesis later.forgetAll
        split
        · refine taken.bind id fun {_ middle} later => ?_
          rw [run_bind_of_ok (run_left middle)]
          exact (skipLine_traces _ _ _ later.forgetAll).bind id fun last => inductionHypothesis last
        split
        · rename_i paren
          obtain rfl := beq_iff_eq.mp paren
          refine taken.bind id fun {_ middle} later => ?_
          refine (opening_tells later).bind id fun {given middle} opened => ?_
          cases given with
          | comment =>
              rw [run_bind_of_ok (run_left middle)]
              exact (skipComment_traces _ _ _ _ opened.2).bind id fun last =>
                inductionHypothesis last
          | flags on =>
              exact .of_ok rfl ⟨fun _ member => Option.mem_some.mp member ▸ opened.1, opened.2⟩
          | _ => exact .of_ok rfl ⟨nofun, opened.2⟩
        · exact .of_ok rfl ⟨nofun, behind⟩
      · exact .of_ok rfl ⟨nofun, behind⟩

/-- Flags that are switched on in the source together are so one by one. -/
theorem Chosen.union {flags on : Flags} (chosen : Chosen source flags) (more : Chosen source on) :
    Chosen source (flags.union on) where
  ascii := fun either => (Bool.or_eq_true_iff.mp either).elim chosen.ascii more.ascii
  unicode := fun either => (Bool.or_eq_true_iff.mp either).elim chosen.unicode more.unicode

/-- So are the flags of the whole pattern. -/
theorem globalFlags_tells {fuel : Nat} {given : Flags} (chosen : Chosen source given)
    (behind : start.Behind source []) :
    Tells source (fun flags ended => Chosen source flags ∧ ended.Behind source [])
      ((globalFlags fuel given).run start) := by
  induction fuel generalizing given start with
  | zero => exact .of_ok rfl ⟨chosen, behind⟩
  | succ fuel inductionHypothesis =>
      have got : (get : Reader Reading).run start = .ok (start, start) := rfl
      rw [globalFlags, run_bind_of_ok got, run_bind_of_ok (run_left start)]
      refine (leadingFlags_tells given behind).bind id fun {on? middle} led => ?_
      cases on? with
      | none => exact .of_ok rfl ⟨chosen, behind⟩
      | some on => exact inductionHypothesis (chosen.union (led.1 on rfl)) led.2

/-- What only the whole of a pattern tells is told by its source too. -/
theorem checkWhole_tells {flags : Flags} (chosen : Chosen source flags) (node : Node)
    (behind : start.Behind source []) :
    Tells source (fun _ ended => ended.Behind source []) ((checkWhole flags node).run start) := by
  have got : (get : Reader Reading).run start = .ok (start, start) := rfl
  unfold checkWhole
  dsimp only
  split
  · rename_i clash
    obtain ⟨ascii, unicode⟩ := Bool.and_eq_true_iff.mp clash
    exact .of_error rfl ⟨chosen.ascii ascii, chosen.unicode unicode⟩ id
  rw [run_bind_of_ok got]
  split
  · exact fail_bind_traces _ _ _ _ _ behind
  split
  · exact failAt_traces _ _ _ _ behind
  split
  · exact .of_error rfl behind.whole id
  · exact .of_ok rfl behind

end Reader

/-- What a source is refused for is written in it. -/
theorem Fault.writtenIn_of_parse {source : String} {fault : Fault}
    (refused : Pattern.parse source {} = .error fault) : fault.WrittenIn source.toList := by
  have none : Reader.Chosen source.toList {} := ⟨nofun, nofun⟩
  have begun : Reader.Tells source.toList (fun _ ended => ended.Behind source.toList [])
      (Reader.checkEscape.run (Reading.start source)) := by
    refine Reader.Traces.bind Reader.get_traces (fun reading => ?_) _ _
      (Reading.behind_start source)
    split
    · exact Reader.failAt_traces _ _
    · exact Reader.pure_traces ()
  have tells : Reader.Tells source.toList (fun _ _ => True)
      ((Reader.pattern source {}).run (Reading.start source)) := by
    refine begun.bind id fun behind => ?_
    refine (Reader.globalFlags_tells none behind).bind id fun {flags _} given => ?_
    refine ((Reader.alternation_sequence_traces _).1 flags _ _ given.2).bind id
      fun {piece _} behind => ?_
    exact (Reader.checkWhole_tells given.1 piece.node behind).bind id fun _ => .of_ok rfl trivial
  exact tells.wrong (Pattern.run_of_parse_eq_error refused)

end Structex.Regex
