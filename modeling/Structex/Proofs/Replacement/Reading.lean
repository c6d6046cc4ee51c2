import Mathlib.Data.List.Forall2
import Structex.Command.Replacement
import Structex.Proofs.Match.Order

/-!
# How replacements are read

A replacement is read from left to right. `Takes` says what can stand at its front, one piece at a
time: a character that stands for itself, or a sign that begins with `$`. It says nothing about how
a sign is recognised; that the reader keeps to it is `renderAll_of_takes`, one case for each sign.
What a piece puts in place of a match is `Puts`.

Numbers that no group has stay as they are written. A name that no group has is put as nothing if
the pattern has other names; without any names, `$<` is no sign at all.
-/

namespace Structex

namespace Piece

variable {pattern : Regex.Pattern}

/-! ## What stands at the front -/

/-- A number that a group of the pattern has. -/
def IsGroup (pattern : Regex.Pattern) (number : Nat) : Prop :=
  1 ≤ number ∧ number ≤ pattern.groups

instance (pattern : Regex.Pattern) (number : Nat) : Decidable (IsGroup pattern number) :=
  inferInstanceAs (Decidable (_ ∧ _))

/-- The character of a digit. -/
def digit (value : Fin 10) : Char :=
  Nat.digitChar value

/-- No sign goes on from a dollar sign with these characters. -/
def StartsNothing (pattern : Regex.Pattern) : List Char → Prop
  | [] => True
  | c :: rest =>
    c ≠ '$' ∧ c ≠ '&' ∧ c ≠ '\x60' ∧ c ≠ '\'' ∧ (∀ value, c ≠ digit value) ∧
      (c = '<' → pattern.names = [] ∨ '>' ∉ rest)

/-- A piece stands at the front of a replacement, and what stands behind it. -/
inductive Takes (pattern : Regex.Pattern) : List Char → Piece → List Char → Prop
  | character {c : Char} {rest : List Char} (ordinary : c ≠ '$') :
      Takes pattern (c :: rest) (char c) rest
  | dollar {rest : List Char} : Takes pattern ('$' :: '$' :: rest) (char '$') rest
  | whole {rest : List Char} : Takes pattern ('$' :: '&' :: rest) .whole rest
  | before {rest : List Char} : Takes pattern ('$' :: '\x60' :: rest) .before rest
  | after {rest : List Char} : Takes pattern ('$' :: '\'' :: rest) .after rest
  /-- Two digits that together are the number of a group. -/
  | pair {first second : Fin 10} {rest : List Char}
      (isGroup : IsGroup pattern (10 * first + second)) :
      Takes pattern ('$' :: digit first :: digit second :: rest)
        (.group (10 * first + second)) rest
  /-- One digit, with which a second one behind it is not the number of a group. -/
  | single {first : Fin 10} {rest : List Char} (isGroup : IsGroup pattern first)
      (alone : ∀ second others, rest = digit second :: others →
        ¬ IsGroup pattern (10 * first + second)) :
      Takes pattern ('$' :: digit first :: rest) (.group first) rest
  /-- Two digits that are a number of no group, as the first of them alone is. -/
  | missingPair {first second : Fin 10} {rest : List Char}
      (noPair : ¬ IsGroup pattern (10 * first + second)) (noSingle : ¬ IsGroup pattern first) :
      Takes pattern ('$' :: digit first :: digit second :: rest)
        (.literal (String.ofList ['$', digit first, digit second])) rest
  /-- One digit that is the number of no group, without a second one behind it. -/
  | missingSingle {first : Fin 10} {rest : List Char} (noSingle : ¬ IsGroup pattern first)
      (alone : ∀ second others, rest ≠ digit second :: others) :
      Takes pattern ('$' :: digit first :: rest)
        (.literal (String.ofList ['$', digit first])) rest
  /-- A name up to the first closing sign, if the pattern has names. -/
  | name {name rest : List Char} (closed : '>' ∉ name) (hasNames : pattern.names ≠ []) :
      Takes pattern ('$' :: '<' :: (name ++ '>' :: rest)) (.named (String.ofList name)) rest
  | loneDollar {rest : List Char} (nothing : StartsNothing pattern rest) :
      Takes pattern ('$' :: rest) (char '$') rest

/-- A replacement is read as pieces, one after another. -/
inductive Reads (pattern : Regex.Pattern) : List Char → List Piece → Prop
  | done : Reads pattern [] []
  | more {source rest : List Char} {piece : Piece} {pieces : List Piece}
      (takes : Takes pattern source piece rest) (further : Reads pattern rest pieces) :
      Reads pattern source (piece :: pieces)

/-! ## Digits -/

theorem isAsciiDigit_digit (value : Fin 10) : Text.isAsciiDigit (digit value) = true := by
  revert value
  decide

theorem digitOf_digit (value : Fin 10) : Decimal.digitOf (digit value) = value := by
  revert value
  decide

/-- No digit begins a sign of another kind. -/
theorem digit_plain (value : Fin 10) :
    digit value ≠ '$' ∧ digit value ≠ '&' ∧ digit value ≠ '\x60' ∧ digit value ≠ '\'' ∧
      digit value ≠ '<' := by
  revert value
  decide

/-- Every digit of ASCII is the character of a digit. -/
theorem exists_digit {c : Char} (isDigit : Text.isAsciiDigit c = true) :
    ∃ value, c = digit value := by
  have bounds : 48 ≤ c.toNat ∧ c.toNat ≤ 57 := by
    simpa [Text.isAsciiDigit, Char.le_def, UInt32.le_iff_toNat_le] using isDigit
  have known : ∀ value : Fin 10, (digit value).toNat = 48 + value := by decide
  refine ⟨⟨c.toNat - 48, by omega⟩, Char.toNat_inj.mp ?_⟩
  rw [known]
  dsimp only
  omega

/-! ## The reader -/

/-- The pieces that the reader makes of characters. -/
def readChars (pattern : Regex.Pattern) (source : List Char) : List Piece :=
  readFrom pattern.groups (!pattern.names.isEmpty) none source

theorem readChars_character {c : Char} (ordinary : c ≠ '$') (rest : List Char) :
    readChars pattern (c :: rest) = char c :: readChars pattern rest := by
  cases rest with
  | nil => rfl
  | cons next rest => simp [readChars, readFrom, ordinary]

/-- A name is read up to the first closing sign. -/
theorem readFrom_name (groups : Nat) (hasNames : Bool) {name : List Char} (closed : '>' ∉ name)
    (taken rest : List Char) :
    readFrom groups hasNames (some taken) (name ++ '>' :: rest) =
      .named (String.ofList (taken.reverse ++ name)) :: readFrom groups hasNames none rest := by
  induction name generalizing taken with
  | nil => simp [readFrom]
  | cons c name inductionHypothesis =>
      obtain ⟨differs, others⟩ := not_or.mp (mt List.mem_cons.mpr closed)
      have other : ¬ (c == '>') = true := by simpa using Ne.symm differs
      rw [List.cons_append, readFrom, if_neg other, inductionHypothesis others]
      simp

/-- A dollar sign that starts nothing is read as itself. -/
theorem readChars_loneDollar {rest : List Char} (nothing : StartsNothing pattern rest) :
    readChars pattern ('$' :: rest) = char '$' :: readChars pattern rest := by
  cases rest with
  | nil => rfl
  | cons c rest =>
      obtain ⟨notDollar, notWhole, notBefore, notAfter, notDigit, notName⟩ := nothing
      have noDigit : ¬ Text.isAsciiDigit c = true := by
        intro isDigit
        obtain ⟨value, isValue⟩ := exists_digit isDigit
        exact notDigit value isValue
      have noName : ¬ (c == '<' && !pattern.names.isEmpty && rest.contains '>') = true := by
        intro named
        simp only [Bool.and_eq_true, beq_iff_eq, Bool.not_eq_true', List.isEmpty_eq_false_iff,
          List.contains_iff_mem] at named
        exact (notName named.1.1).elim named.1.2 fun unclosed => unclosed named.2
      simp only [readChars]
      rw [readFrom]
      simp only [bne_self_eq_false, Bool.false_eq_true, if_false, beq_iff_eq, notDollar, notWhole,
        notBefore, notAfter, noDigit, noName]

/-- After a dollar sign, a digit is read with the one behind it if the two are the number of a
group, else alone if it is one itself. -/
theorem readChars_digit (first : Fin 10) (rest : List Char) :
    readChars pattern ('$' :: digit first :: rest) =
      match rest with
      | [] =>
        if 1 ≤ first.val && first.val ≤ pattern.groups then [.group first]
        else [char '$', char (digit first)]
      | second :: tail =>
        let two := 10 * first.val + Decimal.digitOf second
        if Text.isAsciiDigit second && 1 ≤ two && two ≤ pattern.groups then
          .group two :: readChars pattern tail
        else if 1 ≤ first.val && first.val ≤ pattern.groups then
          .group first :: readChars pattern (second :: tail)
        else char '$' :: readChars pattern (digit first :: second :: tail) := by
  obtain ⟨notDollar, notWhole, notBefore, notAfter, -⟩ := digit_plain first
  cases rest with
  | nil =>
      simp [readChars, readFrom, notDollar, notWhole, notBefore, notAfter, isAsciiDigit_digit,
        digitOf_digit]
  | cons second tail =>
      simp [readChars, readFrom, notDollar, notWhole, notBefore, notAfter, isAsciiDigit_digit,
        digitOf_digit]

/-- The reader's test for two characters behind a dollar sign that are the number of a group. -/
theorem isPair_iff {first : Fin 10} {c : Char} :
    (Text.isAsciiDigit c && 1 ≤ 10 * first.val + Decimal.digitOf c &&
        10 * first.val + Decimal.digitOf c ≤ pattern.groups) = true ↔
      ∃ second, c = digit second ∧ IsGroup pattern (10 * first + second) := by
  simp only [Bool.and_eq_true, decide_eq_true_eq]
  constructor
  · rintro ⟨⟨isDigit, positive⟩, known⟩
    obtain ⟨second, rfl⟩ := exists_digit isDigit
    rw [digitOf_digit] at positive known
    exact ⟨second, rfl, positive, known⟩
  · rintro ⟨second, rfl, positive, known⟩
    rw [digitOf_digit]
    exact ⟨⟨isAsciiDigit_digit second, positive⟩, known⟩

theorem isSingle_iff {first : Fin 10} :
    (1 ≤ first.val && first.val ≤ pattern.groups) = true ↔ IsGroup pattern first := by
  simp [IsGroup]

theorem readChars_pair {first second : Fin 10} (isGroup : IsGroup pattern (10 * first + second))
    (rest : List Char) :
    readChars pattern ('$' :: digit first :: digit second :: rest) =
      .group (10 * first + second) :: readChars pattern rest := by
  rw [readChars_digit]
  dsimp only
  rw [if_pos (isPair_iff.mpr ⟨second, rfl, isGroup⟩), digitOf_digit]

theorem readChars_single {first : Fin 10} {rest : List Char} (isGroup : IsGroup pattern first)
    (alone : ∀ second others, rest = digit second :: others →
      ¬ IsGroup pattern (10 * first + second)) :
    readChars pattern ('$' :: digit first :: rest) = .group first :: readChars pattern rest := by
  rw [readChars_digit]
  cases rest with
  | nil => exact if_pos (isSingle_iff.mpr isGroup)
  | cons c tail =>
      have noPair := @isPair_iff pattern first c
      dsimp only
      rw [if_neg, if_pos (isSingle_iff.mpr isGroup)]
      rw [noPair]
      rintro ⟨second, rfl, pair⟩
      exact alone second tail rfl pair

/-- A dollar sign before digits that are the number of no group is read as itself. -/
theorem readChars_noGroup {first : Fin 10} {rest : List Char}
    (noSingle : ¬ IsGroup pattern first)
    (alone : ∀ second others, rest = digit second :: others →
      ¬ IsGroup pattern (10 * first + second)) :
    readChars pattern ('$' :: digit first :: rest) =
      char '$' :: char (digit first) :: readChars pattern rest := by
  have notDollar := (digit_plain first).1
  rw [readChars_digit]
  cases rest with
  | nil => exact if_neg (mt isSingle_iff.mp noSingle)
  | cons c tail =>
      have noPair := @isPair_iff pattern first c
      dsimp only
      rw [if_neg, if_neg (mt isSingle_iff.mp noSingle), readChars_character notDollar]
      rw [noPair]
      rintro ⟨second, rfl, pair⟩
      exact alone second tail rfl pair

theorem renderAll_cons (text : String) (found : Match) (piece : Piece) (pieces : List Piece) :
    renderAll pattern text found (piece :: pieces) =
      render pattern text found piece ++ renderAll pattern text found pieces :=
  rfl

/-- The reader puts the piece at the front of a replacement and then what it makes of what stands
behind it. -/
theorem renderAll_of_takes {source rest : List Char} {piece : Piece}
    (takes : Takes pattern source piece rest) (text : String) (found : Match) :
    renderAll pattern text found (readChars pattern source) =
      render pattern text found piece ++
        renderAll pattern text found (readChars pattern rest) := by
  cases takes with
  | character ordinary => rw [readChars_character ordinary, renderAll_cons]
  | dollar => simp [readChars, readFrom, renderAll_cons]
  | whole => simp [readChars, readFrom, renderAll_cons]
  | before => simp [readChars, readFrom, renderAll_cons]
  | after => simp [readChars, readFrom, renderAll_cons]
  | pair isGroup => rw [readChars_pair isGroup, renderAll_cons]
  | single isGroup alone => rw [readChars_single isGroup alone, renderAll_cons]
  | @missingPair first second rest noPair noSingle =>
      have noGroup : ∀ other others, digit second :: rest = digit other :: others →
          ¬ IsGroup pattern (10 * first + other) := by
        intro other others same
        have known := congrArg Decimal.digitOf (List.cons.inj same).1
        rw [digitOf_digit, digitOf_digit] at known
        rwa [← known]
      rw [readChars_noGroup noSingle noGroup, readChars_character (digit_plain second).1,
        renderAll_cons, renderAll_cons, renderAll_cons]
      simp [render, char, ← String.append_assoc]
  | @missingSingle first rest noSingle alone =>
      have noGroup : ∀ second others, rest = digit second :: others →
          ¬ IsGroup pattern (10 * first + second) :=
        fun second others same => absurd same (alone second others)
      rw [readChars_noGroup noSingle noGroup, renderAll_cons, renderAll_cons]
      simp [render, char, ← String.append_assoc]
  | @name name rest closed hasNames =>
      have named : readChars pattern ('$' :: '<' :: (name ++ '>' :: rest)) =
          .named (String.ofList name) :: readChars pattern rest := by
        have noDigit : Text.isAsciiDigit '<' = false := by decide
        simp only [readChars]
        rw [readFrom, readFrom_name _ _ closed]
        simp [hasNames, noDigit]
      rw [named, renderAll_cons]
  | loneDollar nothing => rw [readChars_loneDollar nothing, renderAll_cons]

/-! ## Every replacement can be read -/

/-- Something stands at the front of what begins with a dollar sign and a digit. -/
theorem exists_takes_digit (pattern : Regex.Pattern) (first : Fin 10) (rest : List Char) :
    ∃ piece left, Takes pattern ('$' :: digit first :: rest) piece left ∧
      left.length ≤ rest.length := by
  by_cases paired : ∃ second others, rest = digit second :: others
  · obtain ⟨second, others, rfl⟩ := paired
    have shorter : others.length ≤ (digit second :: others).length := Nat.le_succ _
    by_cases pair : IsGroup pattern (10 * first + second)
    · exact ⟨_, _, .pair pair, shorter⟩
    by_cases single : IsGroup pattern first
    · refine ⟨_, _, .single single fun other left same => ?_, Nat.le_refl _⟩
      have known := congrArg Decimal.digitOf (List.cons.inj same).1
      rw [digitOf_digit, digitOf_digit] at known
      rwa [← known]
    · exact ⟨_, _, .missingPair pair single, shorter⟩
  · have alone : ∀ second others, rest ≠ digit second :: others :=
      fun second others same => paired ⟨second, others, same⟩
    by_cases single : IsGroup pattern first
    · exact ⟨_, _, .single single fun second others same => absurd same (alone second others),
        Nat.le_refl _⟩
    · exact ⟨_, _, .missingSingle single alone, Nat.le_refl _⟩

/-- Something stands at the front of every replacement that is not empty. -/
theorem exists_takes (pattern : Regex.Pattern) (c : Char) (rest : List Char) :
    ∃ piece left, Takes pattern (c :: rest) piece left ∧ left.length ≤ rest.length := by
  by_cases ordinary : c ≠ '$'
  · exact ⟨_, _, .character ordinary, Nat.le_refl _⟩
  obtain rfl := Decidable.not_not.mp ordinary
  cases rest with
  | nil => exact ⟨_, _, .loneDollar trivial, Nat.le_refl _⟩
  | cons next rest =>
      have shorter : rest.length ≤ (next :: rest).length := Nat.le_succ _
      by_cases isDollar : next = '$'
      · subst isDollar
        exact ⟨_, _, .dollar, shorter⟩
      by_cases isWhole : next = '&'
      · subst isWhole
        exact ⟨_, _, .whole, shorter⟩
      by_cases isBefore : next = '\x60'
      · subst isBefore
        exact ⟨_, _, .before, shorter⟩
      by_cases isAfter : next = '\''
      · subst isAfter
        exact ⟨_, _, .after, shorter⟩
      by_cases isDigit : ∃ value, next = digit value
      · obtain ⟨value, rfl⟩ := isDigit
        obtain ⟨piece, left, takes, short⟩ := exists_takes_digit pattern value rest
        exact ⟨piece, left, takes, Nat.le_trans short shorter⟩
      by_cases isName : next = '<' ∧ pattern.names ≠ [] ∧ '>' ∈ rest
      · obtain ⟨rfl, hasNames, closes⟩ := isName
        obtain ⟨name, left, rfl, closed⟩ := List.eq_append_cons_of_mem closes
        refine ⟨_, _, .name closed hasNames, ?_⟩
        simp only [List.length_cons, List.length_append]
        omega
      · refine ⟨_, _, .loneDollar ⟨isDollar, isWhole, isBefore, isAfter, ?_, ?_⟩, Nat.le_refl _⟩
        · exact fun value isValue => isDigit ⟨value, isValue⟩
        · intro opens
          by_cases none : pattern.names = []
          · exact .inl none
          · exact .inr fun closes => isName ⟨opens, none, closes⟩

/-- Every replacement can be read to its end. -/
theorem exists_reads (pattern : Regex.Pattern) (source : List Char) :
    ∃ pieces, Reads pattern source pieces := by
  -- A piece may take many characters, so the induction is on how many are left.
  induction length : source.length using Nat.strongRecOn generalizing source with
  | _ size inductionHypothesis =>
      cases source with
      | nil => exact ⟨[], .done⟩
      | cons c rest =>
          obtain ⟨piece, left, takes, shorter⟩ := exists_takes pattern c rest
          have smaller : left.length < size := by
            rw [← length, List.length_cons]
            omega
          obtain ⟨pieces, further⟩ := inductionHypothesis _ smaller left rfl
          exact ⟨piece :: pieces, .more takes further⟩

/-! ## What pieces put in place of a match -/

/-- What a piece puts in place of a match of a text. -/
inductive Puts (pattern : Regex.Pattern) (text : String) (found : Match) : Piece → String → Prop
  | literal (content : String) : Puts pattern text found (.literal content) content
  | group {index : Nat} {taken : String} (took : found.groups[index]? = some (some taken)) :
      Puts pattern text found (.group index) taken
  /-- A group that took no part. -/
  | idle {index : Nat} (took : ∀ taken, found.groups[index]? ≠ some (some taken)) :
      Puts pattern text found (.group index) ""
  | named {name : String} {index : Nat} {put : String}
      (known : pattern.names.lookup name = some index)
      (puts : Puts pattern text found (.group index) put) :
      Puts pattern text found (.named name) put
  /-- A name that no group has. -/
  | unknown {name : String} (unknown : pattern.names.lookup name = none) :
      Puts pattern text found (.named name) ""
  | whole : Puts pattern text found .whole found.text
  | before {first rest : String} (cut : text = first ++ rest)
      (place : first.length = found.start) : Puts pattern text found .before first
  | after {first rest : String} (cut : text = first ++ rest)
      (place : first.length = found.stop) : Puts pattern text found .after rest

theorem puts_group (pattern : Regex.Pattern) (text : String) (found : Match) (index : Nat) :
    Puts pattern text found (.group index) ((found.group? index).getD "") := by
  rw [Match.group?]
  rcases took : found.groups[index]? with _ | _ | taken
  · exact .idle fun taken other => by cases took.symm.trans other
  · exact .idle fun taken other => by cases took.symm.trans other
  · exact .group took

/-- A text is cut at an offset into two slices. -/
theorem slice_cut (text : String) {offset : Nat} (inside : offset ≤ text.length) :
    text = Text.slice text 0 offset ++ Text.slice text offset text.length ∧
      (Text.slice text 0 offset).length = offset := by
  rw [Text.slice_append (Nat.zero_le _) inside, Text.slice_all, Text.length_slice inside]
  exact ⟨rfl, Nat.sub_zero _⟩

/-- Every piece puts what the substitution renders it as. -/
theorem puts_render {text : String} {found : Match} (begins : found.start ≤ text.length)
    (ends : found.stop ≤ text.length) (piece : Piece) :
    Puts pattern text found piece (render pattern text found piece) := by
  cases piece with
  | literal content => exact .literal content
  | group index => exact puts_group pattern text found index
  | named name =>
      rw [render]
      cases known : pattern.names.lookup name with
      | none => exact .unknown known
      | some index => exact .named known (puts_group pattern text found index)
  | whole => exact .whole
  | before =>
      obtain ⟨cut, place⟩ := slice_cut text begins
      exact .before cut place
  | after =>
      obtain ⟨cut, place⟩ := slice_cut text ends
      exact .after cut place

/-- Substituting a replacement puts pieces in place of each match that the scan for substitution
finds, one after another. -/
def Inserts (pattern : Regex.Pattern) (replacement : String) (pieces : List Piece) : Prop :=
  ∀ text, ∃ put : Match → String,
    (∀ found ∈ pattern.scanMatches text,
      ∃ texts, List.Forall₂ (Puts pattern text found) pieces texts ∧
        put found = String.join texts) ∧
    ∀ {m : Type → Type} [Monad m],
      Command.substitute (m := m) pattern replacement text =
        Command.substituteWith pattern (fun found => pure (put found)) text

/-- What the reader's pieces are rendered as decides what is inserted. -/
theorem inserts_of_renderAll {replacement : String} {pieces : List Piece}
    (same : ∀ text found, renderAll pattern text found (readChars pattern replacement.toList) =
      String.join (pieces.map (render pattern text found))) :
    Inserts pattern replacement pieces := by
  intro text
  refine ⟨fun found => String.join (pieces.map (render pattern text found)), ?_, ?_⟩
  · intro found member
    obtain ⟨-, forward, ends, -⟩ := (pattern.scanMatches_follow text).mem member
    have puts : ∀ piece, Puts pattern text found piece (render pattern text found piece) :=
      puts_render (Nat.le_trans forward ends) ends
    refine ⟨_, List.forall₂_map_right_iff.mpr ?_, rfl⟩
    exact List.forall₂_same.mpr fun piece _ => puts piece
  · intro m _
    simp only [← same]
    rfl

/-- Whatever a replacement is read as is inserted. -/
theorem inserts_of_reads {replacement : String} {pieces : List Piece}
    (reads : Reads pattern replacement.toList pieces) : Inserts pattern replacement pieces := by
  refine inserts_of_renderAll fun text found => ?_
  generalize replacement.toList = source at reads
  induction reads with
  | done => rfl
  | more takes further inductionHypothesis =>
      rw [renderAll_of_takes takes, inductionHypothesis, List.map_cons, String.join_cons]

end Piece

/-- Every replacement is read, from left to right, as pieces that are put in place of each match:
a number that no group has as it is written, and a name that no group has as nothing if there are
other names. -/
theorem Command.substitute_of_reads (pattern : Regex.Pattern) (replacement : String) :
    (∃ pieces, Piece.Reads pattern replacement.toList pieces) ∧
      ∀ pieces, Piece.Reads pattern replacement.toList pieces →
        Piece.Inserts pattern replacement pieces :=
  ⟨Piece.exists_reads pattern _, fun _ reads => Piece.inserts_of_reads reads⟩

/-- The pattern of a letter whose group has a name. -/
def namedLetter : Regex.Pattern where
  source := "(?P<a>x)"
  flags := { unicode := true }
  groups := 1
  names := [("a", 1)]
  node := .group 1 (.one ⟨false, .exact, [.literal 120]⟩)

/-- Numbers and a name of which only one is known, and a dollar sign at the end. -/
theorem Command.substitute_of_reads_of_namedLetter :
    Piece.Reads namedLetter "$0$12$<b>$".toList
        [.literal "$0", .group 1, .literal "2", .named "b", .literal "$"] ∧
      Piece.Inserts namedLetter "$0$12$<b>$"
        [.literal "$0", .group 1, .literal "2", .named "b", .literal "$"] := by
  have source : "$0$12$<b>$".toList = ['$', '0', '$', '1', '2', '$', '<', 'b', '>', '$'] := rfl
  have zero : ¬ Piece.IsGroup namedLetter (0 : Fin 10) := by decide
  have one : Piece.IsGroup namedLetter (1 : Fin 10) := by decide
  have reads : Piece.Reads namedLetter "$0$12$<b>$".toList
      [.literal "$0", .group 1, .literal "2", .named "b", .literal "$"] := by
    rw [source]
    have name : Piece.Takes namedLetter ['$', '<', 'b', '>', '$'] (.named "b") ['$'] :=
      @Piece.Takes.name namedLetter ['b'] ['$'] (by decide) (by decide)
    refine .more (.missingSingle zero ?_) (.more (.single one ?_) (.more (.character (by decide))
      (.more name (.more (.loneDollar trivial) .done))))
    · intro second others same
      exact (Piece.digit_plain second).1 (List.cons.inj same).1.symm
    · rintro second others - ⟨-, known⟩
      have fewer : ¬ 10 + second.val ≤ 1 := by omega
      exact fewer known
  exact ⟨reads, (Command.substitute_of_reads namedLetter _).2 _ reads⟩

/-- A name that no group has is not kept as it is written. -/
theorem Command.substitute_drops_unknown_name :
    Regex.Pattern.parse "(?P<a>x)" {} = .ok namedLetter ∧
      namedLetter.names.lookup "b" = none ∧
      Command.substitute (m := Id) namedLetter "$<b>" "x" = "" ∧
      Command.substituteWith (m := Id) namedLetter (fun _ => "$<b>") "x" = "$<b>" := by
  exact ⟨by decide +kernel, by decide, by rfl, by rfl⟩

end Structex
