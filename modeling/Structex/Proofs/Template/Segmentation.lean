import Mathlib.Data.List.Infix
import Mathlib.Data.List.TakeWhile
import Structex.Template.Placeholder

/-!
# How templates are read

A template is written as literal text in turn with placeholders. It can be read in one way only:
what a placeholder is written as is read as that placeholder whatever follows, and no placeholder
begins in a literal that has none in it. For a placeholder has its only dollar sign at its start, so
one that begins in a literal would have to end there, before the next one begins. It has no slash
at all, and so the segments of a path are read one by one.
-/

namespace Structex

namespace Placeholder

/-- What is written between the braces of a placeholder. -/
def inner : Placeholder → List Char
  | .capture digits => digits
  | .path digits => ['p', 'a', 't', 'h', '.'] ++ digits
  | .identifier => ['u', 'u', 'i', 'd']
  | .input => ['i', 'n', 'p', 'u', 't']
  | .data fields => ['d', 'a', 't', 'a', '.'] ++ fields

/-- What a placeholder is written as, behind the dollar sign and the brace that open it. -/
def closed (placeholder : Placeholder) : List Char :=
  placeholder.inner ++ ['\x7d']

/-- What a placeholder is written as. -/
def written (placeholder : Placeholder) : List Char :=
  '$' :: '\x7b' :: placeholder.closed

/-- A placeholder that can be written: numbers and paths are not empty and of their characters. -/
def WellFormed : Placeholder → Prop
  | .capture digits => digits ≠ [] ∧ ∀ c ∈ digits, Text.isDecimalDigit c = true
  | .path digits => digits ≠ [] ∧ ∀ c ∈ digits, Text.isDecimalDigit c = true
  | .identifier => True
  | .input => True
  | .data fields => fields ≠ [] ∧ ∀ c ∈ fields, isDataChar c = true

/-- Whether a run is not empty and of a class. -/
def decidableRun (holds : Char → Bool) (run : List Char) :
    Decidable (run ≠ [] ∧ ∀ c ∈ run, holds c = true) :=
  decidable_of_iff (run ≠ [] ∧ run.all holds = true) (by rw [List.all_eq_true])

instance : DecidablePred WellFormed
  | .capture digits => decidableRun Text.isDecimalDigit digits
  | .path digits => decidableRun Text.isDecimalDigit digits
  | .identifier => isTrue trivial
  | .input => isTrue trivial
  | .data fields => decidableRun isDataChar fields

/-! ## A placeholder is read as it is written -/

/-- A text starts with some characters exactly if something is left after them. -/
theorem after?_eq_some_iff {start text rest : List Char} :
    after? start text = some rest ↔ text = start ++ rest := by
  induction start generalizing text with
  | nil => simp [after?]
  | cons c start inductionHypothesis =>
      cases text with
      | nil => simp [after?]
      | cons d text =>
          rw [after?]
          by_cases same : c = d
          · simp [same, inductionHypothesis]
          · simp [same, Ne.symm same]

/-- A run of a class that has no closing brace ends at the first one. -/
theorem closedRun?_eq_some_iff {holds : Char → Bool} (brace : holds '\x7d' = false)
    {text run : List Char} {length : Nat} :
    closedRun? holds text = some (run, length) ↔
      run ≠ [] ∧ (∀ c ∈ run, holds c = true) ∧ length = run.length + 1 ∧
        ∃ rest, text = run ++ '\x7d' :: rest := by
  constructor
  · intro found
    rw [closedRun?] at found
    split at found
    case h_1 first others rest isRun isRest =>
      cases found
      have split := List.takeWhile_append_dropWhile (p := holds) (l := text)
      rw [isRest] at split
      refine ⟨by simp [isRun], fun c member => List.mem_takeWhile_imp member, rfl, rest, split.symm⟩
    case h_2 => cases found
  · rintro ⟨nonempty, all, rfl, rest, rfl⟩
    obtain ⟨first, others, rfl⟩ := List.exists_cons_of_ne_nil nonempty
    have isRun : (first :: others ++ '\x7d' :: rest).takeWhile holds = first :: others := by
      rw [List.takeWhile_append_of_pos all, List.takeWhile_cons_of_neg (by simp [brace]),
        List.append_nil]
    have isRest : (first :: others ++ '\x7d' :: rest).dropWhile holds = '\x7d' :: rest := by
      rw [List.dropWhile_append_of_pos all, List.dropWhile_cons_of_neg (by simp [brace])]
    rw [closedRun?]
    simp only [isRun, isRest]

/-- A run of a class with the closing brace behind it is read. -/
theorem closedRun?_append {holds : Char → Bool} (brace : holds '\x7d' = false) {run : List Char}
    (wellFormed : run ≠ [] ∧ ∀ c ∈ run, holds c = true) (rest : List Char) :
    closedRun? holds (run ++ ['\x7d'] ++ rest) = some (run, run.length + 1) :=
  (closedRun?_eq_some_iff brace).mpr ⟨wellFormed.1, wellFormed.2, rfl, rest, by simp⟩

/-- Behind the opening, a placeholder is read from what it is written as. -/
theorem body?_closed {placeholder : Placeholder} (wellFormed : placeholder.WellFormed)
    (rest : List Char) :
    body? (placeholder.closed ++ rest) = some (placeholder, placeholder.closed.length) := by
  cases placeholder with
  | capture digits =>
      rw [closed, inner, body?, closedRun?_append rfl wellFormed]
      simp
  | path digits =>
      have split : Placeholder.closed (.path digits) ++ rest =
          "path.".toList ++ (digits ++ ['\x7d'] ++ rest) := by
        simp [closed, inner]
      have noNumber (text : List Char) :
          closedRun? Text.isDecimalDigit ("path.".toList ++ text) = none := rfl
      rw [split, body?, noNumber, after?_eq_some_iff.mpr rfl]
      dsimp only
      rw [closedRun?_append rfl wellFormed]
      simp [closed, inner]
      omega
  | identifier => rfl
  | input => rfl
  | data fields =>
      have split : Placeholder.closed (.data fields) ++ rest =
          "data.".toList ++ (fields ++ ['\x7d'] ++ rest) := by
        simp [closed, inner]
      have noNumber (text : List Char) :
          closedRun? Text.isDecimalDigit ("data.".toList ++ text) = none := rfl
      have noPath (text : List Char) : after? "path.".toList ("data.".toList ++ text) = none := rfl
      have noIdentifier (text : List Char) :
          after? "uuid\x7d".toList ("data.".toList ++ text) = none := rfl
      have noInput (text : List Char) :
          after? "input\x7d".toList ("data.".toList ++ text) = none := rfl
      rw [split, body?, noNumber, noPath, noIdentifier, noInput, after?_eq_some_iff.mpr rfl]
      dsimp only
      rw [closedRun?_append rfl wellFormed]
      simp [closed, inner]
      omega

/-- A placeholder that is read behind an opening is written there. -/
theorem body?_sound {text : List Char} {placeholder : Placeholder} {length : Nat}
    (found : body? text = some (placeholder, length)) :
    placeholder.WellFormed ∧ length = placeholder.closed.length ∧
      ∃ rest, text = placeholder.closed ++ rest := by
  rw [body?] at found
  split at found
  case h_1 digits length isRun =>
    obtain ⟨nonempty, all, rfl, rest, rfl⟩ := (closedRun?_eq_some_iff rfl).mp isRun
    cases found
    exact ⟨⟨nonempty, all⟩, by simp [closed, inner], rest, by simp [closed, inner]⟩
  case h_2 =>
    split at found
    case h_1 behind isPath =>
      obtain rfl := after?_eq_some_iff.mp isPath
      obtain ⟨⟨digits, length⟩, isRun, same⟩ := Option.map_eq_some_iff.mp found
      obtain ⟨nonempty, all, rfl, rest, rfl⟩ := (closedRun?_eq_some_iff rfl).mp isRun
      cases same
      exact ⟨⟨nonempty, all⟩, by simp [closed, inner]; omega, rest, by simp [closed, inner]⟩
    case h_2 =>
      split at found
      case isTrue isIdentifier =>
        obtain ⟨rest, isRest⟩ := Option.isSome_iff_exists.mp isIdentifier
        obtain rfl := after?_eq_some_iff.mp isRest
        cases found
        exact ⟨trivial, rfl, rest, rfl⟩
      case isFalse =>
        split at found
        case isTrue isInput =>
          obtain ⟨rest, isRest⟩ := Option.isSome_iff_exists.mp isInput
          obtain rfl := after?_eq_some_iff.mp isRest
          cases found
          exact ⟨trivial, rfl, rest, rfl⟩
        case isFalse =>
          split at found
          case h_1 behind isData =>
            obtain rfl := after?_eq_some_iff.mp isData
            obtain ⟨⟨fields, length⟩, isRun, same⟩ := Option.map_eq_some_iff.mp found
            obtain ⟨nonempty, all, rfl, rest, rfl⟩ := (closedRun?_eq_some_iff rfl).mp isRun
            cases same
            exact ⟨⟨nonempty, all⟩, by simp [closed, inner]; omega, rest,
              by simp [closed, inner]⟩
          case h_2 => cases found

/-- A placeholder that can be written is read as it is written, whatever follows. -/
theorem start?_written {placeholder : Placeholder} (wellFormed : placeholder.WellFormed)
    (rest : List Char) :
    start? (placeholder.written ++ rest) = some (placeholder, placeholder.written.length) := by
  rw [written, List.cons_append, List.cons_append, start?, body?_closed wellFormed]
  rfl

/-- Where a placeholder is read, it is written. -/
theorem written_prefix_of_start? {text : List Char} {placeholder : Placeholder} {length : Nat}
    (found : start? text = some (placeholder, length)) :
    placeholder.WellFormed ∧ placeholder.written <+: text := by
  unfold start? at found
  split at found
  case h_1 text =>
    obtain ⟨⟨inside, further⟩, isBody, same⟩ := Option.map_eq_some_iff.mp found
    cases same
    obtain ⟨wellFormed, -, rest, rfl⟩ := body?_sound isBody
    exact ⟨wellFormed, rest, rfl⟩
  case h_2 => cases found

/-- A placeholder is read exactly where it is written, with the length it is written with. -/
theorem start?_eq_some_iff {text : List Char} {placeholder : Placeholder} {length : Nat} :
    start? text = some (placeholder, length) ↔
      placeholder.WellFormed ∧ length = placeholder.written.length ∧
        placeholder.written <+: text := by
  constructor
  · intro found
    obtain ⟨wellFormed, rest, rfl⟩ := written_prefix_of_start? found
    rw [start?_written wellFormed] at found
    cases found
    exact ⟨wellFormed, rfl, rest, rfl⟩
  · rintro ⟨wellFormed, rfl, rest, rfl⟩
    exact start?_written wellFormed rest

/-- Between its braces a placeholder has digits and the characters of paths into payloads. -/
theorem isDigit_or_isDataChar {placeholder : Placeholder} (wellFormed : placeholder.WellFormed) :
    ∀ c ∈ placeholder.inner, Text.isDecimalDigit c = true ∨ isDataChar c = true := by
  intro c member
  have letter {word : List Char} (all : word.all isDataChar = true) (inside : c ∈ word) :
      isDataChar c = true := List.all_eq_true.mp all c inside
  cases placeholder with
  | capture digits => exact .inl (wellFormed.2 c member)
  | path digits =>
      exact (List.mem_append.mp member).elim (fun start => .inr (letter rfl start))
        fun digit => .inl (wellFormed.2 c digit)
  | identifier => exact .inr (letter rfl member)
  | input => exact .inr (letter rfl member)
  | data fields =>
      exact .inr ((List.mem_append.mp member).elim (letter rfl) (wellFormed.2 c))

/-- Other characters are not in what closes a placeholder. -/
theorem notMem_closed {c : Char} (noDigit : Text.isDecimalDigit c = false)
    (noData : isDataChar c = false) (noBrace : c ≠ '\x7d') {placeholder : Placeholder}
    (wellFormed : placeholder.WellFormed) : c ∉ placeholder.closed := by
  intro member
  rcases List.mem_append.mp member with inside | brace
  · rcases isDigit_or_isDataChar wellFormed c inside with digit | data
    · exact absurd digit (by simp [noDigit])
    · exact absurd data (by simp [noData])
  · exact noBrace (List.mem_singleton.mp brace)

/-- There is no dollar sign in a placeholder but the one that opens it. -/
theorem dollar_notMem_closed {placeholder : Placeholder} (wellFormed : placeholder.WellFormed) :
    '$' ∉ placeholder.closed :=
  notMem_closed rfl rfl (by decide) wellFormed

/-- There is no slash in a placeholder. -/
theorem slash_notMem_written {placeholder : Placeholder} (wellFormed : placeholder.WellFormed) :
    '/' ∉ placeholder.written := by
  have behind : '/' ∉ placeholder.closed := notMem_closed rfl rfl (by decide) wellFormed
  simp [written, behind]

/-- No placeholder that begins before a slash goes on behind it. -/
theorem start?_slash (text rest : List Char) : start? (text ++ '/' :: rest) = start? text := by
  refine Option.ext fun reading => ?_
  obtain ⟨placeholder, length⟩ := reading
  rw [start?_eq_some_iff, start?_eq_some_iff]
  refine and_congr_right fun wellFormed => and_congr_right fun _ => ?_
  constructor
  · intro before
    rcases List.prefix_or_prefix_of_prefix before (List.prefix_append text ('/' :: rest)) with
      inside | ⟨more, split⟩
    · exact inside
    rw [← split] at before
    have further := (List.prefix_append_right_inj _).mp before
    cases more with
    | nil => exact ⟨[], by simpa using split.symm⟩
    | cons c more =>
        obtain rfl := (List.cons_prefix_cons.mp further).1
        exact absurd (split ▸ by simp) (slash_notMem_written wellFormed)
  · exact fun inside => inside.trans (List.prefix_append text _)

end Placeholder

/-! ## Literal text -/

/-- A text in which no placeholder is written. -/
def IsLiteral (text : List Char) : Prop :=
  ∀ placeholder : Placeholder, placeholder.WellFormed → ¬ placeholder.written <:+: text

/-- Text is literal if no placeholder can be read from any place in it. -/
theorem isLiteral_iff {text : List Char} :
    IsLiteral text ↔ ∀ rest ∈ text.tails, Placeholder.start? rest = none := by
  constructor
  · intro literal rest member
    cases found : Placeholder.start? rest with
    | none => rfl
    | some reading =>
        obtain ⟨wellFormed, before⟩ := Placeholder.written_prefix_of_start? found
        have inside := before.isInfix.trans ((List.mem_tails rest text).mp member).isInfix
        exact absurd inside (literal reading.1 wellFormed)
  · rintro unread placeholder wellFormed ⟨before, after, rfl⟩
    have missed := unread (placeholder.written ++ after)
      ((List.mem_tails _ _).mpr ⟨before, by simp⟩)
    rw [Placeholder.start?_written wellFormed] at missed
    cases missed

instance (text : List Char) : Decidable (IsLiteral text) :=
  decidable_of_iff _ isLiteral_iff.symm

/-- What follows literal text: the end of the template, or a placeholder. -/
def EndsLiteral (rest : List Char) : Prop :=
  rest = [] ∨ ∃ more, rest = '$' :: more

theorem IsLiteral.tail {c : Char} {text : List Char} (literal : IsLiteral (c :: text)) :
    IsLiteral text :=
  fun placeholder wellFormed inside =>
    literal placeholder wellFormed (inside.trans (List.suffix_cons c text).isInfix)

/-- No placeholder begins in literal text. -/
theorem start?_literal {c : Char} {text rest : List Char} (literal : IsLiteral (c :: text))
    (ends : EndsLiteral rest) : Placeholder.start? (c :: text ++ rest) = none := by
  cases found : Placeholder.start? (c :: text ++ rest) with
  | none => rfl
  | some reading =>
      obtain ⟨placeholder, length⟩ := reading
      obtain ⟨wellFormed, before⟩ := Placeholder.written_prefix_of_start? found
      rcases List.prefix_or_prefix_of_prefix before (List.prefix_append (c :: text) rest) with
        inside | ⟨more, split⟩
      · exact absurd inside.isInfix (literal placeholder wellFormed)
      · rw [← split] at before
        have further := (List.prefix_append_right_inj _).mp before
        cases more with
        | nil =>
            rw [List.append_nil] at split
            exact absurd (split ▸ List.infix_rfl) (literal placeholder wellFormed)
        | cons d more =>
            -- A placeholder that goes on behind the literal has the next dollar sign in it.
            obtain rfl : d = '$' := by
              rcases ends with rfl | ⟨others, rfl⟩
              · cases List.prefix_nil.mp further
              · exact (List.cons_prefix_cons.mp further).1
            have behind : text ++ '$' :: more = '\x7b' :: placeholder.closed :=
              List.tail_eq_of_cons_eq split
            have inside : '$' ∈ '\x7b' :: placeholder.closed := behind ▸ by simp
            rcases List.mem_cons.mp inside with brace | inside
            · cases brace
            · exact absurd inside (Placeholder.dollar_notMem_closed wellFormed)

namespace TemplatePart

/-- The characters of a placeholder that was read are passed over. -/
theorem readFrom_length (passed rest : List Char) :
    readFrom passed.length (passed ++ rest) = readFrom 0 rest := by
  induction passed with
  | nil => rfl
  | cons c passed inductionHypothesis =>
      rw [List.length_cons, List.cons_append, readFrom, inductionHypothesis]

/-- A placeholder is read as itself. -/
theorem readFrom_written {placeholder : Placeholder} (wellFormed : placeholder.WellFormed)
    (rest : List Char) :
    readFrom 0 (placeholder.written ++ rest) =
      .hole placeholder placeholder.written :: readFrom 0 rest := by
  have found := Placeholder.start?_written wellFormed rest
  rw [Placeholder.written, List.cons_append] at found ⊢
  rw [readFrom, found]
  show TemplatePart.hole placeholder
      (List.take placeholder.written.length (placeholder.written ++ rest)) ::
        readFrom ('\x7b' :: placeholder.closed).length ('\x7b' :: placeholder.closed ++ rest) = _
  rw [List.take_left, readFrom_length]
  rfl

/-- Literal text is read character by character. -/
theorem readFrom_literal {text : List Char} (literal : IsLiteral text) {rest : List Char}
    (ends : EndsLiteral rest) :
    readFrom 0 (text ++ rest) = text.map .literal ++ readFrom 0 rest := by
  induction text with
  | nil => rfl
  | cons c text inductionHypothesis =>
      rw [List.cons_append, readFrom, ← List.cons_append, start?_literal literal ends]
      rw [inductionHypothesis literal.tail]
      rfl

/-- What stands before a slash is read as if nothing followed. -/
theorem readFrom_slash {text : List Char} {skip : Nat} (within : skip ≤ text.length)
    (rest : List Char) :
    readFrom skip (text ++ '/' :: rest) =
      readFrom skip text ++ .literal '/' :: readFrom 0 rest := by
  induction text generalizing skip with
  | nil =>
      obtain rfl := Nat.le_zero.mp within
      rfl
  | cons c text inductionHypothesis =>
      cases skip with
      | succ skip => exact inductionHypothesis (Nat.le_of_succ_le_succ within)
      | zero =>
          rw [List.cons_append, readFrom, readFrom, ← List.cons_append,
            Placeholder.start?_slash]
          cases found : Placeholder.start? (c :: text) with
          | none => exact congrArg (.literal c :: ·) (inductionHypothesis (Nat.zero_le _))
          | some reading =>
              obtain ⟨placeholder, length⟩ := reading
              -- All that is passed over for the placeholder stands before the slash.
              obtain ⟨-, rfl, before⟩ := Placeholder.start?_eq_some_iff.mp found
              have fits := before.length_le
              have shorter : placeholder.written.length - 1 ≤ text.length := by
                rw [List.length_cons] at fits
                omega
              dsimp only
              rw [List.take_append_of_le_length fits, inductionHypothesis shorter]
              rfl

/-- A path of two templates is read one after the other. -/
theorem read_slash (first second : String) :
    read (first ++ "/" ++ second) = read first ++ .literal '/' :: read second := by
  have split : (first ++ "/" ++ second).toList = first.toList ++ '/' :: second.toList := by
    simp
  rw [read, split, readFrom_slash (Nat.zero_le _)]
  rfl

end TemplatePart

/-! ## Whole templates -/

/-- Literal text and the placeholder behind it. -/
structure TemplatePiece where
  literal : String
  placeholder : Placeholder
  isLiteral : IsLiteral literal.toList
  wellFormed : placeholder.WellFormed

namespace TemplatePiece

/-- The characters that a piece is written with. -/
def chars (piece : TemplatePiece) : List Char :=
  piece.literal.toList ++ piece.placeholder.written

/-- The parts that a piece is read as. -/
def parts (piece : TemplatePiece) : List TemplatePart :=
  piece.literal.toList.map .literal ++ [.hole piece.placeholder piece.placeholder.written]

/-- A piece is read before what follows it. -/
theorem readFrom_chars (piece : TemplatePiece) (rest : List Char) :
    TemplatePart.readFrom 0 (piece.chars ++ rest) =
      piece.parts ++ TemplatePart.readFrom 0 rest := by
  have ends : EndsLiteral (piece.placeholder.written ++ rest) := .inr ⟨_, rfl⟩
  rw [chars, List.append_assoc, TemplatePart.readFrom_literal piece.isLiteral ends,
    TemplatePart.readFrom_written piece.wellFormed, parts, List.append_assoc]
  rfl

end TemplatePiece

/-- A template as literal text in turn with placeholders. -/
structure TemplateLayout where
  pieces : List TemplatePiece
  last : String
  isLiteral : IsLiteral last.toList

namespace TemplateLayout

/-- The template that is written. -/
def text (layout : TemplateLayout) : String :=
  String.ofList (layout.pieces.flatMap TemplatePiece.chars ++ layout.last.toList)

/-- What is written is read: its literals and its placeholders in order, and nothing else. -/
theorem read_text (layout : TemplateLayout) :
    TemplatePart.read layout.text =
      layout.pieces.flatMap TemplatePiece.parts ++ layout.last.toList.map .literal := by
  obtain ⟨pieces, last, isLiteral⟩ := layout
  rw [TemplatePart.read, text, String.toList_ofList]
  induction pieces with
  | nil =>
      have alone := TemplatePart.readFrom_literal isLiteral (.inl rfl)
      rw [List.append_nil] at alone
      rw [List.flatMap_nil, List.nil_append, alone]
      exact List.append_nil _
  | cons piece rest inductionHypothesis =>
      simp only [List.flatMap_cons, List.append_assoc] at inductionHypothesis ⊢
      rw [piece.readFrom_chars, inductionHypothesis]

end TemplateLayout

end Structex
