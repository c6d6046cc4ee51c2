import Structex.Proofs.Regex.Reading
import Structex.Regex.Grammar

/-!
# Sequences token by token

What `sequence` comes to, by the token that comes next. Each equation takes one token off the source
and leaves the rest to what it hands on to.
-/

namespace Structex.Regex.Reader

variable {start : Reading} {scope : Flags}

/-- A sequence is over at the end. -/
theorem sequence_of_end (atEnd : start.rest = []) (fuel : Nat) (scope : Flags)
    (pieces : List Piece) :
    (sequence (fuel + 1) scope pieces).run start = .ok (Piece.join pieces.reverse, start) := by
  rw [sequence, run_bind_of_ok (run_offset start), run_bind_of_ok (run_peek start), atEnd]
  rfl

/-- A sequence is over before a closing parenthesis. -/
theorem sequence_of_close (first : firstToken start.rest = some (.plain ')')) (fuel : Nat)
    (scope : Flags) (pieces : List Piece) :
    (sequence (fuel + 1) scope pieces).run start = .ok (Piece.join pieces.reverse, start) := by
  rw [sequence, run_bind_of_ok (run_offset start), run_bind_of_ok (run_peek start), first]
  rfl

/-- A sequence is over before another branch. -/
theorem sequence_of_bar (first : firstToken start.rest = some (.plain '|')) (fuel : Nat)
    (scope : Flags) (pieces : List Piece) :
    (sequence (fuel + 1) scope pieces).run start = .ok (Piece.join pieces.reverse, start) := by
  rw [sequence, run_bind_of_ok (run_offset start), run_bind_of_ok (run_peek start), first]
  rfl

/-- A sequence is over where nothing or another branch is left. -/
theorem sequence_of_ending (ending : start.rest = [] ∨ ∃ more, start.rest = '|' :: more)
    (fuel : Nat) (scope : Flags) (pieces : List Piece) :
    (sequence (fuel + 1) scope pieces).run start = .ok (Piece.join pieces.reverse, start) := by
  rcases ending with atEnd | ⟨more, bar⟩
  · exact sequence_of_end atEnd fuel scope pieces
  · exact sequence_of_bar (bar ▸ firstToken_cons (by decide) more) fuel scope pieces

/-- An escape is a part. -/
theorem sequence_of_escape {c : Char} (first : firstToken start.rest = some (.escape c))
    (escapes : start.rest.drop 2 ≠ ['\\']) (fuel : Nat) (scope : Flags) (pieces : List Piece) :
    (sequence (fuel + 1) scope pieces).run start =
      (escapePiece scope c >>= fun piece => sequence fuel scope (piece :: pieces)).run
        (start.dropped 2) := by
  rw [sequence, run_bind_of_ok (run_offset start), run_bind_of_ok (run_peek start), first]
  exact run_bind_of_ok (run_drop escapes) _

/-- A blank means nothing where that is asked for. -/
theorem sequence_of_blank {c : Char} (first : firstToken start.rest = some (.plain c))
    (escapes : start.rest.drop 1 ≠ ['\\']) (blank : Text.isAsciiSpace c = true)
    (mode : scope.verbose = true) (fuel : Nat) (pieces : List Piece) :
    (sequence (fuel + 1) scope pieces).run start =
      (sequence fuel scope pieces).run (start.dropped 1) := by
  have inner : ¬ (c == '|' || c == ')') = true := by
    intro outer
    rcases Bool.or_eq_true_iff.mp outer with same | same
    · rw [beq_iff_eq.mp same] at blank
      cases blank
    · rw [beq_iff_eq.mp same] at blank
      cases blank
  rw [sequence, run_bind_of_ok (run_offset start), run_bind_of_ok (run_peek start), first]
  dsimp only
  rw [if_neg inner, run_bind_of_ok (run_drop escapes), mode, blank]
  rfl

/-- A comment means nothing where that is asked for. -/
theorem sequence_of_hash (first : firstToken start.rest = some (.plain '#'))
    (escapes : start.rest.drop 1 ≠ ['\\']) (mode : scope.verbose = true) (fuel : Nat)
    (pieces : List Piece) :
    (sequence (fuel + 1) scope pieces).run start =
      (skipLine ((start.dropped 1).rest.length + 1) >>= fun _ => sequence fuel scope pieces).run
        (start.dropped 1) := by
  rw [sequence, run_bind_of_ok (run_offset start), run_bind_of_ok (run_peek start), first]
  dsimp only
  rw [if_neg (by decide), run_bind_of_ok (run_drop escapes), mode]
  exact run_bind_of_ok (run_left _) _

/-- A group is what its opening signs tell. -/
theorem sequence_of_open (first : firstToken start.rest = some (.plain '('))
    (escapes : start.rest.drop 1 ≠ ['\\']) (fuel : Nat) (scope : Flags) (pieces : List Piece) :
    (sequence (fuel + 1) scope pieces).run start =
      (do
        let opening ← opening
        match ← groupPiece scope start.position (alternation fuel) (sequence fuel scope [])
            opening with
        | some piece => sequence fuel scope (piece :: pieces)
        | none => sequence fuel scope pieces : Reader Piece).run (start.dropped 1) := by
  rw [sequence, run_bind_of_ok (run_offset start), run_bind_of_ok (run_peek start), first]
  dsimp only
  have noBlank : (scope.verbose && Text.isAsciiSpace '(') = false := Bool.and_false _
  have noComment : (scope.verbose && '(' == '#') = false := Bool.and_false _
  rw [if_neg (by decide), run_bind_of_ok (run_drop escapes), noBlank, noComment]
  rfl

/-- Whether a character by itself stands for a part, whatever comes before and after it. -/
def isPlainSign (c : Char) : Bool :=
  !(['|', ')', '*', '+', '?', '\x7b', '('].contains c)

/-- Where a sequence goes on, its next token can be taken. -/
theorem escapes_of_sequence {c : Char} {fuel : Nat} {pieces : List Piece} {piece : Piece}
    {ended : Reading} (first : firstToken start.rest = some (.plain c))
    (inner : ¬ (c == '|' || c == ')') = true)
    (ran : (sequence (fuel + 1) scope pieces).run start = .ok (piece, ended)) :
    start.rest.drop 1 ≠ ['\\'] := by
  rw [sequence, run_bind_of_ok (run_offset start), run_bind_of_ok (run_peek start), first] at ran
  dsimp only at ran
  rw [if_neg inner] at ran
  obtain ⟨_, _, dropped, -⟩ := run_bind_eq_ok.mp ran
  exact (run_drop_eq_ok.mp dropped).1

/-- The last part is repeated if it is one that can be. -/
theorem run_repeatLast_eq_ok {place least : Nat} {most : Option Nat} {pieces answer : List Piece}
    {ended : Reading} :
    (repeatLast place least most pieces).run start = .ok (answer, ended) ↔
      ∃ last before greed, pieces = last :: before ∧ last.role = .part ∧
        repeatGreed.run start = .ok (greed, ended) ∧
        answer = {
          node := .iterate greed least most last.node
          width := last.width.times least most
          role := .repeated } :: before := by
  constructor
  · intro ran
    cases pieces with
    | nil => exact absurd ran (failAt_refuses _ _ _ _)
    | cons last before =>
        obtain ⟨node, width, role⟩ := last
        cases role with
        | anchor => exact absurd ran (failAt_refuses _ _ _ _)
        | repeated => exact absurd ran (failAt_refuses _ _ _ _)
        | part =>
            obtain ⟨greed, _, ranGreed, returned⟩ := run_bind_eq_ok.mp ran
            cases returned
            exact ⟨_, _, greed, rfl, rfl, ranGreed, rfl⟩
  · rintro ⟨⟨node, width, role⟩, before, greed, rfl, isPart, ranGreed, rfl⟩
    cases isPart
    exact run_bind_eq_ok.mpr ⟨greed, ended, ranGreed, rfl⟩

/-- A repeat sign repeats the part before it. -/
theorem sequence_of_repeat {c : Char} (first : firstToken start.rest = some (.plain c))
    (escapes : start.rest.drop 1 ≠ ['\\']) (sign : c = '*' ∨ c = '+' ∨ c = '?') (fuel : Nat)
    (scope : Flags) (pieces : List Piece) :
    (sequence (fuel + 1) scope pieces).run start =
      (repeatLast start.position (if c = '+' then 1 else 0) (if c = '?' then some 1 else none)
        pieces >>= fun pieces => sequence fuel scope pieces).run (start.dropped 1) := by
  have noBlank : (scope.verbose && Text.isAsciiSpace c) = false := by
    rcases sign with rfl | rfl | rfl <;> exact Bool.and_false _
  have noComment : (scope.verbose && c == '#') = false := by
    rcases sign with rfl | rfl | rfl <;> exact Bool.and_false _
  rw [sequence, run_bind_of_ok (run_offset start), run_bind_of_ok (run_peek start), first]
  dsimp only
  rw [noBlank, noComment]
  rcases sign with rfl | rfl | rfl <;>
    exact (congrArg (StateT.run · start) (if_neg (by decide))).trans
      (run_bind_of_ok (run_drop escapes) _)

/-- Any other sign is a part. -/
theorem sequence_of_sign {c : Char} (first : firstToken start.rest = some (.plain c))
    (escapes : start.rest.drop 1 ≠ ['\\']) (sign : isPlainSign c = true)
    (mode : scope.verbose = false) (fuel : Nat) (pieces : List Piece) :
    (sequence (fuel + 1) scope pieces).run start =
      (signPiece scope start.position c >>= fun piece =>
        sequence fuel scope (piece :: pieces)).run (start.dropped 1) := by
  simp only [isPlainSign, List.contains_eq_mem, List.mem_cons, List.not_mem_nil, or_false,
    Bool.not_eq_true', decide_eq_false_iff_not, not_or] at sign
  obtain ⟨bar, close, star, plus, question, brace, paren⟩ := sign
  rw [sequence, run_bind_of_ok (run_offset start), run_bind_of_ok (run_peek start), first]
  dsimp only
  rw [if_neg (by simp [bar, close]), run_bind_of_ok (run_drop escapes), mode, Bool.false_and,
    Bool.false_and, if_neg Bool.false_ne_true, if_neg Bool.false_ne_true,
    if_neg (by simp [star, plus, question, brace]), if_neg (by simp [paren])]

end Structex.Regex.Reader
