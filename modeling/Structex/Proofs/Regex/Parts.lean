import Structex.Proofs.Regex.Sequence
import Structex.Proofs.Regex.Ways

/-!
# Reading a source that is put together

A source that is put together from known parts is read as the parts that they stand for. `ReadsPart`
says so of characters that stand for one part, which a repeat sign may follow, and `Reads` of
characters that stand for several parts. Both are stated without flags, and for whatever comes
before and after the characters; the widths of the parts are left open.
-/

namespace Structex.Regex

/-- The node of parts in order. -/
theorem Piece.node_join (parts : List Piece) :
    (Piece.join parts).node = Node.join (parts.map (·.node)) := by
  induction parts with
  | nil => rfl
  | cons part rest inductionHypothesis =>
      cases rest with
      | nil => rfl
      | cons second rest => exact congrArg (Node.seq part.node) inductionHypothesis

/-- What can come after a repeat sign without changing what the sign means. -/
structure Unrepeated (tail : List Char) : Prop where
  escapes : tail ≠ ['\\']
  question : firstToken tail ≠ some (.plain '?')
  plus : firstToken tail ≠ some (.plain '+')

/-- Characters that begin with a sign which modifies no repeat sign. -/
theorem Unrepeated.cons {c : Char} (escape : c ≠ '\\') (question : c ≠ '?') (plus : c ≠ '+')
    (tail : List Char) : Unrepeated (c :: tail) where
  escapes := by simp [escape]
  question := by simp [firstToken_cons escape, question]
  plus := by simp [firstToken_cons escape, plus]

/-- Characters that begin with an escape. -/
theorem Unrepeated.escape (c : Char) (tail : List Char) : Unrepeated ('\\' :: c :: tail) where
  escapes := by simp
  question := by simp [firstToken]
  plus := by simp [firstToken]

/-- Nothing at all. -/
theorem Unrepeated.nil : Unrepeated [] where
  escapes := by simp
  question := by simp [firstToken]
  plus := by simp [firstToken]

/-- What ends an alternation modifies no repeat sign. -/
theorem Unrepeated.of_ending {after : List Char}
    (ending : after = [] ∨ ∃ more, after = ')' :: more) : Unrepeated after := by
  rcases ending with rfl | ⟨more, rfl⟩
  · exact .nil
  · exact .cons (by decide) (by decide) (by decide) more

namespace Reader

/-- Characters stand for a part, which a repeat sign may follow. -/
structure ReadsPart (chars : List Char) (node : Node) : Prop where
  opens : ∀ tail, tail ≠ ['\\'] → Unrepeated (chars ++ tail)
  reads : ∀ {fuel before tail} {start : Reading}, start.rest = chars ++ tail → tail ≠ ['\\'] →
    2 * start.rest.length + 3 ≤ fuel → ∃ (less : Nat) (part : Piece), 2 * tail.length + 3 ≤ less ∧
      part.node = node ∧ part.role = .part ∧
      (sequence fuel {} before).run start =
        (sequence less {} (part :: before)).run (start.dropped chars.length)

/-- Characters stand for several parts. -/
structure Reads (chars : List Char) (nodes : List Node) : Prop where
  opens : ∀ tail, Unrepeated tail → Unrepeated (chars ++ tail)
  reads : ∀ {fuel before tail} {start : Reading}, start.rest = chars ++ tail → Unrepeated tail →
    2 * start.rest.length + 3 ≤ fuel →
    ∃ (less : Nat) (parts : List Piece), 2 * tail.length + 3 ≤ less ∧
      parts.map (·.node) = nodes ∧
      (sequence fuel {} before).run start =
        (sequence less {} (parts.reverse ++ before)).run (start.dropped chars.length)

/-- One part is several parts. -/
theorem ReadsPart.reads_one {chars : List Char} {node : Node} (part : ReadsPart chars node) :
    Reads chars [node] where
  opens tail unrepeated := part.opens tail unrepeated.escapes
  reads rest unrepeated enough := by
    obtain ⟨less, piece, enoughLess, same, -, ran⟩ := part.reads rest unrepeated.escapes enough
    exact ⟨less, [piece], enoughLess, by rw [List.map_singleton, same], ran⟩

/-- No characters stand for no parts. -/
theorem Reads.nil : Reads [] [] where
  opens tail unrepeated := unrepeated
  reads {fuel before tail start} rest unrepeated enough := by
    have same : start.rest = tail := rest
    exact ⟨fuel, [], same ▸ enough, rfl, rfl⟩

/-- Parts come one after another. -/
theorem Reads.append {first second : List Char} {firstNodes secondNodes : List Node}
    (firstReads : Reads first firstNodes) (secondReads : Reads second secondNodes) :
    Reads (first ++ second) (firstNodes ++ secondNodes) where
  opens tail unrepeated := by
    rw [List.append_assoc]
    exact firstReads.opens _ (secondReads.opens _ unrepeated)
  reads {fuel before tail start} rest unrepeated enough := by
    rw [List.append_assoc] at rest
    obtain ⟨middle, firstParts, enoughMiddle, firstSame, ranFirst⟩ :=
      firstReads.reads rest (secondReads.opens _ unrepeated) enough
    have after : (start.dropped first.length).rest = second ++ tail := by
      rw [Reading.dropped, rest, List.drop_left]
    obtain ⟨less, secondParts, enoughLess, secondSame, ranSecond⟩ :=
      secondReads.reads after unrepeated (after ▸ enoughMiddle)
    refine ⟨less, firstParts ++ secondParts, enoughLess, ?_, ?_⟩
    · rw [List.map_append, firstSame, secondSame]
    · rw [ranFirst, ranSecond, Reading.dropped_dropped, List.length_append, List.reverse_append,
        List.append_assoc]

/-! ## Signs -/

/-- Whether a character by itself stands for itself. -/
def isOrdinary (c : Char) : Bool :=
  !(['|', ')', '*', '+', '?', '\x7b', '(', '\\', '.', '^', '$', '['].contains c)

/-- An ordinary character stands for itself. -/
theorem ReadsPart.ordinary {c : Char} (ordinary : isOrdinary c = true) :
    ReadsPart [c] (.one (.only c)) := by
  simp only [isOrdinary, List.contains_eq_mem, List.mem_cons, List.not_mem_nil, or_false,
    Bool.not_eq_true', decide_eq_false_iff_not, not_or] at ordinary
  obtain ⟨bar, close, star, plus, question, brace, paren, escape, dot, caret, dollar, bracket⟩ :=
    ordinary
  constructor
  · intro tail _
    exact .cons escape question plus tail
  · intro fuel before tail start rest escapes enough
    obtain ⟨fuel, rfl⟩ : ∃ less, fuel = less + 1 := ⟨fuel - 1, by omega⟩
    have first : firstToken start.rest = some (.plain c) := rest ▸ firstToken_cons escape tail
    have dropped : start.rest.drop 1 = tail := by
      rw [rest]
      rfl
    have sign : isPlainSign c = true := by
      simp [isPlainSign, bar, close, star, plus, question, brace, paren]
    have literal : signPiece {} start.position c = pure (Piece.literal {} c.toNat) := by
      unfold signPiece
      split
      · exact absurd rfl dot
      · exact absurd rfl caret
      · exact absurd rfl dollar
      · exact absurd rfl bracket
      · rfl
    have size : start.rest.length = tail.length + 1 := by simp [rest]
    refine ⟨fuel, Piece.literal {} c.toNat, by omega, rfl, rfl, ?_⟩
    rw [sequence_of_sign first (dropped ▸ escapes) sign rfl, literal, pure_bind]
    rfl

/-- A sign that stands for an anchor. -/
theorem Reads.anchor {c : Char} {anchor : Anchor} (sign : isPlainSign c = true)
    (escape : c ≠ '\\')
    (piece : ∀ place, signPiece {} place c = pure (Piece.ofAnchor anchor)) :
    Reads [c] [.assertion anchor] := by
  have signs := sign
  simp only [isPlainSign, List.contains_eq_mem, List.mem_cons, List.not_mem_nil, or_false,
    Bool.not_eq_true', decide_eq_false_iff_not, not_or] at signs
  obtain ⟨-, -, -, plus, question, -, -⟩ := signs
  constructor
  · intro tail _
    exact .cons escape question plus tail
  · intro fuel before tail start rest unrepeated enough
    obtain ⟨fuel, rfl⟩ : ∃ less, fuel = less + 1 := ⟨fuel - 1, by omega⟩
    have first : firstToken start.rest = some (.plain c) := rest ▸ firstToken_cons escape tail
    have dropped : start.rest.drop 1 = tail := by
      rw [rest]
      rfl
    have size : start.rest.length = tail.length + 1 := by simp [rest]
    refine ⟨fuel, [Piece.ofAnchor anchor], by omega, rfl, ?_⟩
    rw [sequence_of_sign first (dropped ▸ unrepeated.escapes) sign rfl, piece, pure_bind]
    rfl

/-- An escaped character that stands for itself. -/
theorem ReadsPart.escaped {c : Char}
    (piece : escapePiece {} c = pure (Piece.literal {} c.toNat)) :
    ReadsPart ['\\', c] (.one (.only c)) := by
  constructor
  · intro tail _
    exact .escape c tail
  · intro fuel before tail start rest escapes enough
    obtain ⟨fuel, rfl⟩ : ∃ less, fuel = less + 1 := ⟨fuel - 1, by omega⟩
    have first : firstToken start.rest = some (.escape c) := by
      rw [rest]
      rfl
    have dropped : start.rest.drop 2 = tail := by
      rw [rest]
      rfl
    have size : start.rest.length = tail.length + 2 := by simp [rest]
    refine ⟨fuel, Piece.literal {} c.toNat, by omega, rfl, rfl, ?_⟩
    rw [sequence_of_escape first (dropped ▸ escapes), piece, pure_bind]
    rfl

/-! ## Sets -/

/-- The next character is taken. -/
theorem run_next_cons {start : Reading} {c : Char} {rest : List Char}
    (same : start.rest = c :: rest) (escape : c ≠ '\\') (escapes : rest ≠ ['\\']) :
    next.run start = .ok (some (.plain c), start.dropped 1) :=
  run_next (same ▸ firstToken_cons escape rest) (by rw [same]; exact escapes)

/-- The next character is taken if it is the one asked for. -/
theorem run_accept_cons {start : Reading} {c : Char} {rest : List Char}
    (same : start.rest = c :: rest) (escape : c ≠ '\\') (escapes : rest ≠ ['\\']) :
    (accept c).run start = .ok (true, start.dropped 1) :=
  run_accept (same ▸ firstToken_cons escape rest) (by rw [same]; exact escapes)

/-- A negated set of one member. -/
theorem run_characterSet {start : Reading} {c : Char} {tail : List Char}
    (rest : start.rest = '^' :: c :: ']' :: tail) (escape : c ≠ '\\') (escapes : tail ≠ ['\\'])
    (place : Nat) :
    (characterSet {} place).run start = .ok (Piece.ofSet (.allBut c), start.dropped 3) := by
  have afterCaret : (start.dropped 1).rest = c :: ']' :: tail := by
    rw [Reading.dropped, rest]
    rfl
  have afterMember : (start.dropped 2).rest = ']' :: tail := by
    rw [Reading.dropped, rest]
    rfl
  have more : ∀ rest : List Char, c :: ']' :: rest ≠ ['\\'] := by simp
  have noRange : firstToken (start.dropped 2).rest ≠ some (.plain '-') := by
    rw [afterMember, firstToken_cons (by decide)]
    decide
  have members : (setMembers {} place (((start.dropped 1).rest.length) + 1) []).run
      (start.dropped 1) = .ok ([.literal c.toNat], start.dropped 3) := by
    rw [afterCaret]
    rw [List.length_cons, List.length_cons, setMembers,
      run_bind_of_ok (run_next_cons afterCaret escape (by simp))]
    dsimp only [List.isEmpty_nil]
    rw [if_neg (by simp), setMember, pure_bind, Reading.dropped_dropped,
      run_bind_of_ok (run_accept_of_ne noRange), if_neg Bool.false_ne_true, setMembers,
      run_bind_of_ok (run_next_cons afterMember (by decide) escapes), Reading.dropped_dropped]
    rfl
  rw [characterSet, run_bind_of_ok (run_accept_cons rest (by decide) (more tail)),
    run_bind_of_ok (run_left _), run_bind_of_ok members]
  rfl

/-- A negated set of one member takes all other characters. -/
theorem ReadsPart.allBut {c : Char} (escape : c ≠ '\\') :
    ReadsPart ['[', '^', c, ']'] (.one (.allBut c)) := by
  constructor
  · intro tail _
    exact .cons (by decide) (by decide) (by decide) _
  · intro fuel before tail start rest escapes enough
    obtain ⟨fuel, rfl⟩ : ∃ less, fuel = less + 1 := ⟨fuel - 1, by omega⟩
    have first : firstToken start.rest = some (.plain '[') := rest ▸ firstToken_cons (by decide) _
    have dropped : (start.dropped 1).rest = '^' :: c :: ']' :: tail := by
      rw [Reading.dropped, rest]
      rfl
    have size : start.rest.length = tail.length + 4 := by simp [rest]
    have more : start.rest.drop 1 ≠ ['\\'] := by simp [rest]
    refine ⟨fuel, Piece.ofSet (.allBut c), by omega, rfl, rfl, ?_⟩
    rw [sequence_of_sign first more (by decide) rfl,
      signPiece, run_bind_of_ok (run_characterSet dropped escape escapes _),
      Reading.dropped_dropped]
    rfl

/-! ## Repetitions -/

/-- A repeat sign that nothing modifies is greedy. -/
theorem run_repeatGreed {start : Reading} (unrepeated : Unrepeated start.rest) :
    repeatGreed.run start = .ok (.greedy, start) := by
  rw [repeatGreed, run_bind_of_ok (run_accept_of_ne unrepeated.question),
    if_neg Bool.false_ne_true, run_bind_of_ok (run_accept_of_ne unrepeated.plus)]
  rfl

/-- A part is repeated by a sign after it. -/
theorem ReadsPart.repeated {chars : List Char} {node : Node} (part : ReadsPart chars node)
    {sign : Char} (free : sign = '*' ∨ sign = '+') :
    Reads (chars ++ [sign])
      [.iterate .greedy (if sign = '+' then 1 else 0) none node] := by
  have noEscape : sign ≠ '\\' := by rcases free with rfl | rfl <;> decide
  have noQuestion : sign ≠ '?' := by rcases free with rfl | rfl <;> decide
  have escapes : ∀ tail, sign :: tail ≠ ['\\'] := by simp [noEscape]
  constructor
  · intro tail _
    rw [List.append_assoc]
    exact part.opens _ (escapes tail)
  · intro fuel before tail start rest unrepeated enough
    rw [List.append_assoc] at rest
    obtain ⟨middle, piece, enoughMiddle, same, role, ran⟩ :=
      part.reads rest (escapes tail) enough
    have after : (start.dropped chars.length).rest = sign :: tail := by
      rw [Reading.dropped, rest, List.drop_left]
      rfl
    obtain ⟨less, rfl⟩ : ∃ less, middle = less + 1 := ⟨middle - 1, by omega⟩
    have first : firstToken (start.dropped chars.length).rest = some (.plain sign) :=
      after ▸ firstToken_cons noEscape tail
    have dropped : (start.dropped chars.length).rest.drop 1 = tail := by
      rw [after]
      rfl
    have enoughLess : 2 * tail.length + 3 ≤ less := by
      simp only [List.singleton_append, List.length_cons] at enoughMiddle
      omega
    refine ⟨less, [{
      node := .iterate .greedy (if sign = '+' then 1 else 0) none piece.node
      width := piece.width.times (if sign = '+' then 1 else 0) none
      role := .repeated }], enoughLess, by rw [← same]; rfl, ?_⟩
    have greed : repeatGreed.run ((start.dropped chars.length).dropped 1) =
        .ok (.greedy, (start.dropped chars.length).dropped 1) :=
      run_repeatGreed (by rw [Reading.dropped, dropped]; exact unrepeated)
    have repeats : (repeatLast (start.dropped chars.length).position
        (if sign = '+' then 1 else 0) (if sign = '?' then some 1 else none)
        (piece :: before)).run ((start.dropped chars.length).dropped 1) =
        .ok ({
          node := .iterate .greedy (if sign = '+' then 1 else 0) none piece.node
          width := piece.width.times (if sign = '+' then 1 else 0) none
          role := .repeated } :: before, (start.dropped chars.length).dropped 1) := by
      rw [repeatLast, role, if_neg noQuestion]
      dsimp only
      rw [run_bind_of_ok greed]
      rfl
    rw [ran, sequence_of_repeat first (dropped ▸ unrepeated.escapes)
      (free.imp_right .inl), run_bind_of_ok repeats, Reading.dropped_dropped,
      List.length_append]
    rfl

/-! ## Branches -/

/-- Characters stand for an alternation, up to a closing parenthesis or the end. -/
structure ReadsBranches (chars : List Char) (node : Node) : Prop where
  opens : ∀ tail, Unrepeated tail → Unrepeated (chars ++ tail)
  reads : ∀ {fuel after} {start : Reading}, start.rest = chars ++ after →
    (after = [] ∨ ∃ more, after = ')' :: more) → 2 * start.rest.length + 4 ≤ fuel →
    ∃ piece : Piece, piece.node = node ∧ piece.role = .part ∧
      (alternation fuel {}).run start = .ok (piece, start.dropped chars.length)

/-- Parts alone are an alternation of one branch. -/
theorem Reads.branches {chars : List Char} {nodes : List Node} (branch : Reads chars nodes) :
    ReadsBranches chars (Node.join nodes) where
  opens := branch.opens
  reads {fuel after start} rest ending enough := by
    obtain ⟨fuel, rfl⟩ : ∃ less, fuel = less + 1 := ⟨fuel - 1, by omega⟩
    have enoughBranch : 2 * start.rest.length + 3 ≤ fuel := by omega
    obtain ⟨less, parts, enoughLess, same, ran⟩ :=
      branch.reads rest (.of_ending ending) enoughBranch
    obtain ⟨less, rfl⟩ : ∃ more, less = more + 1 := ⟨less - 1, by omega⟩
    have dropped : (start.dropped chars.length).rest = after := by
      rw [Reading.dropped, rest, List.drop_left]
    have finished : (sequence (less + 1) {} (parts.reverse ++ [])).run
        (start.dropped chars.length) = .ok (Piece.join parts, start.dropped chars.length) := by
      rw [List.append_nil]
      rcases ending with atEnd | ⟨more, closes⟩
      · rw [sequence_of_end (dropped.trans atEnd), List.reverse_reverse]
      · rw [sequence_of_close (by rw [dropped, closes]; exact firstToken_cons (by decide) _),
          List.reverse_reverse]
    have noBar : firstToken (start.dropped chars.length).rest ≠ some (.plain '|') := by
      rw [dropped]
      rcases ending with rfl | ⟨more, rfl⟩
      · decide
      · rw [firstToken_cons (by decide)]
        decide
    refine ⟨{ Piece.join parts with role := .part }, ?_, rfl, ?_⟩
    · rw [← same]
      exact Piece.node_join parts
    · rw [alternation, run_bind_of_ok (ran.trans finished),
        run_bind_of_ok (run_accept_of_ne noBar)]
      rfl

/-- A branch before others. -/
theorem Reads.bar {chars others : List Char} {nodes : List Node} {node : Node}
    (branch : Reads chars nodes) (branches : ReadsBranches others node) :
    ReadsBranches (chars ++ '|' :: others) (.choice (Node.join nodes) node) where
  opens tail _ := by
    rw [List.append_assoc]
    exact branch.opens _ (.cons (by decide) (by decide) (by decide) _)
  reads {fuel after start} rest ending enough := by
    obtain ⟨fuel, rfl⟩ : ∃ less, fuel = less + 1 := ⟨fuel - 1, by omega⟩
    rw [List.append_assoc] at rest
    have bar : Unrepeated ('|' :: (others ++ after)) :=
      .cons (by decide) (by decide) (by decide) _
    have enoughBranch : 2 * start.rest.length + 3 ≤ fuel := by omega
    obtain ⟨less, parts, enoughLess, same, ran⟩ := branch.reads rest bar enoughBranch
    obtain ⟨less, rfl⟩ : ∃ more, less = more + 1 := ⟨less - 1, by omega⟩
    have dropped : (start.dropped chars.length).rest = '|' :: (others ++ after) := by
      rw [Reading.dropped, rest, List.drop_left]
      rfl
    have behind : (start.dropped (chars.length + 1)).rest = others ++ after := by
      rw [← Reading.dropped_dropped, Reading.dropped, dropped]
      rfl
    have finished : (sequence (less + 1) {} (parts.reverse ++ [])).run
        (start.dropped chars.length) = .ok (Piece.join parts, start.dropped chars.length) := by
      rw [List.append_nil, sequence_of_bar (dropped ▸ firstToken_cons (by decide) _),
        List.reverse_reverse]
    have escapes := (branches.opens _ (.of_ending ending)).escapes
    have enoughOthers : 2 * (start.dropped (chars.length + 1)).rest.length + 4 ≤ fuel := by
      rw [behind]
      have size : start.rest.length = chars.length + ((others ++ after).length + 1) := by
        rw [rest, List.length_append, List.cons_append, List.length_cons]
      omega
    obtain ⟨piece, samePiece, role, ranOthers⟩ := branches.reads behind ending enoughOthers
    refine ⟨{
      node := .choice (Piece.join parts).node piece.node
      width := (Piece.join parts).width.either piece.width }, ?_, rfl, ?_⟩
    · rw [← same, samePiece, Piece.node_join]
    · rw [alternation, run_bind_of_ok (ran.trans finished),
        run_bind_of_ok (run_accept_cons dropped (by decide) escapes), Reading.dropped_dropped,
        if_pos rfl, run_bind_of_ok ranOthers, Reading.dropped_dropped, List.length_append,
        List.length_cons, Nat.add_assoc, Nat.add_comm 1]
      rfl

/-- An alternation in a group that only keeps it together is one part. -/
theorem ReadsBranches.group {chars : List Char} {node : Node}
    (branches : ReadsBranches chars node) :
    ReadsPart ('(' :: '?' :: ':' :: (chars ++ [')'])) node where
  opens tail _ := .cons (by decide) (by decide) (by decide) _
  reads {fuel before tail start} rest escapes enough := by
    obtain ⟨fuel, rfl⟩ : ∃ less, fuel = less + 1 := ⟨fuel - 1, by omega⟩
    simp only [List.cons_append, List.append_assoc, List.nil_append] at rest
    have closes : Unrepeated (')' :: tail) := .cons (by decide) (by decide) (by decide) _
    have inner := (branches.opens _ closes).escapes
    have afterOpen : (start.dropped 1).rest = '?' :: ':' :: (chars ++ ')' :: tail) := by
      rw [Reading.dropped, rest]
      rfl
    have afterQuestion : (start.dropped 2).rest = ':' :: (chars ++ ')' :: tail) := by
      rw [Reading.dropped, rest]
      rfl
    have afterColon : (start.dropped 3).rest = chars ++ ')' :: tail := by
      rw [Reading.dropped, rest]
      rfl
    have opened : opening.run (start.dropped 1) = .ok (.grouping {} {}, start.dropped 3) := by
      rw [opening, run_bind_of_ok (run_accept_cons afterOpen (by decide) (by simp)),
        Reading.dropped_dropped, if_neg (by decide),
        run_bind_of_ok (run_next_cons afterQuestion (by decide) inner), Reading.dropped_dropped]
      rfl
    have size : (start.dropped 3).rest.length + 3 = start.rest.length := by
      rw [afterColon, rest]
      rfl
    have enoughInside : 2 * (start.dropped 3).rest.length + 4 ≤ fuel := by omega
    obtain ⟨piece, same, role, ran⟩ := branches.reads afterColon (.inr ⟨tail, rfl⟩) enoughInside
    have atClose : (start.dropped (3 + chars.length)).rest = ')' :: tail := by
      rw [← Reading.dropped_dropped, Reading.dropped, afterColon, List.drop_left]
    have closed : (close start.position).run (start.dropped (3 + chars.length)) =
        .ok ((), start.dropped (3 + chars.length + 1)) := by
      refine run_close_eq_ok.mpr ⟨?_, ?_, (Reading.dropped_dropped _ _ _).symm⟩
      · rw [atClose]
        exact firstToken_cons (by decide) _
      · rw [atClose]
        exact escapes
    have grouped : (groupPiece {} start.position (alternation fuel) (sequence fuel {} [])
        (.grouping {} {})).run (start.dropped 3) =
        .ok (some { piece with role := .part }, start.dropped (3 + chars.length + 1)) := by
      rw [Reading.dropped_dropped] at ran
      have contents : (closing start.position (alternation fuel {})).run (start.dropped 3) =
          .ok (piece, start.dropped (3 + chars.length + 1)) := by
        rw [closing, run_bind_of_ok ran, run_bind_of_ok closed]
        rfl
      exact run_bind_of_ok contents _
    have first : firstToken start.rest = some (.plain '(') := rest ▸ firstToken_cons (by decide) _
    have length : chars.length + 1 + 3 = 3 + chars.length + 1 := by omega
    refine ⟨fuel, { piece with role := .part }, ?_, same, rfl, ?_⟩
    · rw [afterColon, List.length_append, List.length_cons] at size
      omega
    · have more : start.rest.drop 1 ≠ ['\\'] := by simp [rest]
      rw [sequence_of_open first more, run_bind_of_ok opened, run_bind_of_ok grouped]
      simp only [List.length_cons, List.length_append, List.length_nil, length]

/-! ## Whole patterns -/

/-- A source that does not begin with a group gives no flags of its own. -/
theorem globalFlags_of_noGroup {start : Reading}
    (noGroup : firstToken start.rest ≠ some (.plain '(')) (fuel : Nat) :
    (globalFlags (fuel + 1) {}).run start = .ok ({}, start) := by
  have got : (get : Reader Reading).run start = .ok (start, start) := rfl
  have led : (leadingFlags {} (start.rest.length + 1)).run start = .ok (none, start) := by
    rw [leadingFlags, run_bind_of_ok (run_offset start), run_bind_of_ok (run_peek start)]
    split
    · rename_i c first
      have other : ¬ (c == '(') = true := by
        intro same
        exact noGroup (beq_iff_eq.mp same ▸ first)
      simp only [Bool.false_and, Bool.false_eq_true, if_false, other]
      rfl
    · rfl
  rw [globalFlags, run_bind_of_ok got, run_bind_of_ok (run_left start), run_bind_of_ok led]
  rfl

/-- A source that stands for an alternation without flags is read as a pattern with its tree. -/
theorem ReadsBranches.parse {source : String} {node : Node}
    (branches : ReadsBranches source.toList node)
    (noGroup : firstToken source.toList ≠ some (.plain '('))
    (sound : node.firstCause false = none) :
    Pattern.parse source {} = .ok {
      source := source
      flags := { unicode := true }
      groups := 0
      names := []
      node := node } := by
  have escapes : source.toList ≠ ['\\'] := by
    have opens := (branches.opens [] .nil).escapes
    rwa [List.append_nil] at opens
  have checked : checkEscape.run (Reading.start source) = .ok ((), Reading.start source) :=
    run_checkEscape_eq_ok.mpr ⟨escapes, rfl⟩
  have size : (Reading.start source).rest.length = source.length := by
    rw [Reading.start, String.length_toList]
  have enough : 2 * (Reading.start source).rest.length + 4 ≤ 2 * source.length + 4 := by omega
  obtain ⟨piece, same, -, ran⟩ :=
    branches.reads (List.append_nil _).symm (.inl rfl) enough
  have atEnd : ((Reading.start source).dropped source.toList.length).rest = [] := by
    rw [Reading.dropped]
    exact List.drop_length
  have whole : (checkWhole {} piece.node).run
      ((Reading.start source).dropped source.toList.length) =
      .ok ((), (Reading.start source).dropped source.toList.length) := by
    have got : (get : Reader Reading).run
        ((Reading.start source).dropped source.toList.length) =
        .ok ((Reading.start source).dropped source.toList.length,
          (Reading.start source).dropped source.toList.length) := rfl
    unfold checkWhole
    dsimp only
    rw [if_neg (by decide), run_bind_of_ok got, atEnd, if_neg (by decide), same, sound]
    rfl
  have parsed : (Reader.pattern source {}).run (Reading.start source) = .ok ({
      source := source
      flags := { unicode := true }
      groups := 0
      names := []
      node := node }, (Reading.start source).dropped source.toList.length) := by
    rw [Reader.pattern, run_bind_of_ok checked, run_bind_of_ok (globalFlags_of_noGroup noGroup _),
      run_bind_of_ok ran, run_bind_of_ok whole, same]
    rfl
  rw [Pattern.parse, StateT.run'_eq, parsed]
  rfl

end Reader

end Structex.Regex
