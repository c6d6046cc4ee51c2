import Structex.Regex.Source

/-!
# Steps of reading

What the small steps of a reader come to, as equations, and what all of them have in common:
reading goes on, it never goes back.
-/

namespace Structex.Regex

/-- The first token of a source that begins with any character but a backslash. -/
theorem firstToken_cons {c : Char} (plain : c ≠ '\\') (rest : List Char) :
    firstToken (c :: rest) = some (.plain c) := by
  cases rest <;> simp [firstToken, plain]

/-- The first token of what is left, if something is, is that of any longer source. -/
theorem firstToken_append {rest : List Char} (nonempty : rest ≠ []) (escapes : rest ≠ ['\\'])
    (tail : List Char) : firstToken (rest ++ tail) = firstToken rest := by
  match rest with
  | [] => contradiction
  | [c] =>
      have plain : c ≠ '\\' := fun same => escapes (same ▸ rfl)
      exact (firstToken_cons plain tail).trans (firstToken_cons plain []).symm
  | c :: d :: _ =>
      by_cases escape : c = '\\'
      · subst escape
        rfl
      · exact (firstToken_cons escape _).trans (firstToken_cons escape _).symm

/-- There is a first token unless nothing is left. -/
theorem firstToken_eq_none_iff {rest : List Char} (escapes : rest ≠ ['\\']) :
    firstToken rest = none ↔ rest = [] := by
  constructor
  · intro missing
    cases rest with
    | nil => rfl
    | cons c rest =>
        by_cases escape : c = '\\'
        · subst escape
          cases rest with
          | nil => contradiction
          | cons d rest => cases missing
        · rw [firstToken_cons escape] at missing
          cases missing
  · rintro rfl
    rfl

/-- A lone backslash has no first token. -/
theorem firstToken_escapes {rest : List Char} {token : Token}
    (first : firstToken rest = some token) : rest ≠ ['\\'] := by
  rintro rfl
  cases first

/-- The source begins with the characters of its first token. -/
theorem eq_append_of_firstToken {rest : List Char} {token : Token}
    (first : firstToken rest = some token) : rest = token.chars ++ rest.drop token.width := by
  cases rest with
  | nil => cases first
  | cons c rest =>
      by_cases escape : c = '\\'
      · subst escape
        cases rest with
        | nil => cases first
        | cons d rest =>
            cases first
            rfl
      · rw [firstToken_cons escape] at first
        cases first
        rfl

/-- No token is empty. -/
theorem Token.width_pos (token : Token) : 0 < token.width := by
  cases token <;> exact Nat.succ_pos _

/-- A token is no longer than what is left. -/
theorem width_le_of_firstToken {rest : List Char} {token : Token}
    (first : firstToken rest = some token) : token.width ≤ rest.length := by
  rw [eq_append_of_firstToken first, List.length_append]
  exact Nat.le_add_right _ _

/-- The state after so many characters have been dropped. -/
def Reading.dropped (reading : Reading) (count : Nat) : Reading :=
  { reading with rest := reading.rest.drop count, position := reading.position + count }

/-- Dropping twice is dropping once. -/
theorem Reading.dropped_dropped (reading : Reading) (first second : Nat) :
    (reading.dropped first).dropped second = reading.dropped (first + second) := by
  simp only [dropped, List.drop_drop, Nat.add_assoc]

/-- Less is left after a token has been dropped. -/
theorem Reading.length_dropped_lt {reading : Reading} {token : Token}
    (first : firstToken reading.rest = some token) :
    (reading.dropped token.width).rest.length < reading.rest.length := by
  have within := width_le_of_firstToken first
  have positive := token.width_pos
  simp only [Reading.dropped, List.length_drop]
  omega

/-- The state in which the body of a look-behind is begun. -/
def Reading.limited (reading : Reading) : Reading :=
  { reading with
    lookbehindLimit := some (reading.lookbehindLimit.getD (reading.widths.length + 1)) }

/-- No group has been asked for by its number. -/
def Reading.Quiet (reading : Reading) : Prop :=
  reading.references = [] ∧ reading.conditions = []

/-- Reading goes on from one state to another: characters are taken and groups are opened, names and
numbers that have been met stay known, a lone backslash is never left, and no look-behind is left
open. -/
structure Reading.Leads (before after : Reading) : Prop where
  remains : after.rest.length ≤ before.rest.length
  escapes : after.rest ≠ ['\\']
  names : before.names <+: after.names
  groups : before.widths.length ≤ after.widths.length
  quiet : after.Quiet → before.Quiet
  limit : after.lookbehindLimit = before.lookbehindLimit

/-- Reading goes on from a state to itself. -/
theorem Reading.Leads.refl {reading : Reading} (escapes : reading.rest ≠ ['\\']) :
    reading.Leads reading where
  remains := Nat.le_refl _
  escapes := escapes
  names := List.prefix_refl _
  groups := Nat.le_refl _
  quiet := fun quiet => quiet
  limit := rfl

/-- Steps of reading compose. -/
theorem Reading.Leads.trans {before middle after : Reading} (first : before.Leads middle)
    (second : middle.Leads after) : before.Leads after where
  remains := Nat.le_trans second.remains first.remains
  escapes := second.escapes
  names := first.names.trans second.names
  groups := Nat.le_trans first.groups second.groups
  quiet := fun quiet => first.quiet (second.quiet quiet)
  limit := second.limit.trans first.limit

/-- Reading goes on where characters are dropped. -/
theorem Reading.Leads.dropped {start : Reading} {count : Nat}
    (escapes : start.rest.drop count ≠ ['\\']) : start.Leads (start.dropped count) where
  remains := by
    simp only [Reading.dropped, List.length_drop]
    exact Nat.sub_le _ _
  escapes := escapes
  names := List.prefix_refl _
  groups := Nat.le_refl _
  quiet := fun quiet => quiet
  limit := rfl

/-- The source breaks the grammar. -/
def Fault.IsMalformed : Fault → Prop
  | .malformed _ _ _ => True
  | _ => False

namespace Reader

variable {α β : Type}

/-- Only a source that is left with more than a backslash is read on. -/
def Advances (reader : Reader α) : Prop :=
  ∀ start answer ended, start.rest ≠ ['\\'] → reader.run start = .ok (answer, ended) →
    start.Leads ended

/-- A reader that refuses every source. -/
def Refuses (reader : Reader α) : Prop :=
  ∀ start outcome, reader.run start ≠ .ok outcome

/-- Where a reader refuses the source, that breaks the grammar. -/
def Declines (reader : Reader α) : Prop :=
  ∀ start fault, reader.run start = .error fault → fault.IsMalformed

/-- What a reader that goes on from another accepts is accepted by both in turn. -/
theorem run_bind_eq_ok {first : Reader α} {second : α → Reader β} {start ended : Reading}
    {answer : β} :
    (first >>= second).run start = .ok (answer, ended) ↔
      ∃ given middle, first.run start = .ok (given, middle) ∧
        (second given).run middle = .ok (answer, ended) := by
  rw [StateT.run_bind]
  cases first.run start with
  | error fault => simp [bind, Except.bind]
  | ok outcome =>
      constructor
      · intro ran
        exact ⟨outcome.1, outcome.2, rfl, ran⟩
      · rintro ⟨given, middle, same, ran⟩
        cases same
        exact ran

/-- What a reader that goes on from another refuses is refused by the first, or by the second after
it. -/
theorem run_bind_eq_error {first : Reader α} {second : α → Reader β} {start : Reading}
    {fault : Fault} :
    (first >>= second).run start = .error fault ↔
      first.run start = .error fault ∨ ∃ given middle, first.run start = .ok (given, middle) ∧
        (second given).run middle = .error fault := by
  rw [StateT.run_bind]
  cases first.run start with
  | error other => simp [bind, Except.bind]
  | ok outcome =>
      constructor
      · intro ran
        exact .inr ⟨outcome.1, outcome.2, rfl, ran⟩
      · rintro (failed | ⟨given, middle, same, ran⟩)
        · cases failed
        · cases same
          exact ran

/-- A reader that goes on from an answer. -/
theorem run_bind_of_ok {first : Reader α} {start middle : Reading} {given : α}
    (ran : first.run start = .ok (given, middle)) (second : α → Reader β) :
    (first >>= second).run start = (second given).run middle := by
  rw [StateT.run_bind, ran]
  rfl

/-- What is known of an outcome of reading: an answer is as it should be, so is a fault, and there
is an answer if that is sure. -/
structure Gives (sure : Prop) (right : α → Reading → Prop) (wrong : Fault → Prop)
    (outcome : Except Fault (α × Reading)) : Prop where
  right : ∀ {answer ended}, outcome = .ok (answer, ended) → right answer ended
  wrong : ∀ {fault}, outcome = .error fault → wrong fault
  answers : sure → ∃ answer ended, outcome = .ok (answer, ended)

section

variable {sure sure' : Prop} {right : α → Reading → Prop} {right' : β → Reading → Prop}
  {wrong : Fault → Prop}

theorem Gives.of_ok {outcome : Except Fault (α × Reading)} {answer : α} {ended : Reading}
    (ran : outcome = .ok (answer, ended)) (isRight : right answer ended) :
    Gives sure right wrong outcome where
  right := by
    intro _ _ other
    cases ran.symm.trans other
    exact isRight
  wrong := fun other => nomatch ran.symm.trans other
  answers := fun _ => ⟨answer, ended, ran⟩

theorem Gives.of_error {outcome : Except Fault (α × Reading)} {fault : Fault}
    (ran : outcome = .error fault) (isWrong : wrong fault) (unsure : ¬ sure) :
    Gives sure right wrong outcome where
  right := fun other => nomatch ran.symm.trans other
  wrong := by
    intro _ other
    cases ran.symm.trans other
    exact isWrong
  answers := fun known => absurd known unsure

/-- What goes on from a reader is known if it is from every state that is reached. -/
theorem Gives.bind {first : Reader α} {second : α → Reader β} {start : Reading}
    (ofFirst : Gives sure right wrong (first.run start)) (still : sure' → sure)
    (ofSecond : ∀ {given middle}, right given middle →
      Gives sure' right' wrong ((second given).run middle)) :
    Gives sure' right' wrong ((first >>= second).run start) where
  right := by
    intro answer ended ran
    obtain ⟨given, middle, ranFirst, ranSecond⟩ := run_bind_eq_ok.mp ran
    exact (ofSecond (ofFirst.right ranFirst)).right ranSecond
  wrong := by
    intro fault ran
    rcases run_bind_eq_error.mp ran with failed | ⟨given, middle, ranFirst, failed⟩
    · exact ofFirst.wrong failed
    · exact (ofSecond (ofFirst.right ranFirst)).wrong failed
  answers := by
    intro known
    obtain ⟨given, middle, ranFirst⟩ := ofFirst.answers (still known)
    obtain ⟨answer, ended, ranSecond⟩ := (ofSecond (ofFirst.right ranFirst)).answers known
    exact ⟨answer, ended, run_bind_eq_ok.mpr ⟨given, middle, ranFirst, ranSecond⟩⟩

theorem Gives.mono {right' : α → Reading → Prop} {outcome : Except Fault (α × Reading)}
    (gives : Gives sure right wrong outcome) (still : sure' → sure)
    (same : ∀ {answer ended}, right answer ended → right' answer ended) :
    Gives sure' right' wrong outcome :=
  ⟨fun ran => same (gives.right ran), gives.wrong, fun known => gives.answers (still known)⟩

/-- What is known of every answer may be added. -/
theorem Gives.strengthen {right' : α → Reading → Prop} {outcome : Except Fault (α × Reading)}
    (gives : Gives sure right wrong outcome)
    (more : ∀ {answer ended}, outcome = .ok (answer, ended) → right answer ended →
      right' answer ended) : Gives sure right' wrong outcome :=
  ⟨fun ran => more ran (gives.right ran), gives.wrong, gives.answers⟩

end

theorem throw_refuses (fault : Fault) : (throw fault : Reader α).Refuses := by
  intro start outcome ran
  cases ran

theorem failAt_refuses (cause : Cause) (position : Nat) :
    (failAt cause position : Reader α).Refuses := by
  intro start outcome ran
  cases ran

theorem fail_refuses (cause : Cause) (back : Nat) : (fail cause back : Reader α).Refuses := by
  intro start outcome ran
  cases ran

/-- A refusal is final. -/
theorem Refuses.bind {first : Reader α} (refuses : first.Refuses) (second : α → Reader β) :
    (first >>= second).Refuses := by
  rintro start ⟨answer, ended⟩ ran
  obtain ⟨given, middle, ranFirst, -⟩ := run_bind_eq_ok.mp ran
  exact refuses _ _ ranFirst

/-! ## Equations -/

@[simp] theorem run_offset (start : Reading) :
    offset.run start = .ok (start.position, start) := rfl

@[simp] theorem run_left (start : Reading) :
    left.run start = .ok (start.rest.length, start) := rfl

@[simp] theorem run_peek (start : Reading) :
    peek.run start = .ok (firstToken start.rest, start) := rfl

@[simp] theorem run_sees (c : Char) (start : Reading) :
    (sees c).run start = .ok (firstToken start.rest == some (.plain c), start) := rfl

/-- A source is refused of which only a backslash is left. -/
theorem run_checkEscape_eq_ok {start ended : Reading} :
    checkEscape.run start = .ok ((), ended) ↔ start.rest ≠ ['\\'] ∧ ended = start := by
  unfold checkEscape
  rw [run_bind_of_ok (show (get : Reader Reading).run start = .ok (start, start) from rfl)]
  split
  · rename_i alone
    exact ⟨fun ran => absurd ran (failAt_refuses _ _ _ _), fun escapes => absurd alone escapes.1⟩
  · rename_i escapes
    constructor
    · intro ran
      cases ran
      exact ⟨escapes, rfl⟩
    · rintro ⟨-, rfl⟩
      rfl

/-- Characters can be dropped unless a lone backslash is left after them. -/
theorem run_drop_eq_ok {start ended : Reading} {count : Nat} :
    (drop count).run start = .ok ((), ended) ↔
      start.rest.drop count ≠ ['\\'] ∧ ended = start.dropped count :=
  @run_checkEscape_eq_ok (start.dropped count) ended

/-- Characters are dropped that leave no lone backslash. -/
theorem run_drop {start : Reading} {count : Nat} (escapes : start.rest.drop count ≠ ['\\']) :
    (drop count).run start = .ok ((), start.dropped count) :=
  run_drop_eq_ok.mpr ⟨escapes, rfl⟩

/-- The next token is taken. -/
theorem run_next {start : Reading} {token : Token} (first : firstToken start.rest = some token)
    (escapes : start.rest.drop token.width ≠ ['\\']) :
    next.run start = .ok (some token, start.dropped token.width) := by
  rw [next, run_bind_of_ok (run_peek start), first]
  exact run_bind_of_ok (run_drop escapes) _

/-- Taking the next token is dropping its characters. -/
theorem run_next_bind {start : Reading} {token : Token}
    (first : firstToken start.rest = some token) (second : Option Token → Reader β) :
    (next >>= second).run start =
      (drop token.width >>= fun _ => second (some token)).run start := by
  simp only [next, bind_assoc]
  rw [run_bind_of_ok (run_peek start), first]
  simp only [bind_assoc, pure_bind]

/-- There is no next token at the end. -/
theorem run_next_of_end {start : Reading} (ended : start.rest = []) :
    next.run start = .ok (none, start) := by
  rw [next, run_bind_of_ok (run_peek start), ended]
  rfl

/-- A character that comes next is taken. -/
theorem run_accept {start : Reading} {c : Char} (first : firstToken start.rest = some (.plain c))
    (escapes : start.rest.drop 1 ≠ ['\\']) :
    (accept c).run start = .ok (true, start.dropped 1) := by
  have seen : (sees c).run start = .ok (true, start) := by simp [first]
  rw [accept, run_bind_of_ok seen]
  exact run_bind_of_ok (run_drop escapes) _

/-- Taking a character that comes next is dropping it. -/
theorem run_accept_bind {start : Reading} {c : Char}
    (first : firstToken start.rest = some (.plain c)) (second : Bool → Reader β) :
    (accept c >>= second).run start = (drop 1 >>= fun _ => second true).run start := by
  have seen : (sees c).run start = .ok (true, start) := by simp [first]
  simp only [accept, bind_assoc]
  rw [run_bind_of_ok seen]
  simp only [reduceIte, bind_assoc, pure_bind]

/-- A character that does not come next is not taken. -/
theorem run_accept_of_ne {start : Reading} {c : Char}
    (first : firstToken start.rest ≠ some (.plain c)) :
    (accept c).run start = .ok (false, start) := by
  have seen : (sees c).run start = .ok (false, start) := by
    simpa using first
  rw [accept, run_bind_of_ok seen]
  rfl

/-- A group is closed where a parenthesis comes next, and nowhere else. -/
theorem run_close_eq_ok {start ended : Reading} {place : Nat} :
    (close place).run start = .ok ((), ended) ↔
      firstToken start.rest = some (.plain ')') ∧ start.rest.drop 1 ≠ ['\\'] ∧
        ended = start.dropped 1 := by
  unfold close
  by_cases first : firstToken start.rest = some (.plain ')')
  · rw [run_accept_bind first]
    simp only [reduceIte]
    by_cases escapes : start.rest.drop 1 = ['\\']
    · constructor
      · intro ran
        obtain ⟨_, _, dropped, -⟩ := run_bind_eq_ok.mp ran
        exact absurd escapes (run_drop_eq_ok.mp dropped).1
      · exact fun closed => absurd escapes closed.2.1
    · rw [run_bind_of_ok (run_drop escapes)]
      constructor
      · intro ran
        cases ran
        exact ⟨first, escapes, rfl⟩
      · rintro ⟨-, -, rfl⟩
        rfl
  · rw [run_bind_of_ok (run_accept_of_ne first)]
    exact ⟨fun ran => absurd ran (failAt_refuses _ _ _ _), fun closed => absurd closed.1 first⟩

/-! ## Going on -/

theorem Advances.bind {first : Reader α} {second : α → Reader β} (ofFirst : first.Advances)
    (ofSecond : ∀ given, (second given).Advances) : (first >>= second).Advances := by
  intro start answer ended escapes ran
  obtain ⟨given, middle, ranFirst, ranSecond⟩ := run_bind_eq_ok.mp ran
  have leads := ofFirst start given middle escapes ranFirst
  exact leads.trans (ofSecond given middle answer ended leads.escapes ranSecond)

theorem Refuses.advances {reader : Reader α} (refuses : reader.Refuses) : reader.Advances :=
  fun _ _ _ _ ran => absurd ran (refuses _ _)

theorem pure_advances (answer : α) : (Pure.pure answer : Reader α).Advances := by
  intro start given ended escapes ran
  cases ran
  exact .refl escapes

theorem offset_advances : offset.Advances := by
  intro start place ended escapes ran
  cases ran
  exact .refl escapes

theorem left_advances : left.Advances := by
  intro start count ended escapes ran
  cases ran
  exact .refl escapes

theorem peek_advances : peek.Advances := by
  intro start token ended escapes ran
  cases ran
  exact .refl escapes

theorem sees_advances (c : Char) : (sees c).Advances :=
  peek_advances.bind fun _ => pure_advances _

theorem drop_advances (count : Nat) : (drop count).Advances := by
  intro start answer ended escapes ran
  obtain ⟨escapesAfter, rfl⟩ := run_drop_eq_ok.mp ran
  exact .dropped escapesAfter

theorem next_advances : next.Advances :=
  peek_advances.bind fun token => by
    cases token with
    | none => exact pure_advances none
    | some token => exact (drop_advances _).bind fun _ => pure_advances (some token)

theorem accept_advances (c : Char) : (accept c).Advances :=
  (sees_advances c).bind fun seen => by
    cases seen with
    | false => exact pure_advances false
    | true => exact (drop_advances 1).bind fun _ => pure_advances true

theorem close_advances (place : Nat) : (close place).Advances :=
  (accept_advances _).bind fun closed => by
    cases closed with
    | false => exact (failAt_refuses _ _).advances
    | true => exact pure_advances ()

/-! ## Breaking the grammar -/

theorem Declines.bind {first : Reader α} {second : α → Reader β} (ofFirst : first.Declines)
    (ofSecond : ∀ given, (second given).Declines) : (first >>= second).Declines := by
  intro start fault failed
  rcases run_bind_eq_error.mp failed with failedFirst | ⟨given, middle, -, failedSecond⟩
  · exact ofFirst start fault failedFirst
  · exact ofSecond given middle fault failedSecond

theorem pure_declines (answer : α) : (Pure.pure answer : Reader α).Declines :=
  fun _ _ failed => nomatch failed

theorem get_declines : (get : Reader Reading).Declines :=
  fun _ _ failed => nomatch failed

theorem modify_declines (change : Reading → Reading) : (modify change : Reader Unit).Declines :=
  fun _ _ failed => nomatch failed

theorem failAt_declines (cause : Cause) (position : Nat) :
    (failAt cause position : Reader α).Declines := by
  intro start fault failed
  cases failed
  trivial

theorem fail_declines (cause : Cause) (back : Nat) : (fail cause back : Reader α).Declines := by
  intro start fault failed
  cases failed
  trivial

theorem fail_bind_declines (cause : Cause) (back : Nat) (second : α → Reader β) :
    (fail cause back >>= second).Declines := by
  intro start fault failed
  cases failed
  trivial

theorem checkEscape_declines : checkEscape.Declines := by
  refine get_declines.bind fun reading => ?_
  split
  · exact failAt_declines _ _
  · exact pure_declines ()

theorem drop_declines (count : Nat) : (drop count).Declines :=
  (modify_declines _).bind fun _ => checkEscape_declines

theorem next_declines : next.Declines := by
  refine Declines.bind (get_declines.bind fun _ => pure_declines _) fun token => ?_
  cases token with
  | none => exact pure_declines none
  | some token => exact (drop_declines _).bind fun _ => pure_declines _

theorem accept_declines (c : Char) : (accept c).Declines := by
  refine Declines.bind (Declines.bind
    (get_declines.bind fun _ => pure_declines _) fun _ => pure_declines _) fun seen => ?_
  split
  · exact (drop_declines 1).bind fun _ => pure_declines true
  · exact pure_declines false

theorem nameGroup_declines (chars : List Char) (group : Nat) :
    (nameGroup chars group).Declines := by
  refine get_declines.bind fun reading => ?_
  split
  · exact fail_declines _ _
  · exact modify_declines _

theorem referredWidth_declines (group back : Nat) : (referredWidth group back).Declines := by
  refine get_declines.bind fun reading => ?_
  split
  · exact pure_declines _
  · exact fail_declines _ _

theorem checkLookbehind_declines (group : Nat) : (checkLookbehind group).Declines := by
  refine get_declines.bind fun reading => ?_
  split
  · exact pure_declines ()
  split
  · exact fail_declines _ _
  split
  · exact fail_declines _ _
  · exact pure_declines ()

/-! ## Groups -/

/-- A name stands for the group that has it. -/
theorem run_namedGroup_eq_ok {start ended : Reading} {name : List Char} {group : Nat} :
    (namedGroup name).run start = .ok (group, ended) ↔
      start.names.lookup (String.ofList name) = some group ∧ ended = start := by
  simp only [namedGroup, StateT.run_bind, StateT.run_get, pure_bind]
  cases start.names.lookup (String.ofList name) with
  | none => exact ⟨fun ran => absurd ran (fail_refuses _ _ _ _), fun known => nomatch known.1⟩
  | some known =>
      constructor
      · intro ran
        cases ran
        exact ⟨rfl, rfl⟩
      · rintro ⟨same, rfl⟩
        cases same
        rfl

/-- A name is given to a group unless another has it. -/
theorem run_nameGroup_eq_ok {start ended : Reading} {chars : List Char} {group : Nat} :
    (nameGroup chars group).run start = .ok ((), ended) ↔
      start.names.lookup (String.ofList chars) = none ∧
        ended = { start with names := start.names ++ [(String.ofList chars, group)] } := by
  simp only [nameGroup, StateT.run_bind, StateT.run_get, pure_bind]
  cases start.names.lookup (String.ofList chars) with
  | none =>
      constructor
      · intro ran
        cases ran
        exact ⟨rfl, rfl⟩
      · rintro ⟨-, rfl⟩
        rfl
  | some known => exact ⟨fun ran => absurd ran (fail_refuses _ _ _ _), fun free => nomatch free.1⟩

/-- The number of a group that has been opened is not zero. -/
theorem openGroup_pos {start ended : Reading} {name : Option (List Char)} {group : Nat}
    (ran : (openGroup name).run start = .ok (group, ended)) : 0 < group := by
  unfold openGroup at ran
  obtain ⟨count, _, counted, ranCounted⟩ := run_bind_eq_ok.mp ran
  cases name with
  | none =>
      cases ranCounted
      exact Nat.succ_pos _
  | some chars =>
      obtain ⟨_, _, -, ranNamed⟩ := run_bind_eq_ok.mp ranCounted
      cases ranNamed
      exact Nat.succ_pos _

/-- A reference may be made to a group that has been closed. -/
theorem run_referredWidth_eq_ok {start ended : Reading} {group back : Nat} {width : Width} :
    (referredWidth group back).run start = .ok (width, ended) ↔
      start.closedWidth? group = some width ∧ ended = start := by
  simp only [referredWidth, StateT.run_bind, StateT.run_get, pure_bind]
  cases start.closedWidth? group with
  | none => exact ⟨fun ran => absurd ran (fail_refuses _ _ _ _), fun known => nomatch known.1⟩
  | some known =>
      constructor
      · intro ran
        cases ran
        exact ⟨rfl, rfl⟩
      · rintro ⟨same, rfl⟩
        cases same
        rfl

/-- A look-behind may refer to closed groups before it. -/
theorem run_checkLookbehind_eq_ok {start ended : Reading} {group : Nat} :
    (checkLookbehind group).run start = .ok ((), ended) ↔
      (∀ limit, start.lookbehindLimit = some limit →
        (start.closedWidth? group).isSome ∧ group < limit) ∧ ended = start := by
  simp only [checkLookbehind, StateT.run_bind, StateT.run_get, pure_bind]
  cases start.lookbehindLimit with
  | none =>
      constructor
      · intro ran
        cases ran
        exact ⟨fun limit missing => (nomatch missing), rfl⟩
      · rintro ⟨-, rfl⟩
        rfl
  | some limit =>
      dsimp only
      split
      · rename_i opened
        refine ⟨fun ran => absurd ran (fail_refuses _ _ _ _), fun allowed => ?_⟩
        have closed := (allowed.1 limit rfl).1
        rw [Option.isNone_iff_eq_none.mp opened] at closed
        cases closed
      · split
        · rename_i inside
          refine ⟨fun ran => absurd ran (fail_refuses _ _ _ _), fun allowed => ?_⟩
          exact absurd (allowed.1 limit rfl).2 (Nat.not_lt.mpr inside)
        · rename_i closed before
          constructor
          · intro ran
            cases ran
            refine ⟨fun other same => ?_, rfl⟩
            cases same
            exact ⟨by simpa [Option.isSome_iff_ne_none] using closed, Nat.not_le.mp before⟩
          · rintro ⟨-, rfl⟩
            rfl

/-- The body of a look-behind is read with references limited, to the groups before the outermost
one. -/
theorem run_lookingBehind_eq_ok {body : Reader α} {start ended : Reading} {answer : α} :
    (lookingBehind body).run start = .ok (answer, ended) ↔
      ∃ inner, body.run start.limited = .ok (answer, inner) ∧
        ended = { inner with
          lookbehindLimit := start.lookbehindLimit.bind fun _ => inner.lookbehindLimit } := by
  have got : (get : Reader Reading).run start = .ok (start, start) := rfl
  rw [lookingBehind, run_bind_of_ok got]
  cases limited : start.lookbehindLimit with
  | none =>
      have begun : start.limited =
          { start with lookbehindLimit := some (start.widths.length + 1) } := by
        rw [Reading.limited, limited]
        rfl
      rw [begun]
      show (body >>= fun contents => limitReferences none >>= fun _ => pure contents).run _ = _ ↔ _
      rw [run_bind_eq_ok]
      constructor
      · rintro ⟨given, inner, ranBody, released⟩
        cases released
        exact ⟨inner, ranBody, rfl⟩
      · rintro ⟨inner, ranBody, rfl⟩
        exact ⟨answer, inner, ranBody, rfl⟩
  | some limit =>
      have begun : start.limited = start := by
        rw [Reading.limited, limited, Option.getD_some, ← limited]
      rw [begun]
      constructor
      · exact fun ran => ⟨ended, ran, rfl⟩
      · rintro ⟨inner, ranBody, rfl⟩
        exact ranBody

/-- So is what is refused. -/
theorem run_lookingBehind_eq_error {body : Reader α} {start : Reading} {fault : Fault} :
    (lookingBehind body).run start = .error fault ↔ body.run start.limited = .error fault := by
  have got : (get : Reader Reading).run start = .ok (start, start) := rfl
  rw [lookingBehind, run_bind_of_ok got]
  cases limited : start.lookbehindLimit with
  | none =>
      have begun : start.limited =
          { start with lookbehindLimit := some (start.widths.length + 1) } := by
        rw [Reading.limited, limited]
        rfl
      rw [begun]
      show (body >>= fun contents => limitReferences none >>= fun _ => pure contents).run _ = _ ↔ _
      rw [run_bind_eq_error]
      exact or_iff_left fun ⟨_, _, _, released⟩ => nomatch released
  | some limit =>
      have begun : start.limited = start := by
        rw [Reading.limited, limited, Option.getD_some, ← limited]
      rw [begun]
      exact Iff.rfl

end Reader

end Structex.Regex
