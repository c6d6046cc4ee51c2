import Mathlib.Data.List.Forall2
import Structex.Proofs.Regex.Embedding
import Structex.Proofs.Regex.Renumbering
import Structex.Proofs.Regex.Sequence

/-!
# The grammar reads a part as it stands

Every reader of the grammar embeds. The leaves come first, each by the readers that it is made of;
`alternation` and `sequence` follow by one induction on the fuel. What they give inside a longer
source is the tree of the part with its group numbers raised, but for the groups that are asked for
by number.
-/

namespace Structex.Regex

namespace Piece

/-- Two parts are alike up to the numbers of groups. They are as wide if they are to be, or if what
is read refers to no group. -/
structure Alike (number : Nat → Nat) (asks : Nat → Nat → Prop) (exact : Prop)
    (piece piece' : Piece) : Prop where
  node : Node.Alike number asks exact piece.node piece'.node
  width : exact ∨ piece.node.refers = false → piece'.width = piece.width
  role : piece'.role = piece.role

section

variable {number : Nat → Nat} {asks : Nat → Nat → Prop} {exact : Prop}

theorem alike_ofSet (set : CharSet) : Alike number asks exact (ofSet set) (ofSet set) :=
  ⟨.one set, fun _ => rfl, rfl⟩

theorem alike_literal (scope : Flags) (code : Nat) :
    Alike number asks exact (literal scope code) (literal scope code) :=
  alike_ofSet _

theorem alike_ofAnchor (anchor : Anchor) :
    Alike number asks exact (ofAnchor anchor) (ofAnchor anchor) :=
  ⟨.assertion anchor, fun _ => rfl, rfl⟩

/-- Neither of two trees refers to a group if the two together do not. -/
theorem not_refers_of_or {first second : Bool} (neither : exact ∨ (first || second) = false) :
    (exact ∨ first = false) ∧ (exact ∨ second = false) := by
  rcases neither with known | neither
  · exact ⟨.inl known, .inl known⟩
  · exact (Bool.or_eq_false_iff.mp neither).imp .inr .inr

/-- Parts that are alike are joined to parts that are alike. -/
theorem Alike.join {pieces pieces' : List Piece}
    (alike : List.Forall₂ (Alike number asks exact) pieces pieces') :
    Alike number asks exact (Piece.join pieces) (Piece.join pieces') := by
  induction alike with
  | nil => exact ⟨.empty, fun _ => rfl, rfl⟩
  | cons first rest inductionHypothesis =>
      cases rest with
      | nil => exact first
      | cons second rest =>
          refine ⟨.seq first.node inductionHypothesis.node, fun neither => ?_, rfl⟩
          obtain ⟨ofFirst, ofRest⟩ := not_refers_of_or neither
          exact congrArg₂ Width.add (first.width ofFirst) (inductionHypothesis.width ofRest)

end

end Piece

namespace Frame

open Reader

variable {frame : Frame} {limit : Nat}

/-- What stands in the whole for a part that is read. -/
abbrev Stands (frame : Frame) : Piece → Piece → Prop :=
  Piece.Alike (frame.shift + ·) frame.Asks frame.exact

/-! ## Escapes and sets -/

theorem hexEscape_copies (letter : Char) (digits : Nat) :
    frame.Copies limit (hexEscape letter digits) := by
  unfold hexEscape
  refine (takeSome_copies (by decide) digits).bind fun taken => ?_
  dsimp only
  split
  · exact .of_refuses ((fail_refuses _ _).bind _) _
  · split
    · exact .of_refuses ((throw_refuses _).bind _) _
    · split
      · exact .of_refuses ((fail_refuses _ _).bind _) _
      · exact .pure rfl

theorem namedEscape_copies : frame.Copies limit namedEscape := by
  unfold namedEscape
  refine .bindAccept (by decide) (fun _ _ => ?_) ?_
  · refine (takeName_copies _ _).bind fun name => ?_
    split
    · exact .pure rfl
    · exact .of_refuses (fail_refuses _ _) _
  · exact .of_refuses ((fail_refuses _ _).bind _) _

theorem octalEscape_copies (digits : List Char) : frame.Copies limit (octalEscape digits) := by
  unfold octalEscape
  dsimp only
  split
  · exact .of_refuses ((fail_refuses _ _).bind _) _
  · exact .pure rfl

theorem plainEscape_copies (c : Char) : frame.Copies limit (plainEscape c) := by
  unfold plainEscape
  dsimp only
  split
  · exact .of_refuses ((fail_refuses _ _).bind _) _
  · exact .pure rfl

theorem setEscape_copies (scope : Flags) (c : Char) : frame.Copies limit (setEscape scope c) := by
  unfold setEscape
  split
  · exact .pure rfl
  · exact .pure rfl
  · split
    · exact .pure rfl
    split
    · exact (hexEscape_copies _ _).bind fun _ => .pure rfl
    split
    · exact (hexEscape_copies _ _).bind fun _ => .pure rfl
    split
    · exact (hexEscape_copies _ _).bind fun _ => .pure rfl
    split
    · exact namedEscape_copies.bind fun _ => .pure rfl
    split
    · exact (takeSome_copies (by decide) _).bind fun _ =>
        (octalEscape_copies _).bind fun _ => .pure rfl
    · exact (plainEscape_copies _).bind fun _ => .pure rfl

theorem setMember_copies (scope : Flags) (token : Token) :
    frame.Copies limit (setMember scope token) := by
  cases token with
  | plain c => exact .pure rfl
  | escape c => exact setEscape_copies scope c

/-- The members of a set end inside the part, whatever is left after it. -/
theorem setMembers_embeds (scope : Flags) (start start' : Nat) {fuel fuel' : Nat}
    (enough : limit < fuel) (enough' : limit < fuel') (members : List SetItem) :
    frame.Repeats limit (setMembers scope start fuel members)
      (setMembers scope start' fuel' members) := by
  induction fuel generalizing limit fuel' members with
  | zero => exact absurd enough (Nat.not_lt_zero _)
  | succ fuel inductionHypothesis =>
      obtain ⟨fuel', rfl⟩ : ∃ less, fuel' = less + 1 := ⟨fuel' - 1, by omega⟩
      rw [setMembers, setMembers]
      refine .bindNext (failAt_refuses _ _) fun low fewer less => ?_
      dsimp only
      split
      · exact .pure rfl
      · refine (setMember_copies scope low).bind fun first => ?_
        refine .bindAccept (by decide) (fun fewer' less' => ?_) ?_
        · simp only [reduceIte]
          refine .bindNext (failAt_refuses _ _) fun high fewer'' less'' => ?_
          dsimp only
          split
          · exact .pure rfl
          · refine (setMember_copies scope high).bind fun second => ?_
            split
            · split
              · exact .of_refuses (fail_refuses _ _) _
              · exact inductionHypothesis (by omega) (by omega) _
            · exact .of_refuses (fail_refuses _ _) _
        · exact inductionHypothesis (by omega) (by omega) _

/-- A set of characters has no group in it. -/
theorem characterSet_embeds (scope : Flags) (start start' : Nat) :
    frame.Raises limit frame.Stands (characterSet scope start)
      (characterSet scope start') := by
  have members : ∀ negated limit,
      frame.Raises limit frame.Stands
        (do
          let members ← setMembers scope start ((← left) + 1) []
          return Piece.ofSet ⟨negated, scope.fold, members⟩)
        (do
          let members ← setMembers scope start' ((← left) + 1) []
          return Piece.ofSet ⟨negated, scope.fold, members⟩) := by
    intro negated limit
    refine .bindLeft fun count count' _ more => ?_
    exact (setMembers_embeds scope start start' (Nat.lt_succ_self _) (Nat.lt_succ_of_le more)
      []).bind fun members => .pure (Piece.alike_ofSet _)
  exact .bindAccept (by decide) (fun fewer _ => members true fewer) (members false limit)

/-! ## References -/

/-- A reference by number is heard, and closed groups are asked for. -/
theorem run_groupReference_eq_ok {scope : Flags} {digits : List Char} {start ended : Reading}
    {piece : Piece} (ran : (groupReference scope digits).run start = .ok (piece, ended)) :
    ∃ width, piece = {
        node := .reference (Decimal.ofDigits 10 (digits.map Decimal.digitOf)) scope.fold
        width := width } ∧
      Decimal.ofDigits 10 (digits.map Decimal.digitOf) ≤ start.widths.length ∧
      ended = { start with references :=
        start.references ++ [Decimal.ofDigits 10 (digits.map Decimal.digitOf)] } := by
  obtain ⟨count, _, counted, ranCounted⟩ := run_bind_eq_ok.mp ran
  cases counted
  split at ranCounted
  · rename_i known
    obtain ⟨width, _, referred, ranReferred⟩ := run_bind_eq_ok.mp ranCounted
    obtain ⟨-, rfl⟩ := run_referredWidth_eq_ok.mp referred
    obtain ⟨_, _, checked, ranChecked⟩ := run_bind_eq_ok.mp ranReferred
    obtain ⟨-, rfl⟩ := run_checkLookbehind_eq_ok.mp checked
    cases ranChecked
    exact ⟨width, rfl, known, rfl⟩
  · exact absurd ranCounted (fail_refuses _ _ _ _)

theorem groupReference_declines (scope : Flags) (digits : List Char) :
    (groupReference scope digits).Declines := by
  refine Declines.bind (get_declines.bind fun _ => pure_declines _) fun count => ?_
  split
  · exact (referredWidth_declines _ _).bind fun _ => (checkLookbehind_declines _).bind fun _ =>
      (modify_declines _).bind fun _ => pure_declines _
  · exact fail_declines _ _

/-- A reference by number takes the same characters, and asks for the same number. -/
theorem groupReference_embeds (scope : Flags) (digits : List Char) :
    frame.Raises limit frame.Stands (groupReference scope digits)
      (groupReference scope digits) := by
  intro start escapes short
  refine ⟨fun ran => ?_, fun {piece _} ran => ?_, fun ran heard placed agrees => ?_⟩
  · obtain ⟨_, -, -, rfl⟩ := run_groupReference_eq_ok ran
    exact ⟨Nat.le_refl _, escapes, List.prefix_refl _, Nat.le_refl _,
      fun quiet => absurd quiet.1 (by simp), rfl⟩
  · obtain ⟨width, rfl, -⟩ := run_groupReference_eq_ok ran
    obtain ⟨group', asks⟩ := frame.exists_asks _
    exact ⟨{ node := .reference group' scope.fold, width }, .reference asks scope.fold,
      fun _ => rfl, rfl⟩
  · obtain ⟨width, rfl, -, rfl⟩ := run_groupReference_eq_ok ran
    cases placed
    have noisy : ¬ frame.exact := fun exact => absurd (heard.quiet exact).1 (by simp)
    refine ⟨fun ranWhole => ?_, fun failed => groupReference_declines _ _ _ _ failed,
      fun accepts => absurd accepts.exact noisy⟩
    obtain ⟨width', rfl, -, rfl⟩ := run_groupReference_eq_ok ranWhole
    refine ⟨⟨.reference (.inr ⟨noisy, rfl⟩) scope.fold, fun same => ?_, rfl⟩,
      agrees.rest, agrees.groups, agrees.names, agrees.apart, fun exact => absurd exact noisy⟩
    rcases same with exact | none
    · exact absurd exact noisy
    · cases none

theorem digitEscape_embeds (scope : Flags) (c : Char) :
    frame.Raises limit frame.Stands (digitEscape scope c) (digitEscape scope c) := by
  unfold digitEscape
  split
  · exact (takeSome_copies (by decide) 2).bind fun _ => .pure (Piece.alike_literal _ _)
  · refine (takeSome_copies (by decide) 1).bind fun taken => ?_
    split
    · exact groupReference_embeds scope _
    · split
      · refine (takeSome_copies (by decide) 1).bind fun taken => ?_
        split
        · exact groupReference_embeds scope _
        · exact (octalEscape_copies _).bind fun _ => .pure (Piece.alike_literal _ _)
      · exact groupReference_embeds scope _

theorem escapePiece_embeds (scope : Flags) (c : Char) :
    frame.Raises limit frame.Stands (escapePiece scope c) (escapePiece scope c) := by
  unfold escapePiece
  split
  · exact .pure (Piece.alike_ofAnchor _)
  · exact .pure (Piece.alike_ofSet _)
  · exact .pure (Piece.alike_literal _ _)
  · split
    · exact (hexEscape_copies _ _).bind fun _ => .pure (Piece.alike_literal _ _)
    split
    · exact (hexEscape_copies _ _).bind fun _ => .pure (Piece.alike_literal _ _)
    split
    · exact (hexEscape_copies _ _).bind fun _ => .pure (Piece.alike_literal _ _)
    split
    · exact namedEscape_copies.bind fun _ => .pure (Piece.alike_literal _ _)
    split
    · exact digitEscape_embeds scope c
    · exact (plainEscape_copies c).bind fun _ => .pure (Piece.alike_literal _ _)

theorem signPiece_embeds (scope : Flags) (start start' : Nat) (c : Char) :
    frame.Raises limit frame.Stands (signPiece scope start c)
      (signPiece scope start' c) := by
  unfold signPiece
  split
  · exact .pure (Piece.alike_ofSet _)
  · exact .pure (Piece.alike_ofAnchor _)
  · exact .pure (Piece.alike_ofAnchor _)
  · exact characterSet_embeds scope start start'
  · exact .pure (Piece.alike_literal _ _)

/-- A reference by name is to the same group, under its raised number. -/
theorem namedReference_embeds (scope : Flags) :
    frame.Raises limit frame.Stands (namedReference scope) (namedReference scope) := by
  unfold namedReference
  refine (takeName_copies _ _).bind fun name => ?_
  refine (checkName_copies name).bind fun _ => ?_
  refine (namedGroup_embeds name).bindRaised fun group group' asks => ?_
  refine (referredWidth_embeds asks.of_exact _ _).bindRaised fun width width' sameWidth => ?_
  refine (checkLookbehind_embeds asks.of_exact).bind fun _ => .pure ?_
  refine ⟨.reference asks scope.fold, fun same => ?_, rfl⟩
  rcases same with exact | none
  · exact sameWidth exact
  · cases none

/-- What a note of a condition leaves as it was, and that it is heard. -/
theorem noteCondition_keeps {group back : Nat} {start ended : Reading} {answer : Unit}
    (ran : (noteCondition group back).run start = .ok (answer, ended)) :
    ended.rest = start.rest ∧ ended.widths = start.widths ∧ ended.names = start.names ∧
      ended.lookbehindLimit = start.lookbehindLimit ∧ ¬ ended.Quiet := by
  cases ran
  dsimp only
  split
  · rename_i known
    refine ⟨rfl, rfl, rfl, rfl, fun quiet => ?_⟩
    rw [quiet.2] at known
    cases known
  · exact ⟨rfl, rfl, rfl, rfl, fun quiet => absurd quiet.2 (by simp)⟩

/-- A condition by number takes the same characters, and asks for the same number. -/
theorem numberedCondition_embeds (group back : Nat) :
    frame.Raises limit frame.Asks (do noteCondition group back; return group)
      (do noteCondition group back; return group) := by
  have noted : ∀ {start ended : Reading} {answer : Nat},
      (do noteCondition group back; return group : Reader Nat).run start = .ok (answer, ended) →
      answer = group ∧ (noteCondition group back).run start = .ok ((), ended) := by
    intro start ended answer ran
    obtain ⟨_, _, noted, returned⟩ := run_bind_eq_ok.mp ran
    cases returned
    exact ⟨rfl, noted⟩
  intro start escapes short
  refine ⟨fun ran => ?_, fun _ => exists_asks _, fun ran heard placed agrees => ?_⟩
  · obtain ⟨rest, widths, names, limit, loud⟩ := noteCondition_keeps (noted ran).2
    exact ⟨Nat.le_of_eq (congrArg _ rest), rest ▸ escapes, names ▸ List.prefix_refl _,
      Nat.le_of_eq (congrArg _ widths.symm), fun quiet => absurd quiet loud, limit⟩
  · obtain ⟨rfl, ranNote⟩ := noted ran
    obtain ⟨rest, widths, names, -, loud⟩ := noteCondition_keeps ranNote
    cases placed
    have noisy : ¬ frame.exact := fun exact => loud (heard.quiet exact)
    refine ⟨fun ranWhole => ?_, fun failed => (nomatch failed),
      fun accepts => absurd accepts.exact noisy⟩
    obtain ⟨rfl, ranNoteWhole⟩ := noted ranWhole
    obtain ⟨restWhole, widthsWhole, namesWhole, -⟩ := noteCondition_keeps ranNoteWhole
    refine ⟨.inr ⟨noisy, rfl⟩, ?_, ?_, ?_,
      fun entry known => agrees.apart entry (names ▸ known), fun exact => absurd exact noisy⟩
    · rw [restWhole, agrees.rest, embed, embed, rest]
    · rw [widthsWhole, agrees.groups, embed, embed, widths]
    · rw [namesWhole, agrees.names, embed, embed, names]

/-- A condition by name is on the same group, under its raised number; one by number asks for the
same number. -/
theorem conditionGroup_embeds :
    frame.Raises limit frame.Asks conditionGroup conditionGroup := by
  unfold conditionGroup
  refine (takeName_copies _ _).bind fun name => ?_
  dsimp only
  split
  · exact namedGroup_embeds name
  · split
    · exact .of_refuses (fail_refuses _ _) _
    · split
      · exact .of_refuses ((fail_refuses _ _).bind _) _
      · split
        · exact .of_refuses ((fail_refuses _ _).bind _) _
        · split
          · exact .of_refuses ((fail_refuses _ _).bind _) _
          · exact numberedCondition_embeds _ _

/-! ## Repeats -/

/-- Digits end inside the part. -/
theorem span_append_tail (frame : Frame) (rest : List Char) :
    (rest ++ frame.tail).takeWhile Text.isAsciiDigit = rest.takeWhile Text.isAsciiDigit ∧
      (rest ++ frame.tail).dropWhile Text.isAsciiDigit =
        rest.dropWhile Text.isAsciiDigit ++ frame.tail := by
  induction rest with
  | nil =>
      unfold tail blank
      split
      · exact ⟨rfl, rfl⟩
      · exact ⟨rfl, rfl⟩
  | cons c rest inductionHypothesis =>
      simp only [List.cons_append, List.takeWhile_cons, List.dropWhile_cons]
      split
      · exact ⟨congrArg _ inductionHypothesis.1, inductionHypothesis.2⟩
      · exact ⟨rfl, rfl⟩

/-- Counts end inside the part. -/
theorem countsNext?_append (frame : Frame) (rest : List Char) :
    countsNext? (rest ++ frame.tail) = countsNext? rest := by
  have tailStart : ∃ c after, frame.tail = c :: after ∧ c ≠ '\x7d' ∧ c ≠ ',' := by
    unfold tail blank
    split
    · exact ⟨'\n', _, rfl, by decide, by decide⟩
    · exact ⟨')', _, rfl, by decide, by decide⟩
  obtain ⟨c, after, sameTail, noBrace, noComma⟩ := tailStart
  unfold countsNext?
  simp only [span_append_tail]
  cases rest.dropWhile Text.isAsciiDigit with
  | nil => simp [sameTail, noBrace, noComma]
  | cons d rest =>
      by_cases brace : d = '\x7d'
      · subst brace
        rfl
      by_cases comma : d = ','
      · subst comma
        simp only [List.cons_append, span_append_tail]
        cases rest.dropWhile Text.isAsciiDigit with
        | nil => simp [sameTail, noBrace]
        | cons e rest =>
            by_cases brace : e = '\x7d'
            · subst brace
              rfl
            · simp [brace]
      · simp [brace, comma]

/-- Counts are as long as the characters they take. -/
theorem width_le_of_countsNext? {rest low high : List Char} {width : Nat}
    (counts : countsNext? rest = some (low, high, width)) : width ≤ rest.length := by
  have lengths : ∀ chars : List Char, (chars.takeWhile Text.isAsciiDigit).length +
      (chars.dropWhile Text.isAsciiDigit).length = chars.length := by
    intro chars
    rw [← List.length_append, List.takeWhile_append_dropWhile]
  have total := lengths rest
  unfold countsNext? at counts
  dsimp only at counts
  split at counts
  · rename_i closed
    rw [closed, List.length_cons] at total
    split at counts
    · cases counts
    · cases counts
      omega
  · rename_i after comma
    have later := lengths after
    rw [comma, List.length_cons] at total
    split at counts
    · rename_i closed
      rw [closed, List.length_cons] at later
      cases counts
      omega
    · cases counts
  · cases counts

theorem countsOf_embeds (low high : List Char) (start start' : Nat) :
    frame.Repeats limit (countsOf low high start) (countsOf low high start') := by
  unfold countsOf
  dsimp only
  split
  · exact .of_refuses ((throw_refuses _).bind _) _
  · split
    · exact .of_refuses ((throw_refuses _).bind _) _
    · split
      · exact .of_refuses ((failAt_refuses _ _).bind _) _
      · exact .pure rfl

theorem repeatCounts_copies (c : Char) : frame.Copies limit (repeatCounts c) := by
  unfold repeatCounts
  split
  · exact .pure rfl
  split
  · exact .pure rfl
  split
  · exact .pure rfl
  · intro start escapes short
    have got : ∀ reading, (get : Reader Reading).run reading = .ok (reading, reading) :=
      fun _ => rfl
    have counts : frame.RepeatsAt (takeCounts (countsNext? start.rest))
        (takeCounts (countsNext? start.rest)) start := by
      cases next : countsNext? start.rest with
      | none =>
          have nothing : frame.Copies limit (takeCounts none) := .pure rfl
          exact nothing start escapes short
      | some counts =>
          obtain ⟨low, high, width⟩ := counts
          refine (offset_embeds start escapes short).bindRaised fun place place' _ looked _ => ?_
          cases looked
          have dropped : frame.RepeatsAt (drop width) (drop width) start :=
            drop_embedsAt (width_le_of_countsNext? next)
          refine dropped.bind fun _ middle ran => ?_
          have after := dropped.leads ran
          have counted : ∀ place place', frame.Repeats middle.rest.length
              (do return some (← countsOf low high place))
              (do return some (← countsOf low high place')) :=
            fun place place' => (countsOf_embeds low high place place').bind fun _ => .pure rfl
          exact counted _ _ middle after.escapes (Nat.le_refl _)
    refine counts.congr (run_bind_of_ok (got start) _) fun begun sameRest => ?_
    rw [run_bind_of_ok (got begun), sameRest, embed, countsNext?_append]

theorem repeatGreed_copies : frame.Copies limit repeatGreed :=
  .bindAccept (by decide) (fun _ _ => .pure rfl)
    (.bindAccept (by decide) (fun _ _ => .pure rfl) (.pure rfl))

theorem repeatLast_declines (place least : Nat) (most : Option Nat) (pieces : List Piece) :
    (repeatLast place least most pieces).Declines := by
  unfold repeatLast
  split
  · exact failAt_declines _ _
  · split
    · exact failAt_declines _ _
    · exact failAt_declines _ _
    · refine Declines.bind ((accept_declines _).bind fun lazy => ?_) fun _ => pure_declines _
      split
      · exact pure_declines _
      · refine (accept_declines _).bind fun possessive => ?_
        split
        · exact pure_declines _
        · exact pure_declines _

/-- The part before a repeat sign is repeated. -/
theorem repeatLast_embeds (place place' least : Nat) (most : Option Nat)
    {pieces pieces' : List Piece} (same : List.Forall₂ frame.Stands pieces pieces') :
    frame.Raises limit (List.Forall₂ frame.Stands) (repeatLast place least most pieces)
      (repeatLast place' least most pieces') := by
  intro start escapes short
  have greeds : frame.RepeatsAt repeatGreed repeatGreed start :=
    repeatGreed_copies start escapes short
  have repeated : ∀ {last last' : Piece} (greed : Greed), frame.Stands last last' →
      frame.Stands
        { node := .iterate greed least most last.node
          width := last.width.times least most
          role := .repeated }
        { node := .iterate greed least most last'.node
          width := last'.width.times least most
          role := .repeated } :=
    fun greed ofLast => ⟨.iterate greed least most ofLast.node, fun fixed =>
      congrArg (Width.times · least most) (ofLast.width fixed), rfl⟩
  refine ⟨fun ran => ?_, fun ran => ?_, fun ran heard placed agrees => ?_⟩
  · obtain ⟨_, _, _, -, -, ranGreed, -⟩ := run_repeatLast_eq_ok.mp ran
    exact greeds.leads ranGreed
  · obtain ⟨last, before, greed, rfl, -, ranGreed, rfl⟩ := run_repeatLast_eq_ok.mp ran
    cases same with
    | cons ofLast ofBefore => exact ⟨_, .cons (repeated greed ofLast) ofBefore⟩
  · obtain ⟨last, before, greed, rfl, isPart, ranGreed, rfl⟩ := run_repeatLast_eq_ok.mp ran
    have mirrored := greeds.mirrors ranGreed heard placed agrees
    cases same with
    | cons ofLast ofBefore =>
        refine ⟨fun ranWhole => ?_, fun failed => repeatLast_declines _ _ _ _ _ _ failed,
          fun accepts => ?_⟩
        · obtain ⟨_, _, _, whole, -, ranGreed', rfl⟩ := run_repeatLast_eq_ok.mp ranWhole
          cases whole
          obtain ⟨rfl, after⟩ := mirrored.right ranGreed'
          exact ⟨.cons (repeated _ ofLast) ofBefore, after⟩
        · obtain ⟨greed', reached, ranGreed'⟩ := mirrored.answers accepts
          exact ⟨_, _, run_repeatLast_eq_ok.mpr
            ⟨_, _, greed', rfl, ofLast.role.trans isPart, ranGreed', rfl⟩⟩

/-! ## Openings -/

/-- A comment group ends inside the part. -/
theorem skipComment_embeds (start start' : Nat) {fuel fuel' : Nat} (enough : limit < fuel)
    (enough' : limit < fuel') :
    frame.Repeats limit (skipComment start fuel) (skipComment start' fuel') := by
  induction fuel generalizing limit fuel' with
  | zero => exact absurd enough (Nat.not_lt_zero _)
  | succ fuel inductionHypothesis =>
      obtain ⟨fuel', rfl⟩ : ∃ less, fuel' = less + 1 := ⟨fuel' - 1, by omega⟩
      rw [skipComment, skipComment]
      refine .bindNext (failAt_refuses _ _) fun token fewer less => ?_
      dsimp only
      split
      · exact .pure rfl
      · exact inductionHypothesis (by omega) (by omega)

/-- The flags of a group end inside the part. -/
theorem flagsOn_embeds {fuel fuel' : Nat} (enough : limit < fuel) (enough' : limit < fuel')
    (token : Token) (on : Flags) :
    frame.Repeats limit (flagsOn fuel token on) (flagsOn fuel' token on) := by
  induction fuel generalizing limit fuel' token on with
  | zero => exact absurd enough (Nat.not_lt_zero _)
  | succ fuel inductionHypothesis =>
      obtain ⟨fuel', rfl⟩ : ∃ less, fuel' = less + 1 := ⟨fuel' - 1, by omega⟩
      rw [flagsOn, flagsOn]
      dsimp only
      split
      · exact .of_refuses ((fail_refuses _ _).bind _) _
      · split
        · exact .of_refuses ((fail_refuses _ _).bind _) _
        · refine .bindNext (fail_refuses _ _) fun following fewer less => ?_
          dsimp only
          split
          · exact .pure rfl
          · split
            · exact inductionHypothesis (by omega) (by omega) _ _
            · exact .of_refuses (fail_refuses _ _) _

/-- The flags that a group switches off end inside the part. -/
theorem flagsOff_embeds {fuel fuel' : Nat} (enough : limit < fuel) (enough' : limit < fuel')
    (token : Token) (off : Flags) :
    frame.Repeats limit (flagsOff fuel token off) (flagsOff fuel' token off) := by
  induction fuel generalizing limit fuel' token off with
  | zero => exact absurd enough (Nat.not_lt_zero _)
  | succ fuel inductionHypothesis =>
      obtain ⟨fuel', rfl⟩ : ∃ less, fuel' = less + 1 := ⟨fuel' - 1, by omega⟩
      rw [flagsOff, flagsOff]
      dsimp only
      split
      · exact .of_refuses ((fail_refuses _ _).bind _) _
      · refine .bindNext (fail_refuses _ _) fun following fewer less => ?_
        dsimp only
        split
        · exact .pure rfl
        · split
          · exact inductionHypothesis (by omega) (by omega) _ _
          · exact .of_refuses (fail_refuses _ _) _

theorem switchedOn_embeds {fuel fuel' : Nat} (enough : limit < fuel) (enough' : limit < fuel')
    (token : Token) :
    frame.Repeats limit (switchedOn fuel token) (switchedOn fuel' token) := by
  unfold switchedOn
  split
  · exact .pure rfl
  · exact flagsOn_embeds enough enough' token {}

theorem switchedOff_embeds {fuel fuel' : Nat} (enough : limit < fuel) (enough' : limit < fuel')
    (sign : Token) :
    frame.Repeats limit (switchedOff fuel sign) (switchedOff fuel' sign) := by
  unfold switchedOff
  split
  · refine .bindNext (fail_refuses _ _) fun following fewer less => ?_
    dsimp only
    split
    · exact flagsOff_embeds (by omega) (by omega) following {}
    · exact .of_refuses (fail_refuses _ _) _
  · exact .pure rfl

theorem flagsOpening_copies (token : Token) : frame.Copies limit (flagsOpening token) := by
  unfold flagsOpening
  refine .bindLeft fun count count' short more => ?_
  refine (switchedOn_embeds (Nat.lt_succ_self _) (Nat.lt_succ_of_le more) token).bind
    fun ended => ?_
  dsimp only
  split
  · exact .pure rfl
  split
  · exact .of_refuses ((fail_refuses _ _).bind _) _
  refine (switchedOff_embeds (Nat.lt_succ_self _) (Nat.lt_succ_of_le more) _).bind fun off => ?_
  split
  · exact .of_refuses ((fail_refuses _ _).bind _) _
  split
  · exact .of_refuses ((fail_refuses _ _).bind _) _
  · exact .pure rfl

theorem opening_copies : frame.Copies limit opening := by
  unfold opening
  refine .bindAccept (by decide) (fun _ _ => ?_) (.pure rfl)
  refine .bindNext (fail_refuses _ _) fun token _ _ => ?_
  dsimp only
  split
  · refine .bindAccept (by decide) (fun _ _ => ?_) ?_
    · exact (takeName_copies _ _).bind fun name => (checkName_copies name).bind fun _ => .pure rfl
    · refine .bindAccept (by decide) (fun _ _ => .pure rfl) ?_
      exact .bindNext (fail_refuses _ _) fun _ _ _ => .of_refuses (fail_refuses _ _) _
  · exact .pure rfl
  · exact .pure rfl
  · exact .pure rfl
  · exact .pure rfl
  · refine .bindNext (fail_refuses _ _) fun token _ _ => ?_
    split
    · contradiction
    · exact .pure rfl
    · exact .pure rfl
    · exact .of_refuses (fail_refuses _ _) _
  · exact .pure rfl
  · exact .pure rfl
  · split
    · exact flagsOpening_copies _
    · exact .of_refuses (fail_refuses _ _) _


/-! ## Up to the end -/

variable {verbose : Bool}

theorem skipLine_declines (fuel : Nat) : (skipLine fuel).Declines := by
  induction fuel with
  | zero => exact pure_declines ()
  | succ fuel inductionHypothesis =>
      refine next_declines.bind fun token => ?_
      cases token with
      | none => exact pure_declines ()
      | some token =>
          dsimp only
          split
          · exact pure_declines ()
          · exact inductionHypothesis

/-- Passing over the rest of a line leaves the whole in the state of the part. A line that ends with
the part ends in the whole with the line feed that stands there, if it does not end before. -/
theorem skipLine_mirrors (frame : Frame) {start ended : Reading} {fuel fuel' : Nat}
    (escapes : start.rest ≠ ['\\']) (enough : start.rest.length < fuel)
    (enough' : start.rest.length < fuel') (ran : (skipLine fuel).run start = .ok ((), ended)) :
    start.Leads ended ∧ ∀ {begun}, frame.Agrees start (frame.embed start) begun →
      Gives (ended.rest ≠ [] ∨ frame.verbose = true)
        (fun _ reached => frame.Agrees ended (frame.embed ended) reached ∨
          ended.rest = [] ∧ (frame.verbose = true →
            frame.Agrees ended (frame.finish ended) reached))
        Fault.IsMalformed ((skipLine fuel').run begun) := by
  induction fuel generalizing start fuel' with
  | zero => exact absurd enough (Nat.not_lt_zero _)
  | succ fuel inductionHypothesis =>
      obtain ⟨fuel', rfl⟩ : ∃ less, fuel' = less + 1 := ⟨fuel' - 1, by omega⟩
      rw [skipLine] at ran
      cases first : firstToken start.rest with
      | none =>
          have nothing := (firstToken_eq_none_iff escapes).mp first
          rw [run_bind_of_ok (run_next_of_end nothing)] at ran
          cases ran
          refine ⟨.refl escapes, fun {begun} agrees => ?_⟩
          by_cases mode : frame.verbose = true
          · obtain ⟨firstBlank, escapesBlank, -⟩ := dropped_blank nothing mode
            rw [← agrees.rest] at firstBlank escapesBlank
            have passed : (skipLine (fuel' + 1)).run begun = .ok ((), begun.dropped 1) := by
              rw [skipLine, run_next_bind firstBlank]
              exact run_bind_of_ok (run_drop escapesBlank) _
            exact .of_ok passed (.inr ⟨nothing, agrees.dropped_blank nothing⟩)
          · exact ⟨fun _ => .inr ⟨nothing, fun same => absurd same mode⟩,
              fun failed => skipLine_declines _ _ _ failed,
              fun known => absurd known (not_or.mpr ⟨not_not.mpr nothing, mode⟩)⟩
      | some token =>
          rw [run_next_bind first] at ran
          obtain ⟨_, _, dropped, ranAfter⟩ := run_bind_eq_ok.mp ran
          obtain ⟨escapesAfter, rfl⟩ := run_drop_eq_ok.mp dropped
          have within := width_le_of_firstToken first
          have shorter := Reading.length_dropped_lt first
          have before := Reading.Leads.dropped escapesAfter
          have wholeAfter : ∀ {begun}, frame.Agrees start (frame.embed start) begun →
              (skipLine (fuel' + 1)).run begun =
                (if token == .plain '\n' then return () else skipLine fuel' : Reader Unit).run
                  (begun.dropped token.width) := by
            intro begun agrees
            rw [skipLine, run_next_bind (agrees.rest ▸ firstToken_embed escapes first),
              run_bind_of_ok (run_drop (agrees.escapes_dropped within))]
          dsimp only at ranAfter
          split at ranAfter
          · rename_i lineFeed
            cases ranAfter
            refine ⟨before, fun agrees => ?_⟩
            rw [wholeAfter agrees, if_pos lineFeed]
            exact .of_ok rfl (.inl (agrees.dropped within))
          · rename_i other
            have later : (start.dropped token.width).rest.length < fuel' := by omega
            obtain ⟨leads, mirrored⟩ :=
              inductionHypothesis escapesAfter (by omega) later ranAfter
            refine ⟨before.trans leads, fun agrees => ?_⟩
            rw [wholeAfter agrees, if_neg other]
            exact mirrored (agrees.dropped within)

/-- A comment up to the end of its line embeds with what follows it. -/
theorem skipLine_bind_embeds {related : Piece → Piece → Prop} {own whole : Reader Piece}
    {fuel fuel' : Nat} (enough : limit < fuel) (enough' : limit < fuel')
    (rest : frame.Embeds limit (frame.ends true) related own whole)
    (atEnd : ∀ start, start.rest = [] → ∃ answer answer', own.run start = .ok (answer, start) ∧
      related answer answer' ∧ ∀ begun, firstToken begun.rest = some (.plain ')') →
        whole.run begun = .ok (answer', begun)) :
    frame.Embeds limit (frame.ends true) related (skipLine fuel >>= fun _ => own)
      (skipLine fuel' >>= fun _ => whole) := by
  intro start escapes short
  have ofRest : ∀ {middle}, (skipLine fuel).run start = .ok ((), middle) →
      start.Leads middle ∧ frame.EmbedsAt (frame.ends true) related own whole middle := by
    intro middle skipped
    have after := (skipLine_mirrors frame escapes (by omega) (Nat.lt_succ_self _) skipped).1
    exact ⟨after, rest middle after.escapes (Nat.le_trans after.remains short)⟩
  refine ⟨fun ran => ?_, fun ran => ?_,
    fun {answer ended target begun} ran heard placed agrees => ?_⟩
  · obtain ⟨_, middle, skipped, ranOwn⟩ := run_bind_eq_ok.mp ran
    exact (ofRest skipped).1.trans ((ofRest skipped).2.leads ranOwn)
  · obtain ⟨_, middle, skipped, ranOwn⟩ := run_bind_eq_ok.mp ran
    exact (ofRest skipped).2.possible ranOwn
  · obtain ⟨_, middle, skipped, ranOwn⟩ := run_bind_eq_ok.mp ran
    have enoughWhole : start.rest.length < fuel' := by omega
    have mirrored := (skipLine_mirrors frame escapes (by omega) enoughWhole skipped).2 agrees
    have mode : middle.rest = [] → frame.verbose = true ∧ ended = middle := by
      intro nothing
      obtain ⟨answer', _, stays, -⟩ := atEnd middle nothing
      cases stays.symm.trans ranOwn
      exact ⟨(ends_eq_some_of_end nothing placed).1.symm, rfl⟩
    refine mirrored.bind (fun _ => ?_) fun {_ middle'} either => ?_
    · by_cases nothing : middle.rest = []
      · exact .inr (mode nothing).1
      · exact .inl nothing
    · rcases either with agreesMiddle | ⟨nothing, agreesEnd⟩
      · exact (ofRest skipped).2.mirrors ranOwn heard placed agreesMiddle
      · obtain ⟨sameMode, rfl⟩ := mode nothing
        obtain ⟨-, rfl⟩ := ends_eq_some_of_end nothing placed
        obtain ⟨_, _, stays, same, staysWhole⟩ := atEnd ended nothing
        cases stays.symm.trans ranOwn
        have atClose := agreesEnd sameMode
        exact .of_ok (staysWhole middle' atClose.firstToken_finish) ⟨same, atClose⟩

/-- What stands in the whole for two branches. -/
def StandsForBoth (frame : Frame) (branches branches' : Piece × Piece) : Prop :=
  frame.Stands branches.1 branches'.1 ∧ frame.Stands branches.2 branches'.2

/-- Nothing stands for nothing. -/
theorem stands_nothing : frame.Stands (.join []) (.join []) :=
  Piece.Alike.join .nil

/-- One or two branches of a condition embed up to the end. -/
theorem conditionBranches_embeds {branch branch' : Reader Piece}
    (embeds : ∀ fewer ≤ limit,
      frame.Embeds fewer (frame.ends verbose) frame.Stands branch branch') :
    frame.Embeds limit (frame.ends verbose) frame.StandsForBoth (conditionBranches branch)
      (conditionBranches branch') := by
  intro start escapes short
  unfold conditionBranches
  have ofBranch := embeds limit (Nat.le_refl _) start escapes short
  refine ofBranch.bindEnds (fun present present' middle ran same nonempty => ?_)
    fun present present' middle ran same nothing => ?_
  · have after := ofBranch.leads ran
    refine .bindAccept after.escapes (Nat.le_trans after.remains short) (by decide)
      (fun fewer less => ?_) (.pure_ends after.escapes nonempty ⟨same, stands_nothing⟩)
    intro start escapes short
    have ofOther := embeds fewer (Nat.le_of_lt less) start escapes short
    refine ofOther.bindEnds (fun absent absent' middle ran sameOther nonempty => ?_)
      fun absent absent' middle ran sameOther nothing => ?_
    · have escapes := (ofOther.leads ran).escapes
      refine (sees_copies (by decide) middle escapes (Nat.le_refl _)).bind fun more _ looked => ?_
      cases looked
      dsimp only
      split
      · exact Embeds.of_refuses ((fail_refuses _ _).bind _) _ middle escapes (Nat.le_refl _)
      · exact .pure_ends escapes nonempty ⟨same, sameOther⟩
    · refine ⟨(present, absent), (present', absent'), ?_, ⟨same, sameOther⟩,
        fun begun closeNext => ?_⟩
      · rw [run_bind_of_ok (run_sees _ _), nothing]
        rfl
      · rw [run_bind_of_ok (run_sees _ _), closeNext]
        rfl
  · refine ⟨(present, .join []), (present', .join []), ?_, ⟨same, stands_nothing⟩,
      fun begun closeNext => ?_⟩
    · rw [run_bind_of_ok (run_accept_of_ne (by rw [nothing]; exact nofun))]
      rfl
    · rw [run_bind_of_ok (run_accept_of_ne (by rw [closeNext]; decide))]
      rfl

/-- Where the part is at its end, a sequence of the whole is over too, once it has passed the
blank. -/
theorem sequence_of_tail {start begun : Reading} (atEnd : start.rest = []) {scope : Flags}
    (mode : scope.verbose = frame.verbose) (agrees : frame.Agrees start (frame.embed start) begun)
    (fuel : Nat) (pieces : List Piece) :
    ∃ reached, (sequence (fuel + 2) scope pieces).run begun =
        .ok (Piece.join pieces.reverse, reached) ∧
      frame.Agrees start (frame.finish start) reached := by
  cases verbose : frame.verbose with
  | false =>
      have atClose : frame.Agrees start (frame.finish start) begun :=
        embed_of_end atEnd verbose ▸ agrees
      exact ⟨begun, sequence_of_close atClose.firstToken_finish _ _ _, atClose⟩
  | true =>
      obtain ⟨first, escapes, -⟩ := dropped_blank atEnd verbose
      rw [← agrees.rest] at first escapes
      have atClose := agrees.dropped_blank atEnd verbose
      refine ⟨_, ?_, atClose⟩
      rw [sequence_of_blank first escapes rfl (mode.trans verbose)]
      exact sequence_of_close atClose.firstToken_finish _ _ _

/-- With so much fuel, alternations embed. -/
def BranchesEmbed (frame : Frame) (fuel : Nat) : Prop :=
  ∀ limit fuel' scope, 2 * limit + 2 ≤ fuel → 2 * limit + 3 ≤ fuel' →
    frame.Embeds limit (frame.ends scope.verbose) frame.Stands (alternation fuel scope)
      (alternation fuel' scope)

/-- With so much fuel, sequences embed. -/
def PartsEmbed (frame : Frame) (fuel : Nat) : Prop :=
  ∀ limit fuel' scope pieces pieces', 2 * limit + 1 ≤ fuel → 2 * limit + 2 ≤ fuel' →
    List.Forall₂ frame.Stands pieces pieces' →
    frame.Embeds limit (frame.ends scope.verbose) frame.Stands (sequence fuel scope pieces)
      (sequence fuel' scope pieces')

/-- An alternation embeds if its branches do. -/
theorem BranchesEmbed.succ {fuel : Nat} (branches : frame.BranchesEmbed fuel)
    (parts : frame.PartsEmbed fuel) : frame.BranchesEmbed (fuel + 1) := by
  intro limit fuel' scope enough enough' start escapes short
  obtain ⟨fuel', rfl⟩ : ∃ less, fuel' = less + 1 := ⟨fuel' - 1, by omega⟩
  rw [alternation, alternation]
  have ofBranch := parts limit fuel' scope [] [] (by omega) (by omega) .nil start escapes short
  refine ofBranch.bindEnds (fun branch branch' middle ran same nonempty => ?_)
    fun branch branch' middle ran same nothing => ?_
  · have after := ofBranch.leads ran
    refine .bindAccept after.escapes (Nat.le_trans after.remains short) (by decide)
      (fun fewer less => ?_)
      (.pure_ends after.escapes nonempty ⟨same.node, same.width, rfl⟩)
    exact (branches fewer fuel' scope (by omega) (by omega)).answer fun others others' sameOthers =>
      ⟨.choice same.node sameOthers.node, fun neither =>
        congrArg₂ Width.either (same.width (Piece.not_refers_of_or neither).1)
          (sameOthers.width (Piece.not_refers_of_or neither).2), rfl⟩
  · refine ⟨{ branch with role := .part }, { branch' with role := .part }, ?_,
      ⟨same.node, same.width, rfl⟩, fun begun closeNext => ?_⟩
    · rw [run_bind_of_ok (run_accept_of_ne (by rw [nothing]; exact nofun))]
      rfl
    · rw [run_bind_of_ok (run_accept_of_ne (by rw [closeNext]; decide))]
      rfl

/-- A comment ends inside the part, and stands for nothing. -/
theorem comment_embeds (frame : Frame) (limit start start' : Nat) :
    frame.Raises limit (Option.Rel frame.Stands)
      (do
        skipComment start ((← left) + 1)
        return none)
      (do
        skipComment start' ((← left) + 1)
        return none) :=
  .bindLeft fun _ _ _ more => (skipComment_embeds start start' (Nat.lt_succ_self _)
    (Nat.lt_succ_of_le more)).bind fun _ => .pure .none

/-- A group embeds if what is in it does. -/
theorem groupPiece_embeds {fuel fuel' : Nat} (branches : frame.BranchesEmbed fuel)
    (parts : frame.PartsEmbed fuel) (enough : 2 * limit + 2 ≤ fuel)
    (enough' : 2 * limit + 3 ≤ fuel') (scope : Flags) (start start' : Nat) (opening : Opening) :
    frame.Raises limit (Option.Rel frame.Stands)
      (groupPiece scope start (alternation fuel) (sequence fuel scope []) opening)
      (groupPiece scope start' (alternation fuel') (sequence fuel' scope []) opening) := by
  have contents : ∀ scope : Flags,
      frame.Embeds limit (frame.ends scope.verbose) frame.Stands (alternation fuel scope)
        (alternation fuel' scope) :=
    fun scope => branches limit fuel' scope enough enough'
  cases opening with
  | comment => exact comment_embeds frame limit start start'
  | flags on => exact .of_refuses (failAt_refuses _ _) _
  | reference => exact (namedReference_embeds scope).answer fun _ _ same => .some same
  | look ahead negated =>
      have body : frame.Embeds limit (frame.ends scope.verbose) frame.Stands
          (if ahead then alternation fuel scope else lookingBehind (alternation fuel scope))
          (if ahead then alternation fuel' scope
            else lookingBehind (alternation fuel' scope)) := by
        split
        · exact contents scope
        · exact lookingBehind_embeds (contents scope)
      exact (closing_embeds body start start').answer fun _ _ same =>
        .some ⟨.look ahead negated same.width same.node, fun _ => rfl, rfl⟩
  | condition =>
      refine conditionGroup_embeds.bindRaised fun group group' asks => ?_
      refine (checkLookbehind_embeds asks.of_exact).bind fun _ => ?_
      have both := conditionBranches_embeds fun fewer (le : fewer ≤ limit) =>
        parts fewer fuel' scope [] [] (by omega) (by omega) .nil
      exact (closing_embeds both start start').answer fun _ _ same =>
        .some ⟨.condition asks same.1.node same.2.node, fun neither =>
          congrArg₂ Width.either (same.1.width (Piece.not_refers_of_or neither).1)
            (same.2.width (Piece.not_refers_of_or neither).2), rfl⟩
  | atomic =>
      exact (closing_embeds (contents scope) start start').answer fun _ _ same =>
        .some ⟨.atomic same.node, same.width, rfl⟩
  | grouping on off =>
      exact (closing_embeds (contents (scope.switched on off)) start start').answer
        fun _ _ same => .some ⟨same.node, same.width, rfl⟩
  | capturing name =>
      intro state escapes short
      have opened : frame.EmbedsAt frame.inside (fun group group' => group' = frame.shift + group)
          (openGroup name) (openGroup name) state := openGroup_embeds name state escapes short
      refine opened.bind fun group middle ran => ?_
      have after := opened.leads ran
      have closed : frame.Raises limit (Option.Rel frame.Stands)
          (do
            let body ← closing start (alternation fuel scope)
            closeGroup group body.width
            return some { node := .group group body.node, width := body.width })
          (do
            let body ← closing start' (alternation fuel' scope)
            closeGroup (frame.shift + group) body.width
            return some { node := .group (frame.shift + group) body.node, width := body.width }) :=
        (closing_embeds (contents scope) start start').bindRaised fun body body' same =>
          (closeGroup_embeds (openGroup_pos ran) fun exact => same.width (.inl exact)).bind
            fun _ => .pure (.some ⟨.group group same.node, same.width, rfl⟩)
      exact closed middle after.escapes (Nat.le_trans after.remains short)

/-- A sequence embeds if what is in its groups does. -/
theorem PartsEmbed.succ {fuel : Nat} (branches : frame.BranchesEmbed fuel)
    (parts : frame.PartsEmbed fuel) : frame.PartsEmbed (fuel + 1) := by
  intro limit fuel' scope pieces pieces' enough enough' same start escapes short
  obtain ⟨fuel', rfl⟩ : ∃ less, fuel' = less + 2 := ⟨fuel' - 2, by omega⟩
  have joined : frame.Stands (Piece.join pieces.reverse) (Piece.join pieces'.reverse) :=
    Piece.Alike.join (List.forall₂_reverse_iff.mpr same)
  cases first : firstToken start.rest with
  | none =>
      have nothing := (firstToken_eq_none_iff escapes).mp first
      have atEnd := sequence_of_end nothing fuel scope pieces
      refine ⟨fun ran => ?_, fun ran => ?_, fun ran heard placed agrees => ?_⟩
      · cases atEnd.symm.trans ran
        exact .refl escapes
      · cases atEnd.symm.trans ran
        exact ⟨_, joined⟩
      · cases atEnd.symm.trans ran
        obtain ⟨mode, rfl⟩ := ends_eq_some_of_end nothing placed
        obtain ⟨reached, atClose, agreesEnd⟩ := sequence_of_tail nothing mode agrees fuel' pieces'
        exact .of_ok atClose ⟨joined, agreesEnd⟩
  | some token =>
      have nonempty : start.rest ≠ [] := fun nothing => by
        rw [nothing] at first
        cases first
      have more : ∀ fewer < limit, ∀ pieces pieces' : List Piece,
          List.Forall₂ frame.Stands pieces pieces' →
          frame.Embeds fewer (frame.ends scope.verbose) frame.Stands
            (sequence fuel scope pieces) (sequence (fuel' + 1) scope pieces') :=
        fun fewer less pieces pieces' same =>
          parts fewer _ scope pieces pieces' (by omega) (by omega) same
      have moreWith : ∀ fewer < limit, ∀ piece piece' : Piece, frame.Stands piece piece' →
          frame.Embeds fewer (frame.ends scope.verbose) frame.Stands
            (sequence fuel scope (piece :: pieces))
            (sequence (fuel' + 1) scope (piece' :: pieces')) :=
        fun fewer less piece piece' samePiece => more fewer less _ _ (.cons samePiece same)
      rw [Reader.sequence, Reader.sequence]
      refine (offset_embeds start escapes short).bindRaised fun place place' _ looked _ => ?_
      cases looked
      refine .bindPeek escapes first ?_
      cases token with
      | escape c =>
          refine .bindDrop first short fun fewer less => ?_
          exact (escapePiece_embeds scope c).bindRaised (moreWith fewer less)
      | plain c =>
          -- The signs in the order they are asked for: the end of the branch, a blank, a comment, a
          -- repetition, a group, and all others.
          dsimp only
          split
          · exact .pure_ends escapes nonempty joined
          refine .bindDrop first short fun fewer less => ?_
          split
          · exact more fewer less pieces pieces' same
          split
          · rename_i comment
            have mode := (Bool.and_eq_true_iff.mp comment).1
            obtain ⟨less', rfl⟩ : ∃ less', fuel = less' + 1 := ⟨fuel - 1, by omega⟩
            rw [mode] at more ⊢
            refine .bindLeft fun count count' short' longer => ?_
            refine skipLine_bind_embeds (Nat.lt_succ_self _) (Nat.lt_succ_of_le longer)
              (more count (by omega) pieces pieces' same) fun state nothing => ?_
            exact ⟨Piece.join pieces.reverse, _, sequence_of_end nothing _ _ _, joined,
              fun begun closeNext => sequence_of_close closeNext _ _ _⟩
          split
          · refine (repeatCounts_copies c).bind fun counts => ?_
            cases counts with
            | none => exact moreWith fewer less _ _ (Piece.alike_literal _ _)
            | some counts =>
                obtain ⟨least, most⟩ := counts
                exact (repeatLast_embeds _ _ least most same).bindRaised (more fewer less)
          split
          · refine opening_copies.bind fun opening => ?_
            refine (groupPiece_embeds branches parts (by omega) (by omega) scope _ _
              opening).bindRaised fun piece piece' samePiece => ?_
            cases samePiece with
            | none => exact more fewer less pieces pieces' same
            | some samePiece => exact moreWith fewer less _ _ samePiece
          · exact (signPiece_embeds scope _ _ c).bindRaised (moreWith fewer less)

/-- Alternations and sequences embed with any fuel. -/
theorem branches_parts_embed (frame : Frame) (fuel : Nat) :
    frame.BranchesEmbed fuel ∧ frame.PartsEmbed fuel := by
  induction fuel with
  | zero =>
      exact ⟨fun limit _ _ enough => absurd enough (Nat.not_le_of_lt (Nat.succ_pos _)),
        fun limit _ _ _ _ enough => absurd enough (Nat.not_le_of_lt (Nat.succ_pos _))⟩
  | succ fuel inductionHypothesis =>
      obtain ⟨branches, parts⟩ := inductionHypothesis
      exact ⟨branches.succ parts, parts.succ branches⟩

end Frame

end Structex.Regex
