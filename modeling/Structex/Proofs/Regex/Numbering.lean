import Structex.Proofs.Regex.Course
import Structex.Proofs.Regex.Subpattern

/-!
# The numbers of the groups that are read

Groups are numbered in the order in which they are opened. So a part that is read from one state to
another has no other groups than those that were opened in between. This is proved reader by reader,
along the grammar: `Numbers` composes, and most readers give nothing with a group in it.
-/

namespace Structex.Regex

/-- The numbers of the groups in a part. -/
def Piece.groupNumbers (piece : Piece) : List Nat :=
  piece.node.groupNumbers

/-- Parts that are joined have no other groups than the parts. -/
theorem Piece.groupNumbers_join (pieces : List Piece) :
    (join pieces).groupNumbers = pieces.flatMap groupNumbers := by
  induction pieces with
  | nil => rfl
  | cons piece rest inductionHypothesis =>
      cases rest with
      | nil => simp [join]
      | cons second rest =>
          rw [List.flatMap_cons, ← inductionHypothesis]
          rfl

namespace Reader

variable {α β γ : Type}

/-! ## Reading on -/

theorem skipLine_advances (fuel : Nat) : (skipLine fuel).Advances := by
  induction fuel with
  | zero => exact pure_advances ()
  | succ fuel inductionHypothesis =>
      refine next_advances.bind fun token => ?_
      cases token with
      | none => exact pure_advances ()
      | some token =>
          dsimp only
          split
          · exact pure_advances ()
          · exact inductionHypothesis

theorem skipComment_advances (place fuel : Nat) : (skipComment place fuel).Advances := by
  induction fuel with
  | zero => exact pure_advances ()
  | succ fuel inductionHypothesis =>
      refine next_advances.bind fun token => ?_
      cases token with
      | none => exact (failAt_refuses _ _).advances
      | some token =>
          dsimp only
          split
          · exact pure_advances ()
          · exact inductionHypothesis

/-- What embeds from every state goes on. -/
theorem advances_of_embeds {related : α → γ → Prop} {own : Reader α} {whole : Reader γ}
    {place : Reading → Option Reading}
    (embeds : ∀ limit, (default : Frame).Embeds limit place related own whole) : own.Advances :=
  fun _ _ _ escapes ran => (embeds _ _ escapes (Nat.le_refl _)).leads ran

/-! ## Parts without groups -/

/-- A reader answers nothing but what has a property. -/
def Yields (holds : α → Prop) (reader : Reader α) : Prop :=
  ∀ start answer ended, reader.run start = .ok (answer, ended) → holds answer

theorem Yields.bind {holds : β → Prop} {first : Reader α} {second : α → Reader β}
    (ofSecond : ∀ given, (second given).Yields holds) : (first >>= second).Yields holds := by
  intro start answer ended ran
  obtain ⟨given, middle, -, ranSecond⟩ := run_bind_eq_ok.mp ran
  exact ofSecond given middle answer ended ranSecond

theorem Yields.pure {holds : α → Prop} {answer : α} (held : holds answer) :
    (Pure.pure answer : Reader α).Yields holds := by
  intro start given ended ran
  cases ran
  exact held

theorem Refuses.yields {holds : α → Prop} {reader : Reader α} (refuses : reader.Refuses) :
    reader.Yields holds :=
  fun _ _ _ ran => absurd ran (refuses _ _)

/-- A part without groups. -/
def Ungrouped (piece : Piece) : Prop :=
  piece.groupNumbers = []

theorem groupReference_ungrouped (scope : Flags) (digits : List Char) :
    (groupReference scope digits).Yields Ungrouped := by
  unfold groupReference
  refine .bind fun count => ?_
  split
  · exact .bind fun _ => .bind fun _ => .bind fun _ => .pure rfl
  · exact (fail_refuses _ _).yields

theorem digitEscape_ungrouped (scope : Flags) (c : Char) :
    (digitEscape scope c).Yields Ungrouped := by
  unfold digitEscape
  split
  · exact .bind fun _ => .pure rfl
  · refine .bind fun taken => ?_
    split
    · exact groupReference_ungrouped scope _
    · split
      · refine .bind fun taken => ?_
        split
        · exact groupReference_ungrouped scope _
        · exact .bind fun _ => .pure rfl
      · exact groupReference_ungrouped scope _

theorem escapePiece_ungrouped (scope : Flags) (c : Char) :
    (escapePiece scope c).Yields Ungrouped := by
  unfold escapePiece
  split
  · exact .pure rfl
  · exact .pure rfl
  · exact .pure rfl
  · split
    · exact .bind fun _ => .pure rfl
    split
    · exact .bind fun _ => .pure rfl
    split
    · exact .bind fun _ => .pure rfl
    split
    · exact .bind fun _ => .pure rfl
    split
    · exact digitEscape_ungrouped scope c
    · exact .bind fun _ => .pure rfl

theorem signPiece_ungrouped (scope : Flags) (place : Nat) (c : Char) :
    (signPiece scope place c).Yields Ungrouped := by
  unfold signPiece
  split
  · exact .pure rfl
  · exact .pure rfl
  · exact .pure rfl
  · exact .bind fun _ => .bind fun _ => .bind fun _ => .pure rfl
  · exact .pure rfl

theorem namedReference_ungrouped (scope : Flags) : (namedReference scope).Yields Ungrouped :=
  .bind fun _ => .bind fun _ => .bind fun _ => .bind fun _ => .bind fun _ => .pure rfl

/-! ## Numbers -/

section

variable {known known' : List Nat} {listed : α → List Nat} {listed' : β → List Nat}

/-- A reader goes on, and the numbers in what it answers were known before or are those of groups
that it opens. -/
def Numbers (known : List Nat) (listed : α → List Nat) (reader : Reader α) : Prop :=
  ∀ start answer ended, start.rest ≠ ['\\'] → reader.run start = .ok (answer, ended) →
    start.Leads ended ∧ ∀ number ∈ listed answer,
      number ∈ known ∨ start.widths.length < number ∧ number ≤ ended.widths.length

/-- More numbers may have been known before. -/
theorem Numbers.mono {reader : Reader α} (numbered : reader.Numbers known listed)
    (more : known ⊆ known') : reader.Numbers known' listed := by
  intro start answer ended escapes ran
  obtain ⟨leads, within⟩ := numbered start answer ended escapes ran
  exact ⟨leads, fun number member => (within number member).imp_left fun before => more before⟩

/-- What goes on from a reader may use the numbers of what that answered. -/
theorem Numbers.bind {first : Reader α} {second : α → Reader β}
    (ofFirst : first.Numbers known listed)
    (ofSecond : ∀ given, (second given).Numbers (known ++ listed given) listed') :
    (first >>= second).Numbers known listed' := by
  intro start answer ended escapes ran
  obtain ⟨given, middle, ranFirst, ranSecond⟩ := run_bind_eq_ok.mp ran
  obtain ⟨leads, withinFirst⟩ := ofFirst start given middle escapes ranFirst
  obtain ⟨leadsOn, withinSecond⟩ := ofSecond given middle answer ended leads.escapes ranSecond
  refine ⟨leads.trans leadsOn, fun number member => ?_⟩
  have before := leads.groups
  have after := leadsOn.groups
  rcases withinSecond number member with old | new
  · rcases List.mem_append.mp old with old | given
    · exact .inl old
    · exact (withinFirst number given).imp_right fun new => by omega
  · exact .inr (by omega)

/-- What goes on from a reader that gives no group. -/
theorem Advances.bindNumbers {first : Reader α} {second : α → Reader β} (advances : first.Advances)
    (ofSecond : ∀ given, (second given).Numbers known listed') :
    (first >>= second).Numbers known listed' := by
  have none : first.Numbers known fun _ => [] :=
    fun _ _ _ escapes ran => ⟨advances _ _ _ escapes ran, fun _ => nofun⟩
  exact none.bind fun given => (ofSecond given).mono (List.subset_append_left _ _)

/-- An answer without reading has known numbers. -/
theorem Numbers.pure {answer : α} (within : listed answer ⊆ known) :
    (Pure.pure answer : Reader α).Numbers known listed := by
  intro start given ended escapes ran
  cases ran
  exact ⟨.refl escapes, fun _ member => .inl (within member)⟩

theorem Refuses.numbers {reader : Reader α} (refuses : reader.Refuses) :
    reader.Numbers known listed :=
  fun _ _ _ _ ran => absurd ran (refuses _ _)

/-- Parts without groups have no numbers. -/
theorem Yields.numbers {reader : Reader Piece} (yields : reader.Yields Ungrouped)
    (advances : reader.Advances) : reader.Numbers known Piece.groupNumbers := by
  intro start piece ended escapes ran
  refine ⟨advances _ _ _ escapes ran, fun number member => ?_⟩
  rw [yields start piece ended ran] at member
  cases member

/-- The contents of a group with the parenthesis that closes it. -/
theorem closing_numbers {contents : Reader α} (numbered : contents.Numbers known listed)
    (place : Nat) : (closing place contents).Numbers known listed :=
  numbered.bind fun _ => (close_advances place).bindNumbers fun _ =>
    .pure (List.subset_append_right _ _)

/-- The body of a look-behind. -/
theorem lookingBehind_numbers {body : Reader α} (numbered : body.Numbers known listed) :
    (lookingBehind body).Numbers known listed := by
  intro start answer ended escapes ran
  obtain ⟨inner, ranBody, rfl⟩ := run_lookingBehind_eq_ok.mp ran
  obtain ⟨leads, within⟩ := numbered start.limited answer inner escapes ranBody
  refine ⟨⟨leads.remains, leads.escapes, leads.names, leads.groups, leads.quiet, ?_⟩, within⟩
  rw [leads.limit, Reading.limited]
  cases start.lookbehindLimit <;> rfl

end

/-- A group is opened under the next number. -/
theorem run_openGroup_widths {name : Option (List Char)} {start ended : Reading} {group : Nat}
    (ran : (openGroup name).run start = .ok (group, ended)) :
    group = start.widths.length + 1 ∧ ended.widths.length = start.widths.length + 1 := by
  obtain ⟨count, _, counted, ranCounted⟩ := run_bind_eq_ok.mp ran
  cases counted
  cases name with
  | none =>
      cases ranCounted
      exact ⟨rfl, List.length_append⟩
  | some chars =>
      obtain ⟨_, _, named, ranNamed⟩ := run_bind_eq_ok.mp ranCounted
      obtain ⟨-, rfl⟩ := run_nameGroup_eq_ok.mp named
      cases ranNamed
      exact ⟨rfl, List.length_append⟩

theorem openGroup_numbers {known : List Nat} (name : Option (List Char)) :
    (openGroup name).Numbers known fun group => [group] := by
  intro start group ended escapes ran
  have opened := run_openGroup_widths ran
  refine ⟨advances_of_embeds (fun _ => Frame.openGroup_embeds name) _ _ _ escapes ran,
    fun number member => .inr ?_⟩
  rw [List.mem_singleton.mp member]
  omega

theorem closeGroup_advances (group : Nat) (width : Width) : (closeGroup group width).Advances := by
  intro start answer ended escapes ran
  cases ran
  exact ⟨Nat.le_refl _, escapes, List.prefix_refl _, Nat.le_of_eq List.length_set.symm,
    fun quiet => quiet, rfl⟩

/-- One or two branches of a condition. -/
theorem conditionBranches_numbers {known : List Nat} {branch : Reader Piece}
    (numbered : branch.Numbers known Piece.groupNumbers) :
    (conditionBranches branch).Numbers known
      fun both => both.1.groupNumbers ++ both.2.groupNumbers := by
  refine numbered.bind fun present => (accept_advances _).bindNumbers fun more => ?_
  cases more with
  | false => exact .pure (by simp [Piece.groupNumbers, Piece.join, Node.groupNumbers])
  | true =>
      refine (numbered.mono (List.subset_append_left _ _)).bind fun absent => ?_
      refine (sees_advances _).bindNumbers fun third => ?_
      cases third with
      | false => exact .pure (by simp)
      | true => exact ((fail_refuses _ _).bind _).numbers

/-- The last part is repeated, with its groups. -/
theorem repeatLast_numbers {known : List Nat} (place least : Nat) (most : Option Nat)
    {pieces : List Piece} (within : pieces.flatMap Piece.groupNumbers ⊆ known) :
    (repeatLast place least most pieces).Numbers known
      fun pieces => pieces.flatMap Piece.groupNumbers := by
  intro start answer ended escapes ran
  obtain ⟨last, before, greed, rfl, -, ranGreed, rfl⟩ := run_repeatLast_eq_ok.mp ran
  exact ⟨advances_of_embeds (fun _ => Frame.repeatGreed_copies) _ _ _ escapes ranGreed,
    fun _ member => .inl (within member)⟩

/-- A group has the numbers of what is in it, and its own. -/
theorem groupPiece_numbers {known : List Nat} {branches : Flags → Reader Piece}
    {parts : Reader Piece}
    (ofBranches : ∀ scope known, (branches scope).Numbers known Piece.groupNumbers)
    (ofParts : ∀ known, parts.Numbers known Piece.groupNumbers) (scope : Flags) (place : Nat)
    (opening : Opening) :
    (groupPiece scope place branches parts opening).Numbers known
      fun given => given.elim [] Piece.groupNumbers := by
  cases opening with
  | comment =>
      exact left_advances.bindNumbers fun _ => (skipComment_advances _ _).bindNumbers fun _ =>
        .pure (List.nil_subset _)
  | flags on => exact (failAt_refuses _ _).numbers
  | reference =>
      exact ((namedReference_ungrouped scope).numbers
        (advances_of_embeds fun _ => Frame.namedReference_embeds scope)).bind fun _ =>
          .pure (List.subset_append_right _ _)
  | look ahead negated =>
      have contents : (if ahead then branches scope else lookingBehind (branches scope)).Numbers
          known Piece.groupNumbers := by
        split
        · exact ofBranches scope known
        · exact lookingBehind_numbers (ofBranches scope known)
      exact (closing_numbers contents place).bind fun _ => .pure (List.subset_append_right _ _)
  | condition =>
      refine (advances_of_embeds fun _ => Frame.conditionGroup_embeds).bindNumbers fun group => ?_
      refine (advances_of_embeds fun _ =>
        Frame.checkLookbehind_embeds fun _ => rfl).bindNumbers fun _ => ?_
      exact (closing_numbers (conditionBranches_numbers (ofParts known)) place).bind fun _ =>
        .pure (List.subset_append_right _ _)
  | atomic =>
      exact (closing_numbers (ofBranches scope known) place).bind fun _ =>
        .pure (List.subset_append_right _ _)
  | grouping on off =>
      exact (closing_numbers (ofBranches _ known) place).bind fun _ =>
        .pure (List.subset_append_right _ _)
  | capturing name =>
      refine (openGroup_numbers name).bind fun group => ?_
      refine (closing_numbers (ofBranches scope _) place).bind fun body => ?_
      refine (closeGroup_advances group body.width).bindNumbers fun _ => .pure ?_
      rw [List.append_assoc]
      exact List.subset_append_right _ _

/-- Alternations and sequences have no other groups than those they open, and those of the parts
that a sequence is begun with. -/
theorem alternation_sequence_numbers (fuel : Nat) :
    (∀ scope known, (alternation fuel scope).Numbers known Piece.groupNumbers) ∧
      ∀ scope pieces known, pieces.flatMap Piece.groupNumbers ⊆ known →
        (sequence fuel scope pieces).Numbers known Piece.groupNumbers := by
  -- The two readers hand on to each other with less fuel, so one induction serves both.
  have joined : ∀ {pieces : List Piece} {known}, pieces.flatMap Piece.groupNumbers ⊆ known →
      (Piece.join pieces.reverse).groupNumbers ⊆ known := by
    intro pieces known within number member
    rw [Piece.groupNumbers_join, List.mem_flatMap] at member
    obtain ⟨piece, inPieces, member⟩ := member
    exact within (List.mem_flatMap.mpr ⟨piece, List.mem_reverse.mp inPieces, member⟩)
  induction fuel with
  | zero =>
      exact ⟨fun scope known => .pure (List.nil_subset _),
        fun scope pieces known within => .pure (joined within)⟩
  | succ fuel inductionHypothesis =>
      obtain ⟨branches, parts⟩ := inductionHypothesis
      refine ⟨fun scope known => ?_, fun scope pieces known within => ?_⟩
      · rw [alternation]
        refine (parts scope [] known (List.nil_subset _)).bind fun branch => ?_
        refine (accept_advances _).bindNumbers fun more => ?_
        cases more with
        | false => exact .pure (List.subset_append_right _ _)
        | true =>
            refine (branches scope _).bind fun others => .pure ?_
            rw [List.append_assoc]
            exact List.subset_append_right _ _
      · have moreWith : ∀ piece : Piece,
            (sequence fuel scope (piece :: pieces)).Numbers (known ++ piece.groupNumbers)
              Piece.groupNumbers := by
          intro piece
          refine parts scope (piece :: pieces) _ fun number member => ?_
          rcases List.mem_append.mp member with new | old
          · exact List.mem_append_right _ new
          · exact List.mem_append_left _ (within old)
        rw [sequence]
        refine offset_advances.bindNumbers fun place => peek_advances.bindNumbers fun token => ?_
        split
        · exact .pure (joined within)
        · refine (drop_advances 2).bindNumbers fun _ => ?_
          exact ((escapePiece_ungrouped scope _).numbers
            (advances_of_embeds fun _ => Frame.escapePiece_embeds scope _)).bind moreWith
        · rename_i c
          split
          · exact .pure (joined within)
          refine (drop_advances 1).bindNumbers fun _ => ?_
          split
          · exact parts scope pieces known within
          split
          · exact left_advances.bindNumbers fun _ => (skipLine_advances _).bindNumbers fun _ =>
              parts scope pieces known within
          split
          · refine (advances_of_embeds fun _ => Frame.repeatCounts_copies c).bindNumbers
              fun counts => ?_
            cases counts with
            | none =>
                exact (moreWith (Piece.literal scope c.toNat)).mono
                  (List.append_subset.mpr ⟨List.Subset.refl _, List.nil_subset _⟩)
            | some counts =>
                exact (repeatLast_numbers place counts.1 counts.2 within).bind fun repeated =>
                  parts scope repeated _ (List.subset_append_right _ _)
          split
          · refine (advances_of_embeds fun _ => Frame.opening_copies).bindNumbers
              fun opening => ?_
            refine (groupPiece_numbers branches (fun known => parts scope [] known
              (List.nil_subset _)) scope place opening).bind fun given => ?_
            cases given with
            | none =>
                exact (parts scope pieces known within).mono (List.subset_append_left _ _)
            | some piece => exact moreWith piece
          · exact ((signPiece_ungrouped scope place c).numbers
              (advances_of_embeds fun _ => Frame.signPiece_embeds scope place place c)).bind
                moreWith

theorem alternation_advances (fuel : Nat) (scope : Flags) : (alternation fuel scope).Advances :=
  fun _ _ _ escapes ran => ((alternation_sequence_numbers fuel).1 scope [] _ _ _ escapes ran).1

end Reader

end Structex.Regex
