import Structex.Proofs.Lexer.Definitions
import Structex.Proofs.Match.Completeness

/-!
# Every character is accounted for

A lexer leaves nothing of a text out of account. Each match of its alternation was found by exactly
one of its rules, whatever groups the rules ask for; the tokens and the matches that are left out
touch from the start of the text to its end; and error tokens stand exactly where no match is.
-/

namespace Structex

open Regex

/-! ## The groups of a match -/

/-- Matching adds spans of the tree's groups to those that were taken before. -/
theorem Regex.Course.captures (subject : Array Char) (numbers : Nat → Prop) :
    Course subject numbers fun place reached => ∃ added, reached.captures =
      added ++ place.captures ∧ ∀ entry ∈ added, numbers entry.1 where
  refl := fun _ => ⟨[], rfl, nofun⟩
  trans := by
    rintro place middle reached ⟨before, same, known⟩ ⟨after, sameAfter, knownAfter⟩
    refine ⟨after ++ before, ?_, List.forall_mem_append.mpr ⟨knownAfter, known⟩⟩
    rw [sameAfter, same, List.append_assoc]
  taken := fun _ => ⟨[], rfl, nofun⟩
  captured := by
    rintro place reached number isNumber ⟨added, same, known⟩
    refine ⟨(number, place.position, reached.position) :: added, ?_,
      List.forall_mem_cons.mpr ⟨isNumber, known⟩⟩
    rw [Place.captured, same]
    rfl
  looked := fun same => same

namespace TokenRule

variable {entry : TokenRule × Nat}

/-- A match of a branch is one of the group around it, and no group took part that is not in it. -/
theorem Branches.run_captures {node : Node} (branches : Branches entry node)
    {subject : Array Char} {position : Nat} {reached : Place}
    (ran : node.run subject ⟨position, []⟩ some = some reached) :
    (reached.captures.span? entry.2).isSome = true ∧
      ∀ number, (reached.captures.span? number).isSome = true →
        entry.2 ≤ number ∧ number ≤ entry.2 + entry.1.pattern.groups := by
  obtain ⟨body, rfl, -⟩ := branches.group
  obtain ⟨added, same, known⟩ :=
    (Node.run_keeps (Course.captures subject _) branches.numbers).alone ran
  refine ⟨?_, fun number took => ?_⟩
  · -- The group itself closes last, so its span stands before all that its body took.
    have bodyRan : body.run subject ⟨position, []⟩
        (fun inner => some (inner.captured entry.2 position)) = some reached := ran
    obtain ⟨inner, -, closed⟩ :=
      Node.run_keeps (Course.captures subject fun _ => True) (fun _ _ => trivial) _ _ _ bodyRan
    cases closed
    simp [Captures.span?, Place.captured]
  · obtain ⟨span, taken⟩ := Option.isSome_iff_exists.mp took
    rw [same, List.append_nil] at taken
    obtain ⟨before, after, split, -⟩ := List.lookup_eq_some_iff.mp taken
    exact known (number, span) (by simp [split])

/-- What a choice takes is taken by one of its branches. -/
theorem exists_branch {entries : List (TokenRule × Nat)} {nodes : List Node}
    (branches : List.Forall₂ Branches entries nodes) {subject : Array Char}
    {place reached : Place}
    (ran : (Node.choices nodes).run subject place some = some reached) (nonempty : nodes ≠ []) :
    ∃ entry ∈ entries, ∃ node, Branches entry node ∧
      node.run subject place some = some reached := by
  rw [Node.run_choices nonempty] at ran
  obtain ⟨node, member, ranNode⟩ := List.exists_of_findSome?_eq_some ran
  obtain ⟨index, inside, rfl⟩ := List.mem_iff_getElem.mp member
  have same := branches.length_eq
  exact ⟨entries[index], List.getElem_mem (by omega), nodes[index],
    (List.forall₂_iff_get.mp branches).2 index (by omega) inside, ranNode⟩

/-- If a group took part only if it is in the branch of an entry, and the group of the entry did,
then no group of another entry did. -/
theorem filter_numbered {rules : List TokenRule} (member : entry ∈ numbered 1 rules)
    (took : Nat → Bool) (self : took entry.2 = true)
    (within : ∀ number, took number = true →
      entry.2 ≤ number ∧ number ≤ entry.2 + entry.1.pattern.groups) :
    (numbered 1 rules).filter (fun other => took other.2) = [entry] := by
  -- Numbers rise along the rules: those before the entry end below it, those after it lie above.
  obtain ⟨before, after, split⟩ := List.append_of_mem member
  have rise := split ▸ numbered_rise 1 rules
  obtain ⟨-, riseAfter, riseBefore⟩ := List.pairwise_append.mp rise
  have noneBefore : before.filter (fun other => took other.2) = [] := by
    refine List.filter_eq_nil_iff.mpr fun other isBefore took => ?_
    have lower := riseBefore other isBefore entry List.mem_cons_self
    have inside := within other.2 took
    omega
  have noneAfter : after.filter (fun other => took other.2) = [] := by
    refine List.filter_eq_nil_iff.mpr fun other isAfter took => ?_
    have higher := (List.pairwise_cons.mp riseAfter).1 other isAfter
    have inside := within other.2 took
    omega
  rw [split, List.filter_append, noneBefore, List.nil_append, List.filter_cons, if_pos self,
    noneAfter]

end TokenRule

namespace Lexer

/-! ## The matches of a lexer -/

/-- The matches of a lexer's alternation in a text. -/
def matchesIn (lexer : Lexer) (text : String) : List Match :=
  match lexer.combined with
  | some combined => combined.findMatches text
  | none => []

/-- The rules whose groups took part in a match, with the numbers of the groups. -/
def tookPart (lexer : Lexer) (found : Match) : List (TokenRule × Nat) :=
  (lexer.rules.zip lexer.offsets).filter fun entry => (found.group? entry.2).isSome

/-- Whether the rule that fired leaves the match out. -/
def leavesOut (lexer : Lexer) (found : Match) : Bool :=
  (lexer.fired? found).any fun entry => entry.1.skip

section

variable {lexer : Lexer} {text : String}

/-- The tokens of a text are those of its matches. -/
theorem scan_eq_tokensFrom (lexer : Lexer) (text : String) :
    lexer.scan text = lexer.tokensFrom text 0 (lexer.matchesIn text) := by
  unfold scan matchesIn
  cases lexer.combined <;> rfl

/-- The matches of a text stand in order, none in another. -/
theorem matchesIn_follow (lexer : Lexer) (text : String) :
    Match.Follow text 0 (lexer.matchesIn text) := by
  unfold matchesIn
  cases lexer.combined with
  | none => trivial
  | some combined => exact combined.findMatches_follow text

/-- A match of a text is one that the alternation has somewhere. -/
theorem exists_matchAt {found : Match} (member : found ∈ lexer.matchesIn text) :
    ∃ combined position reached, lexer.combined = some combined ∧
      combined.matchAt text.toList.toArray position = some reached ∧
      found = .ofFound combined text reached := by
  unfold matchesIn at member
  split at member
  · rename_i combined present
    obtain ⟨reached, isFound, rfl⟩ := List.mem_map.mp member
    exact ⟨combined, _, reached, present, Pattern.matchAt_of_mem_foundFrom isFound, rfl⟩
  · cases member

/-- The one rule whose group took part is the one that fired. -/
theorem fired?_of_tookPart {found : Match} {entry : TokenRule × Nat}
    (took : lexer.tookPart found = [entry]) : lexer.fired? found = some entry := by
  rw [fired?, ← List.head?_filter]
  exact congrArg List.head? took

/-- A rule whose group took part is a rule of the lexer. -/
theorem mem_rules_of_tookPart {found : Match} {entry : TokenRule × Nat}
    (took : lexer.tookPart found = [entry]) : entry.1 ∈ lexer.rules := by
  have member : entry ∈ lexer.tookPart found := took ▸ List.mem_singleton_self entry
  exact (List.of_mem_zip (List.mem_filter.mp member).1).1

/-- Exactly one rule's group takes part in a match of the alternation. -/
theorem tookPart_ofFound {combined : Pattern} {nodes : List Node}
    (groups : combined.groups = TokenRule.groupTotal lexer.rules)
    (node : combined.node = Node.choices nodes)
    (branches : List.Forall₂ TokenRule.Branches (TokenRule.numbered 1 lexer.rules) nodes)
    (nonempty : nodes ≠ []) {position : Nat} {found : Found}
    (taken : combined.matchAt text.toList.toArray position = some found) :
    ∃ entry, lexer.tookPart (.ofFound combined text found) = [entry] := by
  obtain ⟨reached, ran, rfl⟩ := Option.map_eq_some_iff.mp taken
  have ranChoices : (Node.choices nodes).run text.toList.toArray ⟨position, []⟩ some =
      some reached := by
    rw [← node]
    exact ran
  obtain ⟨entry, member, _, branch, ranNode⟩ :=
    TokenRule.exists_branch branches ranChoices nonempty
  obtain ⟨self, within⟩ := branch.run_captures ranNode
  refine ⟨entry, ?_⟩
  rw [← TokenRule.filter_numbered member (fun number =>
    (reached.captures.span? number).isSome) self within]
  refine List.filter_congr fun other isOther => ?_
  obtain ⟨least, most⟩ := TokenRule.numbered_bounds isOther
  -- A match takes group 0 from its own span; a rule's group never is that one.
  have apart : (other.2 == 0) = false := beq_eq_false_iff_ne.mpr (by omega)
  rw [Match.group?_ofFound (by omega), Option.isSome_map, Found.span?, apart]
  rfl

end

/-! ## The stretches of a text -/

/-- A part of a text that a lexer accounts for: a token, or a match that it leaves out. -/
inductive Stretch where
  | emitted (token : LexToken)
  | skipped (found : Match)

namespace Stretch

/-- The token, unless the stretch is left out. -/
def token? : Stretch → Option LexToken
  | .emitted token => some token
  | .skipped _ => none

theorem token?_emitted (token : LexToken) : (emitted token).token? = some token :=
  rfl

/-- The match that is left out. -/
def skipped? : Stretch → Option Match
  | .emitted _ => none
  | .skipped found => some found

theorem skipped?_skipped (found : Match) : (skipped found).skipped? = some found :=
  rfl

/-- Where the stretch begins and ends. -/
def span : Stretch → Nat × Nat
  | .emitted token => (token.start, token.stop)
  | .skipped found => (found.start, found.stop)

end Stretch

/-- Spans that touch, from one offset up to another. -/
def Touch : (start : Nat) → List (Nat × Nat) → (stop : Nat) → Prop
  | start, [], stop => start = stop
  | start, span :: rest, stop => span.1 = start ∧ span.1 ≤ span.2 ∧ Touch span.2 rest stop

/-- The gap between two offsets, none if it would be empty. -/
def Stretch.gap (text : String) (last start : Nat) : List Stretch :=
  if last < start then [.emitted (LexToken.error text last start)] else []

/-- What touches from an offset on touches from an earlier one on behind the gap. -/
theorem touch_gap (text : String) {last start stop : Nat} {stretches : List Stretch}
    (before : last ≤ start) (touch : Touch start (stretches.map Stretch.span) stop) :
    Touch last ((Stretch.gap text last start ++ stretches).map Stretch.span) stop := by
  unfold Stretch.gap
  split
  · exact ⟨rfl, before, touch⟩
  · obtain rfl : last = start := by omega
    exact touch

theorem filterMap_token?_gap (text : String) (last start : Nat) :
    (Stretch.gap text last start).filterMap Stretch.token? =
      if last < start then [LexToken.error text last start] else [] := by
  unfold Stretch.gap
  split <;> rfl

theorem filterMap_skipped?_gap (text : String) (last start : Nat) :
    (Stretch.gap text last start).filterMap Stretch.skipped? = [] := by
  unfold Stretch.gap
  split <;> rfl

/-- A token stands for a gap between matches. -/
structure InGap (text : String) (matched : List Match) (token : LexToken) : Prop where
  same : token = LexToken.error text token.start token.stop
  nonempty : token.start < token.stop
  apart : ∀ found ∈ matched, found.stop ≤ token.start ∨ token.stop ≤ found.start

/-- A token is that of a match whose rule does not leave it out. -/
def OfMatch (lexer : Lexer) (matched : List Match) (token : LexToken) : Prop :=
  ∃ found ∈ matched, ∃ entry, lexer.tookPart found = [entry] ∧ entry.1.skip = false ∧
    token = Lexer.token entry.1 entry.2 found

section

variable {lexer : Lexer} {text : String} {last : Nat} {matched : List Match}

/-- The tokens of matches in order, with the matches that are left out, touch. -/
theorem exists_stretches (within : last ≤ text.length)
    (follow : Match.Follow text last matched)
    (fires : ∀ found ∈ matched, ∃ entry, lexer.tookPart found = [entry]) :
    ∃ stretches : List Stretch,
      stretches.filterMap Stretch.token? = lexer.tokensFrom text last matched ∧
      stretches.filterMap Stretch.skipped? = matched.filter lexer.leavesOut ∧
      Touch last (stretches.map Stretch.span) text.length := by
  induction matched generalizing last with
  | nil =>
      refine ⟨Stretch.gap text last text.length, ?_, filterMap_skipped?_gap text last _, ?_⟩
      · rw [filterMap_token?_gap, tokensFrom]
      · have touch := touch_gap text within
          (show Touch text.length (([] : List Stretch).map Stretch.span) text.length from rfl)
        rwa [List.append_nil] at touch
  | cons found rest inductionHypothesis =>
      obtain ⟨begins, ends, inside, -, others⟩ := follow
      obtain ⟨⟨rule, offset⟩, took⟩ := fires found List.mem_cons_self
      have fired := fired?_of_tookPart took
      obtain ⟨stretches, tokens, skipped, touch⟩ := inductionHypothesis inside others
        fun other isLater => fires other (List.mem_cons_of_mem _ isLater)
      rw [tokensFrom, fired]
      dsimp only
      -- The match is a stretch in both cases; only which of the two lists it goes to differs.
      cases skip : rule.skip with
      | true =>
          have out : lexer.leavesOut found = true := by
            rw [leavesOut, fired]
            exact skip
          refine ⟨Stretch.gap text last found.start ++ .skipped found :: stretches, ?_, ?_,
            touch_gap text begins ⟨rfl, ends, touch⟩⟩
          · rw [List.filterMap_append, filterMap_token?_gap, List.filterMap_cons_none rfl, tokens,
              if_pos rfl, List.append_nil]
          · rw [List.filterMap_append, filterMap_skipped?_gap, List.nil_append,
              List.filterMap_cons_some (Stretch.skipped?_skipped found), skipped,
              List.filter_cons_of_pos out]
      | false =>
          have stays : lexer.leavesOut found = false := by
            rw [leavesOut, fired]
            exact skip
          refine ⟨Stretch.gap text last found.start ++ .emitted (token rule offset found) ::
            stretches, ?_, ?_, touch_gap text begins ⟨rfl, ends, touch⟩⟩
          · rw [List.filterMap_append, filterMap_token?_gap,
              List.filterMap_cons_some (Stretch.token?_emitted _), tokens,
              if_neg Bool.false_ne_true, List.append_assoc]
            rfl
          · rw [List.filterMap_append, filterMap_skipped?_gap, List.nil_append,
              List.filterMap_cons_none rfl, skipped, List.filter_cons_of_neg (by simp [stays])]

/-- A token of matches in order stands for a gap between them behind the offset, or is that of a
match. -/
theorem mem_tokensFrom (follow : Match.Follow text last matched)
    (fires : ∀ found ∈ matched, ∃ entry, lexer.tookPart found = [entry]) {token : LexToken}
    (member : token ∈ lexer.tokensFrom text last matched) :
    last ≤ token.start ∧ InGap text matched token ∨ lexer.OfMatch matched token := by
  induction matched generalizing last with
  | nil =>
      rw [tokensFrom] at member
      split at member
      · rename_i before
        obtain rfl := List.mem_singleton.mp member
        exact .inl ⟨Nat.le_refl _, rfl, before, nofun⟩
      · cases member
  | cons found rest inductionHypothesis =>
      obtain ⟨begins, ends, inside, -, others⟩ := follow
      obtain ⟨⟨rule, offset⟩, took⟩ := fires found List.mem_cons_self
      rw [tokensFrom, fired?_of_tookPart took, List.mem_append, List.mem_append] at member
      rcases member with (isGap | isToken) | isLater
      · split at isGap
        · rename_i before
          obtain rfl := List.mem_singleton.mp isGap
          refine .inl ⟨Nat.le_refl _, rfl, before, fun other isOther => .inr ?_⟩
          rcases List.mem_cons.mp isOther with rfl | later
          · exact Nat.le_refl _
          · exact Nat.le_trans ends (others.mem later).1
        · cases isGap
      · split at isToken
        · cases isToken
        · rename_i stays
          obtain rfl := List.mem_singleton.mp isToken
          exact .inr ⟨found, List.mem_cons_self, _, took, by simpa using stays, rfl⟩
      · rcases inductionHypothesis others
          (fun other isLater => fires other (List.mem_cons_of_mem _ isLater)) isLater with
          ⟨behind, same, nonempty, apart⟩ | ⟨other, isOther, ofMatch⟩
        · exact .inl ⟨by omega, same, nonempty, List.forall_mem_cons.mpr ⟨.inl behind, apart⟩⟩
        · exact .inr ⟨other, List.mem_cons_of_mem _ isOther, ofMatch⟩

end

/-! ## Coverage -/

/-- A lexer accounts for all of a text. -/
structure Covers (lexer : Lexer) (text : String) : Prop where
  /-- Wherever the alternation matches, the group of exactly one rule takes part. -/
  fires : ∀ combined, lexer.combined = some combined → ∀ position found,
    combined.matchAt text.toList.toArray position = some found →
      ∃ entry, lexer.tookPart (.ofFound combined text found) = [entry]
  /-- The tokens and the matches that are left out touch from the start of the text to its end. -/
  touch : ∃ stretches : List Stretch, stretches.filterMap Stretch.token? = lexer.scan text ∧
    stretches.filterMap Stretch.skipped? = (lexer.matchesIn text).filter lexer.leavesOut ∧
    Touch 0 (stretches.map Stretch.span) text.length
  values : ∀ token ∈ lexer.scan text, token.value = Text.slice text token.start token.stop
  errors : ∀ token ∈ lexer.scan text, token.kind = errorTokenName →
    token.start < token.stop ∧ token.groups = [] ∧
      ∀ found ∈ lexer.matchesIn text, found.stop ≤ token.start ∨ token.stop ≤ found.start
  /-- Any other token is that of a match, by the rule whose group took part, which does not leave
  it out. -/
  others : ∀ token ∈ lexer.scan text, token.kind ≠ errorTokenName →
    ∃ found ∈ lexer.matchesIn text, ∃ entry, lexer.tookPart found = [entry] ∧
      entry.1 ∈ lexer.rules ∧ entry.1.skip = false ∧ token.kind = entry.1.name ∧
      token.start = found.start ∧ token.stop = found.stop ∧ token.groups.head? = some token.value
  /-- No match becomes an error token. -/
  names : ∀ rule ∈ lexer.rules, rule.name ≠ errorTokenName

/-- Wherever the alternation matches, the group of exactly one rule takes part. -/
theorem exists_tookPart {arguments : List TokenArgument} {lexer : Lexer}
    (created : create arguments = .ok lexer)
    (isRead : ∀ argument ∈ arguments, argument.IsRead) {text : String} {combined : Pattern}
    (present : lexer.combined = some combined) {position : Nat} {found : Found}
    (taken : combined.matchAt text.toList.toArray position = some found) :
    ∃ entry, lexer.tookPart (.ofFound combined text found) = [entry] := by
  rcases create_eq_ok created with ⟨-, missing⟩ | ⟨nonempty, _, same, parsed⟩
  · cases missing.symm.trans present
  · cases same.symm.trans present
    obtain ⟨groups, nodes, node, branches⟩ := parse_combinedSource nonempty
      (fun rule member => (read_of_mem_rules created isRead member).2) parsed
    refine tookPart_ofFound groups node branches ?_ taken
    rintro rfl
    obtain ⟨rule, others, some⟩ := List.exists_cons_of_ne_nil nonempty
    rw [some, TokenRule.numbered_cons] at branches
    cases branches

/-- Every text is accounted for by a lexer, whatever its definitions match and leave out and
whatever groups they ask for. -/
theorem scan_covers {arguments : List TokenArgument} {lexer : Lexer}
    (created : create arguments = .ok lexer)
    (isRead : ∀ argument ∈ arguments, argument.IsRead) (text : String) : lexer.Covers text := by
  have fires : ∀ found ∈ lexer.matchesIn text, ∃ entry, lexer.tookPart found = [entry] := by
    intro found member
    obtain ⟨combined, position, reached, present, taken, rfl⟩ := exists_matchAt member
    exact exists_tookPart created isRead present taken
  have follow := lexer.matchesIn_follow text
  have tokens : ∀ token ∈ lexer.scan text,
      InGap text (lexer.matchesIn text) token ∨ lexer.OfMatch (lexer.matchesIn text) token := by
    intro token member
    rw [scan_eq_tokensFrom] at member
    exact (mem_tokensFrom follow fires member).imp_left And.right
  refine ⟨fun combined present position found taken =>
      exists_tookPart created isRead present taken,
    lexer.scan_eq_tokensFrom text ▸ exists_stretches (Nat.zero_le _) follow fires, ?_, ?_, ?_,
    fun rule member => (read_of_mem_rules created isRead member).1⟩
  · intro token member
    rcases tokens token member with gap | ⟨found, isFound, entry, -, -, rfl⟩
    · rw [gap.same]
      rfl
    · exact (follow.mem isFound).2.2.2
  · intro token member kind
    rcases tokens token member with gap | ⟨found, isFound, entry, took, -, rfl⟩
    · refine ⟨gap.nonempty, ?_, gap.apart⟩
      rw [gap.same]
      rfl
    · exact absurd kind
        (read_of_mem_rules created isRead (mem_rules_of_tookPart took)).1
  · intro token member kind
    rcases tokens token member with gap | ⟨found, isFound, entry, took, stays, rfl⟩
    · rw [gap.same] at kind
      exact absurd rfl kind
    · exact ⟨found, isFound, entry, took, mem_rules_of_tookPart took, stays, rfl, rfl, rfl, rfl⟩

end Lexer

/-- A character twice. -/
def twicePattern : Pattern where
  source := "(.)\\1"
  flags := { unicode := true }
  groups := 1
  names := []
  node := .seq (.group 1 (.one ⟨true, .exact, [.literal 10]⟩)) (.reference 1 .exact)

/-- Patterns of which one asks for a group by a number that another has in the alternation, and one
matches the empty text and is left out. -/
def twiceDefinitions : List TokenArgument :=
  [.mapping (some (.str "letters")) (some (.value (.str "a+"))) (.bool false),
    .ready ⟨.str "twice", .compiled twicePattern, false⟩,
    .ready ⟨.str "blank", .value (.str " *"), true⟩]

/-- The lexer of those definitions. -/
def twiceLexer : Lexer :=
  (Lexer.create twiceDefinitions).toOption.getD default

/-- The rule for a character twice never fires, as no group of letters took part before it. Its text
becomes two error tokens with an empty match between them that is left out. -/
theorem Lexer.scan_covers_of_twice :
    Lexer.create twiceDefinitions = .ok twiceLexer ∧
      (∀ argument ∈ twiceDefinitions, argument.IsRead) ∧ twiceLexer.Covers "bb aa" ∧
      (twiceLexer.scan "bb aa").map (fun token => (token.kind, token.start, token.stop)) =
        [("ERROR", 0, 1), ("ERROR", 1, 2), ("letters", 3, 5)] := by
  have created : Lexer.create twiceDefinitions = .ok twiceLexer :=
    create_of_accepted (by decide +kernel)
  have isRead : ∀ argument ∈ twiceDefinitions, argument.IsRead := by
    have parsed : Pattern.parse twicePattern.source {} = .ok twicePattern := by rfl
    intro argument member
    simp only [twiceDefinitions, List.mem_cons, List.not_mem_nil, or_false] at member
    rcases member with rfl | rfl | rfl
    · rintro given same
      cases same
      trivial
    · exact ⟨{}, parsed⟩
    · trivial
  exact ⟨created, isRead, Lexer.scan_covers created isRead "bb aa", by decide +kernel⟩

end Structex
