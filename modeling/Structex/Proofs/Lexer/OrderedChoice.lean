import Structex.Proofs.Lexer.Combined
import Structex.Proofs.Match.Order

/-!
# A lexer is the ordered choice of its rules

The scanner that a reader of the rules has in mind: from an offset on, find the smallest offset at
which the own pattern of some rule matches, take the first such rule in order with the match that
its pattern gives alone, and go on behind it. A lexer finds the same tokens with the one pattern
that its rules are combined in.
-/

namespace Structex

open Regex

namespace TokenRule

/-! ## The scanner of the rules -/

/-- The first rule whose own pattern matches at an offset, with its match. -/
def matchAt? (rules : List TokenRule) (subject : Array Char) (position : Nat) :
    Option (TokenRule × Found) :=
  rules.findSome? fun rule => (rule.pattern.matchAt subject position).map (rule, ·)

/-- The first rule that matches at the smallest offset, from an offset on, at which one does. -/
def search? (rules : List TokenRule) (subject : Array Char) (position : Nat) :
    Option (TokenRule × Found) :=
  (List.range' position (subject.size + 1 - position)).findSome? (matchAt? rules subject)

/-- What is found begins at the offset or later and ends in the text. -/
theorem search?_bounds {rules : List TokenRule} {subject : Array Char} {position : Nat}
    {rule : TokenRule} {found : Found}
    (taken : search? rules subject position = some (rule, found)) :
    position ≤ found.start ∧ found.start ≤ found.stop ∧ found.stop ≤ subject.size := by
  obtain ⟨here, inRange, first⟩ := List.exists_of_findSome?_eq_some taken
  obtain ⟨other, -, own⟩ := List.exists_of_findSome?_eq_some first
  obtain ⟨same, ran, pair⟩ := Option.map_eq_some_iff.mp own
  cases pair
  rw [List.mem_range'_1] at inRange
  obtain ⟨begins, ends, inside⟩ := Pattern.matchAtWhere_bounds (by omega) ran
  omega

/-- Behind what is found the search resumes at a later offset. -/
theorem search?_resumes {rules : List TokenRule} {subject : Array Char} {position : Nat}
    {rule : TokenRule} {found : Found}
    (taken : search? rules subject position = some (rule, found)) :
    position ≤ subject.size ∧ position < Pattern.resumeAfter found := by
  obtain ⟨begins, ends, inside⟩ := search?_bounds taken
  refine ⟨by omega, ?_⟩
  unfold Pattern.resumeAfter
  split <;> omega

/-- The token of a rule for a match of its own pattern: the text of the match, and then those of the
groups, empty for a group that took no part. -/
def ownToken (rule : TokenRule) (text : String) (found : Found) : LexToken where
  kind := rule.name
  value := Text.slice text found.start found.stop
  groups := (Match.ofFound rule.pattern text found).groups.map (·.getD "")
  start := found.start
  stop := found.stop

/-- The tokens of a text from an offset on, where the last match ended at another. -/
def scanFrom (rules : List TokenRule) (text : String) (last position : Nat) : List LexToken :=
  match _ : search? rules text.toList.toArray position with
  | none => if last < text.length then [LexToken.error text last text.length] else []
  | some (rule, found) =>
    (if last < found.start then [LexToken.error text last found.start] else []) ++
      (if rule.skip then [] else [rule.ownToken text found]) ++
      scanFrom rules text found.stop (Pattern.resumeAfter found)
termination_by text.length + 1 - position
decreasing_by
  rename_i taken
  obtain ⟨inside, resumes⟩ := search?_resumes taken
  have size : text.toList.toArray.size = text.length := by simp [String.length_toList]
  omega

/-- The tokens of a text. -/
def scan (rules : List TokenRule) (text : String) : List LexToken :=
  scanFrom rules text 0 0

/-- Where nothing more is found, what is left is an error token. -/
theorem scanFrom_of_none {rules : List TokenRule} {text : String} {position : Nat}
    (taken : search? rules text.toList.toArray position = none) (last : Nat) :
    scanFrom rules text last position =
      if last < text.length then [LexToken.error text last text.length] else [] := by
  rw [scanFrom]
  split
  · rfl
  · rename_i other
    cases taken.symm.trans other

/-- Where a rule is found, its token comes behind the gap before it. -/
theorem scanFrom_of_some {rules : List TokenRule} {text : String} {position : Nat}
    {rule : TokenRule} {found : Found}
    (taken : search? rules text.toList.toArray position = some (rule, found)) (last : Nat) :
    scanFrom rules text last position =
      (if last < found.start then [LexToken.error text last found.start] else []) ++
        (if rule.skip then [] else [rule.ownToken text found]) ++
        scanFrom rules text found.stop (Pattern.resumeAfter found) := by
  rw [scanFrom]
  split
  · rename_i other
    cases taken.symm.trans other
  · rename_i other
    cases taken.symm.trans other
    rfl

end TokenRule

/-! ## A match in the group of its rule -/

namespace Regex

/-- A match as it is found where the pattern stands in a group, its own groups numbered on. -/
def Found.within (found : Found) (number : Nat) : Found where
  start := found.start
  stop := found.stop
  captures := (number, found.start, found.stop) :: found.captures.renumber number

/-- The group around the pattern takes what the match takes. -/
theorem Found.span?_within_self (found : Found) {number : Nat} (positive : 0 < number) :
    (found.within number).span? number = some (found.start, found.stop) := by
  have apart : (number == 0) = false := beq_eq_false_iff_ne.mpr (by omega)
  simp [span?, apart, within, Captures.span?]

/-- The pattern's own groups are found behind the group around it. -/
theorem Found.span?_within_own (found : Found) {number group : Nat} (positive : 0 < group) :
    (found.within number).span? (number + group) = found.span? group := by
  have apart : (number + group == 0) = false := beq_eq_false_iff_ne.mpr (by omega)
  have noGroup : (group == 0) = false := beq_eq_false_iff_ne.mpr (by omega)
  have behind : (number + group == number) = false := beq_eq_false_iff_ne.mpr (by omega)
  rw [span?, span?, apart, noGroup]
  change ((number, _) :: found.captures.renumber number).lookup (number + group) = _
  rw [List.lookup_cons, behind]
  exact Captures.span?_renumber number found.captures group

/-- No other group took part. -/
theorem Found.span?_within_before (found : Found) {number group : Nat} (positive : 0 < group)
    (before : group < number) : (found.within number).span? group = none := by
  have apart : (group == 0) = false := beq_eq_false_iff_ne.mpr (by omega)
  have differs : (group == number) = false := beq_eq_false_iff_ne.mpr (by omega)
  rw [span?, apart]
  change ((number, _) :: found.captures.renumber number).lookup group = _
  rw [List.lookup_cons, differs]
  exact Captures.span?_renumber_of_lt before found.captures

end Regex

namespace TokenRule

/-- A tree matches where the own pattern of a numbered rule does, in the group of the rule. -/
def MatchesAs (entry : TokenRule × Nat) (node : Node) : Prop :=
  ∀ subject position, (node.run subject ⟨position, []⟩ some).map
      (fun reached => Found.mk position reached.position reached.captures) =
    (entry.1.pattern.matchAt subject position).map (·.within entry.2)

/-- A group matches as the rule if what is in it does what the rule's tree does, with raised group
numbers. -/
theorem matchesAs_group {rule : TokenRule} {number : Nat} {body : Node} {numbers : Nat → Prop}
    (renumbers : ∀ subject,
      Step.Renumbers numbers number (rule.pattern.node.run subject) (body.run subject)) :
    MatchesAs (rule, number) (.group number body) := by
  intro subject position
  have raised := (renumbers subject).runs ⟨position, []⟩ some
    (fun reached => some { reached with
      captures := (number, position, reached.position) :: reached.captures })
    (fun reached => { reached with
      captures := (number, position, reached.position) :: reached.captures.renumber number })
    nofun (fun _ _ => rfl)
  change Option.map _ (body.run subject (Place.renumber number ⟨position, []⟩) _) = _
  rw [raised, Option.map_map]
  change _ = Option.map _ (Option.map _ (rule.pattern.node.run subject ⟨position, []⟩ some))
  rw [Option.map_map]
  rfl

/-- The branch of a rule matches as the rule. -/
theorem matchesAs_branch (entry : TokenRule × Nat) :
    MatchesAs entry (entry.1.branch entry.2) :=
  matchesAs_group fun subject => Node.run_renumber subject entry.2 entry.1.pattern.node

/-- The first numbered rule whose own pattern matches at an offset, with its match. -/
def matchNumbered? (rules : List TokenRule) (subject : Array Char) (position : Nat) :
    Option ((TokenRule × Nat) × Found) :=
  (numbered 1 rules).findSome? fun entry =>
    (entry.1.pattern.matchAt subject position).map (entry, ·)

/-- Numbers do not matter for which rule is taken. -/
theorem matchAt?_eq_map (rules : List TokenRule) (subject : Array Char) (position : Nat) :
    matchAt? rules subject position =
      (matchNumbered? rules subject position).map fun taken => (taken.1.1, taken.2) := by
  rw [matchNumbered?, List.map_findSome?]
  calc matchAt? rules subject position
      = ((numbered 1 rules).map Prod.fst).findSome? fun rule =>
          (rule.pattern.matchAt subject position).map (rule, ·) := by
        rw [numbered_fst]
        rfl
    _ = (numbered 1 rules).findSome? (Option.map (fun taken => (taken.1.1, taken.2)) ∘ fun entry =>
          (entry.1.pattern.matchAt subject position).map (entry, ·)) := by
        rw [List.findSome?_map]
        congr 1
        funext entry
        rw [Function.comp, Function.comp, Option.map_map]
        rfl

/-- An alternation matches where the first of some rules does that matches, in the group of that
rule. -/
def FindsFirst (rules : List TokenRule) (combined : Pattern) : Prop :=
  ∀ subject position, combined.matchAt subject position =
    (matchNumbered? rules subject position).map fun taken => taken.2.within taken.1.2

/-- Two lists give the same first result if their members do in order. -/
theorem findSome?_eq_of_forall₂ {α β γ : Type} {make : α → Option γ} {make' : β → Option γ}
    {members : List α} {members' : List β}
    (same : List.Forall₂ (fun member member' => make' member' = make member) members members') :
    members'.findSome? make' = members.findSome? make := by
  induction same with
  | nil => rfl
  | cons first _ inductionHypothesis =>
      rw [List.findSome?_cons, List.findSome?_cons, first, inductionHypothesis]

/-- A choice between trees that match as the rules finds the first of them. -/
theorem findsFirst_of_matches {rules : List TokenRule} {nodes : List Node} (nonempty : nodes ≠ [])
    (matching : List.Forall₂ MatchesAs (numbered 1 rules) nodes) {combined : Pattern}
    (node : combined.node = Node.choices nodes) : FindsFirst rules combined := by
  intro subject position
  rw [Pattern.matchAt, Pattern.matchAtWhere, node]
  change Option.map _ ((Node.choices nodes).run subject ⟨position, []⟩ some) = _
  rw [Node.run_choices nonempty, matchNumbered?, List.map_findSome?, List.map_findSome?]
  refine findSome?_eq_of_forall₂ (matching.imp fun entry node runs => ?_)
  rw [Function.comp, Function.comp, Option.map_map]
  exact runs subject position

/-- The choice between the branches of the rules finds the first of them. -/
theorem findsFirst_choice {rules : List TokenRule} (nonempty : rules ≠ []) {combined : Pattern}
    (node : combined.node = choice 1 rules) : FindsFirst rules combined := by
  refine findsFirst_of_matches ?_ ?_ node
  · obtain ⟨rule, others, rfl⟩ := List.exists_cons_of_ne_nil nonempty
    simp [numbered_cons]
  · exact List.forall₂_map_right_iff.mpr
      (List.forall₂_same.mpr fun entry _ => matchesAs_branch entry)

/-- The first numbered rule that matches at the smallest offset at which one does. -/
def searchNumbered? (rules : List TokenRule) (subject : Array Char) (position : Nat) :
    Option ((TokenRule × Nat) × Found) :=
  (List.range' position (subject.size + 1 - position)).findSome? (matchNumbered? rules subject)

/-- What is found is a match of one of the numbered rules. -/
theorem searchNumbered?_mem {rules : List TokenRule} {subject : Array Char} {position : Nat}
    {entry : TokenRule × Nat} {found : Found}
    (taken : searchNumbered? rules subject position = some (entry, found)) :
    entry ∈ numbered 1 rules := by
  obtain ⟨here, -, first⟩ := List.exists_of_findSome?_eq_some taken
  obtain ⟨other, member, own⟩ := List.exists_of_findSome?_eq_some first
  obtain ⟨_, -, pair⟩ := Option.map_eq_some_iff.mp own
  cases pair
  exact member

/-- The rules and the numbered rules are searched alike. -/
theorem search?_eq_map (rules : List TokenRule) (subject : Array Char) (position : Nat) :
    search? rules subject position =
      (searchNumbered? rules subject position).map fun taken => (taken.1.1, taken.2) := by
  rw [search?, searchNumbered?, List.map_findSome?]
  congr 1
  funext here
  exact matchAt?_eq_map rules subject here

end TokenRule

namespace Lexer

/-! ## The alternation of a lexer -/

section

variable {lexer : Lexer} {combined : Pattern}

/-- The alternation finds what the rules find, in the group of the rule that is taken. -/
theorem search_of_findsFirst (finds : TokenRule.FindsFirst lexer.rules combined)
    (subject : Array Char) (position : Nat) :
    combined.search subject position =
      (TokenRule.searchNumbered? lexer.rules subject position).map fun taken =>
        taken.2.within taken.1.2 := by
  rw [Pattern.search, Pattern.searchNext_eq_findSome?, TokenRule.searchNumbered?,
    List.map_findSome?]
  congr 1
  funext here
  exact finds subject here

/-- The rule whose group the match was found in is the one that fired. -/
theorem fired?_within (groups : combined.groups = TokenRule.groupTotal lexer.rules)
    {entry : TokenRule × Nat} (member : entry ∈ TokenRule.numbered 1 lexer.rules) (text : String)
    (found : Found) :
    lexer.fired? (Match.ofFound combined text (found.within entry.2)) = some entry := by
  obtain ⟨least, most⟩ := TokenRule.numbered_bounds member
  obtain ⟨before, after, split⟩ := List.append_of_mem member
  have rise := split ▸ TokenRule.numbered_rise 1 lexer.rules
  rw [fired?, List.find?_eq_some_iff_append]
  refine ⟨?_, before, after, split, fun earlier earlierMember => ?_⟩
  · rw [Match.group?_ofFound (by omega), found.span?_within_self (by omega)]
    rfl
  · have lower : earlier.2 < entry.2 := Nat.lt_of_le_of_lt (Nat.le_add_right _ _)
      ((List.pairwise_append.mp rise).2.2 _ earlierMember _ List.mem_cons_self)
    have positive : 0 < earlier.2 :=
      (TokenRule.numbered_bounds (split ▸ List.mem_append_left _ earlierMember)).1
    rw [Match.group?_ofFound (by omega), found.span?_within_before positive lower]
    rfl

/-- The token of a match in the group of a rule is that of the rule's own match. -/
theorem token_within (groups : combined.groups = TokenRule.groupTotal lexer.rules)
    {entry : TokenRule × Nat} (member : entry ∈ TokenRule.numbered 1 lexer.rules) (text : String)
    (found : Found) :
    token entry.1 entry.2 (Match.ofFound combined text (found.within entry.2)) =
      entry.1.ownToken text found := by
  obtain ⟨least, most⟩ := TokenRule.numbered_bounds member
  have behind : ((List.range (combined.groups + 1)).drop (entry.2 + 1)).take
      entry.1.pattern.groups =
      (List.range' 1 entry.1.pattern.groups).map (entry.2 + ·) := by
    rw [List.range_eq_range', List.drop_range', List.take_range'_of_length_ge (by omega),
      List.map_add_range']
    congr 1
    omega
  have own : List.range (entry.1.pattern.groups + 1) =
      0 :: List.range' 1 entry.1.pattern.groups := by
    rw [List.range_eq_range', List.range'_succ]
  have texts : ∀ group ∈ List.range' 1 entry.1.pattern.groups,
      ((found.within entry.2).span? (entry.2 + group)).map
          (fun span => Text.slice text span.1 span.2) =
        (found.span? group).map fun span => Text.slice text span.1 span.2 := by
    intro group inRange
    rw [List.mem_range'_1] at inRange
    rw [found.span?_within_own (by omega)]
  simp only [token, TokenRule.ownToken, Match.ofFound, ← List.map_drop, ← List.map_take, behind,
    own, List.map_cons, List.map_map, LexToken.mk.injEq]
  refine ⟨trivial, rfl, ?_, rfl, rfl⟩
  exact congrArg (_ :: ·) (List.map_congr_left fun group inRange =>
    congrArg (·.getD "") (texts group inRange))

/-! ## The scan -/

/-- The tokens of the matches of the alternation are those of the scanner. The fuel suffices, as
each match lets the search resume at a later offset. -/
theorem tokensFrom_of_findsFirst (finds : TokenRule.FindsFirst lexer.rules combined)
    (groups : combined.groups = TokenRule.groupTotal lexer.rules) (text : String)
    {fuel position : Nat} (enough : text.length + 2 ≤ fuel + position) (last : Nat) :
    lexer.tokensFrom text last
        ((combined.foundFrom text.toList.toArray fuel position).map
          (Match.ofFound combined text)) =
      TokenRule.scanFrom lexer.rules text last position := by
  have size : text.toList.toArray.size = text.length := by simp [String.length_toList]
  induction fuel generalizing position last with
  | zero =>
      have noTries : text.toList.toArray.size + 1 - position = 0 := by omega
      rw [TokenRule.scanFrom_of_none]
      · rfl
      · rw [TokenRule.search?, noTries]
        rfl
  | succ fuel inductionHypothesis =>
      have searched := search_of_findsFirst finds text.toList.toArray position
      have rulesSearched := TokenRule.search?_eq_map lexer.rules text.toList.toArray position
      rw [Pattern.foundFrom, searched]
      cases taken : TokenRule.searchNumbered? lexer.rules text.toList.toArray position with
      | none =>
          rw [taken] at rulesSearched
          rw [TokenRule.scanFrom_of_none rulesSearched]
          rfl
      | some pair =>
          obtain ⟨entry, found⟩ := pair
          rw [taken] at rulesSearched
          have member := TokenRule.searchNumbered?_mem taken
          have resumes : position < Pattern.resumeAfter found :=
            (TokenRule.search?_resumes rulesSearched).2
          have enoughBehind : text.length + 2 ≤ fuel + Pattern.resumeAfter found := by omega
          have further := inductionHypothesis enoughBehind found.stop
          rw [TokenRule.scanFrom_of_some rulesSearched, ← further]
          dsimp only [Option.map_some]
          rw [List.map_cons, tokensFrom, fired?_within groups member]
          dsimp only
          rw [token_within groups member]
          rfl

/-- The matches of the choice between the branches of the rules give the tokens of the scanner. -/
theorem tokensFrom_foundFrom (nonempty : lexer.rules ≠ [])
    (node : combined.node = TokenRule.choice 1 lexer.rules)
    (groups : combined.groups = TokenRule.groupTotal lexer.rules) (text : String)
    {fuel position : Nat} (enough : text.length + 2 ≤ fuel + position) (last : Nat) :
    lexer.tokensFrom text last
        ((combined.foundFrom text.toList.toArray fuel position).map
          (Match.ofFound combined text)) =
      TokenRule.scanFrom lexer.rules text last position :=
  tokensFrom_of_findsFirst (TokenRule.findsFirst_choice nonempty node) groups text enough last

end

/-- A lexer finds the tokens that its rules give one by one, if none of them asks for a group by
its number. -/
theorem scan_eq_orderedChoice {arguments : List TokenArgument} {lexer : Lexer}
    (created : create arguments = .ok lexer)
    (read : ∀ rule ∈ lexer.rules, rule.pattern.ReadByName) (text : String) :
    lexer.scan text = TokenRule.scan lexer.rules text := by
  rcases create_eq_ok created with ⟨noRules, missing⟩ | ⟨nonempty, combined, present, parsed⟩
  · have nothing : TokenRule.search? lexer.rules text.toList.toArray 0 = none := by
      rw [noRules, TokenRule.search?, List.findSome?_eq_none_iff]
      exact fun _ _ => rfl
    rw [scan, missing, TokenRule.scan, TokenRule.scanFrom_of_none nothing]
    rfl
  · obtain ⟨node, groups⟩ := node_of_readByName nonempty read parsed
    have size : text.toList.toArray.size = text.length := by simp [String.length_toList]
    have enough : text.length + 2 ≤ (text.toList.toArray.size + 2) + 0 := by omega
    rw [scan, present]
    exact tokensFrom_foundFrom nonempty node groups text enough 0

end Lexer

/-- The letter `c` several times, in a source with blanks and a comment. -/
def severalPattern : Pattern where
  source := "(c +) # several"
  flags := { verbose := true, unicode := true }
  groups := 1
  names := []
  node := .group 1 (.iterate .greedy 1 none (.one ⟨false, .exact, [.literal 99]⟩))

/-- Patterns with an inner alternation, with blanks and a comment that are not matched, and with
empty matches that are left out. -/
def letterDefinitions : List TokenArgument :=
  [.mapping (some (.str "letter")) (some (.value (.str "a|(b)"))) (.bool false),
    .ready ⟨.str "run", .compiled severalPattern, false⟩,
    .ready ⟨.str "blank", .value (.str " *"), true⟩]

/-- The lexer of those definitions. -/
def letterLexer : Lexer :=
  (Lexer.create letterDefinitions).toOption.getD default

/-- The groups of an alternative that took no part are empty, and the letter that no rule takes is
an error token although the blank rule matched before it. -/
theorem Lexer.scan_eq_orderedChoice_of_letters :
    Lexer.create letterDefinitions = .ok letterLexer ∧
      (∀ rule ∈ letterLexer.rules, rule.pattern.ReadByName) ∧
      (letterLexer.scan "xb cca").map (fun token => (token.kind, token.groups)) =
        [("ERROR", []), ("letter", ["b", "b"]), ("run", ["cc", "cc"]), ("letter", ["a", ""])] := by
  have created : Lexer.create letterDefinitions = .ok letterLexer :=
    create_of_accepted (by decide +kernel)
  have read : ∀ rule ∈ letterLexer.rules, rule.pattern.ReadByName := by
    have checked : letterLexer.rules.all
        (fun rule => rule.pattern.readsByName rule.pattern.flags) = true := by decide +kernel
    exact fun rule member => .of_readsByName (List.all_eq_true.mp checked rule member)
  refine ⟨created, read, ?_⟩
  rw [Lexer.scan_eq_orderedChoice created read]
  decide +kernel

end Structex
