import Structex.Proofs.Lexer.Coverage
import Structex.Proofs.Lexer.OrderedChoice

/-!
# References by number in a lexer

The groups of a rule are counted on in the alternation, but a reference by number is read there as
it stands. So it means another group than in the rule's own pattern: the one whose number is lower
by the number of the group around the branch, and none if there is no such group. A lexer is the
ordered choice of its rules with their references displaced in this way. References by name keep
their meaning.
-/

namespace Structex

open Regex Regex.Reader

namespace Regex

/-! ## What a reference means -/

/-- The group that a reference means where the pattern stands in a group with a number, among the
pattern's own. A name keeps its group. A number means the group that has it in the whole, and is
zero, which no group has, if this is not one of the pattern. A tree does not tell whether a group
with a name is asked for by it or by its number, so for such a group both are left open. -/
def Pattern.Means (pattern : Pattern) (number group meant : Nat) : Prop :=
  (pattern.ReadByName ∨ group ∈ pattern.names.map Prod.snd) ∧ meant = group ∨
    ¬ pattern.ReadByName ∧ meant = group - number

/-- A group of the pattern is found in the whole under its raised number, and no group under the
number of one that never takes part in the branch. -/
def Raised (number meant group : Nat) : Prop :=
  group = number + meant ∨ meant = 0 ∧ group ≤ number

/-- What is asked for in the whole is what the reference means, under its raised number. -/
theorem Pattern.Asks.exists_means {pattern : Pattern} {number group group' : Nat}
    (asks : pattern.Asks number group group') :
    ∃ meant, pattern.Means number group meant ∧ Raised number meant group' := by
  rcases asks with ⟨named, rfl⟩ | ⟨noisy, rfl⟩
  · exact ⟨group, .inl ⟨named, rfl⟩, .inl rfl⟩
  · refine ⟨group' - number, .inr ⟨noisy, rfl⟩, ?_⟩
    by_cases own : group' ≤ number
    · exact .inr ⟨Nat.sub_eq_zero_of_le own, own⟩
    · exact .inl (by omega)

/-- What a group took is found under the number that is asked for in the whole. -/
theorem Captures.span?_of_raised {number meant group : Nat} (raised : Raised number meant group)
    {captures : Captures} (own : Place.Within (0 < ·) ⟨0, captures⟩) :
    (captures.renumber number).span? group = captures.span? meant := by
  rcases raised with rfl | ⟨rfl, before⟩
  · exact captures.span?_renumber number meant
  · have noSpan : captures.span? 0 = none :=
      List.lookup_eq_none_iff.mpr fun entry member =>
        bne_iff_ne.mpr (Nat.ne_of_lt (own entry member))
    have noSpanWhole : (captures.renumber number).span? group = none := by
      refine List.lookup_eq_none_iff.mpr (List.forall_mem_map.mpr fun entry member => ?_)
      have positive : 0 < entry.1 := own entry member
      exact bne_iff_ne.mpr (by omega)
    rw [noSpan, noSpanWhole]

/-- The groups of a pattern that has been read are numbered from one. -/
theorem Pattern.Read.groupNumbers_pos {pattern : Pattern} (read : pattern.Read) :
    ∀ number ∈ pattern.node.groupNumbers, 0 < number := by
  obtain ⟨given, own, ran⟩ := read
  obtain ⟨escapes, flags, start, piece, begun, readAll, -, made⟩ := run_pattern_eq_ok.mp ran
  have leads := globalFlags_advances _ _ _ _ _ escapes begun
  obtain ⟨-, within⟩ :=
    (alternation_sequence_numbers _).1 flags [] _ _ _ leads.escapes readAll
  intro number member
  rw [made] at member
  rcases within number member with none | new
  · cases none
  · omega

end Regex

namespace TokenRule

/-! ## Displaced rules -/

/-- A rule is a numbered rule with its references displaced: nothing but the tree has changed, and
in the tree nothing but what the references ask for, and how far a look-behind at a reference goes
back. -/
structure Displaced (entry : TokenRule × Nat) (displaced : TokenRule) : Prop where
  rule : displaced =
    { entry.1 with pattern := { entry.1.pattern with node := displaced.pattern.node } }
  node : Node.Alike id (entry.1.pattern.Means entry.2) entry.1.pattern.ReadByName
    entry.1.pattern.node displaced.pattern.node

/-- Where a tree stands for a rule, it matches as the displaced rule. -/
theorem Branches.exists_displaced {entry : TokenRule × Nat} {node : Node}
    (branches : Branches entry node) (read : entry.1.pattern.Read) :
    ∃ displaced, Displaced entry displaced ∧ MatchesAs (displaced, entry.2) node := by
  obtain ⟨body, rfl, alike⟩ := branches.group
  obtain ⟨meant, own, whole⟩ := alike.factor fun _ _ asks => asks.exists_means
  have positive : ∀ number ∈ meant.groupNumbers, 0 < number := by
    rw [own.groupNumbers, List.map_id]
    exact read.groupNumbers_pos
  have renumbers := fun subject => Node.run_alike subject whole positive
    fun _ _ captures raised within => Captures.span?_of_raised raised within
  exact ⟨{ entry.1 with pattern := { entry.1.pattern with node := meant } }, ⟨rfl, own⟩,
    matchesAs_group renumbers⟩

/-- The rules can be displaced so that the trees that stand for them match as the displaced ones. -/
theorem exists_displaced {rules : List TokenRule} (read : ∀ rule ∈ rules, rule.pattern.Read)
    {number : Nat} {nodes : List Node}
    (branches : List.Forall₂ Branches (numbered number rules) nodes) :
    ∃ displaced, List.Forall₂ Displaced (numbered number rules) displaced ∧
      List.Forall₂ MatchesAs (numbered number displaced) nodes := by
  induction rules generalizing number nodes with
  | nil =>
      cases branches
      exact ⟨[], .nil, .nil⟩
  | cons rule rest inductionHypothesis =>
      rw [numbered_cons] at branches
      obtain ⟨ofRule, ofRest⟩ := List.forall_mem_cons.mp read
      cases branches with
      | cons first others =>
          obtain ⟨displaced, isDisplaced, isMatched⟩ := first.exists_displaced ofRule
          obtain ⟨following, areDisplaced, areMatched⟩ := inductionHypothesis ofRest others
          have groups : displaced.pattern.groups = rule.pattern.groups := by
            rw [isDisplaced.rule]
          refine ⟨displaced :: following, .cons isDisplaced areDisplaced, ?_⟩
          rw [numbered_cons, groups]
          exact .cons isMatched areMatched

/-! ## Tokens without trees -/

/-- The rule but for its tree. -/
def withoutTree (rule : TokenRule) : TokenRule :=
  { rule with pattern := { rule.pattern with node := .empty } }

/-- Rules have as many groups without their trees. -/
theorem groupTotal_withoutTree (rules : List TokenRule) :
    groupTotal (rules.map withoutTree) = groupTotal rules := by
  induction rules with
  | nil => rfl
  | cons rule rest inductionHypothesis =>
      rw [List.map_cons, groupTotal, groupTotal, inductionHypothesis]
      rfl

/-- Displaced rules differ from the rules in their trees alone. -/
theorem map_withoutTree_of_displaced {entries : List (TokenRule × Nat)}
    {displaced : List TokenRule} (areDisplaced : List.Forall₂ Displaced entries displaced) :
    displaced.map withoutTree = (entries.map Prod.fst).map withoutTree := by
  induction areDisplaced with
  | nil => rfl
  | cons first _ inductionHypothesis =>
      rw [List.map_cons, List.map_cons, List.map_cons, inductionHypothesis, first.rule]
      rfl

/-- The scanner of no rules finds nothing. -/
theorem scan_nil (text : String) :
    scan [] text = if 0 < text.length then [LexToken.error text 0 text.length] else [] := by
  refine scanFrom_of_none ?_ 0
  rw [search?, List.findSome?_eq_none_iff]
  exact fun _ _ => rfl

end TokenRule

namespace Lexer

/-- The lexer but for the trees of its rules. -/
def withoutTrees (lexer : Lexer) : Lexer :=
  { lexer with rules := lexer.rules.map TokenRule.withoutTree }

/-- Which rule fired does not depend on the trees. -/
theorem fired?_withoutTrees (lexer : Lexer) (found : Match) :
    lexer.withoutTrees.fired? found =
      (lexer.fired? found).map (Prod.map TokenRule.withoutTree id) :=
  lexer.fired?_mapRules TokenRule.withoutTree (fun _ => rfl) found

/-- Tokens are made of matches without the trees. -/
theorem tokensFrom_withoutTrees (lexer : Lexer) (text : String) (last : Nat)
    (matched : List Match) :
    lexer.withoutTrees.tokensFrom text last matched = lexer.tokensFrom text last matched := by
  induction matched generalizing last with
  | nil => rfl
  | cons found rest inductionHypothesis =>
      rw [tokensFrom, tokensFrom, fired?_withoutTrees]
      cases lexer.fired? found with
      | none => exact inductionHypothesis last
      | some entry => exact congrArg (_ ++ ·) (inductionHypothesis found.stop)

/-! ## The scan -/

/-- A lexer finds the tokens that its rules give one by one, with their references displaced. -/
theorem scan_eq_displaced {arguments : List TokenArgument} {lexer : Lexer}
    (created : create arguments = .ok lexer)
    (isRead : ∀ argument ∈ arguments, argument.IsRead) :
    ∃ displaced,
      List.Forall₂ TokenRule.Displaced (TokenRule.numbered 1 lexer.rules) displaced ∧
        ∀ text, lexer.scan text = TokenRule.scan displaced text := by
  have read : ∀ rule ∈ lexer.rules, rule.pattern.Read :=
    fun rule member => (read_of_mem_rules created isRead member).2
  rcases create_eq_ok created with ⟨noRules, missing⟩ | ⟨nonempty, combined, present, parsed⟩
  · refine ⟨[], by rw [noRules]; exact .nil, fun text => ?_⟩
    rw [scan, missing, TokenRule.scan_nil]
    rfl
  · obtain ⟨groups, nodes, node, branches⟩ := parse_combinedSource nonempty read parsed
    obtain ⟨displaced, areDisplaced, matching⟩ := TokenRule.exists_displaced read branches
    refine ⟨displaced, areDisplaced, fun text => ?_⟩
    have sameRules : displaced.map TokenRule.withoutTree =
        lexer.rules.map TokenRule.withoutTree := by
      rw [TokenRule.map_withoutTree_of_displaced areDisplaced, TokenRule.numbered_fst]
    have sameTokens : (⟨displaced, some combined⟩ : Lexer).withoutTrees =
        lexer.withoutTrees := by
      rw [withoutTrees, withoutTrees, sameRules, present]
    have groupsDisplaced : combined.groups = TokenRule.groupTotal displaced := by
      rw [groups, ← TokenRule.groupTotal_withoutTree, ← sameRules,
        TokenRule.groupTotal_withoutTree]
    have someNode : nodes ≠ [] := by
      rintro rfl
      obtain ⟨rule, others, some⟩ := List.exists_cons_of_ne_nil nonempty
      rw [some, TokenRule.numbered_cons] at branches
      cases branches
    have finds := TokenRule.findsFirst_of_matches someNode matching node
    have size : text.toList.toArray.size = text.length := by simp [String.length_toList]
    have enough : text.length + 2 ≤ (text.toList.toArray.size + 2) + 0 := by omega
    rw [scan, present]
    calc lexer.tokensFrom text 0 (combined.findMatches text)
        = (⟨displaced, some combined⟩ : Lexer).tokensFrom text 0 (combined.findMatches text) := by
          rw [← tokensFrom_withoutTrees, ← sameTokens, tokensFrom_withoutTrees]
      _ = TokenRule.scan displaced text :=
          tokensFrom_of_findsFirst finds groupsDisplaced text enough 0

end Lexer

/-- A blank, and three letters with a fourth that is asked for by the number of the third group. -/
def fourthDefinitions : List TokenArgument :=
  [.mapping (some (.str "blank")) (some (.value (.str " "))) (.bool true),
    .mapping (some (.str "letters")) (some (.value (.str "(a)(b)(c)\\3"))) (.bool false)]

/-- The lexer of those definitions. -/
def fourthLexer : Lexer :=
  (Lexer.create fourthDefinitions).toOption.getD default

/-- The group of the blank and the group around the letters stand before the letters' own groups, so
that their first one is the third of all. -/
theorem Lexer.scan_eq_displaced_of_fourth :
    Lexer.create fourthDefinitions = .ok fourthLexer ∧
      (∀ argument ∈ fourthDefinitions, argument.IsRead) ∧
      (∃ displaced,
        List.Forall₂ TokenRule.Displaced (TokenRule.numbered 1 fourthLexer.rules) displaced ∧
          ∀ text, fourthLexer.scan text = TokenRule.scan displaced text) ∧
      (fourthLexer.scan "abcc abca").map (fun token => (token.kind, token.value)) =
        [("ERROR", "abcc"), ("letters", "abca")] := by
  have created : Lexer.create fourthDefinitions = .ok fourthLexer :=
    create_of_accepted (by decide +kernel)
  have isRead : ∀ argument ∈ fourthDefinitions, argument.IsRead := by
    intro argument member
    simp only [fourthDefinitions, List.mem_cons, List.not_mem_nil, or_false] at member
    rcases member with rfl | rfl <;>
      · rintro given same
        cases same
        trivial
  exact ⟨created, isRead, Lexer.scan_eq_displaced created isRead, by decide +kernel⟩

/-- A letter, and a letter twice that is asked for by the number of its group. -/
def pairDefinitions : List TokenArgument :=
  [.mapping (some (.str "P")) (some (.value (.str "x"))) (.bool false),
    .mapping (some (.str "Q")) (some (.value (.str "(b)\\1"))) (.bool false)]

/-- The lexer of those definitions. -/
def pairLexer : Lexer :=
  (Lexer.create pairDefinitions).toOption.getD default

/-- The rule for a letter twice takes the text alone, but not in the lexer: there its reference
means the group of the first rule. -/
theorem Lexer.scan_ne_orderedChoice_of_pair :
    Lexer.create pairDefinitions = .ok pairLexer ∧
      pairLexer.scan "bb" = [LexToken.error "bb" 0 2] ∧
      TokenRule.scan pairLexer.rules "bb" =
        [{ kind := "Q", value := "bb", groups := ["bb", "b"], start := 0, stop := 2 }] ∧
      pairLexer.scan "bb" ≠ TokenRule.scan pairLexer.rules "bb" :=
  ⟨create_of_accepted (by decide +kernel), by decide +kernel, by decide +kernel,
    by decide +kernel⟩

end Structex
