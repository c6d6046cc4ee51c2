import Structex.Proofs.Lexer.Combined

/-!
# Which definitions make a lexer

Definitions may each be valid and still not make a lexer together. Where no pattern asks for a group
by its number, this depends on two things alone: whether a pattern begins with flags for the whole
of it, which have no place inside the alternation, and whether two patterns have a group of the same
name.
-/

namespace Structex

open Regex Regex.Reader

/-! ## What is refused in a tree -/

/-- Whether a tree is refused does not depend on the numbers of its groups. -/
theorem Regex.Node.firstCause_renumber (plain : Bool) (shift : Nat) (node : Node) :
    (node.renumber shift).firstCause plain = node.firstCause plain := by
  induction node with
  | seq first second ofFirst ofSecond | choice first second ofFirst ofSecond =>
      simp only [renumber, firstCause, ofFirst, ofSecond]
  | condition index present absent ofPresent ofAbsent =>
      simp only [renumber, firstCause, ofPresent, ofAbsent]
  | iterate _ _ _ body ofBody | group _ body ofBody | look _ _ _ body ofBody | atomic body ofBody =>
      simp only [renumber, firstCause, ofBody]
  | empty | one set | reference index fold | assertion anchor => rfl

/-- A tree that is not refused where repetition is forbidden is not refused elsewhere. -/
theorem Regex.Node.firstCause_of_plain {plain : Bool} {node : Node}
    (sound : node.firstCause plain = none) : node.firstCause false = none := by
  cases plain with
  | false => exact sound
  | true =>
      induction node with
      | seq first second ofFirst ofSecond | choice first second ofFirst ofSecond =>
          obtain ⟨noneFirst, noneSecond⟩ := Option.or_eq_none_iff.mp sound
          exact Option.or_eq_none_iff.mpr ⟨ofFirst noneFirst, ofSecond noneSecond⟩
      | condition index present absent ofPresent ofAbsent =>
          obtain ⟨nonePresent, noneAbsent⟩ := Option.or_eq_none_iff.mp sound
          exact Option.or_eq_none_iff.mpr ⟨ofPresent nonePresent, ofAbsent noneAbsent⟩
      | iterate greed least most body ofBody => cases sound
      | group _ body ofBody | atomic body ofBody => exact ofBody sound
      | look ahead negated width body ofBody =>
          simp only [firstCause] at sound ⊢
          split_ifs at sound ⊢ <;> exact ofBody sound
      | empty | one set | reference index fold | assertion anchor => rfl

/-- A choice is not refused if none of its trees is. -/
theorem Regex.Node.firstCause_choices {plain : Bool} {nodes : List Node}
    (sound : ∀ node ∈ nodes, node.firstCause plain = none) :
    (choices nodes).firstCause plain = none := by
  induction nodes with
  | nil => rfl
  | cons node rest inductionHypothesis =>
      obtain ⟨first, others⟩ := List.forall_mem_cons.mp sound
      cases rest with
      | nil => exact first
      | cons second rest => exact Option.or_eq_none_iff.mpr ⟨first, inductionHypothesis others⟩

/-- Nothing is refused in the tree of a pattern that has been read. -/
theorem Regex.Pattern.Read.sound {pattern : Pattern} (read : pattern.Read) :
    pattern.node.firstCause false = none := by
  obtain ⟨given, own, ran⟩ := read
  obtain ⟨-, flags, start, piece, -, -, whole, made⟩ := run_pattern_eq_ok.mp ran
  obtain ⟨-, -, -, sound, -⟩ := run_checkWhole_eq_ok.mp whole
  rw [made]
  exact Node.firstCause_of_plain sound

namespace Lexer

/-! ## The alternation of rules -/

/-- Rules whose alternation is accepted begin with no flags and have no names in common. -/
theorem apart_of_parse {rules : List TokenRule} (nonempty : rules ≠ [])
    (read : ∀ rule ∈ rules, rule.pattern.Read) {combined : Pattern}
    (parsed : Pattern.parse (TokenRule.combinedSource rules) {} = .ok combined) :
    (∀ rule ∈ rules, rule.pattern.opensWithFlags = false) ∧
      rules.Pairwise TokenRule.NamesApart := by
  obtain ⟨piece, ended, branches, -⟩ := readBranches_of_parse nonempty read parsed
  exact ⟨branches.begins, branches.apart⟩

/-- The alternation of rules that combine is accepted. -/
theorem exists_parse_of_combine {rules : List TokenRule} (nonempty : rules ≠ [])
    (combine : TokenRule.Combine rules) :
    ∃ combined, Pattern.parse (TokenRule.combinedSource rules) {} = .ok combined := by
  have read : ∀ rule ∈ rules, rule.pattern.Read :=
    fun rule member => (combine.byName rule member).read
  have gives := run_combinedSource nonempty read
  obtain ⟨piece, ended, readAll⟩ := gives.answers combine
  have branches := gives.right readAll
  obtain ⟨nodes, node, stand⟩ := branches.branches
  have sound : piece.node.firstCause false = none := by
    have byName : ∀ entry ∈ TokenRule.numbered 1 rules, entry.1.pattern.ReadByName :=
      fun entry member => combine.byName entry.1 (List.of_mem_zip member).1
    rw [node, TokenRule.eq_map_branch stand byName]
    refine Node.firstCause_choices (List.forall_mem_map.mpr fun entry member => ?_)
    exact (Node.firstCause_renumber false entry.2 _).trans (byName entry member).read.sound
  have whole : (checkWhole {} piece.node).run ended = .ok ((), ended) := by
    refine run_checkWhole_eq_ok.mpr ⟨rfl, branches.rest, ?_, sound, rfl⟩
    rw [branches.conditions combine.byName]
    exact nofun
  have escapes : (TokenRule.combinedSource rules).toList ≠ ['\\'] := by
    obtain ⟨rule, others, rfl⟩ := List.exists_cons_of_ne_nil nonempty
    rw [TokenRule.toList_combinedSource]
    simp
  exact ⟨_, Pattern.parse_of_run (run_pattern_eq_ok.mpr
    ⟨escapes, _, _, _, globalFlags_combinedSource nonempty read _, readAll, whole, rfl⟩)⟩

/-! ## The lexer of definitions -/

/-- Valid definitions make the lexer of their rules. -/
theorem create_eq_ofRules_of_valid {arguments : List TokenArgument} {rules : List TokenRule}
    (valid : arguments.mapM TokenRule.ofArgument = .ok rules) :
    create arguments = ofRules rules := by
  rw [create, valid]
  rfl

/-- Definitions that ask for no group by its number make a lexer exactly if no pattern begins with
flags for the whole of it and no two patterns have a group of the same name. -/
theorem create_iff_apart {arguments : List TokenArgument} {rules : List TokenRule}
    (valid : arguments.mapM TokenRule.ofArgument = .ok rules)
    (byName : ∀ rule ∈ rules, rule.pattern.ReadByName) :
    (∃ lexer, create arguments = .ok lexer) ↔
      (∀ rule ∈ rules, rule.pattern.opensWithFlags = false) ∧
        rules.Pairwise TokenRule.NamesApart := by
  rw [create_eq_ofRules_of_valid valid]
  constructor
  · rintro ⟨lexer, made⟩
    obtain ⟨-, ⟨rfl, -⟩ | ⟨nonempty, combined, -, parsed⟩⟩ := ofRules_eq_ok made
    · exact ⟨nofun, .nil⟩
    · exact apart_of_parse nonempty (fun rule member => (byName rule member).read) parsed
  · rintro ⟨begins, apart⟩
    by_cases empty : rules = []
    · exact ⟨⟨rules, none⟩, by rw [ofRules, empty]; rfl⟩
    · obtain ⟨combined, parsed⟩ := exists_parse_of_combine empty ⟨byName, begins, apart⟩
      refine ⟨⟨rules, some combined⟩, ?_⟩
      rw [ofRules, if_neg (by simpa using empty), parsed]

end Lexer

/-- Text between two equal marks, and words in letters of any case. -/
def markDefinitions : List TokenArgument :=
  [.mapping (some (.str "marked")) (some (.value (.str "(?P<mark>[/%])[a-z]*(?P=mark)")))
      (.bool false),
    .mapping (some (.str "word")) (some (.value (.str "(?i:[a-z])+"))) (.bool false)]

/-- The rules of those definitions. -/
def markRules : List TokenRule :=
  (markDefinitions.mapM TokenRule.ofArgument).toOption.getD []

/-- A reference by name and flags for a part of a pattern do no harm. -/
theorem Lexer.create_iff_apart_of_marks :
    markDefinitions.mapM TokenRule.ofArgument = .ok markRules ∧
      (∀ rule ∈ markRules, rule.pattern.ReadByName) ∧
      ∃ lexer, Lexer.create markDefinitions = .ok lexer := by
  have valid : markDefinitions.mapM TokenRule.ofArgument = .ok markRules :=
    eq_ok_of_isSome (by decide +kernel) []
  have byName : ∀ rule ∈ markRules, rule.pattern.ReadByName := by
    have checked : markRules.all (fun rule => rule.pattern.readsByName {}) = true := by
      decide +kernel
    exact fun rule member => .of_readsByName (List.all_eq_true.mp checked rule member)
  exact ⟨valid, byName, (Lexer.create_iff_apart valid byName).mpr
    ⟨by decide +kernel, by decide +kernel⟩⟩

/-- A letter in any case, by flags for the whole pattern. -/
def foldedDefinitions : List TokenArgument :=
  [.mapping (some (.str "A")) (some (.value (.str "(?i)a"))) (.bool false)]

/-- A letter twice, by the number of a group. -/
def doubledDefinitions : List TokenArgument :=
  [.mapping (some (.str "A")) (some (.value (.str "(a)\\1"))) (.bool false)]

/-- Valid definitions are refused although no name is given twice: one that begins with flags, and
one that asks for its group by the number that the group around it has in the alternation. -/
theorem Lexer.create_refuses_valid :
    (∃ rules, foldedDefinitions.mapM TokenRule.ofArgument = .ok rules ∧
        rules.Pairwise TokenRule.NamesApart) ∧
      (∀ lexer, Lexer.create foldedDefinitions ≠ .ok lexer) ∧
      (∃ rules, doubledDefinitions.mapM TokenRule.ofArgument = .ok rules ∧
        rules.Pairwise TokenRule.NamesApart) ∧
      ∀ lexer, Lexer.create doubledDefinitions ≠ .ok lexer := by
  have refused : ∀ {arguments : List TokenArgument},
      (Lexer.create arguments).toOption.isSome = false →
        ∀ lexer, Lexer.create arguments ≠ .ok lexer := by
    intro arguments none lexer made
    rw [made] at none
    cases none
  exact ⟨⟨_, eq_ok_of_isSome (by decide +kernel) [], by decide +kernel⟩,
    refused (by decide +kernel),
    ⟨_, eq_ok_of_isSome (by decide +kernel) [], by decide +kernel⟩,
    refused (by decide +kernel)⟩

end Structex
