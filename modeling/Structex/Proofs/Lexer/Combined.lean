import Structex.Proofs.Lexer.Scoped
import Structex.Proofs.Result

/-!
# What the combined source is read as

The source of a lexer's alternation is put together from the sources of its rules. It is read as a
choice, with one branch for each rule: a group of its own around as many groups as the rule has,
numbered after it. If no rule asks for a group by its number, each branch has the tree of its rule;
otherwise numbers mean other groups in the whole, but the branches are where they were.
-/

namespace Structex

open Regex Regex.Reader

/-- The choice between trees, in order. -/
def Regex.Node.choices : List Node → Node
  | [] => .empty
  | [node] => node
  | node :: rest => .choice node (choices rest)

/-- A choice goes through its trees in order. -/
theorem Regex.Node.run_choices {nodes : List Node} (nonempty : nodes ≠ [])
    (subject : Array Char) (place : Place) (next : Place → Option Place) :
    (choices nodes).run subject place next = nodes.findSome? (·.run subject place next) := by
  induction nodes with
  | nil => contradiction
  | cons node rest inductionHypothesis =>
      cases rest with
      | nil =>
          rw [choices, List.findSome?_cons]
          cases node.run subject place next <;> rfl
      | cons second rest =>
          change (node.run subject place next).or ((choices (second :: rest)).run _ _ _) = _
          rw [inductionHypothesis (List.cons_ne_nil _ _), List.findSome?_cons (a := node)]
          cases node.run subject place next <;> rfl

namespace TokenRule

/-! ## The numbers of the branches -/

/-- The rules with the numbers of the groups around their branches, the first of them given. -/
def numbered (number : Nat) (rules : List TokenRule) : List (TokenRule × Nat) :=
  rules.zip (offsetsFrom number rules)

theorem numbered_cons (number : Nat) (rule : TokenRule) (rest : List TokenRule) :
    numbered number (rule :: rest) =
      (rule, number) :: numbered (number + 1 + rule.pattern.groups) rest :=
  rfl

theorem numbered_fst (number : Nat) (rules : List TokenRule) :
    (numbered number rules).map Prod.fst = rules := by
  induction rules generalizing number with
  | nil => rfl
  | cons rule rest inductionHypothesis =>
      rw [numbered_cons, List.map_cons, inductionHypothesis]

/-- The group of a rule and the groups in it are groups of the alternation. -/
theorem numbered_bounds {number : Nat} {rules : List TokenRule} {entry : TokenRule × Nat}
    (member : entry ∈ numbered number rules) :
    number ≤ entry.2 ∧ entry.2 + entry.1.pattern.groups < number + groupTotal rules := by
  induction rules generalizing number with
  | nil => cases member
  | cons rule rest inductionHypothesis =>
      have total : groupTotal (rule :: rest) = 1 + rule.pattern.groups + groupTotal rest := rfl
      rcases List.mem_cons.mp member with rfl | later
      · exact ⟨Nat.le_refl _, by dsimp only; omega⟩
      · obtain ⟨least, most⟩ := inductionHypothesis later
        omega

/-- The groups of a branch have lower numbers than the branches after it. -/
theorem numbered_rise (number : Nat) (rules : List TokenRule) :
    (numbered number rules).Pairwise fun earlier later =>
      earlier.2 + earlier.1.pattern.groups < later.2 := by
  induction rules generalizing number with
  | nil => exact List.Pairwise.nil
  | cons rule rest inductionHypothesis =>
      refine List.Pairwise.cons (fun entry later => ?_) (inductionHypothesis _)
      have least := (numbered_bounds later).1
      dsimp only
      omega

/-- A change that leaves the groups of rules alone leaves their numbers alone. -/
theorem numbered_map (change : TokenRule → TokenRule)
    (groups : ∀ rule, (change rule).pattern.groups = rule.pattern.groups) (number : Nat)
    (rules : List TokenRule) :
    numbered number (rules.map change) = (numbered number rules).map (Prod.map change id) := by
  induction rules generalizing number with
  | nil => rfl
  | cons rule rest inductionHypothesis =>
      rw [List.map_cons, numbered_cons, numbered_cons, List.map_cons, groups, inductionHypothesis]
      rfl

/-! ## Reading the rules -/

/-- The tree of a rule in a group of its own. -/
def branch (number : Nat) (rule : TokenRule) : Node :=
  .group number (rule.pattern.node.renumber number)

/-- The choice between the trees of rules, each in a group of its own, the first of them given. -/
def choice (number : Nat) (rules : List TokenRule) : Node :=
  Node.choices ((numbered number rules).map fun entry => entry.1.branch entry.2)

/-- A tree may stand for a numbered rule: it is a group with that number around a tree like the
rule's own, and has as many groups in it as the rule. -/
structure Branches (entry : TokenRule × Nat) (node : Node) : Prop where
  group : ∃ body, node = .group entry.2 body ∧
    Node.Alike (entry.2 + ·) (entry.1.pattern.Asks entry.2) entry.1.pattern.ReadByName
      entry.1.pattern.node body
  numbers : ∀ number ∈ node.groupNumbers,
    entry.2 ≤ number ∧ number ≤ entry.2 + entry.1.pattern.groups

/-- A tree that stands for a rule that asks for no group by its number is the rule's branch. -/
theorem Branches.eq_branch {entry : TokenRule × Nat} {node : Node} (branches : Branches entry node)
    (byName : entry.1.pattern.ReadByName) : node = entry.1.branch entry.2 := by
  obtain ⟨body, rfl, alike⟩ := branches.group
  rw [branch, alike.eq_renumber byName]
  rintro group group' (⟨-, same⟩ | ⟨noisy, -⟩)
  · exact same
  · exact absurd byName noisy

/-- Trees that stand for rules that ask for no group by its number are their branches. -/
theorem eq_map_branch {entries : List (TokenRule × Nat)} {nodes : List Node}
    (branches : List.Forall₂ Branches entries nodes)
    (byName : ∀ entry ∈ entries, entry.1.pattern.ReadByName) :
    nodes = entries.map fun entry => entry.1.branch entry.2 := by
  induction branches with
  | nil => rfl
  | cons first _ inductionHypothesis =>
      obtain ⟨ofFirst, ofRest⟩ := List.forall_mem_cons.mp byName
      rw [first.eq_branch ofFirst, inductionHypothesis ofRest, List.map_cons]

/-- No group name is in two patterns. -/
def NamesApart (first second : TokenRule) : Prop :=
  ∀ entry ∈ first.pattern.names, ∀ other ∈ second.pattern.names, entry.1 ≠ other.1

instance (first second : TokenRule) : Decidable (NamesApart first second) :=
  inferInstanceAs (Decidable (∀ entry ∈ first.pattern.names, ∀ other ∈ second.pattern.names,
    entry.1 ≠ other.1))

/-- What comes of reading the source of a rule. -/
structure ReadBranch (rule : TokenRule) (start : Reading) (after : List Char)
    (piece : Regex.Piece) (ended : Reading) : Prop where
  begins : rule.pattern.opensWithFlags = false
  apart : ∀ entry ∈ rule.pattern.names, start.names.lookup entry.1 = none
  rest : ended.rest = after
  groups : ended.widths.length = start.widths.length + 1 + rule.pattern.groups
  names : ∃ shift, ended.names =
    start.names ++ rule.pattern.names.map fun entry => (entry.1, shift + entry.2)
  branches : Branches (rule, start.widths.length + 1) piece.node
  conditions : rule.pattern.ReadByName → ended.conditions = start.conditions
  limit : ended.lookbehindLimit = start.lookbehindLimit

/-- A capturing group without a name is read as a group of the next number around its contents. -/
theorem run_groupPiece_capturing {scope : Flags} {place : Nat}
    {branches : Flags → Reader Regex.Piece} {parts : Reader Regex.Piece} {start : Reading}
    {sure : Prop} {right : Regex.Piece → Reading → Prop} {wrong : Fault → Prop}
    (gives : Gives sure right wrong
      ((closing place (branches scope)).run { start with widths := start.widths ++ [none] })) :
    Gives sure
      (fun given ended => ∃ body inner, right body inner ∧
        given = some { node := .group (start.widths.length + 1) body.node, width := body.width } ∧
        ended = { inner with widths := inner.widths.set start.widths.length (some body.width) })
      wrong ((groupPiece scope place branches parts (.capturing none)).run start) := by
  have opened : (groupPiece scope place branches parts (.capturing none)).run start =
      (do
        let body ← closing place (branches scope)
        closeGroup (start.widths.length + 1) body.width
        return some { node := .group (start.widths.length + 1) body.node, width := body.width } :
          Reader (Option Regex.Piece)).run { start with widths := start.widths ++ [none] } := rfl
  rw [opened]
  exact gives.bind id fun isRight => .of_ok rfl ⟨_, _, isRight, rfl, rfl⟩

/-- The source of a rule is read as its branch. -/
theorem run_sequence {rule : TokenRule} (read : rule.pattern.Read) {start : Reading}
    (settled : start.lookbehindLimit = none) {after : List Char}
    (rest : start.rest = '(' :: ((scopedSource rule.pattern).toList ++ ')' :: after))
    (ending : after = [] ∨ ∃ more, after = '|' :: more) {fuel : Nat}
    (enough : 2 * start.rest.length + 3 ≤ fuel) :
    Gives (rule.pattern.Fits start) (rule.ReadBranch start after) Fault.IsMalformed
      ((sequence fuel {} []).run start) := by
  have escapes : start.rest ≠ ['\\'] := by simp [rest]
  have numbered := (alternation_sequence_numbers fuel).2 {} [] [] (List.nil_subset _)
  have first : firstToken start.rest = some (.plain '(') :=
    rest ▸ firstToken_cons (by decide) _
  have afterOpen : (start.dropped 1).rest =
      (scopedSource rule.pattern).toList ++ ')' :: after := by
    rw [Reading.dropped, rest]
    rfl
  have escapesOpen : start.rest.drop 1 ≠ ['\\'] :=
    fun alone => append_close_escapes _ _ (afterOpen.symm.trans alone)
  have escapesAfter : after ≠ ['\\'] := by
    rcases ending with rfl | ⟨more, rfl⟩ <;> simp
  have capturing := run_opening_capturing (afterOpen ▸ read.scoped_noQuestion after)
  obtain ⟨fuel, rfl⟩ : ∃ less, fuel = less + 2 := ⟨fuel - 2, by omega⟩
  have size : (start.dropped 1).rest.length + 1 = start.rest.length := by
    rw [afterOpen, rest, List.length_cons]
  have enoughInside : 2 * (start.dropped 1).rest.length + 4 ≤ fuel + 1 := by omega
  let opened : Reading := { start.dropped 1 with widths := start.widths ++ [none] }
  have settledInside : opened.lookbehindLimit = none := settled
  have inside : Gives (rule.pattern.Fits start) (rule.pattern.ReadInside opened after)
      Fault.IsMalformed ((closing start.position (alternation (fuel + 1) {})).run opened) :=
    (read.scoped settledInside escapesAfter afterOpen enoughInside).mono
      (fun fits => ⟨fits.byName, fits.begins, fits.apart⟩) id
  have branch : Gives (rule.pattern.Fits start)
      (fun piece ended => ∃ body inner, rule.pattern.ReadInside opened after body inner ∧
        piece.node = .group (start.widths.length + 1) body.node ∧
        ended = { inner with widths := inner.widths.set start.widths.length (some body.width) })
      Fault.IsMalformed ((sequence (fuel + 2) {} []).run start) := by
    rw [sequence_of_open first escapesOpen, run_bind_of_ok capturing]
    refine (run_groupPiece_capturing inside).bind id fun {given grouped} known => ?_
    obtain ⟨body, inner, inside, rfl, rfl⟩ := known
    -- Behind the group its branch is over, so nothing is read that could be joined to it.
    exact .of_ok (sequence_of_ending (inside.rest.symm ▸ ending) fuel {} _)
      ⟨body, inner, inside, rfl, rfl⟩
  refine branch.strengthen fun {piece ended} ran known => ?_
  obtain ⟨body, inner, inside, same, rfl⟩ := known
  obtain ⟨leads, within⟩ := numbered _ _ _ escapes ran
  have total : (inner.widths.set start.widths.length (some body.width)).length =
      start.widths.length + 1 + rule.pattern.groups := by
    simp only [List.length_set, inside.groups, opened, List.length_append, List.length_cons,
      List.length_nil]
  have count : opened.widths.length = start.widths.length + 1 := List.length_append
  refine ⟨inside.begins, inside.apart, inside.rest, total, ⟨_, inside.names⟩,
    ⟨⟨body.node, same, count ▸ inside.node⟩, fun number member => ?_⟩, inside.conditions,
    leads.limit⟩
  rcases within number member with none | new
  · cases none
  · exact total ▸ new

/-- The combined source of rules, as characters. -/
theorem toList_combinedSource (rule : TokenRule) (rest : List TokenRule) :
    (combinedSource (rule :: rest)).toList =
      '(' :: ((scopedSource rule.pattern).toList ++ ')' ::
        (if rest.isEmpty then [] else '|' :: (combinedSource rest).toList)) := by
  cases rest with
  | nil => simp [combinedSource]
  | cons second rest => simp [combinedSource]

/-- Rules can be read one behind the other: none asks for a group by its number or begins with
flags for the whole pattern, and no two have a group of the same name. -/
structure Combine (rules : List TokenRule) : Prop where
  byName : ∀ rule ∈ rules, rule.pattern.ReadByName
  begins : ∀ rule ∈ rules, rule.pattern.opensWithFlags = false
  apart : rules.Pairwise NamesApart

theorem Combine.tail {rule : TokenRule} {rules : List TokenRule}
    (combine : Combine (rule :: rules)) : Combine rules where
  byName := (List.forall_mem_cons.mp combine.byName).2
  begins := (List.forall_mem_cons.mp combine.begins).2
  apart := (List.pairwise_cons.mp combine.apart).2

/-- No name of a group in the rules has been given before. -/
def FreeIn (rules : List TokenRule) (start : Reading) : Prop :=
  ∀ rule ∈ rules, ∀ entry ∈ rule.pattern.names, start.names.lookup entry.1 = none

/-- What comes of reading the source of an alternation of rules. -/
structure ReadBranches (rules : List TokenRule) (start : Reading) (piece : Regex.Piece)
    (ended : Reading) : Prop where
  begins : ∀ rule ∈ rules, rule.pattern.opensWithFlags = false
  free : FreeIn rules start
  apart : rules.Pairwise NamesApart
  rest : ended.rest = []
  groups : ended.widths.length = start.widths.length + groupTotal rules
  branches : ∃ nodes, piece.node = Node.choices nodes ∧
    List.Forall₂ Branches (numbered (start.widths.length + 1) rules) nodes
  conditions : (∀ rule ∈ rules, rule.pattern.ReadByName) → ended.conditions = start.conditions

/-- Behind a rule the names are free that were so before and that the rule does not have. -/
theorem ReadBranch.freeIn_iff {rule : TokenRule} {start ended : Reading} {after : List Char}
    {piece : Regex.Piece} (read : rule.ReadBranch start after piece ended)
    (rules : List TokenRule) :
    FreeIn rules ended ↔ FreeIn rules start ∧ ∀ other ∈ rules, NamesApart rule other := by
  obtain ⟨shift, names⟩ := read.names
  have free : ∀ name, ended.names.lookup name = none ↔
      start.names.lookup name = none ∧ ∀ entry ∈ rule.pattern.names, entry.1 ≠ name := by
    intro name
    rw [names, List.lookup_append, Option.or_eq_none_iff]
    refine and_congr_right fun _ => ?_
    rw [List.lookup_eq_none_iff]
    simp only [List.forall_mem_map, bne_iff_ne, ne_comm]
  constructor
  · intro freeAfter
    exact ⟨fun other member entry known => ((free _).mp (freeAfter other member entry known)).1,
      fun other member mine isMine entry known =>
        ((free _).mp (freeAfter other member entry known)).2 mine isMine⟩
  · rintro ⟨freeBefore, apart⟩ other member entry known
    exact (free _).mpr ⟨freeBefore other member entry known,
      fun mine isMine => apart other member mine isMine entry known⟩

/-- One rule makes an alternation by itself. -/
theorem ReadBranch.alone {rule : TokenRule} {start ended : Reading} {branch piece : Regex.Piece}
    (read : rule.ReadBranch start [] branch ended) (same : piece.node = branch.node) :
    ReadBranches [rule] start piece ended := by
  refine ⟨List.forall_mem_singleton.mpr read.begins, List.forall_mem_singleton.mpr read.apart,
    List.pairwise_singleton _ _, read.rest, ?_, ⟨[branch.node], same, .cons read.branches .nil⟩,
    fun byName => read.conditions (byName rule List.mem_cons_self)⟩
  rw [read.groups, groupTotal, groupTotal]
  omega

/-- A rule and an alternation after it make an alternation of both. -/
theorem ReadBranch.cons {rule : TokenRule} {others : List TokenRule} {start middle ended : Reading}
    {after : List Char} {branch tail piece : Regex.Piece} (nonempty : others ≠ [])
    (read : rule.ReadBranch start after branch middle)
    (readTail : ReadBranches others (middle.dropped 1) tail ended)
    (choice : piece.node = .choice branch.node tail.node) :
    ReadBranches (rule :: others) start piece ended := by
  -- The branches that follow are numbered from where the groups of this one end.
  have widthsMiddle : (middle.dropped 1).widths.length =
      start.widths.length + 1 + rule.pattern.groups := read.groups
  obtain ⟨freeTail, apart⟩ := (read.freeIn_iff others).mp readTail.free
  obtain ⟨nodes, nodeTail, branches⟩ := readTail.branches
  have groups := readTail.groups
  rw [widthsMiddle] at groups branches
  refine ⟨List.forall_mem_cons.mpr ⟨read.begins, readTail.begins⟩,
    List.forall_mem_cons.mpr ⟨read.apart, freeTail⟩, .cons apart readTail.apart, readTail.rest, ?_,
    ⟨branch.node :: nodes, ?_, ?_⟩, fun byName => ?_⟩
  · rw [groups]
    simp only [groupTotal]
    omega
  · obtain ⟨second, more, rfl⟩ := List.exists_cons_of_ne_nil nonempty
    cases branches with
    | cons _ _ => exact choice.trans (congrArg (Node.choice branch.node) nodeTail)
  · have following : start.widths.length + 1 + rule.pattern.groups + 1 =
        start.widths.length + 1 + 1 + rule.pattern.groups := by omega
    rw [numbered_cons]
    exact .cons read.branches (following ▸ branches)
  · obtain ⟨ofRule, ofOthers⟩ := List.forall_mem_cons.mp byName
    exact (readTail.conditions ofOthers).trans (read.conditions ofRule)

/-- The combined source of rules is read as a choice with a branch for each rule. -/
theorem run_alternation {rules : List TokenRule} (nonempty : rules ≠ [])
    (read : ∀ rule ∈ rules, rule.pattern.Read) {start : Reading}
    (settled : start.lookbehindLimit = none) (rest : start.rest = (combinedSource rules).toList)
    {fuel : Nat} (enough : 2 * start.rest.length + 4 ≤ fuel) :
    Gives (Combine rules ∧ FreeIn rules start) (ReadBranches rules start) Fault.IsMalformed
      ((alternation fuel {}).run start) := by
  induction rules generalizing start fuel with
  | nil => contradiction
  | cons rule others inductionHypothesis =>
      obtain ⟨fuel, rfl⟩ : ∃ less, fuel = less + 1 := ⟨fuel - 1, by omega⟩
      rw [toList_combinedSource] at rest
      rw [alternation]
      have readRule := read rule List.mem_cons_self
      have fits : Combine (rule :: others) ∧ FreeIn (rule :: others) start →
          rule.pattern.Fits start :=
        fun known => ⟨known.1.byName rule List.mem_cons_self,
          known.1.begins rule List.mem_cons_self, known.2 rule List.mem_cons_self⟩
      cases others with
      | nil =>
          refine (run_sequence readRule settled rest (.inl rfl) (by omega)).bind fits
            fun {branch middle} readBranch => ?_
          rw [run_bind_of_ok (run_accept_of_ne (by rw [readBranch.rest]; decide))]
          exact .of_ok rfl (readBranch.alone rfl)
      | cons second others =>
          refine (run_sequence readRule settled rest (.inr ⟨_, rfl⟩) (by omega)).bind fits
            fun {branch middle} readBranch => ?_
          have more := readBranch.rest
          have barNext : firstToken middle.rest = some (.plain '|') :=
            more ▸ firstToken_cons (by decide) _
          have restTail : (middle.dropped 1).rest = (combinedSource (second :: others)).toList := by
            rw [Reading.dropped, more]
            rfl
          have escapesTail : (middle.dropped 1).rest ≠ ['\\'] := by
            rw [restTail, toList_combinedSource]
            simp
          rw [run_accept_bind barNext, run_bind_of_ok (run_drop escapesTail)]
          have size : (middle.dropped 1).rest.length + 1 ≤ start.rest.length := by
            rw [restTail, rest]
            simp only [List.isEmpty_cons, Bool.false_eq_true, reduceIte, List.length_cons,
              List.length_append]
            omega
          have settledTail : (middle.dropped 1).lookbehindLimit = none :=
            readBranch.limit.trans settled
          have enoughTail : 2 * (middle.dropped 1).rest.length + 4 ≤ fuel := by omega
          have free := readBranch.freeIn_iff (second :: others)
          refine (inductionHypothesis (List.cons_ne_nil _ _)
            (fun other member => read other (List.mem_cons_of_mem _ member)) settledTail restTail
            enoughTail).bind (fun known => ⟨known.1.tail, free.mpr
              ⟨fun other member => known.2 other (List.mem_cons_of_mem _ member),
                (List.pairwise_cons.mp known.1.apart).1⟩⟩) fun {tail ended} readTail => ?_
          exact .of_ok rfl (readBranch.cons (List.cons_ne_nil _ _) readTail rfl)

end TokenRule

/-- A source that begins with a capturing group gives no flags of its own. -/
theorem Regex.Reader.globalFlags_of_capturing {start : Reading}
    (first : firstToken start.rest = some (.plain '(')) (escapes : (start.dropped 1).rest ≠ ['\\'])
    (noQuestion : firstToken (start.dropped 1).rest ≠ some (.plain '?')) (fuel : Nat) :
    (globalFlags (fuel + 1) {}).run start = .ok ({}, start) := by
  have got : (get : Reader Reading).run start = .ok (start, start) := rfl
  have led : (leadingFlags {} (start.rest.length + 1)).run start =
      .ok (none, start.dropped 1) := by
    rw [leadingFlags, run_bind_of_ok (run_offset start), run_bind_of_ok (run_peek start), first]
    dsimp only
    rw [if_neg (by decide), if_neg (by decide), if_pos (by decide),
      run_bind_of_ok (run_drop escapes), run_bind_of_ok (run_opening_capturing noQuestion)]
    rfl
  rw [globalFlags, run_bind_of_ok got, run_bind_of_ok (run_left start), run_bind_of_ok led]
  rfl

namespace Lexer

/-- Definitions that are accepted have a lexer. -/
theorem create_of_accepted {arguments : List TokenArgument}
    (accepted : (create arguments).toOption.isSome = true) :
    create arguments = .ok ((create arguments).toOption.getD default) :=
  eq_ok_of_isSome accepted default

/-- A lexer of definitions is the lexer of the rules that they give. -/
theorem create_eq_ofRules {arguments : List TokenArgument} {lexer : Lexer}
    (created : create arguments = .ok lexer) :
    ∃ rules, arguments.mapM TokenRule.ofArgument = .ok rules ∧ ofRules rules = .ok lexer :=
  bind_eq_ok_iff.mp created

/-- A lexer of rules has no alternation only if there are none; else the alternation is read from
the combined source. -/
theorem ofRules_eq_ok {rules : List TokenRule} {lexer : Lexer} (made : ofRules rules = .ok lexer) :
    lexer.rules = rules ∧ (rules = [] ∧ lexer.combined = none ∨ rules ≠ [] ∧ ∃ combined,
      lexer.combined = some combined ∧
        Pattern.parse (TokenRule.combinedSource rules) {} = .ok combined) := by
  unfold ofRules at made
  split at made
  · rename_i none
    cases made
    exact ⟨rfl, .inl ⟨List.isEmpty_iff.mp none, rfl⟩⟩
  · rename_i some
    split at made
    · rename_i combined parsed
      cases made
      exact ⟨rfl, .inr ⟨fun none => some (List.isEmpty_iff.mpr none), combined, rfl, parsed⟩⟩
    · cases made
    · cases made

/-- A lexer that has been made has no alternation only if it has no rules; else the alternation is
read from the combined source. -/
theorem create_eq_ok {arguments : List TokenArgument} {lexer : Lexer}
    (created : create arguments = .ok lexer) :
    lexer.rules = [] ∧ lexer.combined = none ∨ lexer.rules ≠ [] ∧ ∃ combined,
      lexer.combined = some combined ∧
        Pattern.parse (TokenRule.combinedSource lexer.rules) {} = .ok combined := by
  obtain ⟨rules, -, made⟩ := create_eq_ofRules created
  obtain ⟨rfl, alternation⟩ := ofRules_eq_ok made
  exact alternation

/-- The lexer with its rules changed. -/
def mapRules (lexer : Lexer) (change : TokenRule → TokenRule) : Lexer :=
  { lexer with rules := lexer.rules.map change }

/-- If its groups are left alone, the changed rule fires where the rule did. -/
theorem fired?_mapRules (change : TokenRule → TokenRule)
    (groups : ∀ rule, (change rule).pattern.groups = rule.pattern.groups) (lexer : Lexer)
    (found : Match) :
    (lexer.mapRules change).fired? found = (lexer.fired? found).map (Prod.map change id) := by
  change (TokenRule.numbered 1 (lexer.rules.map change)).find? _ =
    Option.map _ ((TokenRule.numbered 1 lexer.rules).find? _)
  rw [TokenRule.numbered_map change groups, List.find?_map]
  rfl

/-- The combined source of rules begins with a capturing group. -/
theorem globalFlags_combinedSource {rules : List TokenRule} (nonempty : rules ≠ [])
    (read : ∀ rule ∈ rules, rule.pattern.Read) (fuel : Nat) :
    (globalFlags (fuel + 1) {}).run (Reading.start (TokenRule.combinedSource rules)) =
      .ok ({}, Reading.start (TokenRule.combinedSource rules)) := by
  obtain ⟨rule, others, rfl⟩ := List.exists_cons_of_ne_nil nonempty
  have rest : (Reading.start (TokenRule.combinedSource (rule :: others))).rest = _ :=
    TokenRule.toList_combinedSource rule others
  have behind : ((Reading.start (TokenRule.combinedSource (rule :: others))).dropped 1).rest =
      (TokenRule.scopedSource rule.pattern).toList ++ ')' ::
        (if others.isEmpty then [] else '|' :: (TokenRule.combinedSource others).toList) := by
    rw [Reading.dropped, rest]
    rfl
  refine globalFlags_of_capturing (rest ▸ firstToken_cons (by decide) _) ?_ ?_ fuel
  · rw [behind]
    exact append_close_escapes _ _
  · rw [behind]
    exact (read rule List.mem_cons_self).scoped_noQuestion _

/-- The combined source of rules is read as their branches. -/
theorem run_combinedSource {rules : List TokenRule} (nonempty : rules ≠ [])
    (read : ∀ rule ∈ rules, rule.pattern.Read) :
    Gives (TokenRule.Combine rules)
      (TokenRule.ReadBranches rules (Reading.start (TokenRule.combinedSource rules)))
      Fault.IsMalformed ((alternation (2 * (TokenRule.combinedSource rules).length + 4) {}).run
        (Reading.start (TokenRule.combinedSource rules))) := by
  have size : (Reading.start (TokenRule.combinedSource rules)).rest.length =
      (TokenRule.combinedSource rules).length := by
    rw [Reading.start, String.length_toList]
  have enough : 2 * (Reading.start (TokenRule.combinedSource rules)).rest.length + 4 ≤
      2 * (TokenRule.combinedSource rules).length + 4 := by omega
  exact (TokenRule.run_alternation nonempty read rfl rfl enough).mono
    (fun combine => ⟨combine, fun _ _ _ _ => rfl⟩) id

/-- What the alternation of rules is made of. -/
theorem readBranches_of_parse {rules : List TokenRule} (nonempty : rules ≠ [])
    (read : ∀ rule ∈ rules, rule.pattern.Read) {combined : Pattern}
    (parsed : Pattern.parse (TokenRule.combinedSource rules) {} = .ok combined) :
    ∃ piece ended,
      TokenRule.ReadBranches rules (Reading.start (TokenRule.combinedSource rules)) piece ended ∧
        combined.node = piece.node ∧ combined.groups = ended.widths.length := by
  obtain ⟨ended, ran⟩ := Pattern.run_of_parse parsed
  obtain ⟨-, flags, start, piece, begun, readAll, -, made⟩ := run_pattern_eq_ok.mp ran
  cases (globalFlags_combinedSource nonempty read _).symm.trans begun
  exact ⟨piece, ended, (run_combinedSource nonempty read).right readAll, by rw [made],
    by rw [made]⟩

/-- The alternation of a lexer has a branch for each of its rules. -/
theorem parse_combinedSource {rules : List TokenRule} (nonempty : rules ≠ [])
    (read : ∀ rule ∈ rules, rule.pattern.Read) {combined : Pattern}
    (parsed : Pattern.parse (TokenRule.combinedSource rules) {} = .ok combined) :
    combined.groups = TokenRule.groupTotal rules ∧
      ∃ nodes, combined.node = Node.choices nodes ∧
        List.Forall₂ TokenRule.Branches (TokenRule.numbered 1 rules) nodes := by
  obtain ⟨piece, ended, branches, node, groups⟩ := readBranches_of_parse nonempty read parsed
  rw [node, groups, branches.groups]
  exact ⟨Nat.zero_add _, branches.branches⟩

/-- The alternation of rules that ask for no group by its number is the choice between their
trees. -/
theorem node_of_readByName {rules : List TokenRule} (nonempty : rules ≠ [])
    (read : ∀ rule ∈ rules, rule.pattern.ReadByName) {combined : Pattern}
    (parsed : Pattern.parse (TokenRule.combinedSource rules) {} = .ok combined) :
    combined.node = TokenRule.choice 1 rules ∧ combined.groups = TokenRule.groupTotal rules := by
  obtain ⟨groups, nodes, node, branches⟩ :=
    parse_combinedSource nonempty (fun rule member => (read rule member).read) parsed
  have byName : ∀ entry ∈ TokenRule.numbered 1 rules, entry.1.pattern.ReadByName :=
    fun entry member => read entry.1 (List.of_mem_zip member).1
  rw [node, TokenRule.eq_map_branch branches byName]
  exact ⟨rfl, groups⟩

end Lexer

end Structex
