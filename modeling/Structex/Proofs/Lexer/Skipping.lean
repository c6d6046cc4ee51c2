import Structex.Proofs.Lexer.Coverage

/-!
# Leaving tokens out

A definition may ask for its tokens to be left out. This only erases tokens: the matches are those
of the same alternation, a match that is left out ends the text before it as any other does, and
error tokens stand where they would. So the tokens of a lexer are those of the lexer that leaves
nothing out, without the tokens of the names that are left out.
-/

namespace Structex

/-! ## Definitions that leave nothing out -/

/-- The definition with its tokens kept. -/
def TokenDefinition.kept (definition : TokenDefinition) : TokenDefinition :=
  { definition with skip := false }

/-- The rule with its tokens kept. -/
def TokenRule.kept (rule : TokenRule) : TokenRule :=
  { rule with skip := false }

namespace TokenArgument

/-- What is given for a definition, with its tokens kept. -/
def kept : TokenArgument → TokenArgument
  | .ready definition => .ready definition.kept
  | .mapping name pattern _ => .mapping name pattern (.bool false)
  | .other shown => .other shown

/-- The name of a definition whose tokens are left out, or kept, as asked. -/
def nameMarked? (skip : Bool) (argument : TokenArgument) : Option String :=
  match argument.coerce with
  | .ok ⟨.str name, _, mark⟩ => if mark == skip then some name else none
  | _ => none

/-- The names of the definitions whose tokens are left out, or kept, as asked. -/
def namesMarked (skip : Bool) (arguments : List TokenArgument) : List String :=
  arguments.filterMap (nameMarked? skip)

variable {argument : TokenArgument} {rule : TokenRule}

theorem coerce_kept {definition : TokenDefinition} (coerced : argument.coerce = .ok definition) :
    argument.kept.coerce = .ok definition.kept := by
  cases argument with
  | ready given =>
      cases coerced
      rfl
  | mapping name pattern skip =>
      cases name with
      | none => cases coerced
      | some name =>
          cases pattern with
          | none => cases coerced
          | some pattern =>
              cases coerced
              rfl
  | other shown => cases coerced

/-- A definition of a rule has the name of the rule, under the mark of the rule. -/
theorem nameMarked?_of_ofArgument (made : TokenRule.ofArgument argument = .ok rule)
    (skip : Bool) :
    argument.nameMarked? skip = if rule.skip == skip then some rule.name else none := by
  obtain ⟨pattern, coerced, -⟩ := TokenRule.ofArgument_eq_ok.mp made
  rw [nameMarked?, coerced]

/-- A definition with its tokens kept gives the rule with its tokens kept. -/
theorem ofArgument_kept (made : TokenRule.ofArgument argument = .ok rule) :
    TokenRule.ofArgument argument.kept = .ok rule.kept := by
  obtain ⟨pattern, coerced, checked⟩ := TokenRule.ofArgument_eq_ok.mp made
  exact TokenRule.ofArgument_eq_ok.mpr ⟨pattern, coerce_kept coerced, checked⟩

end TokenArgument

/-- The alternation of rules does not depend on what they leave out. -/
theorem TokenRule.combinedSource_kept (rules : List TokenRule) :
    combinedSource (rules.map kept) = combinedSource rules := by
  rw [combinedSource, List.map_map]
  rfl

namespace Lexer

/-- The lexer of the same definitions that leaves nothing out. -/
theorem create_kept {arguments : List TokenArgument} {lexer : Lexer}
    (created : create arguments = .ok lexer) :
    create (arguments.map TokenArgument.kept) = .ok (lexer.mapRules TokenRule.kept) := by
  obtain ⟨rules, given, made⟩ := create_eq_ofRules created
  have givenKept : (arguments.map TokenArgument.kept).mapM TokenRule.ofArgument =
      .ok (rules.map TokenRule.kept) := by
    rw [mapM_eq_ok_iff, List.forall₂_map_left_iff, List.forall₂_map_right_iff]
    exact (mapM_eq_ok_iff.mp given).imp fun _ _ => TokenArgument.ofArgument_kept
  show (arguments.map TokenArgument.kept).mapM TokenRule.ofArgument >>= ofRules = _
  rw [givenKept]
  show ofRules (rules.map TokenRule.kept) = _
  obtain ⟨same, combined⟩ := lexer
  obtain ⟨rfl, ⟨rfl, rfl⟩ | ⟨nonempty, alternation, rfl, parsed⟩⟩ := ofRules_eq_ok made
  · rfl
  · have someRule : (same.map TokenRule.kept).isEmpty = false := by simpa using nonempty
    rw [ofRules, someRule, TokenRule.combinedSource_kept, parsed]
    rfl

/-- A rule leaves its tokens out exactly if its name is one of those that are left out. -/
theorem skip_iff_mem_names {arguments : List TokenArgument} {lexer : Lexer}
    (created : create arguments = .ok lexer)
    (apart : (TokenArgument.namesMarked true arguments).Disjoint
      (TokenArgument.namesMarked false arguments)) {rule : TokenRule}
    (member : rule ∈ lexer.rules) :
    rule.skip = true ↔ rule.name ∈ TokenArgument.namesMarked true arguments := by
  obtain ⟨argument, isArgument, made⟩ := exists_argument created member
  have named : rule.name ∈ TokenArgument.namesMarked rule.skip arguments := by
    refine List.mem_filterMap.mpr ⟨argument, isArgument, ?_⟩
    rw [TokenArgument.nameMarked?_of_ofArgument made, if_pos (beq_self_eq_true _)]
  cases skip : rule.skip with
  | true => exact iff_of_true rfl (skip ▸ named)
  | false => exact iff_of_false (by simp) fun left => apart left (skip ▸ named)

/-- The name of error tokens is none of those that are left out. -/
theorem error_not_mem_names {arguments : List TokenArgument} {lexer : Lexer}
    (created : create arguments = .ok lexer) :
    errorTokenName ∉ TokenArgument.namesMarked true arguments := by
  intro member
  obtain ⟨argument, isArgument, named⟩ := List.mem_filterMap.mp member
  obtain ⟨rules, given, -⟩ := create_eq_ofRules created
  obtain ⟨rule, -, made⟩ := exists_of_forall₂ (mapM_eq_ok_iff.mp given).flip isArgument
  rw [TokenArgument.nameMarked?_of_ofArgument made, Option.ite_none_right_eq_some] at named
  obtain ⟨pattern, -, checked⟩ := TokenRule.ofArgument_eq_ok.mp made
  exact (Check.token_eq_ok checked).1 (Option.some_inj.mp named.2)

/-- The tokens of matches are those that are made of them if nothing is left out, without those of
the names that are left out. -/
theorem tokensFrom_eq_filter_kept {lexer : Lexer} {names : List String}
    (free : errorTokenName ∉ names)
    (marked : ∀ rule ∈ lexer.rules, rule.skip = true ↔ rule.name ∈ names) (text : String)
    (last : Nat) (matched : List Match) :
    lexer.tokensFrom text last matched =
      ((lexer.mapRules TokenRule.kept).tokensFrom text last matched).filter
        (fun token => token.kind ∉ names) := by
  -- Error tokens stay, whether they stand before a match or at the end.
  have gap : ∀ start stop,
      (if start < stop then [LexToken.error text start stop] else []).filter
        (fun token => token.kind ∉ names) =
          if start < stop then [LexToken.error text start stop] else [] := by
    intro start stop
    split
    · exact List.filter_eq_self.mpr (by simpa [LexToken.error] using free)
    · rfl
  induction matched generalizing last with
  | nil => exact (gap last text.length).symm
  | cons found rest inductionHypothesis =>
      rw [tokensFrom, tokensFrom, fired?_mapRules TokenRule.kept fun _ => rfl]
      cases fired : lexer.fired? found with
      | none => exact inductionHypothesis last
      | some entry =>
          obtain ⟨rule, offset⟩ := entry
          have member : rule ∈ lexer.rules := (List.of_mem_zip (List.mem_of_find?_eq_some fired)).1
          have own : (if rule.skip then [] else [token rule offset found]) =
              [token rule offset found].filter (fun token => token.kind ∉ names) := by
            cases skip : rule.skip with
            | true => simp [token, (marked rule member).mp skip]
            | false =>
                have stays : rule.name ∉ names := fun left => by
                  simp [(marked rule member).mpr left] at skip
                simp [token, stays]
          show _ ++ _ ++ lexer.tokensFrom text found.stop rest = List.filter _ (_ ++ [_] ++ _)
          rw [List.filter_append, List.filter_append, gap, own, inductionHypothesis]
          rfl

/-- If no name is both left out and kept, the tokens of a lexer are those of the lexer of the same
definitions that leaves nothing out, without just those of the names that are left out. Error tokens
are none of these. -/
theorem scan_eq_filter_kept {arguments : List TokenArgument} {lexer : Lexer}
    (created : create arguments = .ok lexer)
    (apart : (TokenArgument.namesMarked true arguments).Disjoint
      (TokenArgument.namesMarked false arguments)) :
    errorTokenName ∉ TokenArgument.namesMarked true arguments ∧
      ∃ full, create (arguments.map TokenArgument.kept) = .ok full ∧
        ∀ text, lexer.scan text = (full.scan text).filter
          (fun token => token.kind ∉ TokenArgument.namesMarked true arguments) := by
  have free := error_not_mem_names created
  have marked := fun (rule : TokenRule) (member : rule ∈ lexer.rules) =>
    skip_iff_mem_names created apart member
  refine ⟨free, lexer.mapRules TokenRule.kept, create_kept created, fun text => ?_⟩
  rw [scan_eq_tokensFrom, scan_eq_tokensFrom]
  exact tokensFrom_eq_filter_kept free marked text 0 (lexer.matchesIn text)

end Lexer

/-- Letters, and two kinds of gap that are left out under one name, one of which can be empty. -/
def gapDefinitions : List TokenArgument :=
  [.mapping (some (.str "word")) (some (.value (.str "[a-z]+"))) .null,
    .ready ⟨.str "gap", .value (.str "#"), true⟩,
    .mapping (some (.str "gap")) (some (.value (.str " *"))) (.int 1)]

/-- The lexer of those definitions. -/
def gapLexer : Lexer :=
  (Lexer.create gapDefinitions).toOption.getD default

/-- Empty gaps cut what no definition takes into two error tokens, whether they are left out or
not. -/
theorem Lexer.scan_eq_filter_kept_of_gaps :
    Lexer.create gapDefinitions = .ok gapLexer ∧
      (TokenArgument.namesMarked true gapDefinitions).Disjoint
        (TokenArgument.namesMarked false gapDefinitions) ∧
      errorTokenName ∉ TokenArgument.namesMarked true gapDefinitions ∧
      (∃ full, Lexer.create (gapDefinitions.map TokenArgument.kept) = .ok full ∧
        ∀ text, gapLexer.scan text = (full.scan text).filter
          (fun token => token.kind ∉ TokenArgument.namesMarked true gapDefinitions)) ∧
      (gapLexer.scan "ab12 c#").map (fun token => (token.kind, token.value)) =
        [("word", "ab"), ("ERROR", "1"), ("ERROR", "2"), ("word", "c")] ∧
      ((gapLexer.mapRules TokenRule.kept).scan "ab12 c#").map
          (fun token => (token.kind, token.value)) =
        [("word", "ab"), ("gap", ""), ("ERROR", "1"), ("gap", ""), ("ERROR", "2"), ("gap", " "),
          ("word", "c"), ("gap", "#"), ("gap", "")] := by
  have created : Lexer.create gapDefinitions = .ok gapLexer :=
    create_of_accepted (by decide +kernel)
  have apart : (TokenArgument.namesMarked true gapDefinitions).Disjoint
      (TokenArgument.namesMarked false gapDefinitions) := by
    rw [List.disjoint_left]
    decide
  obtain ⟨free, full⟩ := Lexer.scan_eq_filter_kept created apart
  exact ⟨created, apart, free, full, by decide +kernel, by decide +kernel⟩

end Structex
