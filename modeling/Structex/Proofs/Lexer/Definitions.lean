import Structex.Proofs.Lexer.Combined

/-!
# What definitions give

A definition that is accepted gives a rule with its name, its mark and its pattern. The name is
never that of error tokens, and a pattern that is given as a text was read from it. The rules of a
lexer are those of its definitions in order.
-/

namespace Structex

open Regex

/-- A pattern that is given ready was read from its source under some flags. -/
def PatternArgument.IsRead : PatternArgument → Prop
  | .compiled pattern | .value (.pattern pattern) =>
    ∃ flags, Pattern.parse pattern.source flags = .ok pattern
  | .value _ => True

/-- A pattern that is given ready for a token was read from its source. -/
def TokenArgument.IsRead : TokenArgument → Prop
  | .ready definition => definition.pattern.IsRead
  | .mapping _ pattern _ => ∀ given ∈ pattern, given.IsRead
  | .other _ => True

/-- A checked pattern was read from its source, whether it is given ready or as a text. -/
theorem Check.pattern_eq_ok {argument : PatternArgument} {flags : Flags} {pattern : Pattern}
    (isRead : argument.IsRead) (checked : Check.pattern argument flags = .ok pattern) :
    pattern.Read := by
  cases argument with
  | compiled ready =>
      cases checked
      obtain ⟨given, parsed⟩ := isRead
      exact Pattern.read_of_parse parsed
  | value given =>
      cases given with
      | str source =>
          rw [Check.pattern] at checked
          split at checked
          · cases checked
          · split at checked
            · rename_i parsed
              cases checked
              exact Pattern.read_of_parse parsed
            · cases checked
            · cases checked
      | pattern ready =>
          cases checked
          obtain ⟨given, parsed⟩ := isRead
          exact Pattern.read_of_parse parsed
      | _ => cases checked

/-- A token that is checked has another name than error tokens, and its pattern was checked. -/
theorem Check.token_eq_ok {name : String} {argument : PatternArgument} {pattern : Pattern}
    (checked : Check.token (.str name) argument = .ok pattern) :
    name ≠ errorTokenName ∧ Check.pattern argument {} = .ok pattern := by
  obtain ⟨_, -, checked⟩ := bind_eq_ok_iff.mp checked
  change (if name == errorTokenName then _ else Check.pattern argument {}) = _ at checked
  split at checked
  · cases checked
  · rename_i free
    exact ⟨by simpa using free, checked⟩

/-- The definition that is given has a pattern that was read. -/
theorem TokenArgument.IsRead.of_coerce {argument : TokenArgument} {definition : TokenDefinition}
    (isRead : argument.IsRead) (coerced : argument.coerce = .ok definition) :
    definition.pattern.IsRead := by
  cases argument with
  | ready given =>
      cases coerced
      exact isRead
  | mapping name pattern skip =>
      cases name with
      | none => cases coerced
      | some name =>
          cases pattern with
          | none => cases coerced
          | some pattern =>
              cases coerced
              exact isRead pattern rfl
  | other shown => cases coerced

/-- A rule has the name and the mark of its definition, and the pattern that was checked. -/
theorem TokenRule.ofArgument_eq_ok {argument : TokenArgument} {rule : TokenRule} :
    ofArgument argument = .ok rule ↔
      ∃ pattern, argument.coerce = .ok ⟨.str rule.name, pattern, rule.skip⟩ ∧
        Check.token (.str rule.name) pattern = .ok rule.pattern := by
  constructor
  · intro made
    obtain ⟨⟨name, pattern, skip⟩, coerced, made⟩ := bind_eq_ok_iff.mp made
    dsimp only at made
    split at made
    · rename_i ready checked
      cases name with
      | str text =>
          cases made
          exact ⟨pattern, coerced, checked⟩
      | _ => cases made
    · cases made
    · cases made
  · rintro ⟨pattern, coerced, checked⟩
    refine bind_eq_ok_iff.mpr ⟨_, coerced, ?_⟩
    dsimp only
    rw [checked]
    rfl

/-- A rule has another name than error tokens, and its pattern was read from its source. -/
theorem TokenRule.read_of_ofArgument {argument : TokenArgument} {rule : TokenRule}
    (isRead : argument.IsRead) (made : ofArgument argument = .ok rule) :
    rule.name ≠ errorTokenName ∧ rule.pattern.Read := by
  obtain ⟨pattern, coerced, checked⟩ := ofArgument_eq_ok.mp made
  obtain ⟨free, checked⟩ := Check.token_eq_ok checked
  exact ⟨free, Check.pattern_eq_ok (isRead.of_coerce coerced) checked⟩

namespace Lexer

/-- The rules of a lexer are those of the definitions. -/
theorem exists_argument {arguments : List TokenArgument} {lexer : Lexer}
    (created : create arguments = .ok lexer) {rule : TokenRule} (member : rule ∈ lexer.rules) :
    ∃ argument ∈ arguments, TokenRule.ofArgument argument = .ok rule := by
  obtain ⟨rules, given, made⟩ := create_eq_ofRules created
  obtain ⟨rfl, -⟩ := ofRules_eq_ok made
  exact exists_of_forall₂ (mapM_eq_ok_iff.mp given) member

/-- The same holds of the rules of a lexer. -/
theorem read_of_mem_rules {arguments : List TokenArgument} {lexer : Lexer}
    (created : create arguments = .ok lexer)
    (isRead : ∀ argument ∈ arguments, argument.IsRead) {rule : TokenRule}
    (member : rule ∈ lexer.rules) : rule.name ≠ errorTokenName ∧ rule.pattern.Read := by
  obtain ⟨argument, isArgument, made⟩ := exists_argument created member
  exact TokenRule.read_of_ofArgument (isRead argument isArgument) made

end Lexer

end Structex
