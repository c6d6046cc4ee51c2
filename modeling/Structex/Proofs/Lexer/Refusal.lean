import Structex.Proofs.Lexer.Definitions
import Structex.Proofs.Regex.Faults

/-!
# Why definitions make no lexer

Whatever refuses a list of definitions is one fault of the lexer, unless the pattern of a definition
has something too large in it. The alternation of patterns adds nothing of that kind: where each
pattern can be read alone, the alternation is refused only for breaking the grammar.
-/

namespace Structex

open Regex Regex.Reader

/-- A source that is checked has been read, or it breaks the grammar, or it cannot be read for what
is written in it. -/
inductive Check.Verdict (source : String) : Except Refusal Pattern → Prop where
  | read {pattern : Pattern} (parsed : Pattern.parse source {} = .ok pattern) :
      Verdict source (.ok pattern)
  | broken {cause : Cause} {position : Option Nat}
      (parsed : Pattern.parse source {} = .error (.malformed cause position source.toList)) :
      Verdict source
        (.error (.invalid (.patternSource source (.malformed cause position source.toList))))
  | unreadable {fault : Fault} (parsed : Pattern.parse source {} = .error fault)
      (beyond : ¬ fault.IsMalformed) (written : fault.WrittenIn source.toList) :
      Verdict source (.error (.unreadable fault))

/-- A source that is short enough is checked by reading it. -/
theorem Check.verdict_of_short {source : String} (short : source.length ≤ limits.pattern) :
    Check.Verdict source (Check.pattern (.value (.str source)) {}) := by
  rw [Check.pattern, if_neg (Nat.not_lt.mpr short)]
  cases parsed : Pattern.parse source {} with
  | ok pattern => exact .read parsed
  | error fault =>
      have written := Fault.writtenIn_of_parse parsed
      cases fault with
      | malformed cause position text =>
          obtain rfl : text = source.toList := written
          exact .broken parsed
      | numberTooLarge => exact .unreadable parsed id written
      | repertoireClash => exact .unreadable parsed id written

/-- The given pattern is a source that cannot be read for what is written in it. -/
def PatternArgument.Unreadable (fault : Fault) : PatternArgument → Prop
  | .value (.str source) =>
    Pattern.parse source {} = .error fault ∧ ¬ fault.IsMalformed ∧ fault.WrittenIn source.toList
  | _ => False

/-- The pattern of the definition that is given is such a source. -/
def TokenArgument.Unreadable (fault : Fault) (argument : TokenArgument) : Prop :=
  ∃ definition, argument.coerce = .ok definition ∧ definition.pattern.Unreadable fault

/-- Only such a source makes a check give up. -/
theorem Check.unreadable_of_pattern {argument : PatternArgument} {fault : Fault}
    (checked : Check.pattern argument {} = .error (.unreadable fault)) :
    argument.Unreadable fault := by
  cases argument with
  | compiled ready => cases checked
  | value given =>
      cases given with
      | str source =>
          by_cases short : source.length ≤ limits.pattern
          · have verdict := Check.verdict_of_short short
            rw [checked] at verdict
            cases verdict with
            | unreadable parsed beyond written => exact ⟨parsed, beyond, written⟩
          · rw [Check.pattern, if_pos (Nat.lt_of_not_le short)] at checked
            cases checked
      | _ => cases checked

theorem Check.invalid_of_name {name : Value} {kind : String} {most : Int} {refusal : Refusal}
    (refused : Check.name name kind most = .error refusal) : ∃ cause, refusal = .invalid cause := by
  unfold Check.name at refused
  split at refused
  · split at refused
    · cases refused
      exact ⟨_, rfl⟩
    split at refused
    · cases refused
      exact ⟨_, rfl⟩
    · cases refused
  · cases refused
    exact ⟨_, rfl⟩

/-- Nothing is read to check the name of a token. -/
theorem Check.unreadable_of_token {name : Value} {argument : PatternArgument} {fault : Fault}
    (checked : Check.token name argument = .error (.unreadable fault)) :
    argument.Unreadable fault := by
  rcases bind_eq_error_iff.mp checked with named | ⟨_, -, checked⟩
  · obtain ⟨cause, same⟩ := Check.invalid_of_name named
    cases same
  split at checked
  · split at checked
    · cases checked
    · exact Check.unreadable_of_pattern checked
  · exact Check.unreadable_of_pattern checked

/-- Only such a source makes a definition unreadable. -/
theorem TokenRule.unreadable_of_ofArgument {argument : TokenArgument} {fault : Fault}
    (refused : ofArgument argument = .error (.unreadable fault)) : argument.Unreadable fault := by
  rcases bind_eq_error_iff.mp refused with coerced | ⟨definition, coerced, refused⟩
  · unfold TokenArgument.coerce at coerced
    split at coerced <;> cases coerced
  split at refused
  · split at refused
    · cases refused
    · cases refused
  · cases refused
  · rename_i checked
    cases refused
    exact ⟨definition, coerced, Check.unreadable_of_token checked⟩

namespace Lexer

/-- The alternation of rules is refused only for breaking the grammar. -/
theorem isMalformed_of_combinedSource {rules : List TokenRule} (nonempty : rules ≠ [])
    (read : ∀ rule ∈ rules, rule.pattern.Read) {fault : Fault}
    (refused : Pattern.parse (TokenRule.combinedSource rules) {} = .error fault) :
    fault.IsMalformed := by
  have ran := Pattern.run_of_parse_eq_error refused
  rw [Reader.pattern] at ran
  rcases run_bind_eq_error.mp ran with escape | ⟨_, _, checked, ran⟩
  · exact checkEscape_declines _ _ escape
  obtain ⟨-, rfl⟩ := run_checkEscape_eq_ok.mp checked
  rw [run_bind_of_ok (globalFlags_combinedSource nonempty read _)] at ran
  rcases run_bind_eq_error.mp ran with failed | ⟨piece, ended, -, ran⟩
  · exact (run_combinedSource nonempty read).wrong failed
  rcases run_bind_eq_error.mp ran with failed | ⟨_, _, -, ran⟩
  · exact checkWhole_declines rfl _ _ _ failed
  · cases ran

/-- Definitions are refused by one that is, or together. -/
theorem create_eq_error {arguments : List TokenArgument} {fault : LexerFault}
    (refused : create arguments = .error fault) :
    (∃ argument ∈ arguments, TokenRule.ofArgument argument = .error fault) ∨
      ∃ rules, arguments.mapM TokenRule.ofArgument = .ok rules ∧ ofRules rules = .error fault := by
  rcases bind_eq_error_iff.mp refused with given | ⟨rules, given, made⟩
  · exact .inl (exists_of_mapM_eq_error given)
  · exact .inr ⟨rules, given, made⟩

/-- Only a definition with a source that cannot be read for what is written in it makes a lexer
unreadable. -/
theorem exists_unreadable {arguments : List TokenArgument}
    (isRead : ∀ argument ∈ arguments, argument.IsRead) {fault : Fault}
    (refused : create arguments = .error (.unreadable fault)) :
    ∃ argument ∈ arguments, argument.Unreadable fault := by
  rcases create_eq_error refused with ⟨argument, member, given⟩ | ⟨rules, given, made⟩
  · exact ⟨argument, member, TokenRule.unreadable_of_ofArgument given⟩
  unfold ofRules at made
  split at made
  · cases made
  rename_i some
  split at made
  · cases made
  · cases made
  · rename_i other notMalformed parsed
    cases made
    have read : ∀ rule ∈ rules, rule.pattern.Read := by
      intro rule member
      obtain ⟨argument, isArgument, same⟩ := exists_of_forall₂ (mapM_eq_ok_iff.mp given) member
      exact (TokenRule.read_of_ofArgument (isRead argument isArgument) same).2
    have nonempty : rules ≠ [] := fun none => some (List.isEmpty_iff.mpr none)
    have malformed := isMalformed_of_combinedSource nonempty read parsed
    cases fault with
    | malformed cause position text => exact (notMalformed cause position text rfl).elim
    | numberTooLarge => exact malformed.elim
    | repertoireClash => exact malformed.elim

end Lexer

end Structex
