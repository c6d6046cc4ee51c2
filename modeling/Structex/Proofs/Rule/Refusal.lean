import Structex.Proofs.Lexer.Refusal
import Structex.Proofs.Rule.History
import Structex.Proofs.Value.Overlay

/-!
# Sources in the patterns of a rule

A source in one of the pattern fields of a rule decides what comes of the rule, if nothing else in
it is wrong: it is read, it is refused under the name of the rule, or it cannot be read for what is
written in it. The checks of a definition go on in steps, and only the step of the field looks at
the source (`Check.definition_eq_optionalPattern`); a definition that passes them compiles.
-/

namespace Structex

open Regex Log

/-! ## The checks of a definition -/

namespace Check

variable {entries : Entries}

/-- The checks of a definition before its patterns. -/
def required (entries : Entries) : Except Refusal Unit := do
  let ruleName ← field entries "name"
  let watch ← field entries "watch"
  let emit ← field entries "emit"
  let emitPath ← field entries "emit_path"
  name ruleName "Rule" limits.ruleName
  glob watch
  match emit with
  | .str _ => pure ()
  | other => throw (.invalid (.emitKind other))
  match emitPath with
  | .str _ => pure ()
  | other => throw (.invalid (.emitPathKind other))

/-- The check of a definition behind its patterns. -/
def following (entries : Entries) : Except Refusal Unit :=
  match entries.get? "then" with
  | none | some .null => pure ()
  | some following => name following "Cascade target" limits.ruleName

/-- A definition is checked in these steps. -/
theorem definition_map (entries : Entries) :
    definition (.map entries) = (do
      required entries
      optionalPattern entries "x"
      optionalPattern entries "g"
      optionalPattern entries "v"
      following entries) := by
  simp only [definition, required, bind_assoc]
  refine bind_congr fun ruleName => bind_congr fun watch => bind_congr fun emit =>
    bind_congr fun emitPath => bind_congr fun _ => bind_congr fun _ => ?_
  cases emit <;> cases emitPath <;> rfl

/-- A definition that passes the checks passes each step. -/
theorem definition_eq_ok_iff :
    definition (.map entries) = .ok () ↔ required entries = .ok () ∧
      optionalPattern entries "x" = .ok () ∧ optionalPattern entries "g" = .ok () ∧
      optionalPattern entries "v" = .ok () ∧ following entries = .ok () := by
  simp [definition_map, bind_eq_ok_iff, Unique.exists_iff]

/-! ### What the checks look at

A check that looks up a field takes one that is missing for null. -/

variable {left right : Entries} {key : String}

theorem field_eq (entries : Entries) (key : String) : field entries key =
    if ((entries.get? key).getD .null).isNull then .error (.invalid (.fieldMissing key))
    else .ok ((entries.get? key).getD .null) := by
  unfold field
  cases entries.get? key with
  | none => rfl
  | some value => cases value <;> rfl

theorem optionalPattern_eq (entries : Entries) (key : String) : optionalPattern entries key =
    if ((entries.get? key).getD .null).isTruthy then do
      let _ ← pattern (.value ((entries.get? key).getD .null)) {}
      return ()
    else .ok () := by
  unfold optionalPattern
  cases entries.get? key with
  | none => rfl
  | some value => rfl

theorem following_eq (entries : Entries) : following entries =
    if ((entries.get? "then").getD .null).isNull then .ok ()
    else name ((entries.get? "then").getD .null) "Cascade target" limits.ruleName := by
  unfold following
  cases entries.get? "then" with
  | none => rfl
  | some value => cases value <;> rfl

theorem field_congr (same : (left.get? key).getD .null = (right.get? key).getD .null) :
    field left key = field right key := by
  rw [field_eq, same, ← field_eq]

theorem optionalPattern_congr (same : (left.get? key).getD .null = (right.get? key).getD .null) :
    optionalPattern left key = optionalPattern right key := by
  rw [optionalPattern_eq, same, ← optionalPattern_eq]

theorem following_congr
    (same : (left.get? "then").getD .null = (right.get? "then").getD .null) :
    following left = following right := by
  rw [following_eq, same, ← following_eq]

/-- The first checks look at the four fields that must be there. -/
theorem required_congr (same : ∀ key ∈ RuleDefinition.fieldNames.take 4,
    (left.get? key).getD .null = (right.get? key).getD .null) : required left = required right := by
  rw [required, required, field_congr (same "name" (by decide)),
    field_congr (same "watch" (by decide)), field_congr (same "emit" (by decide)),
    field_congr (same "emit_path" (by decide))]

/-- The fields of a rule that may hold a pattern. -/
def patternFields : List String := ["x", "g", "v"]

/-- If a definition is valid without what one of its pattern fields holds, only that is checked. -/
theorem definition_eq_optionalPattern {key : String} (isField : key ∈ patternFields)
    (otherwise : definition (.map (entries.put (.str key) .null)) = .ok ()) :
    definition (.map entries) = optionalPattern entries key := by
  have same (other : String) (differ : key ≠ other) :
      ((entries.put (.str key) .null).get? other).getD .null =
        (entries.get? other).getD .null := by
    rw [Entries.get?_put_other entries (by simpa using differ)]
  have apart : ∀ other ∈ "then" :: RuleDefinition.fieldNames.take 4, key ≠ other := by
    have all : ∀ key ∈ patternFields, ∀ other ∈ "then" :: RuleDefinition.fieldNames.take 4,
        key ≠ other := by decide
    exact all key isField
  have patterns (other : String) (differ : key ≠ other) :=
    optionalPattern_congr (same other differ)
  have sameRequired : required (entries.put (.str key) .null) = required entries :=
    required_congr fun other isRequired =>
      same other (apart other (List.mem_cons_of_mem _ isRequired))
  have sameFollowing : following (entries.put (.str key) .null) = following entries :=
    following_congr (same "then" (apart "then" (by decide)))
  rw [definition_eq_ok_iff, sameRequired, sameFollowing] at otherwise
  obtain ⟨ofRequired, ofExtract, ofGuard, ofVeto, ofFollowing⟩ := otherwise
  rw [definition_map, ofRequired]
  simp only [patternFields, List.mem_cons, List.not_mem_nil, or_false] at isField
  rcases isField with rfl | rfl | rfl
  · rw [← patterns "g" (by decide), ← patterns "v" (by decide), ofGuard, ofVeto, ofFollowing]
    cases optionalPattern entries "x" <;> rfl
  · rw [← patterns "x" (by decide), ← patterns "v" (by decide), ofExtract, ofVeto, ofFollowing]
    cases optionalPattern entries "g" <;> rfl
  · rw [← patterns "x" (by decide), ← patterns "g" (by decide), ofExtract, ofGuard, ofFollowing]
    cases optionalPattern entries "v" <;> rfl

/-- Only a text passes as a name. -/
theorem eq_str_of_name {value : Value} {kind : String} {most : Int}
    (checked : name value kind most = .ok ()) : ∃ text, value = .str text := by
  unfold name at checked
  split at checked
  · exact ⟨_, rfl⟩
  · cases checked

/-- A definition that has its fields is named by a text. -/
theorem exists_name (checked : required entries = .ok ()) :
    ∃ ruleName, entries.get? "name" = some (.str ruleName) := by
  simp only [required, bind_eq_ok_iff] at checked
  obtain ⟨ruleName, given, _, -, _, -, _, -, _, named, -⟩ := checked
  obtain ⟨text, rfl⟩ := eq_str_of_name named
  unfold field at given
  split at given
  · cases given
  · cases given
  · rename_i value _ found
    cases given
    exact ⟨text, found⟩

end Check

/-! ## Compiling a rule -/

namespace Rule

/-- The pattern that a rule has of a field. -/
def patternOf (rule : Rule) : (key : String) → Option Pattern
  | "x" => rule.extract
  | "g" => rule.guard
  | "v" => rule.veto
  | _ => none

/-- What a field holds that was checked is a pattern or nothing. -/
theorem exists_optionalPattern {entries : Entries} {key : String}
    (checked : Check.optionalPattern entries key = .ok ()) (name : Value) :
    ∃ pattern, optionalPattern name ((entries.get? key).getD .null) = .ok pattern := by
  unfold Check.optionalPattern at checked
  unfold optionalPattern
  cases found : entries.get? key with
  | none => exact ⟨none, rfl⟩
  | some value =>
      rw [found] at checked
      dsimp only [Option.getD_some] at checked ⊢
      split at checked
      · rename_i truthy
        obtain ⟨pattern, read, -⟩ := bind_eq_ok_iff.mp checked
        exact ⟨some pattern, by rw [if_pos truthy, read]; rfl⟩
      · rename_i falsy
        exact ⟨none, if_neg falsy⟩

/-- What comes of what is given is what comes of its mapping. -/
theorem compile_eq_value {given : RuleArgument} {value : Value}
    (isGiven : given.toValue = .ok value) : compile given = compile (.value value) := by
  rw [compile, isGiven]
  rfl

/-- A definition that is refused gives no rule. -/
theorem compile_of_refused {given : RuleArgument} {entries : Entries} {refusal : Refusal}
    (isMapping : given.toValue = .ok (.map entries))
    (refused : Check.definition (.map entries) = .error refusal) :
    compile given = .error (.ofRefusal (RuleDefinition.nameOf (.map entries)) refusal) := by
  have refusedAll : RuleDefinition.ofValue (.map entries) =
      .error (.ofRefusal (RuleDefinition.nameOf (.map entries)) refusal) := by
    rw [RuleDefinition.ofValue, refused]
    rfl
  rw [compile_eq_value isMapping]
  exact bind_eq_error_iff.mpr (.inr ⟨_, rfl, bind_eq_error_iff.mpr (.inl refusedAll)⟩)

/-- A definition that passes the checks gives a rule with its name and its patterns. -/
theorem exists_compile {given : RuleArgument} {entries : Entries}
    (isMapping : given.toValue = .ok (.map entries))
    (checked : Check.definition (.map entries) = .ok ()) :
    ∃ rule, compile given = .ok rule ∧ rule.name = ((entries.get? "name").getD .null).plain ∧
      ∀ key ∈ Check.patternFields,
        optionalPattern ((entries.get? "name").getD .null) ((entries.get? key).getD .null) =
          .ok (rule.patternOf key) := by
  obtain ⟨-, ofExtract, ofGuard, ofVeto, -⟩ := Check.definition_eq_ok_iff.mp checked
  obtain ⟨extract, isExtract⟩ :=
    exists_optionalPattern ofExtract ((entries.get? "name").getD .null)
  obtain ⟨guard, isGuard⟩ := exists_optionalPattern ofGuard ((entries.get? "name").getD .null)
  obtain ⟨veto, isVeto⟩ := exists_optionalPattern ofVeto ((entries.get? "name").getD .null)
  have defined : RuleDefinition.ofValue (.map entries) = .ok (.ofEntries entries) := by
    rw [RuleDefinition.ofValue, checked]
    rfl
  refine ⟨_, by
    rw [compile_eq_value isMapping, compile]
    dsimp only [RuleArgument.toValue, Except.mapError, bind, Except.bind]
    rw [defined]
    dsimp only [RuleDefinition.ofEntries]
    rw [isExtract, isGuard, isVeto]
    rfl, rfl, ?_⟩
  intro key isField
  simp only [Check.patternFields, List.mem_cons, List.not_mem_nil, or_false] at isField
  rcases isField with rfl | rfl | rfl
  · exact isExtract
  · exact isGuard
  · exact isVeto

/-- What may come of a rule of a name that has a source in one of its pattern fields. -/
inductive Verdict (name key source : String) : Except RuleFault Rule → Prop where
  /-- The rule has the pattern that is read; an empty source is none. -/
  | compiled {rule : Rule} (named : rule.name = name)
      (read : source = "" ∧ rule.patternOf key = none ∨
        ∃ pattern, Pattern.parse source {} = .ok pattern ∧ rule.patternOf key = some pattern) :
      Verdict name key source (.ok rule)
  /-- The source breaks the grammar. -/
  | broken {cause : Cause} {position : Option Nat}
      (parsed : Pattern.parse source {} = .error (.malformed cause position source.toList)) :
      Verdict name key source (.error
        (.invalid (.patternSource source (.malformed cause position source.toList)) (.str name)))
  /-- The source cannot be read for what is written in it. -/
  | unreadable {fault : Fault} (parsed : Pattern.parse source {} = .error fault)
      (beyond : ¬ fault.IsMalformed) (written : fault.WrittenIn source.toList) :
      Verdict name key source (.error (.unreadable fault))

/-- The source decides what comes of a rule in which nothing else is wrong. -/
theorem verdict_of_source {given : RuleArgument} {entries : Entries} {key source : String}
    (isMapping : given.toValue = .ok (.map entries)) (isField : key ∈ Check.patternFields)
    (placed : entries.get? key = some (.str source)) (short : source.length ≤ limits.pattern)
    (otherwise : Check.definition (.map (entries.put (.str key) .null)) = .ok ())
    {name : String} (named : entries.get? "name" = some (.str name)) :
    Verdict name key source (compile given) := by
  have whole := Check.definition_eq_optionalPattern isField otherwise
  rw [Check.optionalPattern, placed] at whole
  dsimp only at whole
  by_cases empty : source = ""
  · subst empty
    obtain ⟨rule, made, sameName, patterns⟩ := exists_compile isMapping whole
    have held := patterns key isField
    rw [placed] at held
    rw [made]
    refine .compiled (sameName.trans (by rw [named]; rfl)) (.inl ⟨rfl, ?_⟩)
    exact (Except.ok.inj held).symm
  · have truthy : (Value.str source).isTruthy = true := by
      simpa [Value.isTruthy] using empty
    have verdict := Check.verdict_of_short short
    rw [if_pos truthy] at whole
    cases checked : Check.pattern (.value (.str source)) {} with
    | ok pattern =>
        rw [checked] at whole verdict
        obtain ⟨rule, made, sameName, patterns⟩ := exists_compile isMapping whole
        have held := patterns key isField
        rw [placed, Option.getD_some, optionalPattern, if_pos truthy, checked] at held
        rw [made]
        refine .compiled (sameName.trans (by rw [named]; rfl)) (.inr ⟨pattern, ?_, ?_⟩)
        · cases verdict with
          | read parsed => exact parsed
        · exact (Except.ok.inj held).symm
    | error refusal =>
        have isName : RuleDefinition.nameOf (.map entries) = .str name :=
          congrArg (·.getD .null) named
        rw [checked] at whole verdict
        rw [compile_of_refused isMapping whole, isName]
        cases verdict with
        | broken parsed => exact .broken parsed
        | unreadable parsed beyond written => exact .unreadable parsed beyond written

end Rule

/-- A rule that has a source in one of its pattern fields, and nothing else wrong in it, is compiled
and registered, or refused under its name, or given up for a number or for flags that the source
itself writes. What is not registered changes nothing. A lexer is given up only for such a source
as well, that of one of its definitions; else it is made or refused by a fault of lexers. -/
theorem Engine.add_of_source (engine : Engine) (logs : Logs) {given : RuleArgument}
    {entries : Entries} {key source : String} (isMapping : given.toValue = .ok (.map entries))
    (isField : key ∈ Check.patternFields) (placed : entries.get? key = some (.str source))
    (short : source.length ≤ limits.pattern)
    (otherwise : Check.definition (.map (entries.put (.str key) .null)) = .ok ()) :
    (∃ name, entries.get? "name" = some (.str name) ∧
      Rule.Verdict name key source (Rule.compile given) ∧
      (∀ rule, Rule.compile given = .ok rule → (engine.add logs given).result = .ok rule) ∧
      ∀ fault, Rule.compile given = .error fault →
        engine.add logs given = ⟨engine, logs, .error (.rule fault)⟩) ∧
    ∀ arguments : List TokenArgument, (∀ argument ∈ arguments, argument.IsRead) →
      ∀ fault, Lexer.create arguments = .error (.unreadable fault) →
        ∃ argument ∈ arguments, argument.Unreadable fault := by
  refine ⟨?_, fun arguments isRead fault => Lexer.exists_unreadable isRead⟩
  have required := (Check.definition_eq_ok_iff.mp otherwise).1
  obtain ⟨name, named⟩ := Check.exists_name required
  have differ : key ≠ "name" := by
    rintro rfl
    exact absurd isField (by decide)
  rw [Entries.get?_put_other entries (by simpa using differ)] at named
  refine ⟨name, named, Rule.verdict_of_source isMapping isField placed short otherwise named,
    fun rule made => ?_, fun fault => add_of_fault⟩
  rw [add_of_compile made]

/-- The fields of a rule that takes out of a text what a source finds. -/
def letterEntries (source : String) : Entries :=
  [(.str "name", .str "letters"), (.str "watch", .str "/a"), (.str "emit", .str "t"),
    (.str "emit_path", .str "/b"), (.str "x", .str source)]

/-- Such a rule is refused under its name if the source leaves a group open. -/
theorem Engine.add_of_source_of_openGroup :
    Check.definition (.map ((letterEntries "(a").put (.str "x") .null)) = .ok () ∧
      Rule.Verdict "letters" "x" "(a" (Rule.compile (.value (.map (letterEntries "(a")))) ∧
      ∀ engine logs, Engine.add engine logs (.value (.map (letterEntries "(a"))) =
        ⟨engine, logs, .error (.rule (.invalid
          (.patternSource "(a" (.malformed .unclosedGroup (some 0) ['(', 'a']))
          (.str "letters")))⟩ := by
  have otherwise : Check.definition (.map ((letterEntries "(a").put (.str "x") .null)) = .ok () :=
    rfl
  refine ⟨otherwise, ?_, fun engine logs => ?_⟩
  · exact Rule.verdict_of_source rfl (by decide) rfl (by decide) otherwise rfl
  · obtain ⟨⟨_, -, -, -, unchanged⟩, -⟩ :=
      @Engine.add_of_source engine logs (.value (.map (letterEntries "(a"))) _ "x" "(a" rfl
        (by decide) rfl (by decide) otherwise
    exact unchanged _ rfl

/-- A count that is too large is neither refused under the name of the rule nor by a fault of
lexers, but given up. -/
theorem Engine.add_fails_at_large_count :
    Check.definition (.map ((letterEntries "a\x7b4294967295\x7d").put (.str "x") .null)) = .ok () ∧
      "a\x7b4294967295\x7d".length ≤ limits.pattern ∧
      Rule.compile (.value (.map (letterEntries "a\x7b4294967295\x7d"))) =
        .error (.unreadable .numberTooLarge) ∧
      Lexer.create [.mapping (some (.str "A"))
        (some (.value (.str "a\x7b4294967295\x7d"))) (.bool false)] =
          .error (.unreadable .numberTooLarge) :=
  ⟨rfl, by decide, rfl, rfl⟩

end Structex
