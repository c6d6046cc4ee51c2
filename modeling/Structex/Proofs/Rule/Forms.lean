import Structex.Proofs.Rule.Refusal
import Structex.Proofs.Value.Copying

/-!
# The two forms of a rule

A rule is given as an object, of which the mapping has the copies of the fields that are not null,
or as a mapping itself. The checks look up the nine fields and take one that is missing for null, so
what comes of a mapping depends on nothing but the definition that is read from it
(`RuleDefinition.ofValue_congr`), and the entries of a definition give the definition back
(`RuleDefinition.ofEntries_toEntries`). What is left between the two forms is the copying: an object
compiles as the mapping of its copies does (`Rule.compile_of_copied`), and data is its own copy.
-/

namespace Structex

namespace Entries

/-- Whether null entries are left out makes no difference to a reader that takes what is missing
for null. -/
theorem getD_get?_filter {entries : Entries} (distinct : entries.Distinct) (part : String) :
    (Entries.get? (entries.filter fun entry => !entry.2.isNull) part).getD .null =
      (entries.get? part).getD .null := by
  induction entries with
  | nil => rfl
  | cons entry rest inductionHypothesis =>
      obtain ⟨key, item⟩ := entry
      have others := inductionHypothesis (List.pairwise_cons.mp distinct).2
      cases isNull : item.isNull with
      | true =>
          rw [List.filter_cons_of_neg (by simp [isNull]), others]
          by_cases here : key = .str part
          · subst here
            rw [get?_eq_none_of_distinct distinct, get?_cons_same, Value.isNull_iff.mp isNull]
            rfl
          · rw [get?_cons_other here]
      | false =>
          rw [List.filter_cons_of_pos (by simp [isNull])]
          by_cases here : key = .str part
          · subst here
            rw [get?_cons_same, get?_cons_same]
          · rw [get?_cons_other here, get?_cons_other here, others]

end Entries

/-- An integer can be written if it has no more digits than the longest that is shown. -/
theorem Value.isWritable_int_iff {number : Int} :
    (Value.int number).isWritable = true ↔ number.natAbs < Nat.pow 10 Decimal.longestInteger := by
  have fits (most : Nat) (positive : 0 < most) :
      Decimal.digitCount number.natAbs ≤ most ↔ number.natAbs < Nat.pow 10 most :=
    Nat.length_toDigits_le_iff (by decide) positive
  rw [isWritable, decide_eq_true_iff]
  exact fits _ (by decide)

/-- A refusal whose message cannot be written is told as another error. -/
theorem RuleFault.report_of_unwritable {cause : Invalid} {name : Value}
    (unwritable : ¬ cause.isWritable = true) :
    report (.invalid cause name) = .other "ValueError" :=
  if_neg unwritable

namespace RuleDefinition

variable {left right : Entries}

/-- All fields of a definition in order, also those that are null. -/
def fields (definition : RuleDefinition) : Entries :=
  definition.namedFields.map fun field => (.str field.1, field.2)

/-- The fields of a definition that are not null. -/
def toEntries (definition : RuleDefinition) : Entries :=
  List.filter (fun entry => !entry.2.isNull) definition.fields

/-- The definition with the copies of the fields. -/
def copied (definition : RuleDefinition) : Except CopyFault RuleDefinition :=
  ofEntries <$> Value.copiedFields definition.namedFields

theorem distinct_fields (definition : RuleDefinition) : definition.fields.Distinct := by
  simp [Entries.Distinct, fields, namedFields]

/-- A definition is read back from its entries. -/
theorem ofEntries_toEntries (definition : RuleDefinition) :
    ofEntries definition.toEntries = definition := by
  have same := Entries.getD_get?_filter definition.distinct_fields
  rw [ofEntries, toEntries, same, same, same, same, same, same, same, same, same]
  rfl

/-- Entries under the names of the fields are the fields of the definition that is read from
them. -/
theorem fields_ofEntries {entries : Entries} (keys : entries.map (·.1) = fieldNames.map Value.str) :
    (ofEntries entries).fields = entries :=
  (Entries.eq_map_of_keys keys (by decide)).symm

/-- The mapping of a definition has the fields of its copy. -/
theorem toValue_of_copied {definition copy : RuleDefinition}
    (copies : definition.copied = .ok copy) : definition.toValue = .ok (.map copy.toEntries) := by
  rw [copied] at copies
  rw [toValue, Value.presentFields]
  cases made : Value.copiedFields definition.namedFields with
  | error fault =>
      rw [made] at copies
      cases copies
  | ok pairs =>
      rw [made] at copies
      cases copies
      have same : (ofEntries pairs).fields = pairs :=
        fields_ofEntries (Value.keys_of_copiedFields made)
      have distinct : Entries.Distinct pairs := same ▸ distinct_fields _
      rw [toEntries, same]
      exact congrArg (fun entries => Except.ok (Value.map (List.filter _ entries)))
        (Entries.ofList_of_distinct distinct)

/-- Where a field has no copy the definition has no mapping. -/
theorem toValue_of_uncopyable {definition : RuleDefinition} {fault : CopyFault}
    (failed : definition.copied = .error fault) : definition.toValue = .error fault := by
  rw [toValue, Value.presentFields, map_eq_error_iff, map_eq_error_iff]
  exact map_eq_error_iff.mp failed

/-- A definition whose fields are data is its own copy. -/
theorem copied_of_isData {definition : RuleDefinition}
    (isData : ∀ field ∈ definition.namedFields, field.2.IsData) :
    definition.copied = .ok definition := by
  rw [copied, Value.copiedFields_of_forall fun field isField =>
    Value.copied_of_isData (isData field isField)]
  rfl

/-- Any nine values are the fields of a definition. -/
theorem ofFields?_fields (definition : RuleDefinition) :
    ofFields? definition.fields = some definition :=
  rfl

theorem eq_ofEntries {entries : Entries} {definition : RuleDefinition}
    (given : ofFields? entries = some definition) : ofEntries entries = definition := by
  unfold ofFields? at given
  split at given
  · exact Option.some.inj given
  · cases given

/-- Entries from which the same definition is read give the same for each field. -/
theorem getD_get?_congr (same : ofEntries left = ofEntries right) {key : String}
    (isField : key ∈ fieldNames) : (left.get? key).getD .null = (right.get? key).getD .null := by
  simp only [fieldNames, List.mem_cons, List.not_mem_nil, or_false] at isField
  rcases isField with rfl | rfl | rfl | rfl | rfl | rfl | rfl | rfl | rfl
  · exact congrArg name same
  · exact congrArg watch same
  · exact congrArg emit same
  · exact congrArg emitPath same
  · exact congrArg template same
  · exact congrArg extract same
  · exact congrArg guard same
  · exact congrArg veto same
  · exact congrArg following same

end RuleDefinition

namespace Check

/-- Entries from which the same definition is read pass the same checks. -/
theorem definition_congr {left right : Entries}
    (same : RuleDefinition.ofEntries left = RuleDefinition.ofEntries right) :
    definition (.map left) = definition (.map right) := by
  have alike (key : String) (isField : key ∈ RuleDefinition.fieldNames) :=
    RuleDefinition.getD_get?_congr same isField
  have sameRequired : required left = required right :=
    required_congr fun key isRequired => alike key (List.mem_of_mem_take isRequired)
  rw [definition_map, definition_map, sameRequired, optionalPattern_congr (alike "x" (by decide)),
    optionalPattern_congr (alike "g" (by decide)), optionalPattern_congr (alike "v" (by decide)),
    following_congr (alike "then" (by decide))]

end Check

/-- What is read from a mapping depends on what it gives for the fields. -/
theorem RuleDefinition.ofValue_congr {left right : Entries}
    (same : ofEntries left = ofEntries right) : ofValue (.map left) = ofValue (.map right) := by
  have sameName : nameOf (.map left) = nameOf (.map right) := congrArg name same
  simp only [ofValue, Check.definition_congr same, sameName, same]

/-- A definition that was checked is found again in its entries. -/
theorem RuleDefinition.ofValue_toEntries {given : Value} {valid : RuleDefinition}
    (checked : ofValue given = .ok valid) : ofValue (.map valid.toEntries) = .ok valid := by
  obtain ⟨_, -, read⟩ := bind_eq_ok_iff.mp checked
  split at read
  · cases read
    exact (ofValue_congr (ofEntries_toEntries _)).trans checked
  · cases read

/-! ## What comes of a definition -/

namespace Check

variable {entries : Entries} {α β : Type}

/-- A check that passes or says what is invalid, and never gives up. -/
def Decides (check : Except Refusal α) : Prop :=
  ∀ fault, check ≠ .error (.unreadable fault)

theorem decides_pure (value : α) : Decides (pure value) := by
  rintro fault ⟨⟩

theorem decides_throw (cause : Invalid) : Decides (throw (.invalid cause) : Except Refusal α) := by
  rintro fault ⟨⟩

theorem Decides.bind {first : Except Refusal α} {next : α → Except Refusal β}
    (one : Decides first) (other : ∀ value, Decides (next value)) : Decides (first >>= next) := by
  intro fault gaveUp
  rcases bind_eq_error_iff.mp gaveUp with early | ⟨value, -, late⟩
  · exact one fault early
  · exact other value fault late

theorem decides_field (entries : Entries) (key : String) : Decides (field entries key) := by
  rw [field_eq]
  split
  · exact decides_throw _
  · exact decides_pure _

theorem decides_name (value : Value) (kind : String) (most : Int) :
    Decides (name value kind most) := by
  intro fault gaveUp
  obtain ⟨cause, same⟩ := invalid_of_name gaveUp
  cases same

theorem decides_glob (value : Value) : Decides (glob value) := by
  unfold glob
  repeat' split
  all_goals rintro fault ⟨⟩

/-- Nothing is read before the patterns of a definition are. -/
theorem decides_required (entries : Entries) : Decides (required entries) := by
  refine (decides_field _ _).bind fun ruleName => (decides_field _ _).bind fun watch =>
    (decides_field _ _).bind fun emit => (decides_field _ _).bind fun emitPath =>
    (decides_name _ _ _).bind fun _ => (decides_glob _).bind fun _ => ?_
  cases emit <;> cases emitPath <;> rintro fault ⟨⟩

theorem decides_following (entries : Entries) : Decides (following entries) := by
  rw [following_eq]
  split
  · exact decides_pure _
  · exact decides_name _ _ _

/-- Only what a field holds as its pattern makes its check give up. -/
theorem unreadable_of_optionalPattern {key : String} {fault : Regex.Fault}
    (gaveUp : optionalPattern entries key = .error (.unreadable fault)) :
    PatternArgument.Unreadable fault (.value ((entries.get? key).getD .null)) := by
  rw [optionalPattern_eq] at gaveUp
  split at gaveUp
  · rcases bind_eq_error_iff.mp gaveUp with read | ⟨_, -, never⟩
    · exact unreadable_of_pattern read
    · cases never
  · cases gaveUp

/-- Only a pattern of a definition makes its check give up. -/
theorem unreadable_of_definition {fault : Regex.Fault}
    (gaveUp : definition (.map entries) = .error (.unreadable fault)) :
    ∃ key ∈ patternFields,
      PatternArgument.Unreadable fault (.value ((entries.get? key).getD .null)) := by
  rw [definition_map] at gaveUp
  rcases bind_eq_error_iff.mp gaveUp with early | ⟨_, -, gaveUp⟩
  · exact (decides_required entries fault early).elim
  rcases bind_eq_error_iff.mp gaveUp with read | ⟨_, -, gaveUp⟩
  · exact ⟨"x", by decide, unreadable_of_optionalPattern read⟩
  rcases bind_eq_error_iff.mp gaveUp with read | ⟨_, -, gaveUp⟩
  · exact ⟨"g", by decide, unreadable_of_optionalPattern read⟩
  rcases bind_eq_error_iff.mp gaveUp with read | ⟨_, -, late⟩
  · exact ⟨"v", by decide, unreadable_of_optionalPattern read⟩
  · exact (decides_following entries fault late).elim

theorem eq_str_of_glob {value : Value} (checked : glob value = .ok ()) :
    ∃ text, value = .str text := by
  unfold glob at checked
  split at checked
  · exact ⟨_, rfl⟩
  · cases checked

theorem getD_get?_of_field {key : String} {value : Value}
    (checked : field entries key = .ok value) : (entries.get? key).getD .null = value := by
  rw [field_eq] at checked
  split at checked
  · cases checked
  · exact Except.ok.inj checked

/-- The four fields that must be there hold texts. -/
theorem eq_str_of_required (checked : required entries = .ok ()) :
    ∀ key ∈ RuleDefinition.fieldNames.take 4,
      ∃ text, (entries.get? key).getD .null = .str text := by
  simp only [required, bind_eq_ok_iff] at checked
  obtain ⟨ruleName, givenName, watch, givenWatch, emit, givenEmit, emitPath, givenPath, _, named,
    _, watched, kinds⟩ := checked
  have areTexts : (∃ text, emit = .str text) ∧ ∃ text, emitPath = .str text := by
    cases emit with
    | str emitted =>
        cases emitPath with
        | str placed => exact ⟨⟨emitted, rfl⟩, ⟨placed, rfl⟩⟩
        | _ => cases kinds
    | _ => cases kinds
  intro key isField
  simp only [RuleDefinition.fieldNames, List.take_succ_cons, List.take_zero, List.mem_cons,
    List.not_mem_nil, or_false] at isField
  rcases isField with rfl | rfl | rfl | rfl
  · exact getD_get?_of_field givenName ▸ eq_str_of_name named
  · exact getD_get?_of_field givenWatch ▸ eq_str_of_glob watched
  · exact getD_get?_of_field givenEmit ▸ areTexts.1
  · exact getD_get?_of_field givenPath ▸ areTexts.2

/-- The rule that follows is named by a text if there is one. -/
theorem eq_null_or_str_of_following (checked : following entries = .ok ()) :
    (entries.get? "then").getD .null = .null ∨
      ∃ text, (entries.get? "then").getD .null = .str text := by
  rw [following_eq] at checked
  split at checked
  · exact .inl (Value.isNull_iff.mp ‹_›)
  · exact .inr (eq_str_of_name checked)

end Check

namespace Rule

/-- What a rule has of its definition: texts, the template, the glob and the patterns of it. -/
structure IsOf (definition : RuleDefinition) (rule : Rule) : Prop where
  name : definition.name = .str rule.name
  watch : definition.watch = .str rule.watch
  glob : rule.glob = Glob.compile rule.watch
  emit : definition.emit = .str rule.emit
  emitPath : definition.emitPath = .str rule.emitPath
  template : rule.template = definition.template
  extract : optionalPattern definition.name definition.extract = .ok rule.extract
  guard : optionalPattern definition.name definition.guard = .ok rule.guard
  veto : optionalPattern definition.name definition.veto = .ok rule.veto
  following : definition.following = (rule.following.map Value.str).getD .null

/-- The rule that comes of a mapping is that of the definition that is read from it. -/
theorem isOf_of_compile {given : RuleArgument} {entries : Entries} {rule : Rule}
    (isMapping : given.toValue = .ok (.map entries)) (made : compile given = .ok rule) :
    IsOf (.ofEntries entries) rule := by
  rw [compile_eq_value isMapping] at made
  obtain ⟨_, isValue, made⟩ := bind_eq_ok_iff.mp made
  cases isValue
  obtain ⟨definition, read, made⟩ := bind_eq_ok_iff.mp made
  obtain ⟨extract, isExtract, made⟩ := bind_eq_ok_iff.mp made
  obtain ⟨guard, isGuard, made⟩ := bind_eq_ok_iff.mp made
  obtain ⟨veto, isVeto, made⟩ := bind_eq_ok_iff.mp made
  obtain ⟨_, passed, read⟩ := bind_eq_ok_iff.mp read
  cases read
  cases made
  have checked : Check.definition (.map entries) = .ok () := by
    cases outcome : Check.definition (.map entries) with
    | ok _ => rfl
    | error refusal =>
        rw [outcome] at passed
        cases passed
  obtain ⟨ofRequired, -, -, -, ofFollowing⟩ := Check.definition_eq_ok_iff.mp checked
  -- A text is plain, and so the texts of the rule are those of the definition.
  have plain {value : Value} (isText : ∃ text, value = .str text) : value = .str value.plain := by
    obtain ⟨text, rfl⟩ := isText
    rfl
  have texts (key : String) (isField : key ∈ RuleDefinition.fieldNames.take 4) :=
    plain (Check.eq_str_of_required ofRequired key isField)
  refine ⟨texts "name" (by decide), texts "watch" (by decide), rfl, texts "emit" (by decide),
    texts "emit_path" (by decide), rfl, isExtract, isGuard, isVeto, ?_⟩
  rcases Check.eq_null_or_str_of_following ofFollowing with none | ⟨text, some⟩
  · simp [RuleDefinition.ofEntries, none, Value.isNull]
  · simp [RuleDefinition.ofEntries, some, Value.isNull, Value.plain]

/-- A rule that comes of an object is that of its copy. -/
theorem exists_copied_of_compile {definition : RuleDefinition} {rule : Rule}
    (made : compile (.definition definition) = .ok rule) :
    ∃ copy, definition.copied = .ok copy ∧ rule.IsOf copy := by
  cases copies : definition.copied with
  | error fault =>
      rw [compile, RuleArgument.toValue, RuleDefinition.toValue_of_uncopyable copies] at made
      cases made
  | ok copy =>
      have isMapping : (RuleArgument.definition definition).toValue = .ok (.map copy.toEntries) :=
        RuleDefinition.toValue_of_copied copies
      exact ⟨copy, rfl, copy.ofEntries_toEntries ▸ isOf_of_compile isMapping made⟩

/-- What may come of a definition. -/
inductive Outcome (definition : RuleDefinition) : Except RuleFault Rule → Prop where
  | compiled {rule : Rule} (isRule : rule.IsOf definition) : Outcome definition (.ok rule)
  /-- A check does not pass; the name is that of the definition, whatever it is. -/
  | refused (cause : Invalid) : Outcome definition (.error (.invalid cause definition.name))
  /-- A pattern cannot be read for what is written in it. -/
  | unreadable {fault : Regex.Fault} {source : Value}
      (isPattern : source ∈ [definition.extract, definition.guard, definition.veto])
      (gaveUp : PatternArgument.Unreadable fault (.value source)) :
      Outcome definition (.error (.unreadable fault))

/-- Entries from which the same definition is read compile alike. -/
theorem compile_congr {left right : Entries}
    (same : RuleDefinition.ofEntries left = RuleDefinition.ofEntries right) :
    compile (.value (.map left)) = compile (.value (.map right)) := by
  simp only [compile, RuleArgument.toValue, Except.mapError, bind, Except.bind,
    RuleDefinition.ofValue_congr same]

/-- An object compiles as the mapping of its copies does. -/
theorem compile_of_copied {definition copy : RuleDefinition}
    (copies : definition.copied = .ok copy) :
    compile (.definition definition) = compile (.value (.map copy.fields)) := by
  have isMapping : (RuleArgument.definition definition).toValue = .ok (.map copy.toEntries) :=
    RuleDefinition.toValue_of_copied copies
  exact (compile_eq_value isMapping).trans (compile_congr copy.ofEntries_toEntries)

/-- An object of which a field has no copy gives no rule, and the error is that of copying. -/
theorem compile_of_uncopyable {definition : RuleDefinition} {fault : CopyFault}
    (failed : definition.copied = .error fault) :
    compile (.definition definition) = .error (.uncopyable fault) := by
  rw [compile, RuleArgument.toValue, RuleDefinition.toValue_of_uncopyable failed]
  rfl

theorem outcome_of_entries (entries : Entries) :
    Outcome (.ofEntries entries) (compile (.value (.map entries))) := by
  cases checked : Check.definition (.map entries) with
  | ok _ =>
      obtain ⟨rule, made, -, -⟩ := @exists_compile (.value (.map entries)) entries rfl checked
      rw [made]
      exact .compiled (isOf_of_compile rfl made)
  | error refusal =>
      rw [compile_of_refused rfl checked]
      cases refusal with
      | invalid cause => exact .refused cause
      | unreadable fault =>
          obtain ⟨key, isField, gaveUp⟩ := Check.unreadable_of_definition checked
          refine .unreadable ?_ gaveUp
          simp only [Check.patternFields, List.mem_cons, List.not_mem_nil, or_false] at isField
          rcases isField with rfl | rfl | rfl <;> simp [RuleDefinition.ofEntries]

/-- What comes of a mapping of the fields is a rule of the definition, a refusal under its name, or
a fault of a source in it that cannot be read. An object of which a field has no copy is refused by
the error of copying; any other compiles as the mapping of the copies of its fields does. So if the
fields are their own copies, as data is, what comes of them is the same whether they are given as an
object or as a mapping. And what is checked of a mapping is found again in the mapping that is made
of it, if the definition is its own copy. -/
theorem compile_of_fields :
    (∀ {entries : Entries} {definition : RuleDefinition},
      RuleDefinition.ofFields? entries = some definition →
        Outcome definition (compile (.value (.map entries))) ∧
        (∀ {fault}, definition.copied = .error fault →
          compile (.definition definition) = .error (.uncopyable fault)) ∧
        (∀ {copy}, definition.copied = .ok copy →
          compile (.definition definition) = compile (.value (.map copy.fields))) ∧
        (definition.copied = .ok definition →
          compile (.definition definition) = compile (.value (.map entries)))) ∧
    (∀ {definition : RuleDefinition}, (∀ field ∈ definition.namedFields, field.2.IsData) →
      definition.copied = .ok definition) ∧
    ∀ {given : Value} {valid : RuleDefinition}, RuleDefinition.ofValue given = .ok valid →
      valid.copied = .ok valid →
      ∃ value, valid.toValue = .ok value ∧ RuleDefinition.ofValue value = .ok valid := by
  refine ⟨fun {entries definition} isGiven => ?_, RuleDefinition.copied_of_isData,
    fun checked isOwn =>
      ⟨_, RuleDefinition.toValue_of_copied isOwn, RuleDefinition.ofValue_toEntries checked⟩⟩
  obtain rfl := RuleDefinition.eq_ofEntries isGiven
  exact ⟨outcome_of_entries entries, compile_of_uncopyable, compile_of_copied,
    fun isOwn => (compile_of_copied isOwn).trans (compile_congr rfl)⟩

/-- A rule of any name and template, with fields that are null and one that counts as a no. -/
def sparseDefinition (name template : Value) : RuleDefinition where
  name := name
  watch := .str "/a"
  emit := .str "t"
  emitPath := .str "/b"
  template := template
  extract := .str "a"
  veto := .int 0

/-- Such a rule under a name of its own. -/
def letters (template : Value) : RuleDefinition :=
  sparseDefinition (.str "letters") template

/-- Such a rule under what is no name. -/
def nameless : RuleDefinition :=
  sparseDefinition (.list [.int 1]) .null

/-- The bookkeeping of a document as an object that declares its fields. -/
def bookkeeping : Value :=
  .record ⟨"DocumentMetadata", 0, "DocumentMetadata(version=1)", "DocumentMetadata(version=1)",
    true, false⟩ [("version", .int 1), ("hash", .null)]

/-- The mapping of its fields. -/
def bookkeepingFields : Value :=
  .map [(.str "version", .int 1), (.str "hash", .null)]

/-- A lock, which has no copy. -/
def lock : Value :=
  .object ⟨"lock", 1, "<unlocked lock>", "<unlocked lock>", true, true⟩ (.refused "TypeError")

/-- A rule with a list as its template is the same in both forms and found again in its mapping, and
one without a name is refused in both. With a record as its template the object compiles as the
mapping with the fields of the record does, and with a lock it does not. -/
theorem compile_of_fields_of_sparse :
    compile (.definition (letters (.list []))) =
        compile (.value (.map (letters (.list [])).fields)) ∧
      (∃ rule, compile (.value (.map (letters (.list [])).fields)) = .ok rule) ∧
      compile (.definition nameless) = compile (.value (.map nameless.fields)) ∧
      compile (.value (.map nameless.fields)) =
        .error (.invalid (.nameKind "Rule" (.list [.int 1])) (.list [.int 1])) ∧
      compile (.definition (letters bookkeeping)) =
        compile (.value (.map (letters bookkeepingFields).fields)) ∧
      compile (.definition (letters lock)) = .error (.uncopyable ⟨"TypeError"⟩) ∧
      RuleDefinition.ofValue (.map (letters (.list [])).fields) = .ok (letters (.list [])) ∧
      ∃ value, (letters (.list [])).toValue = .ok value ∧
        RuleDefinition.ofValue value = .ok (letters (.list [])) := by
  have given (definition : RuleDefinition) :=
    compile_of_fields.1 (RuleDefinition.ofFields?_fields definition)
  have isOwn : ∀ {name template : Value}, name.IsData → template.IsData →
      (sparseDefinition name template).copied = .ok (sparseDefinition name template) := by
    intro name template nameIsData templateIsData
    refine compile_of_fields.2.1 ?_
    simp only [RuleDefinition.namedFields, sparseDefinition, List.forall_mem_cons]
    exact ⟨nameIsData, .scalar rfl, .scalar rfl, .scalar rfl, templateIsData, .scalar rfl,
      .scalar rfl, .scalar rfl, .scalar rfl, nofun⟩
  have lettersOwn : (letters (.list [])).copied = .ok (letters (.list [])) :=
    isOwn (.scalar rfl) (.list nofun)
  have namelessOwn : nameless.copied = .ok nameless :=
    isOwn (.list (by simpa using Value.IsData.scalar rfl)) (.scalar rfl)
  have checked : RuleDefinition.ofValue (.map (letters (.list [])).fields) =
      .ok (letters (.list [])) := rfl
  obtain ⟨-, -, -, lettersAlike⟩ := given (letters (.list []))
  obtain ⟨-, -, -, namelessAlike⟩ := given nameless
  obtain ⟨-, -, ofCopies, -⟩ := given (letters bookkeeping)
  obtain ⟨-, ofNone, -, -⟩ := given (letters lock)
  exact ⟨lettersAlike lettersOwn, ⟨_, rfl⟩, namelessAlike namelessOwn, rfl, ofCopies rfl,
    ofNone rfl, checked, compile_of_fields.2.2 checked lettersOwn⟩

/-- A rule that emits a number instead of a type. -/
def numberDefinition (number : Int) : RuleDefinition :=
  { letters .null with emit := .int number }

/-- A number with one digit more than is ever shown. -/
def longNumber : Int := Int.ofNat (Nat.pow 10 Decimal.longestInteger)

theorem not_isWritable_longNumber :
    ¬ (Invalid.emitKind (.int longNumber)).isWritable = true := by
  have positive (number : Nat) : (Int.ofNat number).natAbs = number := rfl
  rw [Invalid.isWritable, Value.isWritable_int_iff, longNumber, positive]
  exact Nat.lt_irrefl _

/-- The two forms come apart where a field is not its own copy: a template that holds a record gives
two rules, and one that holds what has no copy is refused as an object alone. And neither is refused
as a rule if the value of a wrong kind that the message would show has no text. -/
theorem compile_differs_of_copies :
    (∃ ofObject ofMapping,
      compile (.definition (letters bookkeeping)) = .ok ofObject ∧
      compile (.value (.map (letters bookkeeping).fields)) = .ok ofMapping ∧
      ofObject ≠ ofMapping) ∧
    compile (.definition (letters lock)) = .error (.uncopyable ⟨"TypeError"⟩) ∧
    (∃ rule, compile (.value (.map (letters lock).fields)) = .ok rule) ∧
    ∃ fault, compile (.value (.map (numberDefinition longNumber).fields)) = .error fault ∧
      fault.report = .other "ValueError" := by
  have refused (number : Int) : compile (.value (.map (numberDefinition number).fields)) =
      .error (.invalid (.emitKind (.int number)) (.str "letters")) := rfl
  refine ⟨⟨_, _, rfl, rfl, fun same => ?_⟩, rfl, ⟨_, rfl⟩, _, refused longNumber,
    RuleFault.report_of_unwritable not_isWritable_longNumber⟩
  exact absurd (congrArg template same) nofun

end Rule

end Structex
