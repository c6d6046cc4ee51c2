import Structex.Proofs.Rule.Forms
import Structex.Proofs.Template.SinglePass
import Structex.Proofs.Template.Traversal
import Structex.Rule.Preset

/-!
# What index rules emit

The rule of an index puts the source of its pattern into the name, the type and the key of what it
emits. The key is a template, and so the source is read as one there: a placeholder that is written
in it is expanded. None goes across the slashes around the source (`Template.expand_slash`), so the
rest of the key is what it is for every source.
-/

namespace Structex

namespace Template

variable {m : Type → Type} [Monad m] [LawfulMonad m] [MonadExceptOf EvaluationFault m]

/-- A path of two templates is expanded one after the other. -/
theorem expand_slash (first second : String) (context : TemplateContext)
    (newIdentifier : m String) :
    expand (first ++ "/" ++ second) context newIdentifier = do
      let before ← expand first context newIdentifier
      let after ← expand second context newIdentifier
      return before ++ "/" ++ after := by
  have slash : String.ofList ['/'] = "/" := rfl
  rw [expand, TemplatePart.read_slash, expandParts_append]
  simp only [expand, expandParts, expandPart, bind_assoc, pure_bind, slash, String.append_assoc]

theorem read_literal {text : String} (literal : IsLiteral text.toList) :
    TemplatePart.read text = text.toList.map .literal := by
  have alone := TemplatePart.readFrom_literal literal (.inl rfl)
  rwa [List.append_nil, TemplatePart.readFrom, List.append_nil] at alone

/-- Literal text is expanded to itself. -/
theorem expand_literal {text : String} (literal : IsLiteral text.toList)
    (context : TemplateContext) (newIdentifier : m String) :
    expand text context newIdentifier = pure text := by
  rw [expand, read_literal literal, expandParts_literal, String.ofList_toList]

/-- The placeholder for an identifier draws it. -/
theorem expand_identifier (context : TemplateContext) (newIdentifier : m String) :
    expand "$\x7buuid\x7d" context newIdentifier = newIdentifier := by
  have alone : TemplatePart.read "$\x7buuid\x7d" =
      [.hole .identifier Placeholder.identifier.written] := by decide +kernel
  simp [expand, alone, expandParts, expandPart]

/-- Another placeholder gives what is looked up for it. -/
theorem expand_placeholder (placeholder : Placeholder) {text : String}
    (isWritten : TemplatePart.read text = [.hole placeholder placeholder.written])
    (other : placeholder ≠ .identifier) {context : TemplateContext} {found : String}
    (looked : lookUp context placeholder = .ok (some found)) (newIdentifier : m String) :
    expand text context newIdentifier = pure found := by
  simp [expand, isWritten, expandParts, expandPart_of_lookUp other looked]

end Template

namespace Preset

variable {m : Type → Type} [Monad m] [LawfulMonad m] [MonadExceptOf EvaluationFault m]

open Registry Template

/-- The segment of a key at a place, empty if it has none. -/
def segmentAt (key : String) (place : Nat) : String :=
  ((pathSegments key)[place]?).getD ""

/-- The entry that an index emits: the first two segments of the key, and the payload. -/
def indexEntry (key payload : String) : Value :=
  .map [(.str "path", .str (segmentAt key 0 ++ "/" ++ segmentAt key 1)),
    (.str "data", .str payload)]

/-- The entry is made without identifiers. -/
theorem expandValue_template (filter watch : Value) {context : TemplateContext}
    {key payload : String} (path : context.path = some (pathSegments key))
    (input : context.input = some payload) (newIdentifier : m String) :
    expandValue context newIdentifier (typeIndex filter watch).template =
      pure (indexEntry key payload) := by
  have segment (digits : List Char) (short : digits.length ≤ Decimal.longestInteger) :
      lookUp context (.path digits) = .ok (some (segmentAt key (numeral digits))) := by
    rw [lookUp, path, Option.mapM_some, textAt_of_short short]
    simp only [entryAt, segmentAt, List.getElem?_map]
    cases (pathSegments key)[numeral digits]? <;> rfl
  have texts : (typeIndex filter watch).template =
      .map [(.str "path", .str ("$\x7bpath.0\x7d" ++ "/" ++ "$\x7bpath.1\x7d")),
        (.str "data", .str "$\x7binput\x7d")] := rfl
  have pathKey : expand "path" context newIdentifier = pure "path" :=
    expand_literal (by decide +kernel) ..
  have dataKey : expand "data" context newIdentifier = pure "data" :=
    expand_literal (by decide +kernel) ..
  have first : expand "$\x7bpath.0\x7d" context newIdentifier = pure (segmentAt key 0) :=
    expand_placeholder (.path ['0']) (by decide +kernel) (by simp) (segment _ (by decide)) _
  have second : expand "$\x7bpath.1\x7d" context newIdentifier = pure (segmentAt key 1) :=
    expand_placeholder (.path ['1']) (by decide +kernel) (by simp) (segment _ (by decide)) _
  have whole : expand "$\x7binput\x7d" context newIdentifier = pure payload :=
    expand_placeholder .input (by decide +kernel) (by simp) (congrArg Except.ok input) _
  rw [texts]
  simp only [expandValue, expandEntries, expand_slash, pathKey, dataKey, first, second, whole,
    pure_bind]
  rfl

/-- The key of an index is the filter as a template, and then an identifier. -/
theorem expand_indexKey (filter : String) (context : TemplateContext) (newIdentifier : m String) :
    expand ("/indexes/" ++ filter ++ "/$\x7buuid\x7d") context newIdentifier = do
      let expanded ← expand filter context newIdentifier
      let identifier ← newIdentifier
      return "/indexes/" ++ expanded ++ "/" ++ identifier := by
  have split (inner last : String) : "/indexes/" ++ inner ++ "/" ++ last =
      "/indexes" ++ "/" ++ (inner ++ "/" ++ last) := by
    apply String.toList_injective
    simp
  have whole : "/indexes/" ++ filter ++ "/$\x7buuid\x7d" =
      "/indexes/" ++ filter ++ "/" ++ "$\x7buuid\x7d" := by
    apply String.toList_injective
    simp
  have start : expand "/indexes" context newIdentifier = pure "/indexes" :=
    expand_literal (by decide +kernel) ..
  rw [whole, split, expand_slash, expand_slash, start, expand_identifier]
  simp only [bind_assoc, pure_bind, split]

/-- All that an index has of its filter is text, and so only the watched glob may change when it is
copied. -/
theorem exists_isOf_of_compile {filter : String} {watch : Value} {rule : Rule}
    (compiled : Rule.compile (.definition (typeIndex (.str filter) watch)) = .ok rule) :
    ∃ copy, rule.IsOf (typeIndex (.str filter) copy) := by
  obtain ⟨definition, copies, isRule⟩ := Rule.exists_copied_of_compile compiled
  rw [RuleDefinition.copied] at copies
  cases watched : watch.copied with
  | error fault =>
      have failed : Value.copiedFields (typeIndex (.str filter) watch).namedFields =
          .error fault := by
        simp [RuleDefinition.namedFields, typeIndex, Value.copiedFields, Value.copied, watched,
          bind, Except.bind]
      rw [failed] at copies
      cases copies
  | ok copy =>
      have made : Value.copiedFields (typeIndex (.str filter) watch).namedFields =
          .ok (typeIndex (.str filter) copy).fields := by
        rw [RuleDefinition.namedFields, typeIndex]
        simp only [Value.copiedFields, watched]
        rfl
      rw [made] at copies
      cases copies
      exact ⟨copy, isRule⟩

/-- What the rule of an index makes of a payload that it admits. -/
theorem reaction_typeIndex {filter : String} {watch : Value} {rule : Rule}
    (isRule : rule.IsOf (typeIndex (.str filter) watch)) (document : Document) (payload : String)
    (newIdentifier : m String) :
    rule.reaction document payload newIdentifier = do
      let expanded ← expand filter (rule.context document payload) newIdentifier
      let identifier ← newIdentifier
      return {
        key := .str ("/indexes/" ++ expanded ++ "/" ++ identifier)
        kind := .str ("index/" ++ filter ++ "@v1")
        data := indexEntry document.key.plain payload
        metadata := some rule.metadata } := by
  have isPath : rule.emitPath = "/indexes/" ++ filter ++ "/$\x7buuid\x7d" :=
    (Value.str.inj isRule.emitPath).symm
  have isType : rule.emit = "index/" ++ filter ++ "@v1" := (Value.str.inj isRule.emit).symm
  simp only [Rule.reaction, isPath, isType, expand_indexKey, isRule.template,
    expandValue_template _ _ (rfl : (rule.context document payload).path = some _) rfl,
    bind_assoc, pure_bind]

variable {ids : Type} {draw : Drawing ids String} {start stop : ids}

/-- The rule of an index fires where it watches and its filter admits, and its reaction is made of
what comes of the filter as a template and of the identifier that is drawn behind it. -/
theorem fire?_run_typeIndex {filter : String} {watch : Value} {rule : Rule}
    (isRule : rule.IsOf (typeIndex (.str filter) watch)) {document reaction : Document} :
    (rule.fire? document draw).run start = .ok (some reaction, stop) ↔
      ∃ payload expanded middle identifier,
        rule.watches document.key = .ok true ∧ payloadText document.data = .ok payload ∧
        rule.admits payload = true ∧
        (expand filter (rule.context document payload) draw).run start = .ok (expanded, middle) ∧
        draw.run middle = .ok (identifier, stop) ∧
        reaction = {
          key := .str ("/indexes/" ++ expanded ++ "/" ++ identifier)
          kind := .str ("index/" ++ filter ++ "@v1")
          data := indexEntry document.key.plain payload
          metadata := some rule.metadata } := by
  rw [Rule.fire?_run]
  constructor
  · rintro ⟨payload, watches, readable, admitted, made⟩
    rw [reaction_typeIndex isRule] at made
    obtain ⟨expanded, middle, ran, made⟩ := drawing_bind_eq_ok.mp made
    obtain ⟨identifier, last, drawn, made⟩ := drawing_bind_eq_ok.mp made
    cases made
    exact ⟨payload, expanded, middle, identifier, watches, readable, admitted, ran, drawn, rfl⟩
  · rintro ⟨payload, expanded, middle, identifier, watches, readable, admitted, ran, drawn, rfl⟩
    refine ⟨payload, watches, readable, admitted, ?_⟩
    rw [reaction_typeIndex isRule]
    exact drawing_bind_eq_ok.mpr ⟨expanded, middle, ran,
      drawing_bind_eq_ok.mpr ⟨identifier, stop, drawn, rfl⟩⟩

/-- Where the rule of an index fires, its type has the filter as it is written, and its key has what
comes of the filter as a template, and then one identifier. The filter draws an identifier of its
own for each placeholder in it that asks for one. If no placeholder is written in the filter, it
stands in the key as it is, and one identifier is drawn. -/
theorem fire?_typeIndex {filter : String} {watch : Value} {rule : Rule}
    (compiled : Rule.compile (.definition (typeIndex (.str filter) watch)) = .ok rule)
    {document reaction : Document}
    (fired : (rule.fire? document draw).run start = .ok (some reaction, stop)) :
    ∃ payload expanded middle identifier own,
      payloadText document.data = .ok payload ∧
      (expand filter (rule.context document payload) draw).run start = .ok (expanded, middle) ∧
      draw.run middle = .ok (identifier, stop) ∧
      reaction = {
        key := .str ("/indexes/" ++ expanded ++ "/" ++ identifier)
        kind := .str ("index/" ++ filter ++ "@v1")
        data := indexEntry document.key.plain payload
        metadata := some rule.metadata } ∧
      Draws draw start (own ++ [identifier]) stop ∧
      own.length = (TemplatePart.read filter).countP TemplatePart.asks ∧
      (IsLiteral filter.toList → expanded = filter ∧ own = []) := by
  obtain ⟨copy, isRule⟩ := exists_isOf_of_compile compiled
  obtain ⟨payload, expanded, middle, identifier, -, readable, -, ran, drawn, made⟩ :=
    (fire?_run_typeIndex isRule).mp fired
  obtain ⟨own, fragments, draws, receives, -⟩ := expandParts_run.mp ran
  refine ⟨payload, expanded, middle, identifier, own, readable, ran, drawn, made,
    draws_append.mpr ⟨middle, draws, .cons drawn (.nil stop)⟩, receives.count_eq,
    fun literal => ⟨?_, ?_⟩⟩
  · rw [expand_literal literal] at ran
    cases ran
    rfl
  · apply List.length_eq_zero_iff.mp
    rw [receives.count_eq, read_literal literal, List.countP_eq_zero]
    simp [TemplatePart.asks]

/-- The rule of an index of everything, with the pattern of its filter. -/
def indexRule (filter : String) : Rule where
  name := "index-" ++ filter
  watch := "/**"
  glob := Glob.compile "/**"
  emit := "index/" ++ filter ++ "@v1"
  emitPath := "/indexes/" ++ filter ++ "/$\x7buuid\x7d"
  template := (typeIndex (.str filter) everything).template
  extract := none
  guard := (Regex.Pattern.parse filter {}).toOption
  veto := none
  following := none

/-- A document with a text as its payload. -/
def noted (payload : String) : Document := ⟨.str "/box/k", .str "note", .str payload, none⟩

/-- A filter may have dollar signs and braces, as long as no placeholder is written in it. -/
theorem fire?_typeIndex_of_counted :
    Rule.compile (.definition (typeIndex (.str "a\x7b2\x7d$") everything)) =
        .ok (indexRule "a\x7b2\x7d$") ∧
      ((indexRule "a\x7b2\x7d$").fire? (noted "baa") numbered).run 7 = .ok (some {
        key := .str "/indexes/a\x7b2\x7d$/7"
        kind := .str "index/a\x7b2\x7d$@v1"
        data := indexEntry "/box/k" "baa"
        metadata := some (indexRule "a\x7b2\x7d$").metadata }, 8) ∧
      IsLiteral "a\x7b2\x7d$".toList ∧ ∃ identifier, Draws numbered 7 [identifier] 8 := by
  have compiled : Rule.compile (.definition (typeIndex (.str "a\x7b2\x7d$") everything)) =
      .ok (indexRule "a\x7b2\x7d$") := rfl
  have literal : IsLiteral "a\x7b2\x7d$".toList := by decide +kernel
  have watched : (indexRule "a\x7b2\x7d$").glob.isMatch "/box/k" = true := by decide +kernel
  obtain ⟨_, isRule⟩ := exists_isOf_of_compile compiled
  have fired : ((indexRule "a\x7b2\x7d$").fire? (noted "baa") numbered).run 7 = _ :=
    (fire?_run_typeIndex isRule).mpr ⟨"baa", "a\x7b2\x7d$", 7,
      "7", congrArg Except.ok watched, rfl, by decide +kernel, by rw [expand_literal literal]; rfl,
      rfl, rfl⟩
  obtain ⟨_, _, _, identifier, own, -, -, -, -, draws, -, whole⟩ := fire?_typeIndex compiled fired
  obtain ⟨-, rfl⟩ := whole literal
  exact ⟨compiled, fired, literal, identifier, draws⟩

/-- A placeholder in the filter is expanded in the key, and draws an identifier of its own. -/
theorem typeIndex_expands_filter :
    Rule.compile (.definition (typeIndex (.str "a|$\x7buuid\x7d") everything)) =
        .ok (indexRule "a|$\x7buuid\x7d") ∧
      ((indexRule "a|$\x7buuid\x7d").fire? (noted "a") numbered).run 0 = .ok (some {
        key := .str "/indexes/a|0/1"
        kind := .str "index/a|$\x7buuid\x7d@v1"
        data := indexEntry "/box/k" "a"
        metadata := some (indexRule "a|$\x7buuid\x7d").metadata }, 2) := by
  have compiled : Rule.compile (.definition (typeIndex (.str "a|$\x7buuid\x7d") everything)) =
      .ok (indexRule "a|$\x7buuid\x7d") := rfl
  have watched : (indexRule "a|$\x7buuid\x7d").glob.isMatch "/box/k" = true := by decide +kernel
  obtain ⟨_, isRule⟩ := exists_isOf_of_compile compiled
  refine ⟨compiled, ?_⟩
  exact (fire?_run_typeIndex isRule).mpr ⟨"a", "a|0", 1, "1",
    congrArg Except.ok watched, rfl, by decide +kernel, rfl, rfl, rfl⟩

end Preset

end Structex
