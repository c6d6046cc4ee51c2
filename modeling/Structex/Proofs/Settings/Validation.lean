import Structex.Proofs.Settings.Lookup
import Structex.Settings.Schema

/-!
# What a schema promises to readers

Settings that fit a schema fit it as a whole: the layers laid over each other have values of the
kinds that the leaves ask for, or null, or nothing. Readers look keys up through the layers instead.
They find a value of the right kind too, unless a layer above hides it from the whole, where it was
never checked. The two are told apart by `Settings.compare`.
-/

namespace Structex

/-- Whether a test admits a value: it asks for the kind of the value, or one of its tests does. -/
inductive KindTest.Admits (value : Value) : KindTest → Prop
  | kind {wanted : Kind} (holds : wanted.holds value = true) : Admits value (.kind wanted)
  | any {tests : List KindTest} {test : KindTest} (member : test ∈ tests)
      (admits : Admits value test) : Admits value (.any tests)

namespace KindTest

mutual

/-- A value that passes a test is admitted by it. -/
theorem admits_of_passes {value : Value} {test : KindTest}
    (passed : passes value test = .ok true) : test.Admits value := by
  cases test with
  | kind wanted =>
      rw [passes] at passed
      exact .kind (Except.ok.inj passed)
  | any tests =>
      rw [passes] at passed
      obtain ⟨test, member, admits⟩ := admits_of_passesAny passed
      exact .any member admits
  | noKind =>
      rw [passes] at passed
      cases passed

/-- A value that passes one of several tests is admitted by one of them. -/
theorem admits_of_passesAny {value : Value} {tests : List KindTest}
    (passed : passesAny value tests = .ok true) : ∃ test ∈ tests, test.Admits value := by
  cases tests with
  | nil =>
      rw [passesAny] at passed
      cases passed
  | cons test rest =>
      rw [passesAny] at passed
      cases first : passes value test with
      | error fault =>
          rw [first] at passed
          cases passed
      | ok admitted =>
          rw [first] at passed
          cases admitted with
          | true => exact ⟨test, List.mem_cons_self, admits_of_passes first⟩
          | false =>
              obtain ⟨other, member, admits⟩ := admits_of_passesAny passed
              exact ⟨other, List.mem_cons_of_mem _ member, admits⟩

end

/-- Tests do not look into mappings. -/
theorem Admits.of_alike {value other : Value} {test : KindTest} (admits : test.Admits value)
    (alike : other.Alike value) : test.Admits other := by
  rcases alike with rfl | ⟨otherMap, valueMap⟩
  · exact admits
  · induction admits with
    | @kind wanted holds =>
        refine .kind (holds ▸ ?_)
        cases value with
        | map entries =>
            cases other with
            | map others => exact wanted.ofMap others entries
            | _ => cases otherMap
        | _ => cases valueMap
    | any member _ inductionHypothesis => exact .any member inductionHypothesis

end KindTest

namespace Schema

/-- The leaves of a schema, each with its path. -/
inductive HasLeaf : List (String × Schema) → List String → KindTest → Prop
  | leaf {fields : List (String × Schema)} {key : String} {test : KindTest}
      (member : (key, .leaf test) ∈ fields) : HasLeaf fields [key] test
  | within {fields inner : List (String × Schema)} {key : String} {rest : List String}
      {test : KindTest} (member : (key, .mapping inner) ∈ fields)
      (further : HasLeaf inner rest test) : HasLeaf fields (key :: rest) test

/-- Entries fit fields if what they have under the key of each fits its schema. -/
theorem checkFields_eq_ok_iff {before : String} {entries : Entries}
    {fields : List (String × Schema)} :
    checkFields before entries fields = .ok () ↔
      ∀ field ∈ fields, ∀ value, entries.get? field.1 = some value →
        checkValue (before ++ field.1) value field.2 = .ok () := by
  induction fields with
  | nil => simp [checkFields]
  | cons field rest inductionHypothesis =>
      rw [checkFields, List.forall_mem_cons, ← inductionHypothesis]
      cases entries.get? field.1 with
      | none => simp
      | some item =>
          cases checked : checkValue (before ++ field.1) item field.2 with
          | error fault => simp [checked, bind, Except.bind]
          | ok done => simp [checked, bind, Except.bind]

/-- A value other than null fits a leaf only if it passes its test. -/
theorem passes_of_checkValue {path : String} {value : Value} {test : KindTest}
    (fits : checkValue path value (.leaf test) = .ok ()) (notNull : value.isNull = false) :
    test.passes value = .ok true := by
  rw [checkValue, notNull, if_neg Bool.false_ne_true] at fits
  cases passed : test.passes value with
  | error fault =>
      rw [passed] at fits
      cases fits
  | ok admitted =>
      rw [passed] at fits
      cases admitted with
      | false => cases fits
      | true => rfl

/-- Only a mapping fits a schema with fields. -/
theorem checkFields_of_checkValue {path : String} {value : Value} {fields : List (String × Schema)}
    (fits : checkValue path value (.mapping fields) = .ok ()) :
    ∃ entries, value = .map entries ∧ checkFields (path ++ ".") entries fields = .ok () := by
  cases value with
  | map entries => exact ⟨entries, rfl, by rwa [checkValue] at fits⟩
  | _ =>
      rw [checkValue] at fits
      · cases fits
      · exact nofun

/-- What entries that fit have at a leaf is null, or the leaf admits it. -/
theorem HasLeaf.admits {fields : List (String × Schema)} {path : List String} {test : KindTest}
    (leaf : HasLeaf fields path test) {before : String} {entries : Entries}
    (fits : checkFields before entries fields = .ok ()) {value : Value}
    (held : Value.at? path (.map entries) = some value) (notNull : value.isNull = false) :
    test.Admits value := by
  induction leaf generalizing before entries with
  | leaf member =>
      rw [Value.at?_key] at held
      have checked := checkFields_eq_ok_iff.mp fits _ member value held
      exact KindTest.admits_of_passes (passes_of_checkValue checked notNull)
  | within member _ inductionHypothesis =>
      obtain ⟨item, here, further⟩ := Option.bind_eq_some_iff.mp held
      obtain ⟨inner, rfl, innerFits⟩ :=
        checkFields_of_checkValue (checkFields_eq_ok_iff.mp fits _ member item here)
      exact inductionHypothesis innerFits further

/-- A leaf stands under a key. -/
theorem HasLeaf.path_ne_nil {fields : List (String × Schema)} {path : List String}
    {test : KindTest} (leaf : HasLeaf fields path test) : path ≠ [] := by
  cases leaf <;> exact List.cons_ne_nil _ _

end Schema

namespace Settings

/-- If the settings fit a schema, the lookup of each of its leaves finds nothing, or a value that
the leaf admits, or a value that a higher layer hides from the whole of the settings: that layer
has null at the leaf, or something that is no mapping on the way to it. -/
theorem find?_of_validate (settings : Settings) (distinct : settings.HasDistinctKeys)
    (fields : List (String × Schema)) (valid : settings.validate fields = .ok ())
    (path : List String) (test : KindTest) (leaf : Schema.HasLeaf fields path test)
    (dotFree : ∀ part ∈ path, '.' ∉ part.toList) :
    settings.get? (Text.join '.' path) = none ∨
      ∃ value layer, settings.find? (Text.join '.' path) = some (value, layer) ∧
        (test.Admits value ∨
          ∃ higher, layer.number < higher.number ∧ settings.Hides path higher) := by
  rw [validate] at valid
  cases all : settings.all? with
  | none =>
      rw [all] at valid
      cases valid
  | some whole =>
      rw [all] at valid
      have same := parts_join leaf.path_ne_nil dotFree
      have rising : Layer.all.Pairwise fun lower upper => lower.number < upper.number := by decide
      cases compare distinct (Text.join '.' path) Layer.all all with
      | absent unfound lacks =>
          left
          rw [get?, find?_eq_highest, unfound]
          rfl
      | @shown found value layer first held alike =>
          right
          refine ⟨found, layer, first, .inl ?_⟩
          have notNull := (inLayer?_eq_some_iff.mp (find?_eq_some_iff.mp first).1).2
          have valueNotNull : value.isNull = false := by
            rcases alike with rfl | ⟨-, isMap⟩
            · exact notNull
            · cases value with
              | map entries => rfl
              | _ => cases isMap
          rw [same] at held
          exact (leaf.admits valid held valueNotNull).of_alike alike
      | @hidden found layer higher first lacks above hides =>
          right
          have ordered := List.Pairwise.sublist above rising
          refine ⟨found, layer, first, .inr ⟨higher, ?_, same ▸ hides⟩⟩
          exact (List.pairwise_cons.mp ordered).1 higher List.mem_cons_self

/-- The schema of a section with a text and an integer. -/
def sectionSchema : List (String × Schema) :=
  [("a", .mapping [("b", .leaf (.kind .str)), ("c", .leaf (.any [.kind .int, .kind .bool]))])]

/-- A section that one layer replaces and a higher one restores fits its schema, and the text that
is restored is found. -/
theorem find?_of_validate_of_restored :
    restoredSettings.HasDistinctKeys ∧ restoredSettings.validate sectionSchema = .ok () ∧
    Schema.HasLeaf sectionSchema ["a", "b"] (.kind .str) ∧
    (∀ part ∈ ["a", "b"], '.' ∉ part.toList) ∧
    (restoredSettings.get? "a.b" = none ∨
      ∃ value layer, restoredSettings.find? "a.b" = some (value, layer) ∧
        (KindTest.Admits value (.kind .str) ∨ ∃ higher, layer.number < higher.number ∧
          restoredSettings.Hides ["a", "b"] higher)) := by
  have valid : restoredSettings.validate sectionSchema = .ok () := by rfl
  have leaf : Schema.HasLeaf sectionSchema ["a", "b"] (.kind .str) :=
    .within List.mem_cons_self (.leaf List.mem_cons_self)
  have dotFree : ∀ part ∈ ["a", "b"], '.' ∉ part.toList := by decide
  have joined : Text.join '.' ["a", "b"] = "a.b" := by decide
  have read := find?_of_validate _ restoredSettings_hasDistinctKeys _ valid _ _ leaf dotFree
  rw [joined] at read
  exact ⟨restoredSettings_hasDistinctKeys, valid, leaf, dotFree, read⟩

/-- Settings with a text that the highest layer hides by null. -/
def nulledSettings : Settings :=
  (initial.load (mapping [("a", .str "text")]) .user).load (mapping [("a", .null)]) .runtime

/-- Settings with a text in a section that one layer replaces and a higher one restores without
it. -/
def shadowedSettings : Settings :=
  ((initial.load (mapping [("a", mapping [("b", .str "text")])]) .system).load
    (mapping [("a", .int 5)]) .user).load (mapping [("a", mapping [])]) .runtime

/-- Settings can fit a schema with an integer where a reader finds a text: under null, and under a
section that was replaced and restored. -/
theorem text_read_for_validated_int :
    (nulledSettings.validate [("a", .leaf (.kind .int))] = .ok () ∧
      Schema.HasLeaf [("a", .leaf (.kind .int))] ["a"] (.kind .int) ∧
      nulledSettings.get? "a" = some (.str "text")) ∧
    (shadowedSettings.validate [("a", .mapping [("b", .leaf (.kind .int))])] = .ok () ∧
      Schema.HasLeaf [("a", .mapping [("b", .leaf (.kind .int))])] ["a", "b"] (.kind .int) ∧
      shadowedSettings.get? "a.b" = some (.str "text")) ∧
    ¬ KindTest.Admits (.str "text") (.kind .int) := by
  refine ⟨⟨rfl, .leaf List.mem_cons_self, rfl⟩,
    ⟨rfl, .within List.mem_cons_self (.leaf List.mem_cons_self), rfl⟩, ?_⟩
  intro admits
  cases admits with
  | kind holds => cases holds

end Settings

end Structex
