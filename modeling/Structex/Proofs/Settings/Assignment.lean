import Structex.Proofs.Yaml.Reading

/-!
# Setting a key

A value is put under a key of a layer by going along the parts of the key and making the sections
that are missing. That either comes to something that is no section and changes nothing at all, or
puts the value there and leaves everything else: what the layer has beside the key, and the other
layers. A section may be shared within a layer, as those of a file are that an alias stands for;
then the value stands under every key that leads to the same entry, and beside the key is what is
beside all of them.
-/

namespace Structex.Settings

variable {settings : Settings} {layer : Layer}

theorem at?_withLayer_same (settings : Settings) (layer : Layer) (content : Shared)
    (path : List String) :
    (settings.withLayer layer (some content)).at? path layer = Value.at? path content.value :=
  at?_of_layer (layer_withLayer_same settings layer (some content)) path

/-- Replacing a layer by what it holds changes nothing. -/
theorem withLayer_of_held {content : Option Shared} (present : settings.held layer = content) :
    settings.withLayer layer content = settings := by
  have same : (fun other => if other = layer then content else settings.held other) =
      settings.held := by
    funext other
    split
    case isTrue isLayer => rw [isLayer, present]
    case isFalse => rfl
  rw [withLayer, same]

/-- Behind some key a layer has what its content has there. -/
theorem at?_eq_contentOf (settings : Settings) (layer : Layer) {path : List String}
    (behind : path ≠ []) :
    settings.at? path layer = ((settings.contentOf layer).at? path).map Shared.value := by
  rw [at?, Settings.layer, contentOf]
  cases settings.held layer with
  | some content => exact Shared.at?_value path content
  | none =>
      cases path with
      | nil => exact absurd rfl behind
      | cons part rest => rfl

/-- Something that is no section stands on the way to a path of a layer. -/
def Obstructs (settings : Settings) (path : List String) (layer : Layer) : Prop :=
  ∃ before held, before <+: path ∧ before ≠ path ∧ settings.at? before layer = some held ∧
    held.isMap = false

theorem obstructs_iff {path : List String} :
    settings.Obstructs path layer ↔ Value.Blocks path (settings.contentOf layer).value := by
  rw [contentOf]
  cases present : settings.held layer with
  | none =>
      refine iff_of_false ?_ (Value.not_blocks_empty path)
      rintro ⟨before, held, -, -, reached, -⟩
      rw [at?, Settings.layer, present] at reached
      cases reached
  | some content =>
      have holds : settings.layer layer = some content.value := by
        rw [Settings.layer, present, Option.map_some]
      rw [Option.getD_some, Value.blocks_iff]
      constructor
      · rintro ⟨before, held, ⟨rest, rfl⟩, differs, reached, noMap⟩
        rw [at?_of_layer holds] at reached
        cases rest with
        | nil => exact absurd (List.append_nil before).symm differs
        | cons part after => exact ⟨before, part, after, held, rfl, reached, noMap⟩
      · rintro ⟨before, part, after, held, rfl, reached, noMap⟩
        exact ⟨before, held, List.prefix_append .., by simp,
          (at?_of_layer holds before).trans reached, noMap⟩

/-- Setting a key step by step either comes to the end or leaves the settings as they were. -/
theorem setInPlace_eq (consistent : (settings.contentOf layer).Consistent) (key : String)
    (value : Shared) : settings.setInPlace key value layer =
      match Shared.assign value (parts key) (settings.contentOf layer) with
      | .ok content => (settings.withLayer layer (some content), .ok ())
      | .error fault => (settings, .error fault) := by
  rw [setInPlace, Shared.assignInPlace_eq consistent]
  cases done : Shared.assign value (parts key) (settings.contentOf layer) with
  | ok content => rfl
  | error fault =>
      cases present : settings.held layer with
      | none =>
          rw [contentOf, present, Option.getD_none] at done
          have free : ∃ result, Shared.assign value (parts key) (.map none []) = .ok result :=
            Shared.exists_assign_iff.mpr (Value.not_blocks_empty _)
          obtain ⟨content, made⟩ := free
          cases done.symm.trans made
      | some content =>
          dsimp only
          rw [contentOf, present, Option.getD_some, withLayer_of_held present]

section Done

variable {key : String} {value content : Shared} {target : Layer}

/-- What is set stands under every key that leads to the same entry of the layer. -/
theorem at?_set_same (consistent : (settings.contentOf target).Consistent)
    (done : Shared.assign value (parts key) (settings.contentOf target) = .ok content)
    {other : List String} (same : (settings.contentOf target).SameEntry (parts key) other) :
    (settings.withLayer target (some content)).at? other target = some value.value := by
  rw [at?_withLayer_same, Shared.at?_value]
  exact Shared.at?_assign_of_sameEntry consistent done same

/-- What the layer has beside these keys stays, unless the section that is changed stands in it. -/
theorem at?_set_apart (consistent : (settings.contentOf target).Consistent)
    (done : Shared.assign value (parts key) (settings.contentOf target) = .ok content)
    {path : List String}
    (apart : ∀ other, (settings.contentOf target).SameEntry (parts key) other →
      ¬ path <+: other ∧ ¬ other <+: path)
    (free : ¬ (settings.contentOf target).Involves (parts key) path) :
    (settings.withLayer target (some content)).at? path target = settings.at? path target := by
  have behind : path ≠ [] := by
    rintro rfl
    exact (apart _ (.inl rfl)).1 List.nil_prefix
  rw [at?_withLayer_same, Shared.at?_value, at?_eq_contentOf settings target behind]
  exact Shared.at?_assign_of_apart consistent done apart free

/-- In a layer in which nothing is shared, everything beside the key stays. -/
theorem at?_set_of_unmarked (unmarked : (settings.contentOf target).Unmarked)
    (done : Shared.assign value (parts key) (settings.contentOf target) = .ok content)
    {path : List String} (notBefore : ¬ path <+: parts key) (notBelow : ¬ parts key <+: path) :
    (settings.withLayer target (some content)).at? path target = settings.at? path target := by
  refine at?_set_apart unmarked.consistent done (fun other same => ?_) (unmarked.not_involves _ _)
  rw [unmarked.sameEntry_iff.mp same]
  exact ⟨notBefore, notBelow⟩

/-- The lookup of the key finds what is set unless it is null or a higher layer has something. -/
theorem find?_set (consistent : (settings.contentOf target).Consistent)
    (done : Shared.assign value (parts key) (settings.contentOf target) = .ok content)
    (notNull : value.value.isNull = false)
    (above : ∀ other, target.number < other.number →
      settings.at? (parts key) other = none ∨ settings.at? (parts key) other = some .null) :
    (settings.withLayer target (some content)).find? key = some (value.value, target) := by
  refine find?_eq_some_iff.mpr ⟨inLayer?_eq_some_iff.mpr
    ⟨at?_set_same consistent done (.inl rfl), notNull⟩, ?_⟩
  intro other higher
  have differs : other ≠ target := by
    rintro rfl
    exact Nat.lt_irrefl _ higher
  rw [inLayer?_eq_none_iff, at?, layer_withLayer_other differs, ← at?]
  exact above other higher

end Done

/-- Setting a key fails exactly if something that is no section stands on the way to it in its
layer, and then changes nothing. Otherwise the layer has the value under the key afterwards, and
under every other key that leads to the same entry of a shared section. What lies apart from all of
these keys stays as it was, unless the section that is changed stands in it, as in a list; the other
layers and the files stay in any case. The key is found in the layer unless the value is null or a
higher layer has something other than null there. -/
theorem setInPlace_lawful (settings : Settings) (key : String) (value : Shared) (target : Layer)
    (consistent : (settings.contentOf target).Consistent) :
    match settings.setInPlace key value target with
    | (after, .error _) => settings.Obstructs (parts key) target ∧ after = settings
    | (after, .ok ()) =>
      ¬ settings.Obstructs (parts key) target ∧
      (∀ other, (settings.contentOf target).SameEntry (parts key) other →
        after.at? other target = some value.value) ∧
      (∀ path, (∀ other, (settings.contentOf target).SameEntry (parts key) other →
          ¬ path <+: other ∧ ¬ other <+: path) →
        ¬ (settings.contentOf target).Involves (parts key) path →
        after.at? path target = settings.at? path target) ∧
      (∀ other, other ≠ target → after.held other = settings.held other) ∧
      after.files = settings.files ∧
      (value.value.isNull = false →
        (∀ other, target.number < other.number →
          settings.at? (parts key) other = none ∨ settings.at? (parts key) other = some .null) →
        after.find? key = some (value.value, target) ∧
          ∀ default, after.getD key default = value.value) := by
  rw [setInPlace_eq consistent, obstructs_iff]
  cases done : Shared.assign value (parts key) (settings.contentOf target) with
  | error fault =>
      refine ⟨?_, rfl⟩
      by_contra free
      obtain ⟨content, made⟩ := Shared.exists_assign_iff.mpr free
      cases done.symm.trans made
  | ok content =>
      refine ⟨Shared.exists_assign_iff.mp ⟨content, done⟩,
        fun other => at?_set_same consistent done, fun path => at?_set_apart consistent done,
        fun other differs => if_neg differs, rfl, fun notNull above => ?_⟩
      have found := find?_set consistent done notNull above
      exact ⟨found, getD_of_find? found⟩

/-- Two sections of a file that are one. -/
def aliasedSections : Files :=
  [("a.yaml", .text "\"a\": &s \x7b\x7d\n\"b\": *s\n")]

/-- The settings that the file is read into as a layer. -/
def aliasedSettings : Settings :=
  [Action.loadFile aliasedSections "a.yaml" .user].foldl (Action.perform Yaml.reader) initial

/-- What is set in one of the sections is there under both names. -/
theorem setInPlace_lawful_of_aliasedSettings :
    (aliasedSettings.contentOf .user).Consistent ∧
      let after := (aliasedSettings.setInPlace "a.level" (Value.str "ERROR") .user).1
      after.at? ["a", "level"] .user = some (.str "ERROR") ∧
      after.at? ["b", "level"] .user = some (.str "ERROR") ∧
      after.find? "a.level" = some (.str "ERROR", .user) := by
  have consistent : (aliasedSettings.contentOf .user).Consistent :=
    consistent_of_actions (Yaml.reader_makes Yaml.consistent_of_read)
      (by simp [Action.Brings]) .user
  have whole := setInPlace_lawful aliasedSettings "a.level" (Value.str "ERROR") .user consistent
  have done : (aliasedSettings.setInPlace "a.level" (Value.str "ERROR") .user).2 = .ok () := by
    decide +kernel
  have key : parts "a.level" = ["a", "level"] := by decide +kernel
  have first : (aliasedSettings.contentOf .user).LeadsTo ["a"] 1 := by decide +kernel
  have second : (aliasedSettings.contentOf .user).LeadsTo ["b"] 1 := by decide +kernel
  have above : ∀ other, Layer.user.number < other.number →
      aliasedSettings.at? ["a", "level"] other = none := by
    intro other higher
    rw [← Option.isNone_iff_eq_none]
    revert higher
    cases other <;> decide +kernel
  generalize aliasedSettings.setInPlace "a.level" (Value.str "ERROR") .user = outcome at whole done
  obtain ⟨after, result⟩ := outcome
  cases done
  rw [key] at whole
  obtain ⟨-, same, -, -, -, found⟩ := whole
  refine ⟨consistent, same _ (.inl rfl), same _ (.inr ?_),
    (found rfl fun other higher => .inl (above other higher)).1⟩
  exact ⟨1, ["a"], ["b"], ["level"], by simp, rfl, rfl, first, second⟩

/-- So a key that neither leads to the one that is set nor lies below it does not stay. -/
theorem setInPlace_reaches_alias :
    let (after, outcome) := aliasedSettings.setInPlace "a.level" (Value.str "ERROR") .user
    outcome = .ok () ∧ ¬ parts "b.level" <+: parts "a.level" ∧
      ¬ parts "a.level" <+: parts "b.level" ∧
      aliasedSettings.at? (parts "b.level") .user = none ∧
      after.at? (parts "b.level") .user ≠ none := by
  simp only [← Option.isSome_iff_ne_none, ← Option.isNone_iff_eq_none]
  decide +kernel

end Structex.Settings
