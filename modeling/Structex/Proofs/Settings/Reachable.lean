import Structex.Proofs.Settings.Lookup
import Structex.Proofs.Value.SharedPlacement
import Structex.Settings.Environment
import Structex.Settings.Loading

/-!
# Settings that can be reached

What every layer holds has a property in the settings that a program starts with and in all that
follow, if plain values have it, what the reader makes of texts has it, and it goes on when
something is put under a path (`Lasting`). Two properties are such, as long as the values that the
caller hands over and those that its reader makes have them: mappings have each of their keys once,
and the places of a shared mapping hold the same.
-/

namespace Structex

/-- What the reader makes of texts has a property. -/
def TextReader.Makes (reader : TextReader) (property : Shared → Prop) : Prop :=
  ∀ {text : String} {content : Shared}, reader text = .ok content → property content

/-- So has the content of a file. -/
theorem Files.property_of_content {reader : TextReader} {property : Shared → Prop}
    (makes : reader.Makes property) {files : Files} {path : String} {content : Shared}
    (read : files.content reader path = .ok content) : property content := by
  rw [Files.content] at read
  split at read
  case h_5 text _ =>
    cases parsed : reader text with
    | error fault =>
        rw [parsed] at read
        cases read
    | ok found =>
        rw [parsed] at read
        cases read
        exact makes parsed
  all_goals cases read

namespace Environment

/-- The text of a variable is taken for a truth value or a number, or stays a text. -/
theorem value_cases (text : String) :
    (∃ flag, value text = .bool flag) ∨ (∃ number, value text = .int number) ∨
      (∃ number, value text = .float number) ∨ value text = .str text := by
  unfold value
  dsimp only
  split
  · exact .inl ⟨true, rfl⟩
  · split
    · exact .inl ⟨false, rfl⟩
    · split
      · exact .inr (.inl ⟨_, rfl⟩)
      · exact .inr (.inr (.inl ⟨_, rfl⟩))
      · exact .inr (.inr (.inr rfl))

/-- The value of a variable is no mapping. -/
theorem isMap_value (text : String) : (value text).isMap = false := by
  rcases value_cases text with ⟨_, same⟩ | ⟨_, same⟩ | ⟨_, same⟩ | same <;> rw [same] <;> rfl

/-- Nor is it null. -/
theorem isNull_value (text : String) : (value text).isNull = false := by
  rcases value_cases text with ⟨_, same⟩ | ⟨_, same⟩ | ⟨_, same⟩ | same <;> rw [same] <;> rfl

/-- Setting variables keeps the keys apart. -/
theorem hasDistinctKeys_of_assigned {content result : Value} (distinct : content.HasDistinctKeys)
    {assignments : List (String × String)} (done : assignments.foldlM assign content = .ok result) :
    result.HasDistinctKeys := by
  induction assignments generalizing content with
  | nil =>
      cases done
      exact distinct
  | cons setting rest inductionHypothesis =>
      obtain ⟨middle, first, others⟩ := bind_eq_ok_iff.mp done
      refine inductionHypothesis ?_ others
      rw [assign] at first
      split at first
      · exact Value.HasDistinctKeys.putAt (.leaf (isMap_value _)) distinct first
      · cases first
        exact distinct

end Environment

namespace Settings

/-- What can be done with settings; the values and the texts come from the caller. -/
inductive Action where
  | set (key : String) (value : Shared) (layer : Layer)
  | load (content : Shared) (layer : Layer)
  | loadFile (files : Files) (path : String) (layer : Layer)
  | reload (files : Files)
  | loadEnvironment (assignments : List (String × String))
  | clearLayer (layer : Layer)
  | clear

namespace Action

/-- The settings after an action, as far as it gets if it fails. -/
def perform (reader : TextReader) (settings : Settings) : Action → Settings
  | .set key value layer => (settings.setInPlace key value layer).1
  | .load content layer => settings.load content layer
  | .loadFile files path layer => (settings.loadFile reader files path layer).toOption.getD settings
  | .reload files => (settings.reload reader files).1
  | .loadEnvironment assignments => (settings.loadEnvironment assignments).toOption.getD settings
  | .clearLayer layer => settings.clearLayer layer
  | .clear => settings.clear

/-- What an action puts under a key is allowed, and what it brings as a layer has a property. -/
def Brings (allowed property : Shared → Prop) : Action → Prop
  | .set _ value _ => allowed value
  | .load content _ => property content
  | _ => True

end Action

/-- A property of contents that lasts: plain values have it, what the reader makes has it, and a
content keeps it when something that is allowed is put under a path, as far as that gets. -/
structure Lasting (reader : TextReader) (allowed property : Shared → Prop) : Prop where
  plain : ∀ {value : Value}, value.HasDistinctKeys → property (.ofValue value)
  read : reader.Makes property
  put : ∀ {new content : Shared} (path : List String), allowed new → property content →
    property (Shared.assignInPlace new path content).1

/-- What the layers hold has a property. -/
def Holds (settings : Settings) (property : Shared → Prop) : Prop :=
  ∀ layer content, settings.held layer = some content → property content

variable {reader : TextReader} {settings : Settings} {allowed property : Shared → Prop}

/-- Variables leave the settings as they are or make a layer of what they set. -/
theorem loadEnvironment_cases {assignments : List (String × String)} {after : Settings}
    (done : settings.loadEnvironment assignments = .ok after) :
    after = settings ∨
      ∃ content, assignments.foldlM Environment.assign (Value.map []) = .ok content ∧
        after = settings.withLayer .environment (some (mapping [(ownKey, content)])) := by
  obtain ⟨content, assigned, done⟩ := bind_eq_ok_iff.mp done
  split at done
  · cases done
    exact .inl rfl
  · cases done
    exact .inr ⟨content, assigned, rfl⟩

theorem defaults_hasDistinctKeys : defaults.HasDistinctKeys := by
  simp +decide [mapping, Value.hasDistinctKeys_map_iff, Entries.Distinct,
    Value.HasDistinctKeys.leaf, defaults]

theorem Holds.withLayer (holds : settings.Holds property) {layer : Layer}
    {content : Option Shared} (inner : ∀ value, content = some value → property value) :
    (settings.withLayer layer content).Holds property := by
  intro other value present
  dsimp only [Settings.withLayer] at present
  split at present
  · exact inner value present
  · exact holds other value present

/-- A layer that is replaced holds what replaces it. -/
theorem Holds.withContent (holds : settings.Holds property) {layer : Layer} {content : Shared}
    (inner : property content) : (settings.withLayer layer (some content)).Holds property :=
  holds.withLayer fun _ isContent => Option.some.inj isContent ▸ inner

namespace Lasting

variable (lasting : Lasting reader allowed property)
include lasting

theorem initial : Settings.initial.Holds property := by
  intro layer content present
  dsimp only [Settings.initial] at present
  split at present <;> cases present
  exact lasting.plain defaults_hasDistinctKeys

theorem contentOf (holds : settings.Holds property) (layer : Layer) :
    property (settings.contentOf layer) := by
  rw [Settings.contentOf]
  cases present : settings.held layer with
  | none => exact lasting.plain .empty
  | some content => exact holds layer content present

theorem loadFile (holds : settings.Holds property) {files : Files} {path : String} {layer : Layer}
    {after : Settings} (done : settings.loadFile reader files path layer = .ok after) :
    after.Holds property := by
  rw [Settings.loadFile] at done
  split at done
  case h_1 mark entries read =>
    cases done
    exact holds.withContent (Files.property_of_content lasting.read read)
  case h_2 => cases done
  case h_3 => cases done

theorem loadFiles (holds : settings.Holds property) (files : Files)
    (paths : List (String × Layer)) : (settings.loadFiles reader files paths).1.Holds property := by
  induction paths generalizing settings with
  | nil => exact holds
  | cons entry rest inductionHypothesis =>
      obtain ⟨path, layer⟩ := entry
      rw [Settings.loadFiles]
      split
      case h_1 => exact holds
      case h_2 after done => exact inductionHypothesis (lasting.loadFile holds done)

theorem loadEnvironment (holds : settings.Holds property) {assignments : List (String × String)}
    {after : Settings} (done : settings.loadEnvironment assignments = .ok after) :
    after.Holds property := by
  rcases loadEnvironment_cases done with rfl | ⟨content, assigned, rfl⟩
  · exact holds
  · have inner := Environment.hasDistinctKeys_of_assigned .empty assigned
    refine holds.withContent
      (lasting.plain (.map (List.pairwise_singleton _ _) fun entry member => ?_))
    rw [List.mem_singleton.mp member]
    exact inner

/-- Every action goes on with the property, if what it brings has it. -/
theorem perform (holds : settings.Holds property) {action : Action}
    (brings : action.Brings allowed property) :
    (action.perform reader settings).Holds property := by
  cases action with
  | set key value layer =>
      exact holds.withContent (lasting.put _ brings (lasting.contentOf holds layer))
  | load content layer => exact holds.withContent brings
  | loadFile files path layer =>
      rw [Action.perform]
      cases done : settings.loadFile reader files path layer with
      | error fault => exact holds
      | ok after => exact lasting.loadFile holds done
  | reload files => exact lasting.loadFiles holds files _
  | loadEnvironment assignments =>
      rw [Action.perform]
      cases done : settings.loadEnvironment assignments with
      | error fault => exact holds
      | ok after => exact lasting.loadEnvironment holds done
  | clearLayer layer =>
      rw [Action.perform, Settings.clearLayer]
      split
      · exact holds
      · exact holds.withLayer fun _ absent => nomatch absent
  | clear =>
      intro layer content present
      dsimp only [Action.perform, Settings.clear] at present
      split at present
      · exact holds layer content present
      · cases present

/-- Whatever is done from the defaults on, what the layers hold has the property. -/
theorem of_actions {actions : List Action}
    (brings : ∀ action ∈ actions, action.Brings allowed property) :
    (actions.foldl (Action.perform reader) Settings.initial).Holds property :=
  List.foldlRecOn (motive := (·.Holds property)) actions (Action.perform reader) lasting.initial
    fun _ holds action member => lasting.perform holds (brings action member)

end Lasting

/-- Every mapping that a path can lead to has each key once, whatever is done from the defaults
on. -/
theorem hasDistinctKeys_of_actions (ofReader : reader.Makes (·.value.HasDistinctKeys))
    {actions : List Action} (brings : ∀ action ∈ actions,
      action.Brings (·.value.HasDistinctKeys) (·.value.HasDistinctKeys)) :
    (actions.foldl (Action.perform reader) initial).HasDistinctKeys := by
  have lasting : Lasting reader (·.value.HasDistinctKeys) (·.value.HasDistinctKeys) :=
    { plain := fun distinct => (Shared.value_ofValue _).symm ▸ distinct
      read := ofReader
      put := fun path inner distinct => Shared.hasDistinctKeys_of_assigned inner distinct path }
  intro layer content present
  obtain ⟨held, there, rfl⟩ := Option.map_eq_some_iff.mp present
  exact lasting.of_actions brings layer held there

/-- The places of a shared mapping hold the same, whatever is done from the defaults on with values
in which nothing is shared. -/
theorem consistent_of_actions (ofReader : reader.Makes (·.Consistent)) {actions : List Action}
    (brings : ∀ action ∈ actions, action.Brings (·.Unmarked) (·.Consistent)) (layer : Layer) :
    ((actions.foldl (Action.perform reader) initial).contentOf layer).Consistent := by
  have lasting : Lasting reader (·.Unmarked) (·.Consistent) :=
    { plain := fun _ => (Shared.unmarked_ofValue _).consistent
      read := ofReader
      put := fun path unmarked consistent => Shared.consistent_of_assigned consistent
        unmarked.consistent (fun _ _ _ occurs _ => unmarked occurs) path }
  exact lasting.contentOf (lasting.of_actions brings) layer

end Settings

end Structex
