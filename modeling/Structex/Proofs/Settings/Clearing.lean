import Structex.Proofs.Settings.Interrupted
import Structex.Settings.Schema

/-!
# Clearing

Nothing that is done to other layers reaches the defaults: a value is put into a layer of its own,
and a file is read, and read again, into the layer that it was named for. So the defaults are after
any such actions what they were, whether the actions came to an end or failed on the way, and
clearing leaves just them and an empty table of files. These are the settings of a new start. No
section is shared between layers here; one of the defaults that a caller holds and changes by itself
is not considered.
-/

namespace Structex.Settings

namespace Action

/-- Whether an action is for other layers than the defaults. Taking them away may be asked for. -/
def SparesDefaults : Action → Prop
  | .set _ _ layer | .load _ layer | .loadFile _ _ layer => layer ≠ .defaults
  | _ => True

end Action

/-- Settings whose lowest layer is the defaults, and whose files stand for other layers. -/
structure RestsOnDefaults (settings : Settings) : Prop where
  defaults : settings.held .defaults = some (Shared.ofValue Settings.defaults)
  files : ∀ entry ∈ settings.files, entry.2 ≠ .defaults

theorem initial_restsOnDefaults : initial.RestsOnDefaults where
  defaults := rfl
  files := List.forall_mem_nil _

namespace RestsOnDefaults

variable {settings : Settings} {reader : TextReader} {layer : Layer}

theorem withLayer (rests : settings.RestsOnDefaults) (spares : layer ≠ .defaults)
    (content : Option Shared) : (settings.withLayer layer content).RestsOnDefaults where
  defaults := (if_neg spares.symm).trans rests.defaults
  files := rests.files

theorem loadFile (rests : settings.RestsOnDefaults) (spares : layer ≠ .defaults) {files : Files}
    {path : String} {after : Settings}
    (done : settings.loadFile reader files path layer = .ok after) : after.RestsOnDefaults := by
  obtain ⟨mark, entries, plain, -, -, rfl⟩ := loadFile_eq_ok_iff.mp done
  refine ⟨(rests.withLayer spares _).defaults, fun entry member => ?_⟩
  rcases mem_record member with rfl | known
  · exact spares
  · exact rests.files entry known

/-- Files for other layers can be read up to any of them. -/
theorem loadFiles (rests : settings.RestsOnDefaults) (reader : TextReader) (files : Files)
    {table : List (String × Layer)} (spares : ∀ entry ∈ table, entry.2 ≠ .defaults) :
    (settings.loadFiles reader files table).1.RestsOnDefaults := by
  induction table generalizing settings with
  | nil => exact rests
  | cons entry rest inductionHypothesis =>
      obtain ⟨here, others⟩ := List.forall_mem_cons.mp spares
      rw [Settings.loadFiles]
      split
      case h_1 => exact rests
      case h_2 after done => exact inductionHypothesis (rests.loadFile here done) others

/-- Every action that is for other layers leaves the defaults below them. -/
theorem perform (rests : settings.RestsOnDefaults) {action : Action}
    (spares : action.SparesDefaults) : (action.perform reader settings).RestsOnDefaults := by
  cases action with
  | set key value layer => exact rests.withLayer spares _
  | load content layer => exact rests.withLayer spares _
  | loadFile files path layer =>
      rw [Action.perform]
      cases done : settings.loadFile reader files path layer with
      | error fault => exact rests
      | ok after => exact rests.loadFile spares done
  | reload files => exact rests.loadFiles reader files rests.files
  | loadEnvironment assignments =>
      rw [Action.perform]
      cases done : settings.loadEnvironment assignments with
      | error fault => exact rests
      | ok after =>
          rcases loadEnvironment_cases done with rfl | ⟨content, -, rfl⟩
          · exact rests
          · exact rests.withLayer (by decide) _
  | clearLayer layer =>
      rw [Action.perform, Settings.clearLayer]
      split
      case isTrue => exact rests
      case isFalse spares => exact rests.withLayer spares none
  | clear => exact ⟨rests.defaults, List.forall_mem_nil _⟩

/-- So do several of them. -/
theorem of_actions {actions : List Action} (spares : ∀ action ∈ actions, action.SparesDefaults) :
    (actions.foldl (Action.perform reader) initial).RestsOnDefaults :=
  List.foldlRecOn actions (Action.perform reader) initial_restsOnDefaults
    fun _ rests action member => rests.perform (spares action member)

/-- What clearing leaves are the settings before anything was done. -/
theorem clear_eq (rests : settings.RestsOnDefaults) : settings.clear = initial := by
  rw [clear, initial]
  congr 1
  funext layer
  split
  case isTrue isDefaults => rw [isDefaults, rests.defaults]
  case isFalse => rfl

end RestsOnDefaults

/-- After any actions for other layers than the defaults, some of which may have failed, clearing
leaves the settings of a start without a file and without an environment: every key, the whole and
every schema have the answers of such a start, and reading files again changes nothing. -/
theorem clear_of_actions {reader : TextReader} {actions : List Action}
    (spares : ∀ action ∈ actions, action.SparesDefaults) :
    let cleared := (actions.foldl (Action.perform reader) initial).clear
    (∀ files, start reader files "" none = .ok cleared) ∧
      (∀ key, cleared.find? key = initial.find? key) ∧
      (∀ key default, cleared.getD key default = initial.getD key default) ∧
      cleared.all? = initial.all? ∧
      (∀ fields, cleared.validate fields = initial.validate fields) ∧
      ∀ files, cleared.reload reader files = (cleared, .ok ()) := by
  intro cleared
  have restored : cleared = initial := (RestsOnDefaults.of_actions spares).clear_eq
  rw [restored]
  exact ⟨fun files => rfl, fun key => rfl, fun key default => rfl, rfl, fun fields => rfl,
    fun files => rfl⟩

/-- A file is read and another is missing, a key is set and one below it cannot be, and the defaults
are asked to go. -/
def strayingActions : List Action :=
  [.loadFile twoFiles "a.yaml" .user, .loadFile twoFiles "c.yaml" .system,
    .set "pikesre.logging.level" (Value.str "DEBUG") .runtime,
    .set "pikesre.logging.level.below" (Value.int 1) .runtime, .clearLayer .defaults,
    .reload nameOnly]

/-- Before the level was found in the runtime layer and the key of the file in the user's; then the
first is that of the defaults, and the other is gone. -/
theorem clear_of_actions_of_straying :
    (∀ action ∈ strayingActions, action.SparesDefaults) ∧
      let settings := strayingActions.foldl (Action.perform Yaml.reader) initial
      (settings.find? "pikesre.logging.level").map (·.2) = some .runtime ∧
      (settings.clear.find? "pikesre.logging.level").map (·.2) = some .defaults ∧
      settings.clear.reload Yaml.reader twoFiles = (settings.clear, .ok ()) := by
  have spares : ∀ action ∈ strayingActions, action.SparesDefaults := by
    simp [strayingActions, Action.SparesDefaults]
  obtain ⟨-, found, -, -, -, again⟩ := clear_of_actions spares
  refine ⟨spares, by decide +kernel, ?_, again twoFiles⟩
  rw [found]
  decide +kernel

end Structex.Settings
