import Structex.Proofs.Settings.Variables
import Structex.Yaml.Basic

/-!
# Starting with variables

A program starts with the variables of its environment exactly if it starts without them and none
of them comes after one that sets something on the way to its path. Orders of the same variables in
which it starts lead to the same settings, up to the order of entries.
-/

namespace Structex.Settings

open Value (SameButForOrder)

/-- Of two searches that find related things place by place, both find nothing or related
things. -/
theorem rel_findSome? {α β : Type} {related : β → β → Prop} {first second : α → Option β}
    (each : ∀ place, Option.Rel related (first place) (second place)) (places : List α) :
    Option.Rel related (places.findSome? first) (places.findSome? second) := by
  induction places with
  | nil => exact .none
  | cons place rest inductionHypothesis =>
      have here := each place
      rw [List.findSome?_cons, List.findSome?_cons]
      generalize first place = found at here
      generalize second place = other at here
      cases here with
      | none => exact inductionHypothesis
      | some same => exact .some same

theorem get?_eq_findSome? (settings : Settings) (key : String) :
    settings.get? key = Layer.all.reverse.findSome? (settings.inLayer? key) := by
  rw [get?, find?, List.map_findSome?]
  congr 1
  funext layer
  cases found : settings.inLayer? key layer <;> simp [found]

/-- What a key leads to is the same but for order where all layers are. -/
theorem get?_sameButForOrder {settings others : Settings}
    (layers : ∀ layer, Option.Rel SameButForOrder (settings.layer layer) (others.layer layer))
    (key : String) : Option.Rel SameButForOrder (settings.get? key) (others.get? key) := by
  rw [get?_eq_findSome?, get?_eq_findSome?]
  refine rel_findSome? (fun layer => ?_) _
  have held : Option.Rel SameButForOrder (settings.at? (parts key) layer)
      (others.at? (parts key) layer) := by
    have here := layers layer
    rw [at?, at?]
    generalize settings.layer layer = content at here
    generalize others.layer layer = other at here
    cases here with
    | none => exact .none
    | some same => exact same.at? (parts key)
  rw [inLayer?, inLayer?, ← at?, ← at?]
  generalize settings.at? (parts key) layer = found at held
  generalize others.at? (parts key) layer = other at held
  cases held with
  | none => exact .none
  | some same =>
      cases same with
      | refl value => exact SameButForOrder.rel_refl _
      | map keys items => exact .some (.map keys items)

/-- The settings with what variables set; without such variables nothing is set. -/
def withVariables (settings : Settings) (content : Value) : Settings :=
  match content with
  | .map [] => settings
  | content => settings.withLayer .environment (some (mapping [(ownKey, content)]))

theorem loadEnvironment_eq (settings : Settings) (assignments : List (String × String)) :
    settings.loadEnvironment assignments =
      (Environment.putAll (Environment.assigned assignments)).map settings.withVariables := by
  rw [loadEnvironment, Environment.foldlM_assign]
  cases Environment.putAll (Environment.assigned assignments) with
  | error fault => rfl
  | ok content =>
      cases content with
      | map entries => cases entries <;> rfl
      | _ => rfl

/-- Where variables set the same but for order, so do the layers. -/
theorem withVariables_sameButForOrder (settings : Settings) {content other : Value}
    (same : SameButForOrder content other) (layer : Layer) :
    Option.Rel SameButForOrder ((settings.withVariables content).layer layer)
      ((settings.withVariables other).layer layer) := by
  have ownSection : SameButForOrder (mapping [(ownKey, content)]) (mapping [(ownKey, other)]) := by
    refine .map (.refl _) fun key item found memberLeft memberRight => ?_
    cases List.mem_singleton.mp memberLeft
    cases List.mem_singleton.mp memberRight
    exact same
  have replaced : Option.Rel SameButForOrder
      ((settings.withLayer .environment (some (mapping [(ownKey, content)]))).layer layer)
      ((settings.withLayer .environment (some (mapping [(ownKey, other)]))).layer layer) := by
    by_cases isEnvironment : layer = .environment
    · subst isEnvironment
      rw [layer_withLayer_same, layer_withLayer_same, Option.map_some, Option.map_some,
        Shared.value_ofValue, Shared.value_ofValue]
      exact .some ownSection
    · rw [layer_withLayer_other isEnvironment, layer_withLayer_other isEnvironment]
      exact SameButForOrder.rel_refl _
  cases same with
  | refl value => exact SameButForOrder.rel_refl _
  | @map left right keys items =>
      cases left with
      | nil =>
          cases right with
          | nil => exact SameButForOrder.rel_refl _
          | cons entry rest => exact absurd keys.length_eq (by simp)
      | cons entry rest =>
          cases right with
          | nil => exact absurd keys.length_eq (by simp)
          | cons entry rest => exact replaced

/-- The variables are loaded after everything else. -/
theorem start_eq_ok_iff {reader : TextReader} {files : Files} {file : String}
    {assignments : List (String × String)} {settings : Settings} :
    start reader files file (some assignments) = .ok settings ↔
      ∃ plain content, start reader files file none = .ok plain ∧
        Environment.putAll (Environment.assigned assignments) = .ok content ∧
        settings = plain.withVariables content := by
  have loaded : ∀ plain : Settings, (plain.loadEnvironment assignments).mapError
      StartFault.environment = .ok settings ↔
        ∃ content, Environment.putAll (Environment.assigned assignments) = .ok content ∧
          settings = plain.withVariables content := by
    intro plain
    rw [loadEnvironment_eq]
    cases Environment.putAll (Environment.assigned assignments) with
    | error fault => simp [Except.map, Except.mapError]
    | ok content => simp [Except.map, Except.mapError, eq_comm]
  have after : ∀ first : Except StartFault Settings,
      (first >>= fun plain => (plain.loadEnvironment assignments).mapError .environment) =
          .ok settings ↔
        ∃ plain content, (first >>= pure) = .ok plain ∧
          Environment.putAll (Environment.assigned assignments) = .ok content ∧
          settings = plain.withVariables content := by
    intro first
    simp only [bind_eq_ok_iff, loaded, bind_pure]
    exact exists_congr fun plain => (exists_and_left ..).symm
  rw [start, start]
  split <;> exact after _

/-- Variables of different paths are loaded exactly if none comes after one that sets something on
the way to its path. -/
theorem exists_start_iff {reader : TextReader} {files : Files} {file : String}
    {assignments : List (String × String)}
    (once : (Environment.paths assignments).Nodup) :
    (∃ settings, start reader files file (some assignments) = .ok settings) ↔
      (∃ plain, start reader files file none = .ok plain) ∧
        (Environment.paths assignments).Pairwise fun earlier later => ¬ earlier <+: later := by
  rw [← Environment.map_assigned] at once ⊢
  rw [← Environment.exists_putAll_iff (fun _ => Environment.isMap_of_mem_assigned) once]
  simp only [start_eq_ok_iff]
  constructor
  · rintro ⟨settings, plain, content, made, put, -⟩
    exact ⟨⟨plain, made⟩, ⟨content, put⟩⟩
  · rintro ⟨⟨plain, made⟩, ⟨content, put⟩⟩
    exact ⟨_, plain, content, made, put, rfl⟩

/-- A program starts with variables of different paths exactly if it starts without them and none
comes after one that sets something on the way to its path. In whatever order they come, if it
starts, every key leads to the same, up to the order of the entries of a mapping. -/
theorem start_of_variables (reader : TextReader) (files : Files) (file : String)
    (assignments : List (String × String)) (once : (Environment.paths assignments).Nodup) :
    ((∃ settings, start reader files file (some assignments) = .ok settings) ↔
      (∃ plain, start reader files file none = .ok plain) ∧
        (Environment.paths assignments).Pairwise fun earlier later => ¬ earlier <+: later) ∧
    ∀ reordered, reordered.Perm assignments →
      ∀ settings others, start reader files file (some assignments) = .ok settings →
        start reader files file (some reordered) = .ok others →
          ∀ key, Option.Rel SameButForOrder (settings.get? key) (others.get? key) := by
  refine ⟨exists_start_iff once, fun reordered perm settings others started startedOther key => ?_⟩
  obtain ⟨plain, content, made, put, rfl⟩ := start_eq_ok_iff.mp started
  obtain ⟨_, other, madeOther, putOther, rfl⟩ := start_eq_ok_iff.mp startedOther
  cases made.symm.trans madeOther
  rw [← Environment.map_assigned] at once
  have permAssigned : (Environment.assigned reordered).Perm (Environment.assigned assignments) :=
    perm.filterMap _
  have onceOther := (permAssigned.map (·.1)).nodup_iff.mpr once
  have mirrors := Environment.mirrors_of_putAll
    (fun _ => Environment.isMap_of_mem_assigned) once put
  have mirrorsOther := Environment.mirrors_of_putAll
    (fun _ => Environment.isMap_of_mem_assigned) onceOther putOther
  exact get?_sameButForOrder (plain.withVariables_sameButForOrder
    (mirrors.sameButForOrder (mirrorsOther.perm permAssigned))) key

/-- Variables among which a shorter path comes after one below it. -/
def sectionFirst : List (String × String) :=
  [("PIKESRE_A__B", "2"), ("HOME", "/"), ("PIKESRE_LOGGING__LEVEL", "DEBUG"), ("PIKESRE_A", "1")]

theorem paths_sectionFirst :
    Environment.paths sectionFirst = [["a", "b"], ["logging", "level"], ["a"]] := by
  decide +kernel

/-- The same variables in another order, still with the shorter path behind. -/
def levelFirst : List (String × String) :=
  [("PIKESRE_LOGGING__LEVEL", "DEBUG"), ("PIKESRE_A__B", "2"), ("PIKESRE_A", "1"), ("HOME", "/")]

theorem paths_levelFirst :
    Environment.paths levelFirst = [["logging", "level"], ["a", "b"], ["a"]] := by
  decide +kernel

/-- A program starts with both orders and finds the same. -/
theorem start_of_variables_of_sectionFirst :
    (Environment.paths sectionFirst).Nodup ∧ levelFirst.Perm sectionFirst ∧
    ∃ settings others, start Yaml.reader [] "" (some sectionFirst) = .ok settings ∧
      start Yaml.reader [] "" (some levelFirst) = .ok others ∧
      ∀ key, Option.Rel SameButForOrder (settings.get? key) (others.get? key) := by
  have once : (Environment.paths sectionFirst).Nodup := by
    rw [paths_sectionFirst]
    decide
  have onceOther : (Environment.paths levelFirst).Nodup := by
    rw [paths_levelFirst]
    decide
  have perm : levelFirst.Perm sectionFirst := by decide
  have plain : ∃ settings, start Yaml.reader [] "" none = .ok settings := ⟨initial, rfl⟩
  obtain ⟨starts, agree⟩ := start_of_variables Yaml.reader [] "" sectionFirst once
  obtain ⟨startsOther, -⟩ := start_of_variables Yaml.reader [] "" levelFirst onceOther
  obtain ⟨settings, started⟩ := starts.mpr ⟨plain, by rw [paths_sectionFirst]; decide⟩
  obtain ⟨others, startedOther⟩ := startsOther.mpr ⟨plain, by rw [paths_levelFirst]; decide⟩
  exact ⟨once, perm, settings, others, started, startedOther,
    agree levelFirst perm settings others started startedOther⟩

/-- With a variable that comes before one below its path, no program starts; the other way round it
does. -/
theorem start_fails_behind_shorter :
    (∀ settings, start Yaml.reader [] "" (some [("PIKESRE_A", "1"), ("PIKESRE_A__B", "2")]) ≠
      .ok settings) ∧
    ∃ settings, start Yaml.reader [] "" (some [("PIKESRE_A__B", "2"), ("PIKESRE_A", "1")]) =
      .ok settings := by
  have paths : Environment.paths [("PIKESRE_A", "1"), ("PIKESRE_A__B", "2")] =
      [["a"], ["a", "b"]] := by decide +kernel
  have turned : Environment.paths [("PIKESRE_A__B", "2"), ("PIKESRE_A", "1")] =
      [["a", "b"], ["a"]] := by decide +kernel
  constructor
  · intro settings started
    have free := ((exists_start_iff (by rw [paths]; decide)).mp ⟨settings, started⟩).2
    rw [paths] at free
    exact absurd free (by decide)
  · exact (exists_start_iff (by rw [turned]; decide)).mpr
      ⟨⟨initial, rfl⟩, by rw [turned]; decide⟩

end Structex.Settings
