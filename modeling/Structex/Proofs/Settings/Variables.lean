import Mathlib.Data.List.Induction
import Structex.Proofs.Settings.Reachable
import Structex.Proofs.Value.Reordering

/-!
# Settings from variables

Variables are set one after another in the order of the environment. A variable fails if one that
came before it set something on the way to its own path; where the longer path comes first, its
section is replaced instead. So whether a program starts depends on the order. What it finds does
not: a variable's value is there unless another variable sets something on the way to it.
-/

namespace Structex

open Value (at? putAt SameButForOrder)

namespace Environment

/-- The paths that variables set, in order. -/
def paths (assignments : List (String × String)) : List (List String) :=
  assignments.filterMap fun entry => path? entry.1

/-- The paths with the values that variables set there, in order. -/
def assigned (assignments : List (String × String)) : List (List String × Value) :=
  assignments.filterMap fun entry => (path? entry.1).map fun path => (path, value entry.2)

theorem map_assigned (assignments : List (String × String)) :
    (assigned assignments).map (·.1) = paths assignments := by
  rw [assigned, List.map_filterMap, paths]
  congr 1
  funext entry
  cases path? entry.1 <;> rfl

/-- Values put at their paths one after another. -/
def putAll (settings : List (List String × Value)) : Except PathFault Value :=
  settings.foldlM (fun content setting => putAt setting.2 setting.1 content) (.map [])

theorem putAll_concat (settings : List (List String × Value)) (last : List String × Value) :
    putAll (settings ++ [last]) = putAll settings >>= putAt last.2 last.1 := by
  rw [putAll, List.foldlM_append]
  simp only [List.foldlM_cons, List.foldlM_nil, bind_pure]
  rfl

theorem foldlM_assign (assignments : List (String × String)) :
    assignments.foldlM assign (.map []) = putAll (assigned assignments) := by
  rw [putAll, assigned, List.foldlM_filterMap]
  congr 1
  funext content entry
  rw [assign]
  cases path? entry.1 <;> rfl

theorem isMap_of_mem_assigned {assignments : List (String × String)}
    {setting : List String × Value} (member : setting ∈ assigned assignments) :
    setting.2.isMap = false := by
  obtain ⟨entry, -, made⟩ := List.mem_filterMap.mp member
  obtain ⟨path, -, rfl⟩ := Option.map_eq_some_iff.mp made
  exact isMap_value entry.2

/-- A setting is at a place on the way to the path. -/
def Overshadowed (settings : List (List String × Value)) (path : List String) : Prop :=
  ∃ setting ∈ settings, setting.1 <+: path ∧ setting.1 ≠ path

theorem overshadowed_concat_iff {settings : List (List String × Value)}
    {last : List String × Value} {path : List String} :
    Overshadowed (settings ++ [last]) path ↔
      Overshadowed settings path ∨ last.1 <+: path ∧ last.1 ≠ path := by
  simp [Overshadowed, or_and_right, exists_or]

/-- What settings make at a path once all of them are put. -/
structure MirrorsAt (settings : List (List String × Value)) (content : Value)
    (path : List String) : Prop where
  /-- A value is at its path unless another setting is at a place on the way there. -/
  value_iff : ∀ value, value.isMap = false →
    (at? path content = some value ↔ (path, value) ∈ settings ∧ ¬ Overshadowed settings path)
  /-- Mappings lead to the settings. -/
  section_iff : (∃ entries, at? path content = some (.map entries)) ↔
    (∀ setting ∈ settings, ¬ setting.1 <+: path) ∧
      (path = [] ∨ ∃ setting ∈ settings, path <+: setting.1)

/-- What settings make once all of them are put. -/
structure Mirrors (settings : List (List String × Value)) (content : Value) : Prop where
  mirrorsAt : ∀ path, MirrorsAt settings content path
  distinct : content.HasDistinctKeys
  texts : content.HasTextKeys

namespace MirrorsAt

variable {settings : List (List String × Value)} {content new result : Value}
  {path other : List String}

/-- What is put is at its path, and nothing is below it. -/
theorem put_below (free : ∀ setting ∈ settings, ¬ setting.1 <+: path)
    (noMap : new.isMap = false) (done : putAt new path content = .ok result)
    (below : path <+: other) : MirrorsAt (settings ++ [(path, new)]) result other := by
  obtain ⟨rest, rfl⟩ := below
  have reached := Value.at?_putAt_append done rest
  constructor
  case section_iff =>
    refine iff_of_false ?_ fun ⟨apart, _⟩ =>
      apart (path, new) (by simp) (List.prefix_append path rest)
    rintro ⟨entries, isSection⟩
    rw [reached] at isSection
    cases rest with
    | nil =>
        cases isSection
        cases noMap
    | cons part rest =>
        rw [Value.at?_cons_of_not_isMap noMap] at isSection
        cases isSection
  case value_iff =>
    intro value isLeaf
    rw [reached, overshadowed_concat_iff]
    cases rest with
    | nil =>
        have shown : ¬ Overshadowed settings path := fun ⟨setting, member, leads, _⟩ =>
          free setting member leads
        have unset : (path, value) ∉ settings := fun member =>
          free (path, value) member (List.prefix_refl path)
        simp [at?, shown, unset, eq_comm]
    | cons part rest =>
        rw [Value.at?_cons_of_not_isMap noMap]
        simp

/-- Mappings lead to what is put. -/
theorem put_before (free : ∀ setting ∈ settings, ¬ setting.1 <+: path)
    (done : putAt new path content = .ok result) (before : other <+: path)
    (notBelow : ¬ path <+: other) : MirrorsAt (settings ++ [(path, new)]) result other := by
  obtain ⟨rest, rfl⟩ := before
  cases rest with
  | nil => exact absurd (by simp) notBelow
  | cons part after =>
      obtain ⟨entries, reached⟩ := Value.at?_putAt_before done
      have freeBefore : ∀ setting ∈ settings, ¬ setting.1 <+: other :=
        fun setting member leads => free setting member (leads.trans (List.prefix_append ..))
      constructor
      case section_iff =>
        refine iff_of_true ⟨entries, reached⟩ ⟨?_, .inr ⟨_,
          List.mem_append_right settings (List.mem_singleton_self _), List.prefix_append ..⟩⟩
        exact List.forall_mem_append.mpr ⟨freeBefore, List.forall_mem_singleton.mpr notBelow⟩
      case value_iff =>
        intro value isLeaf
        refine iff_of_false (fun held => ?_) fun ⟨member, _⟩ => ?_
        · cases reached.symm.trans held
          cases isLeaf
        · rcases List.mem_append.mp member with known | isNew
          · exact freeBefore _ known (List.prefix_refl other)
          · obtain ⟨isPath, -⟩ := Prod.mk.inj (List.mem_singleton.mp isNew)
            exact notBelow (isPath ▸ List.prefix_refl other)

/-- The rest stays as it is. -/
theorem put_apart (mirrors : MirrorsAt settings content other)
    (done : putAt new path content = .ok result) (notBefore : ¬ other <+: path)
    (notBelow : ¬ path <+: other) : MirrorsAt (settings ++ [(path, new)]) result other := by
  have same := Value.at?_putAt_apart done notBefore notBelow
  have differs : other ≠ path := fun isPath => notBelow (isPath ▸ List.prefix_refl other)
  constructor
  case section_iff =>
    rw [same, mirrors.section_iff]
    simp [notBelow, notBefore, or_imp, forall_and]
  case value_iff =>
    intro value isLeaf
    rw [same, mirrors.value_iff value isLeaf, overshadowed_concat_iff]
    simp [notBelow, differs]

end MirrorsAt

namespace Mirrors

variable {settings others : List (List String × Value)} {content : Value}

theorem empty : Mirrors [] (.map []) where
  mirrorsAt path := by
    constructor
    case section_iff => cases path <;> simp [at?, Entries.get?, Entries.find?]
    case value_iff =>
      intro value noMap
      refine iff_of_false (fun held => ?_) fun set => absurd set.1 List.not_mem_nil
      cases path with
      | nil =>
          cases held
          cases noMap
      | cons part rest => cases held
  distinct := .empty
  texts := .empty

/-- A path is blocked exactly if a setting is at a place on the way to it. -/
theorem blocks_iff (mirrors : Mirrors settings content)
    (leaves : ∀ setting ∈ settings, setting.2.isMap = false) {path : List String} :
    Value.Blocks path content ↔ Overshadowed settings path := by
  rw [Value.blocks_iff]
  constructor
  · rintro ⟨before, part, after, held, rfl, reached, noMap⟩
    obtain ⟨member, -⟩ := ((mirrors.mirrorsAt before).value_iff held noMap).mp reached
    exact ⟨_, member, List.prefix_append .., by simp⟩
  · rintro ⟨setting, member, leads, differs⟩
    -- The setting with the shortest path on the way is the one that is still there.
    induction length : setting.1.length using Nat.strongRecOn generalizing setting with
    | _ size inductionHypothesis =>
        by_cases shadowed : Overshadowed settings setting.1
        · obtain ⟨nearer, present, leadsOn, shorter⟩ := shadowed
          have less : nearer.1.length < setting.1.length :=
            Nat.lt_of_le_of_ne leadsOn.length_le fun same => shorter (leadsOn.eq_of_length same)
          refine inductionHypothesis nearer.1.length (length ▸ less) nearer present
            (leadsOn.trans leads) ?_ rfl
          rintro rfl
          exact absurd (leads.length_le) (Nat.not_le.mpr less)
        · have reached := ((mirrors.mirrorsAt setting.1).value_iff setting.2
            (leaves setting member)).mpr ⟨member, shadowed⟩
          obtain ⟨rest, rfl⟩ := leads
          cases rest with
          | nil => exact absurd (List.append_nil _).symm differs
          | cons part after => exact ⟨_, part, after, _, rfl, reached, leaves setting member⟩

/-- Something can be put at a path that no setting has if none is on the way to it. -/
theorem exists_put_iff (mirrors : Mirrors settings content)
    (leaves : ∀ setting ∈ settings, setting.2.isMap = false) {path : List String}
    (fresh : ∀ setting ∈ settings, setting.1 ≠ path) {new : Value} :
    (∃ result, putAt new path content = .ok result) ↔
      ∀ setting ∈ settings, ¬ setting.1 <+: path := by
  rw [Value.exists_putAt_iff, mirrors.blocks_iff leaves]
  constructor
  · exact fun shown setting member leads => shown ⟨setting, member, leads, fresh setting member⟩
  · rintro free ⟨setting, member, leads, -⟩
    exact free setting member leads

/-- One more setting is put where no other one is on the way to it. -/
theorem put (mirrors : Mirrors settings content)
    (leaves : ∀ setting ∈ settings, setting.2.isMap = false) {path : List String}
    (fresh : ∀ setting ∈ settings, setting.1 ≠ path) {new result : Value}
    (noMap : new.isMap = false) (done : putAt new path content = .ok result) :
    Mirrors (settings ++ [(path, new)]) result := by
  have free := (mirrors.exists_put_iff leaves fresh).mp ⟨result, done⟩
  refine ⟨fun other => ?_, .putAt (.leaf noMap) mirrors.distinct done,
    .putAt (.leaf noMap) mirrors.texts done⟩
  by_cases below : path <+: other
  · exact .put_below free noMap done below
  · by_cases before : other <+: path
    · exact .put_before free done before below
    · exact (mirrors.mirrorsAt other).put_apart done before below

theorem perm (mirrors : Mirrors settings content) (reordered : settings.Perm others) :
    Mirrors others content where
  mirrorsAt path :=
    { value_iff := by
        simpa only [Overshadowed, reordered.mem_iff] using (mirrors.mirrorsAt path).value_iff
      section_iff := by
        simpa only [reordered.mem_iff] using (mirrors.mirrorsAt path).section_iff }
  distinct := mirrors.distinct
  texts := mirrors.texts

/-- Settings make the same in whatever order they are put, but for the order of entries. -/
theorem sameButForOrder {other : Value} (left : Mirrors settings content)
    (right : Mirrors settings other) : SameButForOrder content other := by
  refine Value.sameButForOrder_of_alike left.distinct right.distinct left.texts right.texts
    fun path => ?_
  obtain ⟨leftValues, leftSections⟩ := left.mirrorsAt path
  obtain ⟨rightValues, rightSections⟩ := right.mirrorsAt path
  exact Value.rel_alike_of_iff (leftSections.trans rightSections.symm) fun value noMap =>
    (leftValues value noMap).trans (rightValues value noMap).symm

end Mirrors

theorem nodup_concat_iff {settings : List (List String × Value)} {last : List String × Value} :
    ((settings ++ [last]).map (·.1)).Nodup ↔
      (settings.map (·.1)).Nodup ∧ ∀ setting ∈ settings, setting.1 ≠ last.1 := by
  rw [List.map_append, List.nodup_append]
  simp

/-- Settings that are put one after another are all there, if no path comes twice. -/
theorem mirrors_of_putAll {settings : List (List String × Value)}
    (leaves : ∀ setting ∈ settings, setting.2.isMap = false)
    (once : (settings.map (·.1)).Nodup) {content : Value} (done : putAll settings = .ok content) :
    Mirrors settings content := by
  induction settings using List.reverseRecOn generalizing content with
  | nil =>
      cases done
      exact .empty
  | append_singleton settings last inductionHypothesis =>
      rw [putAll_concat] at done
      obtain ⟨middle, first, done⟩ := bind_eq_ok_iff.mp done
      obtain ⟨others, ofLast⟩ := List.forall_mem_append.mp leaves
      obtain ⟨onceBefore, fresh⟩ := nodup_concat_iff.mp once
      exact (inductionHypothesis others onceBefore first).put others fresh
        (ofLast last List.mem_cons_self) done

/-- Settings can be put one after another exactly if none comes after one that is on the way to
it. -/
theorem exists_putAll_iff {settings : List (List String × Value)}
    (leaves : ∀ setting ∈ settings, setting.2.isMap = false)
    (once : (settings.map (·.1)).Nodup) :
    (∃ content, putAll settings = .ok content) ↔
      (settings.map (·.1)).Pairwise fun earlier later => ¬ earlier <+: later := by
  induction settings using List.reverseRecOn with
  | nil => exact iff_of_true ⟨_, rfl⟩ .nil
  | append_singleton settings last inductionHypothesis =>
      have others := (List.forall_mem_append.mp leaves).1
      obtain ⟨onceBefore, fresh⟩ := nodup_concat_iff.mp once
      have puts : (∃ content, putAll (settings ++ [last]) = .ok content) ↔
          (∃ content, putAll settings = .ok content) ∧
            ∀ setting ∈ settings, ¬ setting.1 <+: last.1 := by
        simp only [putAll_concat, bind_eq_ok_iff]
        constructor
        · rintro ⟨content, middle, first, done⟩
          have mirrors := mirrors_of_putAll others onceBefore first
          exact ⟨⟨middle, first⟩, (mirrors.exists_put_iff others fresh).mp ⟨content, done⟩⟩
        · rintro ⟨⟨middle, first⟩, free⟩
          have mirrors := mirrors_of_putAll others onceBefore first
          obtain ⟨content, done⟩ : ∃ content, putAt last.2 last.1 middle = .ok content :=
            (mirrors.exists_put_iff others fresh).mpr free
          exact ⟨content, middle, first, done⟩
      rw [puts, inductionHypothesis others onceBefore, List.map_append, List.pairwise_append]
      simp

end Environment

end Structex
