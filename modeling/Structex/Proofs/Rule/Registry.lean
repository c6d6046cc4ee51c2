import Structex.Rule.Registry

/-!
# What a registry holds

Lookups and names after a rule is put into a registry or erased from it. Putting a rule changes
what is found under its name alone, and the names only if there was none of it; erasing takes a
name out and leaves the order of the others.
-/

namespace Structex.Registry

variable {registry : Registry} {rule found : Rule} {name : String}

theorem has_iff : registry.has name = true ↔ name ∈ registry.names := by
  simp [has, names]

theorem length_names (registry : Registry) : registry.names.length = List.length registry :=
  List.length_map _

/-- What is found under a name has that name. -/
theorem name_of_get? (present : registry.get? name = some found) : found.name = name := by
  simpa using List.find?_some present

theorem get?_cons_same {other : Rule} (same : other.name = name) :
    get? (other :: registry) name = some other :=
  List.find?_cons_of_pos (by simpa using same)

theorem get?_cons_other {other : Rule} (differ : other.name ≠ name) :
    get? (other :: registry) name = registry.get? name :=
  List.find?_cons_of_neg (by simpa using differ)

/-- Where no name comes twice, a rule of the registry is found under its name. -/
theorem get?_of_mem (distinct : registry.names.Nodup) (member : rule ∈ registry) :
    registry.get? rule.name = some rule := by
  induction registry with
  | nil => cases member
  | cons other rest inductionHypothesis =>
      obtain ⟨fresh, distinct⟩ := List.nodup_cons.mp distinct
      rcases List.mem_cons.mp member with rfl | later
      · exact get?_cons_same rfl
      · have differ : other.name ≠ rule.name := by
          intro same
          exact fresh (same.symm ▸ List.mem_map_of_mem later : other.name ∈ names rest)
        rw [get?_cons_other differ]
        exact inductionHypothesis distinct later

/-- The names after a rule is put into a registry: a new one stands at the end. -/
theorem names_put (registry : Registry) (rule : Rule) :
    (registry.put rule).names =
      if rule.name ∈ registry.names then registry.names else registry.names ++ [rule.name] := by
  induction registry with
  | nil => rfl
  | cons other rest inductionHypothesis =>
      rw [put]
      by_cases same : other.name = rule.name
      · simp [names, same]
      · have added : names (other :: put rest rule) = other.name :: (put rest rule).names := rfl
        rw [if_neg (by simpa using same), added, inductionHypothesis]
        by_cases present : rule.name ∈ names rest
        · have still : rule.name ∈ names (other :: rest) := List.mem_cons_of_mem _ present
          rw [if_pos present, if_pos still]
          rfl
        · have still : rule.name ∉ names (other :: rest) :=
            List.not_mem_cons_of_ne_of_not_mem (Ne.symm same) present
          rw [if_neg present, if_neg still]
          rfl

/-- A rule that is put into a registry is found under its name, and nothing else changes. -/
theorem get?_put (registry : Registry) (rule : Rule) (name : String) :
    (registry.put rule).get? name = if rule.name = name then some rule else registry.get? name := by
  induction registry with
  | nil =>
      by_cases asked : rule.name = name
      · rw [if_pos asked, put, get?_cons_same asked]
      · rw [if_neg asked, put, get?_cons_other asked]
  | cons other rest inductionHypothesis =>
      rw [put]
      by_cases same : other.name = rule.name
      · rw [if_pos (by simpa using same)]
        by_cases asked : rule.name = name
        · rw [if_pos asked, get?_cons_same asked]
        · rw [if_neg asked, get?_cons_other asked, get?_cons_other (same ▸ asked)]
      · rw [if_neg (by simpa using same)]
        by_cases found : other.name = name
        · have differ : rule.name ≠ name := fun equal => same (found.trans equal.symm)
          rw [if_neg differ, get?_cons_same found, get?_cons_same found]
        · rw [get?_cons_other found, get?_cons_other found, inductionHypothesis]

/-- The names after a rule is erased: the others in their order. -/
theorem names_erase (registry : Registry) (name : String) :
    (registry.erase name).names = registry.names.filter (· != name) := by
  rw [names, names, erase, List.filter_map]
  rfl

/-- A name that is erased finds nothing, and nothing else changes. -/
theorem get?_erase (registry : Registry) (erased name : String) :
    (registry.erase erased).get? name = if erased = name then none else registry.get? name := by
  rw [get?, erase, List.find?_filter]
  split
  case isTrue same =>
    rw [List.find?_eq_none]
    intro rule _ both
    simp [same] at both
  case isFalse differ =>
    rw [get?]
    congr 1
    funext rule
    by_cases asked : rule.name = name
    · simp [asked, Ne.symm differ]
    · simp [asked]

/-- Removing a name tells whether it was there. -/
theorem remove_fst (registry : Registry) (name : String) :
    (registry.remove name).1 = registry.has name := by
  rw [remove]
  cases registry.has name <;> rfl

/-- Removing a name erases its rule, if there is one. -/
theorem remove_registry (registry : Registry) (name : String) :
    (registry.remove name).2.1 = registry.erase name := by
  rw [remove]
  cases present : registry.has name with
  | true => rfl
  | false =>
      refine (List.filter_eq_self.mpr fun rule member => ?_).symm
      have differ := List.any_eq_false.mp present rule member
      simpa using differ

end Structex.Registry
