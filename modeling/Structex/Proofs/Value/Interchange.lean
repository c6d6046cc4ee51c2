import Structex.Proofs.Result
import Structex.Value.Interchange

/-!
# Which values have an interchange text

A value has an interchange text unless something in it has none: a key of a mapping that is neither
a text nor a number, a truth value or null, or an integer with more digits than are ever written.
One such key or integer at any depth is enough, and nothing else stands in the way
(`Interchange.exists_text_iff`).
-/

namespace Structex

namespace Value

/-! ## What stands in a value -/

/-- The items of a sequence, and what stands under the keys of a mapping. -/
def contents : Value → List Value
  | .list items => items
  | .tuple items => items
  | .map entries => entries.map (·.2)
  | _ => []

/-- The keys of a mapping. -/
def keys : Value → List Value
  | .map entries => entries.map (·.1)
  | _ => []

/-- Whether the value is no sequence, no mapping and no object. -/
def isScalar : Value → Bool
  | .list _ | .tuple _ | .map _ | .pattern _ | .record _ _ | .object _ _ => false
  | _ => true

/-- Whether the value is a day or a moment. -/
def isTime : Value → Bool
  | .date _ | .moment _ => true
  | _ => false

/-- A value stands in another at some depth, or is the other. -/
inductive Occurs (part : Value) : Value → Prop
  | here : Occurs part part
  | within {item whole : Value} (member : item ∈ whole.contents) (inside : Occurs part item) :
      Occurs part whole

/-- A value is a key of a mapping at some depth of another. -/
def OccursAsKey (key whole : Value) : Prop :=
  ∃ inner, Occurs inner whole ∧ key ∈ inner.keys

theorem OccursAsKey.within {key item whole : Value} (member : item ∈ whole.contents)
    (occurs : OccursAsKey key item) : OccursAsKey key whole := by
  obtain ⟨inner, inside, isKey⟩ := occurs
  exact ⟨inner, .within member inside, isKey⟩

/-- What holds of all keys in a value holds of its own keys and of those in its contents. -/
theorem forall_occursAsKey_iff {whole : Value} {holds : Value → Prop} :
    (∀ key, OccursAsKey key whole → holds key) ↔
      (∀ key ∈ whole.keys, holds key) ∧
        ∀ item ∈ whole.contents, ∀ key, OccursAsKey key item → holds key := by
  constructor
  · intro all
    exact ⟨fun key isKey => all key ⟨whole, .here, isKey⟩,
      fun item member key occurs => all key (occurs.within member)⟩
  · rintro ⟨own, inner⟩ key ⟨part, inside, isKey⟩
    cases inside with
    | here => exact own key isKey
    | within member inside => exact inner _ member key ⟨part, inside, isKey⟩

/-- Nothing stands in a scalar. -/
theorem empty_of_isScalar {value : Value} (scalar : value.isScalar = true) :
    value.contents = [] ∧ value.keys = [] := by
  cases value with
  | list _ | tuple _ | map _ | pattern _ | record _ _ | object _ _ => cases scalar
  | _ => exact ⟨rfl, rfl⟩

/-- Where only scalars are held, the keys are those of the value itself. -/
theorem forall_occursAsKey_of_flat {whole : Value}
    (flat : ∀ item ∈ whole.contents, item.isScalar = true) {holds : Value → Prop}
    (own : ∀ key ∈ whole.keys, holds key) : ∀ key, OccursAsKey key whole → holds key := by
  refine forall_occursAsKey_iff.mpr ⟨own, fun item member => forall_occursAsKey_iff.mpr ?_⟩
  obtain ⟨noContents, noKeys⟩ := empty_of_isScalar (flat item member)
  rw [noContents, noKeys]
  exact ⟨nofun, nofun⟩

theorem sizeOf_lt_of_mem_contents {item whole : Value} (member : item ∈ whole.contents) :
    sizeOf item < sizeOf whole := by
  cases whole with
  | list items =>
      have smaller : sizeOf item < sizeOf items := List.sizeOf_lt_of_mem member
      simp only [list.sizeOf_spec]
      omega
  | tuple items =>
      have smaller : sizeOf item < sizeOf items := List.sizeOf_lt_of_mem member
      simp only [tuple.sizeOf_spec]
      omega
  | map entries =>
      obtain ⟨⟨key, value⟩, present, rfl⟩ := List.mem_map.mp member
      have smaller := List.sizeOf_lt_of_mem present
      simp only [map.sizeOf_spec, Prod.mk.sizeOf_spec] at smaller ⊢
      omega
  | _ => cases member

/-- What holds of a value whenever it holds of its contents holds of every value. -/
theorem induction_contents {motive : Value → Prop}
    (step : ∀ whole, (∀ item ∈ whole.contents, motive item) → motive whole) (value : Value) :
    motive value :=
  step value fun item member =>
    have _smaller := sizeOf_lt_of_mem_contents member
    induction_contents step item
termination_by sizeOf value

end Value

namespace Interchange

open Value

variable {value : Value} {fault : InterchangeFault}

/-- Whether a value can be the key of an object: a text, a number, a truth value or null. -/
def isNamed : Value → Bool
  | .str _ | .null | .bool _ | .int _ | .float _ => true
  | _ => false

/-- Whether an integer has more digits than are ever written. -/
def IsLong (number : Int) : Prop :=
  longestInteger < Decimal.digitCount number.natAbs

/-- What in a value stands in the way of its text, with the fault that tells of it. -/
inductive Obstacle (whole : Value) : InterchangeFault → Prop
  | key {name : Value} (occurs : OccursAsKey name whole) (unnamed : isNamed name = false) :
      Obstacle whole (.keyKind name.typeName)
  | integer {number : Int} (occurs : Occurs (.int number) whole ∨ OccursAsKey (.int number) whole)
      (long : IsLong number) : Obstacle whole .integerTooLong

theorem Obstacle.within {item whole : Value} (member : item ∈ whole.contents)
    (obstacle : Obstacle item fault) : Obstacle whole fault := by
  cases obstacle with
  | key occurs unnamed => exact .key (occurs.within member) unnamed
  | integer occurs long =>
      exact .integer (occurs.imp (.within member) (OccursAsKey.within member)) long

/-! ## Integers and keys -/

theorem integer_eq_error_iff {number : Int} :
    integer number = .error fault ↔ fault = .integerTooLong ∧ IsLong number := by
  unfold integer IsLong
  split
  · rename_i short
    exact iff_of_false nofun fun both => absurd both.2 (by omega)
  · rename_i long
    rw [Except.error.injEq]
    exact ⟨fun same => ⟨same.symm, by omega⟩, fun both => both.1.symm⟩

/-- A key has no text if it cannot be one, or if it is an integer that is too long. -/
theorem key_eq_error_iff {name : Value} :
    key name = .error fault ↔ isNamed name = false ∧ fault = .keyKind name.typeName ∨
      ∃ number, name = .int number ∧ fault = .integerTooLong ∧ IsLong number := by
  cases name with
  | int number => simp [key, map_eq_error_iff, integer_eq_error_iff, isNamed]
  | bool flag => cases flag <;> simp [key, isNamed]
  | null | float _ | str _ => simp [key, isNamed]
  | _ => simp [key, isNamed, eq_comm]

/-! ## Items and entries -/

/-- Items have a text together unless one of them has none. -/
theorem items_eq_error {values : List Value} (failed : items values = .error fault) :
    ∃ item ∈ values, text item = .error fault := by
  induction values with
  | nil => cases failed
  | cons first rest inductionHypothesis =>
      cases rest with
      | nil => exact ⟨first, List.mem_cons_self, failed⟩
      | cons second rest =>
          rcases bind_eq_error_iff.mp failed with here | ⟨_, -, others⟩
          · exact ⟨first, List.mem_cons_self, here⟩
          · rw [bind_pure_comp, map_eq_error_iff] at others
            obtain ⟨item, member, later⟩ := inductionHypothesis others
            exact ⟨item, List.mem_cons_of_mem _ member, later⟩

/-- Items that have a text together have one each. -/
theorem text_of_mem_items {values : List Value} {written : String}
    (wrote : items values = .ok written) {item : Value} (member : item ∈ values) :
    ∃ own, text item = .ok own := by
  induction values generalizing written with
  | nil => cases member
  | cons first rest inductionHypothesis =>
      cases rest with
      | nil =>
          obtain rfl := List.mem_singleton.mp member
          exact ⟨written, wrote⟩
      | cons second rest =>
          obtain ⟨own, here, wrote⟩ := bind_eq_ok_iff.mp wrote
          obtain ⟨others, later, -⟩ := bind_eq_ok_iff.mp wrote
          rcases List.mem_cons.mp member with rfl | member
          · exact ⟨own, here⟩
          · exact inductionHypothesis later member

/-- Entries have a text together unless one of them has a key or an item without one. -/
theorem entries_eq_error {pairs : List (Value × Value)} (failed : entries pairs = .error fault) :
    ∃ entry ∈ pairs, key entry.1 = .error fault ∨ text entry.2 = .error fault := by
  induction pairs with
  | nil => cases failed
  | cons first rest inductionHypothesis =>
      obtain ⟨name, item⟩ := first
      cases rest with
      | nil =>
          rcases bind_eq_error_iff.mp failed with ofKey | ⟨_, -, failed⟩
          · exact ⟨_, List.mem_cons_self, .inl ofKey⟩
          · rw [bind_pure_comp, map_eq_error_iff] at failed
            exact ⟨_, List.mem_cons_self, .inr failed⟩
      | cons second rest =>
          rcases bind_eq_error_iff.mp failed with ofKey | ⟨_, -, failed⟩
          · exact ⟨_, List.mem_cons_self, .inl ofKey⟩
          rcases bind_eq_error_iff.mp failed with ofItem | ⟨_, -, failed⟩
          · exact ⟨_, List.mem_cons_self, .inr ofItem⟩
          · rw [bind_pure_comp, map_eq_error_iff] at failed
            obtain ⟨entry, member, later⟩ := inductionHypothesis failed
            exact ⟨entry, List.mem_cons_of_mem _ member, later⟩

/-- Entries that have a text together have a key and an item with a text each. -/
theorem texts_of_mem_entries {pairs : List (Value × Value)} {written : String}
    (wrote : entries pairs = .ok written) {entry : Value × Value} (member : entry ∈ pairs) :
    (∃ name, key entry.1 = .ok name) ∧ ∃ own, text entry.2 = .ok own := by
  induction pairs generalizing written with
  | nil => cases member
  | cons first rest inductionHypothesis =>
      obtain ⟨known, item⟩ := first
      cases rest with
      | nil =>
          obtain rfl := List.mem_singleton.mp member
          obtain ⟨name, ofKey, wrote⟩ := bind_eq_ok_iff.mp wrote
          obtain ⟨own, ofItem, -⟩ := bind_eq_ok_iff.mp wrote
          exact ⟨⟨name, ofKey⟩, own, ofItem⟩
      | cons second rest =>
          obtain ⟨name, ofKey, wrote⟩ := bind_eq_ok_iff.mp wrote
          obtain ⟨own, ofItem, wrote⟩ := bind_eq_ok_iff.mp wrote
          obtain ⟨others, later, -⟩ := bind_eq_ok_iff.mp wrote
          rcases List.mem_cons.mp member with rfl | member
          · exact ⟨⟨name, ofKey⟩, own, ofItem⟩
          · exact inductionHypothesis later member

/-! ## Values -/

/-- A value has a text unless it is an integer that is too long, or a key or a part of it has
none. -/
theorem text_eq_error (failed : text value = .error fault) :
    (∃ number, value = .int number ∧ fault = .integerTooLong ∧ IsLong number) ∨
      (∃ name ∈ value.keys, key name = .error fault) ∨
        ∃ item ∈ value.contents, text item = .error fault := by
  cases value with
  | int number =>
      obtain ⟨rfl, long⟩ := integer_eq_error_iff.mp failed
      exact .inl ⟨number, rfl, rfl, long⟩
  | list values | tuple values =>
      rcases bind_eq_error_iff.mp failed with failed | ⟨_, -, done⟩
      · exact .inr (.inr (items_eq_error failed))
      · cases done
  | map pairs =>
      rcases bind_eq_error_iff.mp failed with failed | ⟨_, -, done⟩
      · obtain ⟨entry, member, ofKey | ofItem⟩ := entries_eq_error failed
        · exact .inr (.inl ⟨entry.1, List.mem_map_of_mem member, ofKey⟩)
        · exact .inr (.inr ⟨entry.2, List.mem_map_of_mem member, ofItem⟩)
      · cases done
  | bool flag => cases flag <;> cases failed
  | _ => cases failed

/-- The parts of a value that has a text have one each. -/
theorem text_of_mem_contents {whole item : Value} {written : String}
    (wrote : text whole = .ok written) (member : item ∈ whole.contents) :
    ∃ own, text item = .ok own := by
  cases whole with
  | list values | tuple values =>
      obtain ⟨inner, wrote, -⟩ := bind_eq_ok_iff.mp wrote
      exact text_of_mem_items wrote member
  | map pairs =>
      obtain ⟨inner, wrote, -⟩ := bind_eq_ok_iff.mp wrote
      obtain ⟨entry, present, rfl⟩ := List.mem_map.mp member
      exact (texts_of_mem_entries wrote present).2
  | _ => cases member

/-- The keys of a mapping that has a text have one each. -/
theorem key_of_mem_keys {whole name : Value} {written : String}
    (wrote : text whole = .ok written) (member : name ∈ whole.keys) :
    ∃ own, key name = .ok own := by
  cases whole with
  | map pairs =>
      obtain ⟨inner, wrote, -⟩ := bind_eq_ok_iff.mp wrote
      obtain ⟨entry, present, rfl⟩ := List.mem_map.mp member
      exact (texts_of_mem_entries wrote present).1
  | _ => cases member

/-- What stands in a value with a text at any depth has one. -/
theorem text_of_occurs {part whole : Value} (occurs : Occurs part whole) {written : String}
    (wrote : text whole = .ok written) : ∃ own, text part = .ok own := by
  induction occurs generalizing written with
  | here => exact ⟨written, wrote⟩
  | within member _ inductionHypothesis =>
      obtain ⟨own, wrote⟩ := text_of_mem_contents wrote member
      exact inductionHypothesis wrote

/-- So has every key of a mapping in it. -/
theorem key_of_occursAsKey {name whole : Value} (occurs : OccursAsKey name whole) {written : String}
    (wrote : text whole = .ok written) : ∃ own, key name = .ok own := by
  obtain ⟨inner, inside, isKey⟩ := occurs
  obtain ⟨own, wrote⟩ := text_of_occurs inside wrote
  exact key_of_mem_keys wrote isKey

/-- A value without a text has an obstacle in it. -/
theorem obstacle_of_text_eq_error (failed : text value = .error fault) : Obstacle value fault := by
  induction value using induction_contents with
  | step whole inductionHypothesis =>
      rcases text_eq_error failed with ⟨number, rfl, rfl, long⟩ | ⟨name, isKey, failed⟩ |
        ⟨item, member, failed⟩
      · exact .integer (.inl .here) long
      · rcases key_eq_error_iff.mp failed with ⟨unnamed, rfl⟩ | ⟨number, rfl, rfl, long⟩
        · exact .key ⟨whole, .here, isKey⟩ unnamed
        · exact .integer (.inr ⟨whole, .here, isKey⟩) long
      · exact (inductionHypothesis item member failed).within member

/-- A value with an obstacle in it has no text. -/
theorem Obstacle.no_text (obstacle : Obstacle value fault) (written : String) :
    text value ≠ .ok written := by
  intro wrote
  cases obstacle with
  | key occurs unnamed =>
      obtain ⟨own, named⟩ := key_of_occursAsKey occurs wrote
      cases (key_eq_error_iff.mpr (.inl ⟨unnamed, rfl⟩)).symm.trans named
  | @integer number occurs long =>
      rcases occurs with inside | isKey
      · obtain ⟨own, wrote⟩ := text_of_occurs inside wrote
        cases (integer_eq_error_iff.mpr ⟨rfl, long⟩).symm.trans wrote
      · obtain ⟨own, named⟩ := key_of_occursAsKey isKey wrote
        cases (key_eq_error_iff.mpr (.inr ⟨number, rfl, rfl, long⟩)).symm.trans named

/-- A value has a text exactly if nothing in it stands in the way. -/
theorem exists_text_iff :
    (∃ written, text value = .ok written) ↔ ∀ fault, ¬ Obstacle value fault := by
  constructor
  · rintro ⟨written, wrote⟩ fault obstacle
    exact obstacle.no_text written wrote
  · intro free
    cases wrote : text value with
    | ok written => exact ⟨written, rfl⟩
    | error fault => exact absurd (obstacle_of_text_eq_error wrote) (free fault)

end Interchange

end Structex
