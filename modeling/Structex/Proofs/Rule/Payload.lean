import Structex.Proofs.Cascade.Admission
import Structex.Proofs.Value.Interchange

/-!
# Payloads and their texts

Guard, veto and extraction look at the text of a payload, so a rule can be applied to a document
that it watches exactly if the payload has one. A text is its own text, whatever stands in it; for
every other payload it is the interchange text. Days and moments have one as values but not as keys.
-/

namespace Structex

open Interchange Value

variable {data : Value} {fault : InterchangeFault}

/-- Something stands in the way of the text of a payload that has none. -/
theorem payloadText_eq_error (failed : payloadText data = .error fault) : Obstacle data fault := by
  cases data with
  | str text => cases failed
  | _ => exact obstacle_of_text_eq_error failed

/-- A payload has a text exactly if nothing in it stands in the way. -/
theorem exists_payloadText_iff :
    (∃ payload, payloadText data = .ok payload) ↔ ∀ fault, ¬ Obstacle data fault := by
  rw [← exists_text_iff]
  cases data with
  | str text => exact iff_of_true ⟨text, rfl⟩ ⟨_, rfl⟩
  | _ => rfl

/-- Among scalars only days and moments cannot be keys of an object. -/
theorem isNamed_of_isScalar {name : Value} (scalar : name.isScalar = true) :
    isNamed name = !name.isTime := by
  cases name with
  | list _ | tuple _ | map _ | pattern _ | record _ _ | object _ _ => cases scalar
  | _ => rfl

/-- Among payloads in which all keys are scalars, those have a text that have neither a day nor a
moment for a key and no integer that is too long, at whatever depth. A rule that watches a document
with such a payload admits the text or passes the document over; with any other payload it fails. -/
theorem payloadText_of_scalarKeys
    (scalar : ∀ name, OccursAsKey name data → name.isScalar = true) :
    ((∃ payload, payloadText data = .ok payload) ↔
      (∀ name, OccursAsKey name data → name.isTime = false) ∧
        ∀ number, Occurs (.int number) data ∨ OccursAsKey (.int number) data → ¬ IsLong number) ∧
    (∀ payload, payloadText data = .ok payload → ∀ (rule : Rule) (document : Document),
      document.data = data → rule.watches document.key = .ok true →
      ∀ (ids : Type) (draw : Registry.Drawing ids String), rule.fire? document draw =
        if rule.admits payload then some <$> rule.reaction document payload draw else pure none) ∧
    (∀ fault, payloadText data = .error fault → Obstacle data fault ∧
      ∀ (rule : Rule) (document : Document),
        document.data = data → rule.watches document.key = .ok true →
        ∀ (ids : Type) (draw : Registry.Drawing ids String),
          rule.fire? document draw = throw (.interchange fault)) := by
  refine ⟨?_, ?_, fun fault failed => ⟨payloadText_eq_error failed, ?_⟩⟩
  · rw [exists_payloadText_iff]
    constructor
    · intro free
      refine ⟨fun name occurs => ?_, fun number occurs long => free _ (.integer occurs long)⟩
      by_contra time
      have unnamed : isNamed name = false := by
        rw [isNamed_of_isScalar (scalar name occurs)]
        simpa using time
      exact free _ (.key occurs unnamed)
    · rintro ⟨timeless, short⟩ fault obstacle
      cases obstacle with
      | key occurs unnamed =>
          rw [isNamed_of_isScalar (scalar _ occurs), timeless _ occurs] at unnamed
          cases unnamed
      | integer occurs long => exact short _ occurs long
  · rintro payload readable rule document rfl watched ids draw
    rw [Rule.fire?_eq watched readable, Rule.accepts_of_watches watched, Bool.true_and]
  · rintro rule document rfl watched ids draw
    rw [Rule.fire?, watched, failed]
    rfl

/-- Days and moments under keys of every other kind. -/
def datedPayload : Value :=
  .map [(.bool true, .list [.date ⟨2024, 1, 2⟩, .null]),
    (.int 7, .map [(.null, .moment ⟨⟨2024, 1, 2⟩, 3, 4, 5, 0, none⟩)])]

/-- The rule that watches everything and guards nothing. -/
def watchAll : Rule where
  name := "all"
  watch := "/**"
  glob := ⟨"/**", [.double]⟩
  emit := "t"
  emitPath := "/out"
  template := .null
  extract := none
  guard := none
  veto := none
  following := none

/-- The text of that payload. -/
def datedText : String :=
  "\x7b\"true\":[\"2024-01-02\",null],\"7\":\x7b\"null\":\"2024-01-02 03:04:05\"\x7d\x7d"

/-- Such a payload has a text, and a rule can look at it. -/
theorem payloadText_of_scalarKeys_of_dated :
    (∀ name, OccursAsKey name datedPayload → name.isScalar = true) ∧
      payloadText datedPayload = .ok datedText ∧
      (∀ name, OccursAsKey name datedPayload → name.isTime = false) ∧
      watchAll.watches (.str "/a") = .ok true ∧
      ∀ draw : Registry.Drawing Nat String,
        watchAll.fire? ⟨.str "/a", .str "s", datedPayload, none⟩ draw =
          some <$> watchAll.reaction ⟨.str "/a", .str "s", datedPayload, none⟩ datedText draw := by
  have scalar : ∀ name, OccursAsKey name datedPayload → name.isScalar = true := by
    rw [forall_occursAsKey_iff]
    refine ⟨by simp [datedPayload, keys, isScalar], List.forall_mem_cons.mpr
      ⟨?_, List.forall_mem_singleton.mpr ?_⟩⟩
    · exact forall_occursAsKey_of_flat (by simp [contents, isScalar]) nofun
    · exact forall_occursAsKey_of_flat (by simp [contents, isScalar]) (by simp [keys, isScalar])
  obtain ⟨total, evaluates, -⟩ := payloadText_of_scalarKeys scalar
  have written : payloadText datedPayload = .ok datedText := rfl
  exact ⟨scalar, written, (total.mp ⟨_, written⟩).1, rfl,
    fun draw => evaluates _ written watchAll _ rfl rfl Nat draw⟩

/-- A day under the key of a mapping has a text, but as a key it has none, and a rule that watches
the document fails. -/
theorem payloadText_fails_at_day_key :
    payloadText (.map [(.str "day", .date ⟨2024, 1, 2⟩)]) = .ok "\x7b\"day\":\"2024-01-02\"\x7d" ∧
      (∀ name, OccursAsKey name (.map [(.date ⟨2024, 1, 2⟩, .int 1)]) → name.isScalar = true) ∧
      payloadText (.map [(.date ⟨2024, 1, 2⟩, .int 1)]) = .error (.keyKind "date") ∧
      watchAll.watches (.str "/a") = .ok true ∧
      ∀ draw : Registry.Drawing Nat String,
        watchAll.fire? ⟨.str "/a", .str "s", .map [(.date ⟨2024, 1, 2⟩, .int 1)], none⟩ draw =
          throw (.interchange (.keyKind "date")) := by
  refine ⟨rfl, ?_, rfl, rfl, fun draw => rfl⟩
  exact forall_occursAsKey_of_flat (by simp [contents, isScalar]) (by simp [keys, isScalar])

end Structex
