import Mathlib.Data.List.Perm.Basic
import Structex.Proofs.Value.Placement

/-!
# The order of entries

Two values are the same but for order if they have the same entries everywhere, whatever order the
mappings have them in. Values in which every key is a text and stands once are so as soon as every
path leads to the same in both.
-/

namespace Structex

theorem isSome_eq_of_rel {α β : Type} {related : α → β → Prop} {left : Option α} {right : Option β}
    (rel : Option.Rel related left right) : left.isSome = right.isSome := by
  cases rel <;> rfl

namespace Entries

theorem mem_of_get? {entries : Entries} {part : String} {item : Value}
    (held : entries.get? part = some item) : (.str part, item) ∈ entries := by
  obtain ⟨⟨key, value⟩, found, rfl⟩ := Option.map_eq_some_iff.mp held
  have same := List.find?_some found
  obtain rfl : key = .str part := Value.sameKey_str_iff.mp same
  exact List.mem_of_find?_eq_some found

/-- Where no key comes twice, each text leads to the item that stands under it. -/
theorem Distinct.get?_of_mem {entries : Entries} (distinct : entries.Distinct) {part : String}
    {item : Value} (member : (.str part, item) ∈ entries) : entries.get? part = some item := by
  induction entries with
  | nil => cases member
  | cons entry rest inductionHypothesis =>
      obtain ⟨apart, others⟩ := List.pairwise_cons.mp distinct
      rcases List.mem_cons.mp member with rfl | later
      · exact get?_cons_same
      · have differs : entry.1 ≠ .str part := fun same => by
          have fresh := apart _ later
          rw [Value.sameKey_str_iff.mpr same] at fresh
          cases fresh
        obtain ⟨key, value⟩ := entry
        rw [get?_cons_other differs]
        exact inductionHypothesis others later

theorem isSome_get?_iff {entries : Entries} {part : String} :
    (entries.get? part).isSome = true ↔ .str part ∈ entries.map (·.1) := by
  rw [get?, find?, Option.isSome_map, List.find?_isSome, List.mem_map]
  simp only [Value.sameKey_str_iff]

theorem mem_keys_iff {entries : Entries}
    (texts : ∀ entry ∈ entries, ∃ text, entry.1 = .str text) {key : Value} :
    key ∈ entries.map (·.1) ↔ ∃ text, key = .str text ∧ (entries.get? text).isSome = true := by
  constructor
  · intro isKey
    obtain ⟨entry, present, rfl⟩ := List.mem_map.mp isKey
    obtain ⟨text, isText⟩ := texts entry present
    exact ⟨text, isText, isSome_get?_iff.mpr (isText ▸ isKey)⟩
  · rintro ⟨text, rfl, held⟩
    exact isSome_get?_iff.mp held

/-- Keys that are texts and stand once each are a list without repetitions. -/
theorem Distinct.nodup_keys {entries : Entries} (distinct : entries.Distinct)
    (texts : ∀ entry ∈ entries, ∃ text, entry.1 = .str text) :
    (entries.map (·.1)).Nodup := by
  refine (distinct_iff_keys.mp distinct).imp_of_mem fun {earlier later} member _ fresh same => ?_
  obtain ⟨entry, present, rfl⟩ := List.mem_map.mp member
  obtain ⟨text, isText⟩ := texts entry present
  rw [← same, isText, Value.sameKey_str, beq_self_eq_true] at fresh
  cases fresh

end Entries

namespace Value

/-- Two values are the same, except that the entries of mappings may stand in another order. -/
inductive SameButForOrder : Value → Value → Prop
  | refl (value : Value) : SameButForOrder value value
  | map {left right : Entries} (keys : (left.map (·.1)).Perm (right.map (·.1)))
      (items : ∀ key item other, (key, item) ∈ left → (key, other) ∈ right →
        SameButForOrder item other) : SameButForOrder (.map left) (.map right)

theorem SameButForOrder.rel_refl (found : Option Value) :
    Option.Rel SameButForOrder found found := by
  cases found with
  | none => exact .none
  | some value => exact .some (.refl value)

/-- A path leads to the same but for order in such values, or to nothing in both. -/
theorem SameButForOrder.at? {left right : Value} (same : SameButForOrder left right)
    (path : List String) :
    Option.Rel SameButForOrder (Value.at? path left) (Value.at? path right) := by
  induction path generalizing left right with
  | nil => exact .some same
  | cons part rest inductionHypothesis =>
      cases same with
      | refl => exact rel_refl _
      | @map left right keys items =>
          have both : (Entries.get? left part).isSome = (Entries.get? right part).isSome := by
            rw [Bool.eq_iff_iff, Entries.isSome_get?_iff, Entries.isSome_get?_iff, keys.mem_iff]
          rw [at?_cons_map, at?_cons_map]
          cases heldLeft : Entries.get? left part with
          | none =>
              rw [heldLeft] at both
              rw [Option.isNone_iff_eq_none.mp (Option.isSome_eq_false_iff.mp both.symm)]
              exact .none
          | some item =>
              rw [heldLeft] at both
              obtain ⟨other, heldRight⟩ := Option.isSome_iff_exists.mp both.symm
              rw [heldRight]
              exact inductionHypothesis (items _ item other (Entries.mem_of_get? heldLeft)
                (Entries.mem_of_get? heldRight))

/-- What is a mapping in both or the same leaf in both is alike. -/
theorem rel_alike_of_iff {left right : Option Value}
    (sections : (∃ entries, left = some (.map entries)) ↔ ∃ entries, right = some (.map entries))
    (leaves : ∀ value, value.isMap = false → (left = some value ↔ right = some value)) :
    Option.Rel Alike left right := by
  by_cases isSection : ∃ entries, left = some (.map entries)
  · obtain ⟨others, rfl⟩ := sections.mp isSection
    obtain ⟨entries, rfl⟩ := isSection
    exact .some (.inr ⟨rfl, rfl⟩)
  · have same : left = right := Option.ext fun value => by
      cases value with
      | map entries =>
          exact iff_of_false (fun held => isSection ⟨entries, held⟩)
            fun held => isSection (sections.mpr ⟨entries, held⟩)
      | _ => exact leaves _ rfl
    subst same
    cases left with
    | none => exact .none
    | some value => exact .some (.inl rfl)

/-- Values are the same but for order if every path leads to the same value in both, or to a
mapping in both, or to nothing. -/
theorem sameButForOrder_of_alike {left right : Value} (distinctLeft : HasDistinctKeys left)
    (distinctRight : HasDistinctKeys right) (textsLeft : HasTextKeys left)
    (textsRight : HasTextKeys right)
    (alike : ∀ path, Option.Rel Alike (at? path left) (at? path right)) :
    SameButForOrder left right := by
  induction distinctLeft generalizing right with
  | leaf noMap =>
      cases alike [] with
      | some here =>
          rcases here with rfl | ⟨isMap, -⟩
          · exact .refl _
          · cases noMap.symm.trans isMap
  | @map left onceLeft items inductionHypothesis =>
      have isMap : right.isMap = true := by
        cases alike [] with
        | some here =>
            rcases here with rfl | ⟨-, isMap⟩
            · rfl
            · exact isMap
      cases right with
      | map right =>
          obtain ⟨onceRight, distinctItems⟩ := hasDistinctKeys_map_iff.mp distinctRight
          obtain ⟨keysLeft, textsItems⟩ := hasTextKeys_map_iff.mp textsLeft
          obtain ⟨keysRight, textsOthers⟩ := hasTextKeys_map_iff.mp textsRight
          refine .map ?_ fun key item other memberLeft memberRight => ?_
          · have both : ∀ text,
                (Entries.get? left text).isSome = (Entries.get? right text).isSome := by
              intro text
              rw [← at?_key, ← at?_key]
              exact isSome_eq_of_rel (alike [text])
            refine (List.perm_ext_iff_of_nodup (onceLeft.nodup_keys keysLeft)
              (onceRight.nodup_keys keysRight)).mpr fun key => ?_
            simp only [Entries.mem_keys_iff keysLeft, Entries.mem_keys_iff keysRight, both]
          · obtain ⟨text, rfl⟩ := keysLeft _ memberLeft
            refine inductionHypothesis _ memberLeft (distinctItems _ memberRight)
              (textsItems _ memberLeft) (textsOthers _ memberRight) fun path => ?_
            have below := alike (text :: path)
            rw [at?_cons_map, at?_cons_map, onceLeft.get?_of_mem memberLeft,
              onceRight.get?_of_mem memberRight] at below
            exact below
      | _ => cases isMap

end Value

end Structex
