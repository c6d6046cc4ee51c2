import Structex.Value.Path

/-!
# Values laid over each other

What a path leads to in a value that is laid over another. The value on top decides wherever it has
something at the path, or something that is no mapping on the way to it; the one below shows through
where the path comes to a mapping on top that lacks the next key (`at?_overlay_of_open`). Mappings
must have each of their keys once: of two entries of one key the later is kept when they are laid
over something, but the earlier is found when they are looked up.
-/

namespace Structex

namespace Value

/-- Nothing but the text itself is the same key as a text. -/
theorem sameKey_str_iff {key : Value} {text : String} :
    key.sameKey (.str text) = true ↔ key = .str text := by
  cases key with
  | str other => simp
  | _ => simp [sameKey, asInteger?]

theorem str_sameKey_iff {text : String} {key : Value} :
    (Value.str text).sameKey key = true ↔ key = .str text := by
  cases key with
  | str other =>
      rw [sameKey_str, beq_iff_eq, Value.str.injEq]
      exact eq_comm
  | _ => simp [sameKey, asInteger?]

end Value

namespace Entries

/-- Entries in which no key comes twice. -/
def Distinct (entries : Entries) : Prop :=
  entries.Pairwise fun earlier later => earlier.1.sameKey later.1 = false

theorem get?_cons_same {part : String} {item : Value} {rest : Entries} :
    Entries.get? ((.str part, item) :: rest) part = some item := by
  simp [get?, find?]

theorem get?_cons_other {key item : Value} {part : String} (other : key ≠ .str part)
    {rest : Entries} : Entries.get? ((key, item) :: rest) part = rest.get? part := by
  have differs : key.sameKey (.str part) = false :=
    Bool.eq_false_iff.mpr fun same => other (Value.sameKey_str_iff.mp same)
  simp [get?, find?, differs]

/-- A text key of distinct entries is not found behind its entry. -/
theorem get?_eq_none_of_distinct {part : String} {item : Value} {rest : Entries}
    (distinct : Distinct ((.str part, item) :: rest)) : rest.get? part = none := by
  have apart := (List.pairwise_cons.mp distinct).1
  rw [get?, find?, Option.map_eq_none_iff, List.find?_eq_none]
  intro entry member same
  have differs := apart entry member
  rw [Value.sameKey_str_iff.mp same] at differs
  simp at differs

theorem get?_put_same (entries : Entries) (part : String) (value : Value) :
    (entries.put (.str part) value).get? part = some value := by
  induction entries with
  | nil => exact get?_cons_same
  | cons entry rest inductionHypothesis =>
      obtain ⟨key, old⟩ := entry
      rw [put]
      split
      · rename_i same
        rw [Value.sameKey_str_iff.mp same]
        exact get?_cons_same
      · rename_i differs
        rw [get?_cons_other fun same => differs (Value.sameKey_str_iff.mpr same)]
        exact inductionHypothesis

/-- What is put under one key is not found under another. -/
theorem get?_put_other (entries : Entries) {key : Value} {part : String} (other : key ≠ .str part)
    (value : Value) : (entries.put key value).get? part = entries.get? part := by
  induction entries with
  | nil => exact get?_cons_other other
  | cons entry rest inductionHypothesis =>
      obtain ⟨known, old⟩ := entry
      rw [put]
      split
      · rename_i same
        -- The entry keeps its own key, which is no more the text than the key that is put.
        have apart : known ≠ .str part := by
          rintro rfl
          exact other (Value.str_sameKey_iff.mp same)
        rw [get?_cons_other apart, get?_cons_other apart]
      · by_cases here : known = .str part
        · subst here
          rw [get?_cons_same, get?_cons_same]
        · rw [get?_cons_other here, get?_cons_other here, inductionHypothesis]

end Entries

namespace Value

/-- Laid over what is no mapping, a value stays as it is. -/
theorem overlay_of_not_isMap {below : Value} (noMap : below.isMap = false) (above : Value) :
    overlay below above = above := by
  cases above with
  | map entries =>
      cases below with
      | map entries => cases noMap
      | _ => rfl
  | _ => rfl

/-- What is no mapping hides all that is below it. -/
theorem overlay_not_isMap (below : Value) {above : Value} (noMap : above.isMap = false) :
    overlay below above = above := by
  cases above with
  | map entries => cases noMap
  | _ => rfl

theorem isMap_overlay (below above : Value) : (overlay below above).isMap = above.isMap := by
  cases above with
  | map entries => cases below <;> rfl
  | _ => rfl

theorem overlayEntries_cons (below : Entries) (key item : Value) (rest : Entries) :
    overlayEntries below ((key, item) :: rest) =
      overlayEntries (below.put key (overlay ((below.find? key).getD .null) item)) rest := by
  rw [overlayEntries]
  cases below.find? key with
  | some old => rfl
  | none => rw [Option.getD_none, overlay_of_not_isMap rfl]

/-- A key of entries laid over others has the entry on top, laid over the one below if there is
one. -/
theorem get?_overlayEntries {above : Entries} (distinct : above.Distinct) (below : Entries)
    (part : String) :
    (overlayEntries below above).get? part =
      match above.get? part with
      | none => below.get? part
      | some item => some (overlay ((below.get? part).getD .null) item) := by
  induction above generalizing below with
  | nil => rfl
  | cons entry rest inductionHypothesis =>
      obtain ⟨key, item⟩ := entry
      rw [overlayEntries_cons, inductionHypothesis (List.pairwise_cons.mp distinct).2]
      by_cases here : key = .str part
      · subst here
        rw [Entries.get?_cons_same, Entries.get?_eq_none_of_distinct distinct]
        exact Entries.get?_put_same ..
      · rw [Entries.get?_cons_other here, Entries.get?_put_other _ here]

/-- Values in which every mapping that a path can lead to has each key once. -/
inductive HasDistinctKeys : Value → Prop
  | map {entries : Entries} (distinct : entries.Distinct)
      (items : ∀ entry ∈ entries, HasDistinctKeys entry.2) : HasDistinctKeys (.map entries)
  | leaf {value : Value} (noMap : value.isMap = false) : HasDistinctKeys value

theorem hasDistinctKeys_map_iff {entries : Entries} : HasDistinctKeys (.map entries) ↔
    entries.Distinct ∧ ∀ entry ∈ entries, HasDistinctKeys entry.2 := by
  constructor
  · intro distinct
    cases distinct with
    | map once items => exact ⟨once, items⟩
    | leaf noMap => cases noMap
  · rintro ⟨once, items⟩
    exact .map once items

theorem HasDistinctKeys.of_get? {entries : Entries} (distinct : HasDistinctKeys (.map entries))
    {part : String} {item : Value} (held : entries.get? part = some item) :
    HasDistinctKeys item := by
  obtain ⟨entry, found, rfl⟩ := Option.map_eq_some_iff.mp held
  exact (hasDistinctKeys_map_iff.mp distinct).2 entry (List.mem_of_find?_eq_some found)

/-- Something that is no mapping stands in the way of a path. -/
inductive Blocks : List String → Value → Prop
  | here {part : String} {rest : List String} {value : Value} (noMap : value.isMap = false) :
      Blocks (part :: rest) value
  | within {part : String} {rest : List String} {entries : Entries} {item : Value}
      (held : entries.get? part = some item) (inner : Blocks rest item) :
      Blocks (part :: rest) (.map entries)

/-- Two values are the same for a reader that looks no further into mappings. -/
def Alike (left right : Value) : Prop :=
  left = right ∨ left.isMap = true ∧ right.isMap = true

theorem at?_cons_map (part : String) (rest : List String) (entries : Entries) :
    at? (part :: rest) (.map entries) = (entries.get? part).bind (at? rest) :=
  rfl

theorem at?_key (part : String) (entries : Entries) :
    at? [part] (.map entries) = entries.get? part := by
  rw [at?_cons_map]
  cases entries.get? part <;> rfl

theorem at?_cons_of_not_isMap {value : Value} (noMap : value.isMap = false) (part : String)
    (rest : List String) : at? (part :: rest) value = none := by
  cases value with
  | map entries => cases noMap
  | _ => rfl

/-- One key of a path after another. -/
theorem at?_cons (part : String) (rest : List String) (value : Value) :
    at? (part :: rest) value = (at? [part] value).bind (at? rest) := by
  cases value with
  | map entries => rw [at?_cons_map, at?_key]
  | _ => rfl

/-- A key of a value with a mapping laid over it. -/
theorem at?_key_overlay {above : Entries} (distinct : above.Distinct) (below : Value)
    (part : String) :
    at? [part] (overlay below (.map above)) =
      match above.get? part with
      | none => at? [part] below
      | some item => some (overlay ((at? [part] below).getD .null) item) := by
  cases isMap : below.isMap with
  | false =>
      have plain (item : Value) : overlay .null item = item := overlay_of_not_isMap rfl item
      rw [overlay_of_not_isMap isMap, at?_cons_of_not_isMap isMap, at?_key]
      simp only [Option.getD_none, plain]
      cases above.get? part <;> rfl
  | true =>
      cases below with
      | map entries => rw [at?_key, ← get?_overlayEntries distinct, ← at?_key, overlay]
      | _ => cases isMap

/-- What the value on top has at a path is there when it is laid over another, laid over what is
below there. -/
theorem at?_overlay_of_held {above : Value} (distinct : above.HasDistinctKeys) (below : Value)
    {path : List String} {item : Value} (held : at? path above = some item) :
    at? path (overlay below above) = some (overlay ((at? path below).getD .null) item) := by
  induction path generalizing above below with
  | nil =>
      obtain rfl := Option.some.inj held
      rfl
  | cons part rest inductionHypothesis =>
      cases distinct with
      | leaf noMap =>
          rw [at?_cons_of_not_isMap noMap] at held
          cases held
      | map once items =>
          obtain ⟨inner, found, further⟩ := Option.bind_eq_some_iff.mp held
          have lower := inductionHypothesis (HasDistinctKeys.of_get? (.map once items) found)
            ((at? [part] below).getD .null) further
          rw [at?_cons, at?_key_overlay once, found, at?_cons part rest below]
          refine lower.trans ?_
          cases at? [part] below with
          | some old => rfl
          | none => cases rest <;> rfl

/-- It is the same there for a reader that looks no further into mappings. -/
theorem at?_overlay_of_some {above : Value} (distinct : above.HasDistinctKeys) (below : Value)
    {path : List String} {item : Value} (held : at? path above = some item) :
    ∃ joined, at? path (overlay below above) = some joined ∧ item.Alike joined := by
  refine ⟨_, at?_overlay_of_held distinct below held, ?_⟩
  cases isMap : item.isMap with
  | true => exact .inr ⟨isMap, (isMap_overlay _ item).trans isMap⟩
  | false => exact .inl (overlay_not_isMap _ isMap).symm

/-- Where the value on top blocks a path, nothing is there when it is laid over another. -/
theorem at?_overlay_of_blocks {above : Value} (distinct : above.HasDistinctKeys) (below : Value)
    {path : List String} (blocks : Blocks path above) : at? path (overlay below above) = none := by
  induction blocks generalizing below with
  | here noMap =>
      rw [overlay_not_isMap below noMap]
      exact at?_cons_of_not_isMap noMap _ _
  | within held inner inductionHypothesis =>
      rw [at?_cons, at?_key_overlay (hasDistinctKeys_map_iff.mp distinct).1, held]
      exact inductionHypothesis (distinct.of_get? held) _

/-- Where the value on top lacks the next key of a path, the one below shows through. -/
theorem at?_overlay_of_open {above : Value} (distinct : above.HasDistinctKeys) (below : Value)
    {path : List String} (missing : at? path above = none) (isOpen : ¬ Blocks path above) :
    at? path (overlay below above) = at? path below := by
  induction path generalizing above below with
  | nil => cases missing
  | cons part rest inductionHypothesis =>
      cases distinct with
      | leaf noMap => exact absurd (.here noMap) isOpen
      | @map entries once items =>
          rw [at?_cons, at?_key_overlay once, at?_cons part rest below]
          rw [at?_cons_map] at missing
          cases found : entries.get? part with
          | none => rfl
          | some item =>
              rw [found, Option.bind_some] at missing
              have lower := inductionHypothesis (HasDistinctKeys.of_get? (.map once items) found)
                ((at? [part] below).getD .null) missing fun inner => isOpen (.within found inner)
              show at? rest (overlay ((at? [part] below).getD .null) item) = _
              rw [lower]
              cases at? [part] below with
              | some old => rfl
              | none =>
                  -- A path that ends here would have found the item.
                  cases rest with
                  | nil => cases missing
                  | cons next others => rfl

end Value

end Structex
