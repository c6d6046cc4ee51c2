import Structex.Proofs.Value.Placement
import Structex.Value.Shared

/-!
# Shared mappings

The value in a value with shared mappings, what stands in it, and where paths lead. All places of a
mark hold the same mapping (`Consistent`), as they stand for one. So what becomes of the mapping is
spread over its places: a path that goes through one of them leads on into the changed mapping, and
where none stands nothing changes.
-/

namespace Structex.Shared

variable {content item new changed : Shared} {entries : List (Value × Shared)} {mark : Nat}

/-! ## The value in it -/

theorem values_eq_map (items : List Shared) : values items = items.map value := by
  induction items with
  | nil => rfl
  | cons item rest inductionHypothesis => rw [values, inductionHypothesis, List.map_cons]

theorem valueEntries_eq_map (entries : List (Value × Shared)) :
    valueEntries entries = entries.map fun entry => (entry.1, entry.2.value) := by
  induction entries with
  | nil => rfl
  | cons entry rest inductionHypothesis =>
      obtain ⟨key, item⟩ := entry
      rw [valueEntries, inductionHypothesis, List.map_cons]

theorem get?_valueEntries (entries : List (Value × Shared)) (part : String) :
    Entries.get? (valueEntries entries) part = (get? entries part).map value := by
  rw [Entries.get?, Entries.find?, valueEntries_eq_map, List.find?_map, get?, Option.map_map,
    Option.map_map]
  rfl

theorem valueEntries_put (entries : List (Value × Shared)) (key : Value) (item : Shared) :
    valueEntries (put entries key item) = Entries.put (valueEntries entries) key item.value := by
  induction entries with
  | nil => rfl
  | cons entry rest inductionHypothesis =>
      obtain ⟨other, old⟩ := entry
      rw [put, valueEntries, Entries.put]
      split
      case isTrue => rfl
      case isFalse => rw [valueEntries, inductionHypothesis]

theorem valueEntries_ofPairs (pairs : List (Value × Shared)) :
    valueEntries (ofPairs pairs) = Entries.ofList (valueEntries pairs) := by
  have each : ∀ known : List (Value × Shared),
      valueEntries (pairs.foldl (fun entries pair => put entries pair.1 pair.2) known) =
        (valueEntries pairs).foldl (fun entries pair => Entries.put entries pair.1 pair.2)
          (valueEntries known) := by
    induction pairs with
    | nil => exact fun known => rfl
    | cons pair rest inductionHypothesis =>
        intro known
        rw [List.foldl_cons, inductionHypothesis, valueEntries_put]
        rfl
  exact each []

/-- The value has under a path the value of what stands there. -/
theorem at?_value (path : List String) (content : Shared) :
    Value.at? path content.value = (content.at? path).map value := by
  induction path generalizing content with
  | nil => rfl
  | cons part rest inductionHypothesis =>
      cases content with
      | map mark entries =>
          rw [value, Value.at?_cons_map, get?_valueEntries, at?]
          cases get? entries part with
          | none => rfl
          | some item => exact inductionHypothesis item
      | leaf value noMap => exact Value.at?_cons_of_not_isMap noMap part rest
      | _ => rfl

/-- Putting something in one place puts its value into the value. -/
theorem putAt_value (new : Shared) (path : List String) (content : Shared) :
    Value.putAt new.value path content.value = (putAt new path content).map value := by
  induction path generalizing content with
  | nil => rfl
  | cons part rest inductionHypothesis =>
      cases content with
      | map mark entries =>
          have inner : (Entries.get? (valueEntries entries) part).getD (.map []) =
              ((get? entries part).getD (.map none [])).value := by
            rw [get?_valueEntries]
            cases get? entries part <;> rfl
          rw [value, Value.putAt, inner, inductionHypothesis, putAt]
          cases putAt new rest ((get? entries part).getD (.map none [])) with
          | error fault => rfl
          | ok below =>
              exact congrArg (fun made => Except.ok (Value.map made)) (valueEntries_put ..).symm
      | leaf value noMap =>
          cases value with
          | map entries => cases noMap
          | _ => cases rest <;> rfl
      | _ => cases rest <;> rfl

/-- Something can be put in one place unless something is in the way to it. -/
theorem exists_putAt_iff {path : List String} :
    (∃ result, putAt new path content = .ok result) ↔ ¬ Value.Blocks path content.value := by
  rw [← @Value.exists_putAt_iff new.value, putAt_value]
  cases putAt new path content <;> simp [Except.map]

/-- A value that was put in one place is what the value has there. -/
theorem putAt_eq_ok {path : List String} {result : Shared}
    (done : putAt new path content = .ok result) :
    Value.putAt new.value path content.value = .ok result.value := by
  rw [putAt_value, done]
  rfl

/-- Putting what stands under a key there again changes nothing. -/
theorem put_of_get? {part : String} (held : get? entries part = some item) :
    put entries (.str part) item = entries := by
  induction entries with
  | nil => cases held
  | cons entry rest inductionHypothesis =>
      obtain ⟨key, old⟩ := entry
      rw [get?, List.find?_cons] at held
      rw [put]
      cases here : key.sameKey (.str part) with
      | true =>
          rw [here] at held
          cases held
          rfl
      | false =>
          rw [here] at held
          rw [if_neg Bool.false_ne_true, inductionHypothesis held]

/-- What is made on the way to a path is only there if the path is gone to its end: nothing can be
in the way behind the first mapping that is missing. -/
theorem putInPlace_eq (new : Shared) (path : List String) (content : Shared) :
    putInPlace new path content =
      match putAt new path content with
      | .ok result => (result, .ok ())
      | .error fault => (content, .error fault) := by
  induction path generalizing content with
  | nil => rfl
  | cons part rest inductionHypothesis =>
      cases content with
      | map mark entries =>
          rw [putInPlace, inductionHypothesis, putAt]
          cases lower : putAt new rest ((get? entries part).getD (.map none [])) with
          | ok inner => rfl
          | error fault =>
              cases held : get? entries part with
              | none =>
                  rw [held, Option.getD_none] at lower
                  have free : ∃ result, putAt new rest (.map none []) = .ok result :=
                    exists_putAt_iff.mpr (Value.not_blocks_empty rest)
                  obtain ⟨result, done⟩ := free
                  cases lower.symm.trans done
              | some item =>
                  exact congrArg (fun kept => (Shared.map mark kept, Except.error fault))
                    (put_of_get? held)
      | _ => cases rest <;> rfl

/-! ## What stands in it -/

/-- The items of a sequence, and what stands under the keys of a mapping. -/
def contents : Shared → List Shared
  | .leaf _ _ => []
  | .list items => items
  | .tuple items => items
  | .map _ entries => entries.map (·.2)

/-- Something stands in a value at some depth, or is the value. -/
inductive Occurs (part : Shared) : Shared → Prop
  | here : Occurs part part
  | within {item whole : Shared} (member : item ∈ whole.contents) (inside : Occurs part item) :
      Occurs part whole

theorem sizeOf_lt_of_mem_contents {whole : Shared} (member : item ∈ whole.contents) :
    sizeOf item < sizeOf whole := by
  cases whole with
  | leaf value noMap => cases member
  | list items =>
      have smaller : sizeOf item < sizeOf items := List.sizeOf_lt_of_mem member
      simp only [list.sizeOf_spec]
      omega
  | tuple items =>
      have smaller : sizeOf item < sizeOf items := List.sizeOf_lt_of_mem member
      simp only [tuple.sizeOf_spec]
      omega
  | map mark entries =>
      obtain ⟨⟨key, value⟩, present, rfl⟩ := List.mem_map.mp member
      have smaller := List.sizeOf_lt_of_mem present
      simp only [map.sizeOf_spec, Prod.mk.sizeOf_spec] at smaller ⊢
      omega

/-- What holds of a value whenever it holds of its contents holds of every value. -/
theorem induction_contents {motive : Shared → Prop}
    (step : ∀ whole, (∀ item ∈ whole.contents, motive item) → motive whole) (content : Shared) :
    motive content :=
  step content fun item member =>
    have _smaller := sizeOf_lt_of_mem_contents member
    induction_contents step item
termination_by sizeOf content

theorem Occurs.sizeOf_le {part whole : Shared} (occurs : Occurs part whole) :
    sizeOf part ≤ sizeOf whole := by
  induction occurs with
  | here => exact Nat.le_refl _
  | within member _ inductionHypothesis =>
      exact Nat.le_of_lt (Nat.lt_of_le_of_lt inductionHypothesis (sizeOf_lt_of_mem_contents member))

theorem Occurs.trans {part middle whole : Shared} (inner : Occurs part middle)
    (outer : Occurs middle whole) : Occurs part whole := by
  induction outer with
  | here => exact inner
  | within member _ inductionHypothesis => exact .within member inductionHypothesis

theorem mem_contents_of_get? {part : String} (held : get? entries part = some item)
    (mark : Option Nat) : item ∈ (map mark entries).contents := by
  obtain ⟨entry, found, rfl⟩ := Option.map_eq_some_iff.mp held
  exact List.mem_map_of_mem (List.mem_of_find?_eq_some found)

/-! ## Paths -/

/-- A path that goes on leads to what it leads to from where its beginning does. -/
theorem at?_append (before rest : List String) (content : Shared) :
    content.at? (before ++ rest) = (content.at? before).bind (at? rest) := by
  induction before generalizing content with
  | nil => rfl
  | cons part before inductionHypothesis =>
      cases content with
      | map mark entries =>
          rw [List.cons_append, at?, at?, Option.bind_assoc]
          exact Option.bind_congr fun item _ => inductionHypothesis item
      | _ => rfl

theorem occurs_of_at? {path : List String} (reached : content.at? path = some item) :
    Occurs item content := by
  induction path generalizing content with
  | nil =>
      cases reached
      exact .here
  | cons part rest inductionHypothesis =>
      cases content with
      | map mark entries =>
          obtain ⟨inner, held, further⟩ := Option.bind_eq_some_iff.mp reached
          exact .within (mem_contents_of_get? held mark) (inductionHypothesis further)
      | _ => cases reached

/-- What a path leads to is smaller than where it begins. -/
theorem sizeOf_lt_of_at? {part : String} {rest : List String}
    (reached : content.at? (part :: rest) = some item) : sizeOf item < sizeOf content := by
  cases content with
  | map mark entries =>
      obtain ⟨inner, held, further⟩ := Option.bind_eq_some_iff.mp reached
      exact Nat.lt_of_le_of_lt (occurs_of_at? further).sizeOf_le
        (sizeOf_lt_of_mem_contents (mem_contents_of_get? held mark))
  | _ => cases reached

/-- All places of a mark hold the same mapping. -/
def Consistent (content : Shared) : Prop :=
  ∀ ⦃mark : Nat⦄ ⦃left right : List (Value × Shared)⦄,
    Occurs (.map (some mark) left) content → Occurs (.map (some mark) right) content → left = right

/-- No mapping in it is marked. -/
def Unmarked (content : Shared) : Prop :=
  ∀ ⦃mark : Nat⦄ ⦃entries : List (Value × Shared)⦄, ¬ Occurs (.map (some mark) entries) content

theorem Unmarked.consistent (unmarked : content.Unmarked) : content.Consistent :=
  fun _ _ _ occurs _ => (unmarked occurs).elim

mutual

/-- Nothing is shared in a plain value. -/
theorem unmarked_ofValue (value : Value) : (ofValue value).Unmarked := by
  intro mark entries occurs
  cases value with
  | map known =>
      rw [ofValue] at occurs
      cases occurs with
      | within member inside => exact unmarked_ofEntries known _ member inside
  | _ =>
      cases occurs with
      | within member _ => cases member

theorem unmarked_ofEntries (known : Entries) :
    ∀ item ∈ (ofEntries known).map (·.2), item.Unmarked := by
  match known with
  | [] => exact List.forall_mem_nil _
  | (key, value) :: rest =>
      rw [ofEntries, List.map_cons]
      exact List.forall_mem_cons.mpr ⟨unmarked_ofValue value, unmarked_ofEntries rest⟩

end

/-- The path leads to a place of the mark. -/
def LeadsTo (content : Shared) (path : List String) (mark : Nat) : Prop :=
  ∃ entries, content.at? path = some (.map (some mark) entries)

/-- The mark of a mapping, if it has one. -/
def mark? : Shared → Option Nat
  | .map mark _ => mark
  | _ => none

theorem leadsTo_iff {path : List String} :
    content.LeadsTo path mark ↔ (content.at? path).bind mark? = some mark := by
  rw [LeadsTo]
  cases content.at? path with
  | none => simp
  | some held => cases held <;> simp [mark?]

instance (content : Shared) (path : List String) (mark : Nat) :
    Decidable (content.LeadsTo path mark) :=
  decidable_of_iff _ leadsTo_iff.symm

/-- Of two paths to places of one mark none goes on from the other. -/
theorem Consistent.eq_of_prefix (consistent : content.Consistent) {before after : List String}
    (shorter : before <+: after) (first : content.LeadsTo before mark)
    (second : content.LeadsTo after mark) : before = after := by
  obtain ⟨rest, rfl⟩ := shorter
  obtain ⟨left, reached⟩ := first
  obtain ⟨right, further⟩ := second
  cases rest with
  | nil => rw [List.append_nil]
  | cons part rest =>
      obtain rfl := consistent (occurs_of_at? reached) (occurs_of_at? further)
      rw [at?_append, reached] at further
      exact absurd (sizeOf_lt_of_at? further) (Nat.lt_irrefl _)

/-- From the places of a mark paths lead to the same. -/
theorem Consistent.at?_append_congr (consistent : content.Consistent) {left right : List String}
    (first : content.LeadsTo left mark) (second : content.LeadsTo right mark)
    (rest : List String) : content.at? (left ++ rest) = content.at? (right ++ rest) := by
  obtain ⟨entries, reached⟩ := first
  obtain ⟨others, alsoReached⟩ := second
  obtain rfl := consistent (occurs_of_at? reached) (occurs_of_at? alsoReached)
  rw [at?_append, at?_append, reached, alsoReached]

/-- A mapping does not stand in itself. -/
theorem Consistent.not_occurs_within (consistent : content.Consistent)
    {entries inner : List (Value × Shared)} (occurs : Occurs (.map (some mark) entries) content)
    (member : item ∈ (map (some mark) entries).contents) :
    ¬ Occurs (.map (some mark) inner) item := by
  intro inside
  obtain rfl := consistent occurs ((Occurs.within member inside).trans occurs)
  exact absurd (sizeOf_lt_of_mem_contents member) (Nat.not_lt.mpr inside.sizeOf_le)

/-! ## Changing all places of a mark -/

theorem spreadItems_eq_map (items : List Shared) :
    spreadItems mark changed items = items.map (spread mark changed) := by
  induction items with
  | nil => rfl
  | cons item rest inductionHypothesis => rw [spreadItems, inductionHypothesis, List.map_cons]

theorem spreadEntries_eq_map (entries : List (Value × Shared)) :
    spreadEntries mark changed entries =
      entries.map fun entry => (entry.1, spread mark changed entry.2) := by
  induction entries with
  | nil => rfl
  | cons entry rest inductionHypothesis =>
      obtain ⟨key, item⟩ := entry
      rw [spreadEntries, inductionHypothesis, List.map_cons]

theorem get?_spreadEntries (entries : List (Value × Shared)) (part : String) :
    get? (spreadEntries mark changed entries) part =
      (get? entries part).map (spread mark changed) := by
  rw [get?, spreadEntries_eq_map, List.find?_map, get?, Option.map_map, Option.map_map]
  rfl

theorem spread_map_self (entries : List (Value × Shared)) :
    spread mark changed (.map (some mark) entries) = changed := by
  rw [spread, if_pos rfl]

theorem spread_map_other {own : Option Nat} (other : own ≠ some mark)
    (entries : List (Value × Shared)) :
    spread mark changed (.map own entries) = .map own (spreadEntries mark changed entries) := by
  rw [spread, if_neg other]

/-- Where every place of the mark has it already, nothing changes. -/
theorem spread_eq_self
    (same : ∀ entries, Occurs (.map (some mark) entries) content →
      .map (some mark) entries = changed) : spread mark changed content = content := by
  induction content using induction_contents with
  | step whole inductionHypothesis =>
      have inner (item : Shared) (member : item ∈ whole.contents) :
          spread mark changed item = item :=
        inductionHypothesis item member fun entries occurs => same entries (.within member occurs)
      cases whole with
      | leaf value noMap => rw [spread]
      | list items =>
          rw [spread, spreadItems_eq_map]
          exact congrArg list ((List.map_congr_left inner).trans (List.map_id' items))
      | tuple items =>
          rw [spread, spreadItems_eq_map]
          exact congrArg tuple ((List.map_congr_left inner).trans (List.map_id' items))
      | map own entries =>
          by_cases isOwn : own = some mark
          · subst isOwn
            rw [spread_map_self, same entries .here]
          · have kept : ∀ entry ∈ entries, (entry.1, spread mark changed entry.2) = entry :=
              fun entry member => by rw [inner entry.2 (List.mem_map_of_mem member)]
            rw [spread_map_other isOwn, spreadEntries_eq_map, List.map_congr_left kept,
              List.map_id']

/-- A path that leads to no place of the mark on its way leads where it led, with what is behind
changed. -/
theorem at?_spread_of_apart {path : List String}
    (apart : ∀ before, before <+: path → ¬ content.LeadsTo before mark) :
    (spread mark changed content).at? path = (content.at? path).map (spread mark changed) := by
  induction path generalizing content with
  | nil => rfl
  | cons part rest inductionHypothesis =>
      cases content with
      | map own entries =>
          have other : own ≠ some mark := fun isOwn =>
            apart [] List.nil_prefix ⟨entries, isOwn ▸ rfl⟩
          rw [spread_map_other other, at?, get?_spreadEntries, at?]
          cases held : get? entries part with
          | none => rfl
          | some item =>
              refine inductionHypothesis fun before shorter leads => ?_
              obtain ⟨inner, reached⟩ := leads
              refine apart (part :: before) (List.cons_prefix_cons.mpr ⟨rfl, shorter⟩) ⟨inner, ?_⟩
              rw [at?, held]
              exact reached
      | _ => rfl

/-- Behind a place of the mark stands what it has become. -/
theorem at?_spread_append (consistent : content.Consistent) {before : List String}
    (leads : content.LeadsTo before mark) (rest : List String) :
    (spread mark changed content).at? (before ++ rest) = changed.at? rest := by
  induction before generalizing content with
  | nil =>
      obtain ⟨entries, reached⟩ := leads
      cases reached
      rw [spread_map_self, List.nil_append]
  | cons part before inductionHypothesis =>
      cases content with
      | map own entries =>
          have other : own ≠ some mark := by
            rintro rfl
            cases consistent.eq_of_prefix List.nil_prefix ⟨entries, rfl⟩ leads
          obtain ⟨inner, reached⟩ := leads
          obtain ⟨item, held, further⟩ := Option.bind_eq_some_iff.mp reached
          have member := mem_contents_of_get? held own
          rw [spread_map_other other, List.cons_append, at?, get?_spreadEntries, held]
          exact inductionHypothesis
            (fun _ _ _ left right => consistent (.within member left) (.within member right))
            ⟨inner, further⟩
      | _ =>
          obtain ⟨inner, reached⟩ := leads
          cases reached

/-- Changing the places of a mark keeps the keys of all mappings apart. -/
theorem hasDistinctKeys_spread (inner : changed.value.HasDistinctKeys)
    (distinct : content.value.HasDistinctKeys) :
    (spread mark changed content).value.HasDistinctKeys := by
  induction content using induction_contents with
  | step whole inductionHypothesis =>
      cases whole with
      | leaf value noMap => exact distinct
      | list items => exact .leaf rfl
      | tuple items => exact .leaf rfl
      | map own entries =>
          by_cases isOwn : own = some mark
          · subst isOwn
            rw [spread_map_self]
            exact inner
          · rw [value, Value.hasDistinctKeys_map_iff, valueEntries_eq_map] at distinct
            rw [spread_map_other isOwn, value, Value.hasDistinctKeys_map_iff, spreadEntries_eq_map,
              valueEntries_eq_map, List.map_map]
            obtain ⟨once, items⟩ := distinct
            refine ⟨?_, fun entry member => ?_⟩
            · rw [Entries.distinct_iff_keys, List.map_map] at once ⊢
              exact once
            · obtain ⟨known, present, rfl⟩ := List.mem_map.mp member
              exact inductionHypothesis known.2 (List.mem_map_of_mem present)
                (items _ (List.mem_map_of_mem present))

/-- What stands in a value whose places of a mark are changed stands in what they have become, or
stood there before and was changed. -/
theorem occurs_spread {part : Shared} (occurs : Occurs part (spread mark changed content)) :
    Occurs part changed ∨ ∃ old, Occurs old content ∧ part = spread mark changed old := by
  induction content using induction_contents with
  | step whole inductionHypothesis =>
      have within (inner : Shared) (member : inner ∈ whole.contents)
          (inside : Occurs part (spread mark changed inner)) :
          Occurs part changed ∨ ∃ old, Occurs old whole ∧ part = spread mark changed old :=
        (inductionHypothesis inner member inside).imp_right fun ⟨old, stands, same⟩ =>
          ⟨old, .within member stands, same⟩
      cases whole with
      | leaf value noMap =>
          rw [spread] at occurs
          cases occurs with
          | here => exact .inr ⟨_, .here, by rw [spread]⟩
          | within member _ => cases member
      | list items =>
          rw [spread, spreadItems_eq_map] at occurs
          cases occurs with
          | here => exact .inr ⟨_, .here, by rw [spread, spreadItems_eq_map]⟩
          | within member inside =>
              obtain ⟨inner, present, rfl⟩ := List.mem_map.mp member
              exact within inner present inside
      | tuple items =>
          rw [spread, spreadItems_eq_map] at occurs
          cases occurs with
          | here => exact .inr ⟨_, .here, by rw [spread, spreadItems_eq_map]⟩
          | within member inside =>
              obtain ⟨inner, present, rfl⟩ := List.mem_map.mp member
              exact within inner present inside
      | map own entries =>
          by_cases isOwn : own = some mark
          · subst isOwn
            rw [spread_map_self] at occurs
            exact .inl occurs
          · rw [spread_map_other isOwn, spreadEntries_eq_map] at occurs
            cases occurs with
            | here => exact .inr ⟨_, .here, by rw [spread_map_other isOwn, spreadEntries_eq_map]⟩
            | within member inside =>
                obtain ⟨entry, present, rfl⟩ := List.mem_map.mp member
                obtain ⟨known, held, rfl⟩ := List.mem_map.mp present
                exact within known.2 (List.mem_map_of_mem held) inside

end Structex.Shared
