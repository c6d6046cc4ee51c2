import Structex.Proofs.Result
import Structex.Proofs.Value.Overlay

/-!
# Putting a value at a path

A value can be put at a path unless something blocks the path. Afterwards it stands there, mappings
lead to it, and all that neither lies on the path nor below it is as it was before. The keys of
mappings stay apart, and they stay texts.
-/

namespace Structex

namespace Entries

/-- The keys after an entry is put: its own stands last if it is new. -/
theorem keys_put (entries : Entries) (key value : Value) :
    List.map (·.1) (entries.put key value) =
      if entries.any (·.1.sameKey key) then entries.map (·.1) else entries.map (·.1) ++ [key] := by
  induction entries with
  | nil => rfl
  | cons entry rest inductionHypothesis =>
      obtain ⟨other, old⟩ := entry
      rw [put]
      by_cases same : other.sameKey key = true
      · simp [same]
      · rw [if_neg same, List.map_cons, inductionHypothesis]
        simp only [List.any_cons, Bool.eq_false_iff.mpr same, Bool.false_or]
        split <;> rfl

theorem distinct_iff_keys {entries : Entries} : entries.Distinct ↔
    (entries.map (·.1)).Pairwise fun earlier later => earlier.sameKey later = false := by
  rw [List.pairwise_map]
  rfl

/-- Putting an entry keeps the keys apart. -/
theorem Distinct.put {entries : Entries} (distinct : entries.Distinct) (key value : Value) :
    (entries.put key value).Distinct := by
  rw [distinct_iff_keys] at distinct ⊢
  rw [keys_put]
  split
  case isTrue => exact distinct
  case isFalse fresh =>
    refine List.pairwise_append.mpr ⟨distinct, List.pairwise_singleton _ _, ?_⟩
    intro other member last isLast
    rw [List.mem_singleton.mp isLast]
    obtain ⟨entry, present, rfl⟩ := List.mem_map.mp member
    exact Bool.eq_false_iff.mpr fun same => fresh (List.any_eq_true.mpr ⟨entry, present, same⟩)

/-- The values after an entry is put are those before and the new one. -/
theorem mem_put {entries : Entries} {key value : Value} {entry : Value × Value}
    (member : entry ∈ entries.put key value) :
    entry.2 = value ∨ ∃ known ∈ entries, known.2 = entry.2 := by
  induction entries with
  | nil =>
      rw [List.mem_singleton.mp member]
      exact .inl rfl
  | cons known rest inductionHypothesis =>
      obtain ⟨other, old⟩ := known
      rw [put] at member
      split at member
      · rcases List.mem_cons.mp member with rfl | later
        · exact .inl rfl
        · exact .inr ⟨entry, List.mem_cons_of_mem _ later, rfl⟩
      · rcases List.mem_cons.mp member with rfl | later
        · exact .inr ⟨_, List.mem_cons_self, rfl⟩
        · rcases inductionHypothesis later with same | ⟨found, present, same⟩
          · exact .inl same
          · exact .inr ⟨found, List.mem_cons_of_mem _ present, same⟩

/-- A key after an entry is put is one of those before or the entry's own. -/
theorem key_of_mem_put {entries : Entries} {key value : Value} {entry : Value × Value}
    (member : entry ∈ entries.put key value) :
    entry.1 = key ∨ ∃ known ∈ entries, known.1 = entry.1 := by
  have isKey : entry.1 ∈ List.map (·.1) (entries.put key value) := List.mem_map_of_mem member
  rw [keys_put] at isKey
  split at isKey
  case isTrue => exact .inr (List.mem_map.mp isKey)
  case isFalse =>
    rcases List.mem_append.mp isKey with isKnown | isNew
    · exact .inr (List.mem_map.mp isKnown)
    · exact .inl (List.mem_singleton.mp isNew)

end Entries

namespace Value

theorem not_blocks_empty (path : List String) : ¬ Blocks path (.map []) := by
  intro blocks
  cases blocks with
  | here noMap => cases noMap
  | within held inner => cases held

theorem blocks_cons_map_iff {part : String} {rest : List String} {entries : Entries} :
    Blocks (part :: rest) (.map entries) ↔
      ∃ item, entries.get? part = some item ∧ Blocks rest item := by
  constructor
  · intro blocks
    cases blocks with
    | here noMap => cases noMap
    | within held inner => exact ⟨_, held, inner⟩
  · rintro ⟨item, held, inner⟩
    exact .within held inner

/-- A path is blocked exactly if it goes on behind something that is no mapping. -/
theorem blocks_iff {path : List String} {value : Value} :
    Blocks path value ↔
      ∃ before part after held, path = before ++ part :: after ∧
        at? before value = some held ∧ held.isMap = false := by
  constructor
  · intro blocks
    induction blocks with
    | @here part rest value noMap => exact ⟨[], part, rest, value, rfl, rfl, noMap⟩
    | @within part rest entries item held inner inductionHypothesis =>
        obtain ⟨before, next, after, found, rfl, reached, noMap⟩ := inductionHypothesis
        refine ⟨part :: before, next, after, found, rfl, ?_, noMap⟩
        rw [at?_cons_map, held]
        exact reached
  · rintro ⟨before, part, after, held, rfl, reached, noMap⟩
    induction before generalizing value with
    | nil =>
        cases reached
        exact .here noMap
    | cons first before inductionHypothesis =>
        cases value with
        | map entries =>
            obtain ⟨item, found, further⟩ := Option.bind_eq_some_iff.mp reached
            exact .within found (inductionHypothesis further)
        | _ => cases reached

/-- A path that goes on from a place is blocked exactly if it is from there. -/
theorem blocks_append_iff {before rest : List String} {value held : Value}
    (reached : at? before value = some held) :
    Blocks (before ++ rest) value ↔ Blocks rest held := by
  induction before generalizing value with
  | nil =>
      cases reached
      rfl
  | cons part before inductionHypothesis =>
      cases value with
      | map entries =>
          obtain ⟨item, found, further⟩ := Option.bind_eq_some_iff.mp reached
          rw [List.cons_append, blocks_cons_map_iff, ← inductionHypothesis further]
          simp [found]
      | _ => cases reached

/-- Something is put under a key of a mapping only, within what stands there or in an empty
mapping. -/
theorem putAt_cons_eq_ok_iff {new : Value} {part : String} {rest : List String}
    {value result : Value} :
    putAt new (part :: rest) value = .ok result ↔
      ∃ entries inner, value = .map entries ∧
        putAt new rest ((Entries.get? entries part).getD (.map [])) = .ok inner ∧
        result = .map (Entries.put entries (.str part) inner) := by
  cases value with
  | map entries =>
      rw [putAt, bind_eq_ok_iff]
      constructor
      · rintro ⟨inner, done, made⟩
        cases made
        exact ⟨entries, inner, rfl, done, rfl⟩
      · rintro ⟨_, inner, ⟨⟩, done, rfl⟩
        exact ⟨inner, done, rfl⟩
  | _ => cases rest <;> simp [putAt]

/-- A value can be put at a path unless the path is blocked. -/
theorem exists_putAt_iff {new : Value} {path : List String} {value : Value} :
    (∃ result, putAt new path value = .ok result) ↔ ¬ Blocks path value := by
  induction path generalizing value with
  | nil => exact iff_of_true ⟨new, rfl⟩ (by rintro ⟨⟩)
  | cons part rest inductionHypothesis =>
      constructor
      · rintro ⟨result, done⟩
        obtain ⟨entries, inner, rfl, lower, -⟩ := putAt_cons_eq_ok_iff.mp done
        have free := inductionHypothesis.mp ⟨inner, lower⟩
        rw [blocks_cons_map_iff]
        rintro ⟨item, held, blocks⟩
        rw [held] at free
        exact free blocks
      · intro free
        cases isMap : value.isMap with
        | false => exact absurd (.here isMap) free
        | true =>
            cases value with
            | map entries =>
                have freeBelow : ¬ Blocks rest ((Entries.get? entries part).getD (.map [])) := by
                  cases held : Entries.get? entries part with
                  | none => exact not_blocks_empty rest
                  | some item => exact fun blocks => free (.within held blocks)
                obtain ⟨inner, lower⟩ := inductionHypothesis.mpr freeBelow
                exact ⟨_, putAt_cons_eq_ok_iff.mpr ⟨entries, inner, rfl, lower, rfl⟩⟩
            | _ => cases isMap

/-- A mapping without entries takes a value at any path. -/
theorem exists_putAt_empty (new : Value) (path : List String) :
    ∃ result, putAt new path (.map []) = .ok result :=
  exists_putAt_iff.mpr (not_blocks_empty path)

section Reading

variable {new value result : Value}

/-- What is put at a path is found there. -/
theorem at?_putAt_append {path : List String} (done : putAt new path value = .ok result)
    (rest : List String) : at? (path ++ rest) result = at? rest new := by
  induction path generalizing value result with
  | nil =>
      cases done
      rfl
  | cons part path inductionHypothesis =>
      obtain ⟨entries, inner, rfl, lower, rfl⟩ := putAt_cons_eq_ok_iff.mp done
      rw [List.cons_append, at?_cons_map, Entries.get?_put_same]
      exact inductionHypothesis lower

/-- Mappings lead to what is put at a path. -/
theorem at?_putAt_before {before : List String} {part : String} {after : List String}
    (done : putAt new (before ++ part :: after) value = .ok result) :
    ∃ entries, at? before result = some (.map entries) := by
  induction before generalizing value result with
  | nil =>
      obtain ⟨entries, inner, rfl, -, rfl⟩ := putAt_cons_eq_ok_iff.mp done
      exact ⟨_, rfl⟩
  | cons first before inductionHypothesis =>
      obtain ⟨entries, inner, rfl, lower, rfl⟩ := putAt_cons_eq_ok_iff.mp done
      rw [at?_cons_map, Entries.get?_put_same]
      exact inductionHypothesis lower

/-- What neither leads to a path nor lies below it stays as it is when something is put there. -/
theorem at?_putAt_apart {path other : List String} (done : putAt new path value = .ok result)
    (notBefore : ¬ other <+: path) (notBelow : ¬ path <+: other) :
    at? other result = at? other value := by
  induction path generalizing other value result with
  | nil => exact absurd List.nil_prefix notBelow
  | cons part path inductionHypothesis =>
      obtain ⟨entries, inner, rfl, lower, rfl⟩ := putAt_cons_eq_ok_iff.mp done
      cases other with
      | nil => exact absurd List.nil_prefix notBefore
      | cons first other =>
          rw [at?_cons_map, at?_cons_map]
          by_cases same : first = part
          · subst same
            rw [List.prefix_cons_inj] at notBefore notBelow
            rw [Entries.get?_put_same, Option.bind_some,
              inductionHypothesis lower notBefore notBelow]
            cases Entries.get? entries first with
            | some item => rfl
            | none =>
                cases other with
                | nil => exact absurd List.nil_prefix notBefore
                | cons second other => rfl
          · have apart : Value.str part ≠ .str first := fun isFirst =>
              same (Value.str.inj isFirst).symm
            rw [Entries.get?_put_other entries apart]

end Reading

namespace HasDistinctKeys

/-- A mapping keeps its keys apart when an entry is put. -/
theorem put {entries : Entries} (distinct : HasDistinctKeys (.map entries)) (key : Value)
    {value : Value} (inner : HasDistinctKeys value) :
    HasDistinctKeys (.map (Entries.put entries key value)) := by
  obtain ⟨once, items⟩ := hasDistinctKeys_map_iff.mp distinct
  refine .map (once.put key value) fun entry member => ?_
  rcases Entries.mem_put member with same | ⟨known, present, same⟩
  · exact same ▸ inner
  · exact same ▸ items known present

/-- So has what a path leads to. -/
theorem of_at? {path : List String} {value held : Value} (distinct : HasDistinctKeys value)
    (reached : at? path value = some held) : HasDistinctKeys held := by
  induction path generalizing value with
  | nil =>
      cases reached
      exact distinct
  | cons part rest inductionHypothesis =>
      cases value with
      | map entries =>
          obtain ⟨item, present, further⟩ := Option.bind_eq_some_iff.mp reached
          exact inductionHypothesis (distinct.of_get? present) further
      | _ => cases reached

theorem empty : HasDistinctKeys (.map []) :=
  .map .nil fun _ member => nomatch member

/-- Putting a value under a path keeps the keys of all mappings apart. -/
theorem putAt {new : Value} (inner : HasDistinctKeys new) {path : List String}
    {value result : Value} (distinct : HasDistinctKeys value)
    (done : Value.putAt new path value = .ok result) : HasDistinctKeys result := by
  induction path generalizing value result with
  | nil =>
      cases done
      exact inner
  | cons part rest inductionHypothesis =>
      obtain ⟨entries, below, rfl, reached, rfl⟩ := putAt_cons_eq_ok_iff.mp done
      refine distinct.put _ (inductionHypothesis ?_ reached)
      cases held : Entries.get? entries part with
      | none => exact .empty
      | some item => exact distinct.of_get? held

end HasDistinctKeys

/-- Values in which every mapping that a path can lead to has texts for keys. -/
inductive HasTextKeys : Value → Prop
  | map {entries : Entries} (keys : ∀ entry ∈ entries, ∃ text, entry.1 = .str text)
      (items : ∀ entry ∈ entries, HasTextKeys entry.2) : HasTextKeys (.map entries)
  | leaf {value : Value} (noMap : value.isMap = false) : HasTextKeys value

theorem hasTextKeys_map_iff {entries : Entries} : HasTextKeys (.map entries) ↔
    (∀ entry ∈ entries, ∃ text, entry.1 = .str text) ∧
      ∀ entry ∈ entries, HasTextKeys entry.2 := by
  constructor
  · intro texts
    cases texts with
    | map keys items => exact ⟨keys, items⟩
    | leaf noMap => cases noMap
  · rintro ⟨keys, items⟩
    exact .map keys items

namespace HasTextKeys

theorem empty : HasTextKeys (.map []) :=
  .map (fun _ member => nomatch member) fun _ member => nomatch member

/-- Putting a value under a path leaves texts for keys. -/
theorem putAt {new : Value} (inner : HasTextKeys new) {path : List String} {value result : Value}
    (texts : HasTextKeys value) (done : Value.putAt new path value = .ok result) :
    HasTextKeys result := by
  induction path generalizing value result with
  | nil =>
      cases done
      exact inner
  | cons part rest inductionHypothesis =>
      obtain ⟨entries, below, rfl, reached, rfl⟩ := putAt_cons_eq_ok_iff.mp done
      obtain ⟨keys, items⟩ := hasTextKeys_map_iff.mp texts
      have lower : HasTextKeys below := by
        refine inductionHypothesis ?_ reached
        cases held : Entries.get? entries part with
        | none => exact .empty
        | some item =>
            obtain ⟨entry, found, rfl⟩ := Option.map_eq_some_iff.mp held
            exact items entry (List.mem_of_find?_eq_some found)
      refine .map (fun entry member => ?_) fun entry member => ?_
      · rcases Entries.key_of_mem_put member with same | ⟨known, present, same⟩
        · exact ⟨part, same⟩
        · exact same ▸ keys known present
      · rcases Entries.mem_put member with same | ⟨known, present, same⟩
        · exact same ▸ lower
        · exact same ▸ items known present

end HasTextKeys

end Value

end Structex
