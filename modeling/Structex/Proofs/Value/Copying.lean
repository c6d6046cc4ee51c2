import Structex.Proofs.Result
import Structex.Proofs.Value.Interchange
import Structex.Proofs.Value.Placement
import Structex.Value.Copy

/-!
# What copying gives back

Data is copied as it is: scalars and patterns stand for themselves, and sequences and mappings of
data are made again as they were (`Value.copied_of_isData`). A record is not given back, since a
mapping takes its place. The copies of the fields of a record stand under the names of the fields,
in their order (`Value.keys_of_copiedFields`).
-/

namespace Structex

namespace Entries

/-- Under a key that no entry has, a value is put at the end. -/
theorem put_of_fresh {entries : Entries} {key : Value}
    (fresh : ∀ entry ∈ entries, entry.1.sameKey key = false) (value : Value) :
    entries.put key value = entries ++ [(key, value)] := by
  induction entries with
  | nil => rfl
  | cons entry rest inductionHypothesis =>
      obtain ⟨first, others⟩ := List.forall_mem_cons.mp fresh
      rw [put, first, List.cons_append, inductionHypothesis others]
      rfl

/-- Entries that are put one after another stay as they are if no key comes twice. -/
theorem ofList_of_distinct {entries : Entries} (distinct : entries.Distinct) :
    ofList entries = entries := by
  -- What was put before is on the left; no later key is among its keys.
  have further (known rest : Entries) (distinct : Distinct (known ++ rest)) :
      rest.foldl (fun entries pair => entries.put pair.1 pair.2) known = known ++ rest := by
    induction rest generalizing known with
    | nil => exact (List.append_nil known).symm
    | cons entry rest inductionHypothesis =>
        have fresh : ∀ other ∈ known, other.1.sameKey entry.1 = false := fun other isKnown =>
          (List.pairwise_append.mp distinct).2.2 other isKnown entry List.mem_cons_self
        rw [List.foldl_cons, put_of_fresh fresh]
        simpa using inductionHypothesis (known ++ [entry]) (by simpa using distinct)
  exact further [] entries distinct

/-- Entries are known by their keys and by what stands under each. -/
theorem eq_map_of_keys {entries : Entries} {names : List String}
    (keys : entries.map (·.1) = names.map Value.str) (apart : names.Nodup) :
    entries = names.map fun name => (.str name, (entries.get? name).getD .null) := by
  induction names generalizing entries with
  | nil => exact List.map_eq_nil_iff.mp keys
  | cons name names inductionHypothesis =>
      obtain ⟨⟨key, item⟩, rest, rfl, rfl, others⟩ := List.map_eq_cons_iff.mp keys
      obtain ⟨isNew, apart⟩ := List.nodup_cons.mp apart
      rw [List.map_cons, get?_cons_same, Option.getD_some, List.cons.injEq]
      refine ⟨rfl, (inductionHypothesis others apart).trans (List.map_congr_left ?_)⟩
      intro other member
      have differ : Value.str name ≠ .str other := by
        rintro ⟨⟩
        exact isNew member
      rw [get?_cons_other differ]

end Entries

namespace Value

variable {fault : CopyFault}

/-- Data: scalars, patterns, objects that are equal to their copies, and sequences and mappings of
data, with keys that are none twice. -/
inductive IsData : Value → Prop
  | scalar {value : Value} (isScalar : value.isScalar = true) : IsData value
  | pattern (ready : Regex.Pattern) : IsData (.pattern ready)
  | object (traits : Traits) : IsData (.object traits .same)
  | list {items : List Value} (all : ∀ item ∈ items, IsData item) : IsData (.list items)
  | tuple {items : List Value} (all : ∀ item ∈ items, IsData item) : IsData (.tuple items)
  | map {entries : Entries} (distinct : entries.Distinct)
      (areKeys : ∀ entry ∈ entries, entry.1.isKey = true)
      (keys : ∀ entry ∈ entries, IsData entry.1) (items : ∀ entry ∈ entries, IsData entry.2) :
      IsData (.map entries)

theorem copied_of_isScalar {value : Value} (scalar : value.isScalar = true) :
    copied value = .ok value := by
  cases value with
  | list _ | tuple _ | map _ | pattern _ | record _ _ | object _ _ => cases scalar
  | _ => rfl

theorem copiedItems_of_forall {items : List Value}
    (all : ∀ item ∈ items, copied item = .ok item) : copiedItems items = .ok items := by
  induction items with
  | nil => rfl
  | cons item rest inductionHypothesis =>
      obtain ⟨first, others⟩ := List.forall_mem_cons.mp all
      rw [copiedItems, first, inductionHypothesis others]
      rfl

theorem copiedEntries_of_forall {entries : Entries}
    (areKeys : ∀ entry ∈ entries, entry.1.isKey = true)
    (keys : ∀ entry ∈ entries, copied entry.1 = .ok entry.1)
    (items : ∀ entry ∈ entries, copied entry.2 = .ok entry.2) :
    copiedEntries entries = .ok entries := by
  induction entries with
  | nil => rfl
  | cons entry rest inductionHypothesis =>
      obtain ⟨isKey, restAreKeys⟩ := List.forall_mem_cons.mp areKeys
      obtain ⟨key, restKeys⟩ := List.forall_mem_cons.mp keys
      obtain ⟨item, restItems⟩ := List.forall_mem_cons.mp items
      rw [copiedEntries, key, item, inductionHypothesis restAreKeys restKeys restItems]
      simp [bind, Except.bind, isKey, pure, Except.pure]

/-- Data is given back by copying. -/
theorem copied_of_isData {value : Value} (isData : value.IsData) : copied value = .ok value := by
  induction isData with
  | scalar isScalar => exact copied_of_isScalar isScalar
  | pattern ready => rfl
  | object traits => rfl
  | list all inductionHypothesis =>
      rw [copied, copiedItems_of_forall inductionHypothesis]
      rfl
  | tuple all inductionHypothesis =>
      rw [copied, copiedItems_of_forall inductionHypothesis]
      rfl
  | @map entries distinct areKeys keys items keysCopied itemsCopied =>
      rw [copied, copiedEntries_of_forall areKeys keysCopied itemsCopied]
      exact congrArg (fun pairs => Except.ok (Value.map pairs))
        (Entries.ofList_of_distinct distinct)

/-! ## Fields -/

theorem copiedFields_of_forall {fields : List (String × Value)}
    (all : ∀ field ∈ fields, copied field.2 = .ok field.2) :
    copiedFields fields = .ok (fields.map fun field => (.str field.1, field.2)) := by
  induction fields with
  | nil => rfl
  | cons field rest inductionHypothesis =>
      obtain ⟨first, others⟩ := List.forall_mem_cons.mp all
      rw [copiedFields, first, inductionHypothesis others]
      rfl

/-- The copies of fields stand under the names of the fields. -/
theorem keys_of_copiedFields {fields : List (String × Value)} {pairs : Entries}
    (copies : copiedFields fields = .ok pairs) :
    pairs.map (·.1) = fields.map fun field => .str field.1 := by
  induction fields generalizing pairs with
  | nil =>
      cases copies
      rfl
  | cons field rest inductionHypothesis =>
      obtain ⟨copy, -, copies⟩ := bind_eq_ok_iff.mp copies
      obtain ⟨others, later, made⟩ := bind_eq_ok_iff.mp copies
      cases made
      exact congrArg (_ :: ·) (inductionHypothesis later)

end Value

end Structex
