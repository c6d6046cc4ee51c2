import Structex.Proofs.Settings.Reachable
import Structex.Yaml.Basic

/-!
# What YAML texts are read as

The value of a text has each key of a mapping once: a key that comes again replaces the entry before
it, and entries that are merged in are put like others. And all places of a mark hold the same
mapping: each mapping that is written has a mark of its own and stands, with all that is in it, in
the place of its aliases, so that a table says what is written under a mark (`Follows`).
-/

namespace Structex

theorem Shared.mem_contents_ofPairs {pairs : List (Value × Shared)} {item : Shared}
    (member : item ∈ (ofPairs pairs).map (·.2)) : ∃ pair ∈ pairs, pair.2 = item := by
  have sources : ∀ item ∈ (ofPairs pairs).map (·.2), ∃ pair ∈ pairs, pair.2 = item := by
    refine List.foldlRecOn (motive := fun known : List (Value × Shared) =>
      ∀ item ∈ known.map (·.2), ∃ pair ∈ pairs, pair.2 = item) pairs _ ?_ ?_
    · exact List.forall_mem_nil _
    · intro known sources pair present item member
      rcases mem_contents_put member with rfl | old
      · exact ⟨pair, present, rfl⟩
      · exact sources item old
  exact sources item member

/-- Entries that are put one after another make a mapping of distinct keys. -/
theorem Value.HasDistinctKeys.ofPairs {pairs : List (Value × Shared)}
    (items : ∀ pair ∈ pairs, HasDistinctKeys pair.2.value) {mark : Option Nat} :
    HasDistinctKeys (Shared.map mark (Shared.ofPairs pairs)).value := by
  rw [Shared.value, Shared.valueEntries_ofPairs]
  refine List.foldlRecOn (motive := fun entries => HasDistinctKeys (.map entries)) _ _ .empty
    fun _ distinct pair member => distinct.put pair.1 ?_
  rw [Shared.valueEntries_eq_map] at member
  obtain ⟨entry, present, rfl⟩ := List.mem_map.mp member
  exact items entry present

namespace Yaml.Node

/-! ## Values of nodes -/

theorem isMap_of_time? {text : String} {found : Value} (read : time? text = some found) :
    found.isMap = false := by
  rw [time?] at read
  obtain ⟨parts, -, read⟩ := Option.bind_eq_some_iff.mp read
  obtain ⟨date, -, read⟩ := Option.bind_eq_some_iff.mp read
  dsimp only at read
  split at read
  · cases read
    rfl
  · obtain ⟨moment, -, same⟩ := Option.bind_eq_some_iff.mp read
    cases same
    rfl

/-- No scalar is a mapping. -/
theorem isMap_of_form {form : Form} {text : String} {value : Value}
    (read : form.value text = .ok value) : value.isMap = false := by
  delta Form.value at read
  -- The day or moment gets a name first; in place, checking the cases would run its pattern.
  generalize given : time? text = found at read
  cases form with
  | null | text =>
      cases read
      rfl
  | merge | equals => cases read
  | bool =>
      dsimp only at read
      split at read
      · cases read
        rfl
      · split at read <;> cases read
        rfl
  | int | float =>
      dsimp only at read
      split at read <;> cases read
      rfl
  | time =>
      cases found <;> cases read
      exact isMap_of_time? given

/-- An entry that merges nothing in comes before the mapping's other own entries. -/
theorem pairs_cons_eq_ok {key item : Node} {rest : List (Node × Node)}
    (own : ¬ key.isMerge = true) {parts : List (Value × Shared) × List (Value × Shared)}
    (read : pairs ((key, item) :: rest) = .ok parts) :
    ∃ name first others, item.value = .ok first ∧ pairs rest = .ok others ∧
      parts = (others.1, (name, first) :: others.2) := by
  have named : ∀ name : Value, (do
      unless name.isKey do throw Fault.changingKey
      let first ← item.value
      let others ← pairs rest
      return (others.1, (name, first) :: others.2)) = Except.ok parts →
      ∃ name first others, item.value = .ok first ∧ pairs rest = .ok others ∧
        parts = (others.1, (name, first) :: others.2) := by
    intro name read
    dsimp only at read
    split at read
    · obtain ⟨first, valued, read⟩ := bind_eq_ok_iff.mp read
      obtain ⟨others, found, same⟩ := bind_eq_ok_iff.mp read
      cases same
      exact ⟨name, first, others, valued, found, rfl⟩
    · cases read
  rw [pairs, if_neg own] at read
  dsimp only at read
  split at read <;> obtain ⟨name, -, read⟩ := bind_eq_ok_iff.mp read <;> exact named name read

/-- A property of values that goes up from what stands in a node to the node, if the node fits. -/
structure Carries (fits : Node → Prop) (property : Shared → Prop) : Prop where
  items : ∀ {anchor tag items}, fits (.sequence anchor tag items) → ∀ item ∈ items, fits item
  entries : ∀ {mark anchor tag entries}, fits (.mapping mark anchor tag entries) →
    ∀ entry ∈ entries, fits entry.2
  ofScalar : ∀ {value : Value}, value.isMap = false → property (.ofValue value)
  ofSequence : ∀ {values}, (∀ item ∈ values, property item) → property (.list values)
  ofMapping : ∀ {mark anchor tag entries parts}, fits (.mapping mark anchor tag entries) →
    pairs entries = .ok parts → (∀ entry ∈ joined parts, property entry.2) →
    property (.map (some mark) (Shared.ofPairs (joined parts)))

section Carried

variable {fits : Node → Prop} {property : Shared → Prop}

mutual

/-- The value of a node that fits has the property. -/
theorem property_of_value (carries : Carries fits property) (node : Node) (fit : fits node)
    {result : Shared} (read : node.value = .ok result) : property result := by
  cases node with
  | reference name => cases read
  | scalar anchor tag text plain =>
      rw [value] at read
      obtain ⟨form, -, read⟩ := bind_eq_ok_iff.mp read
      obtain ⟨found, made, same⟩ := bind_eq_ok_iff.mp read
      cases same
      exact carries.ofScalar (isMap_of_form made)
  | sequence anchor tag items =>
      rw [value] at read
      split at read
      · obtain ⟨results, made, same⟩ := bind_eq_ok_iff.mp read
        cases same
        exact carries.ofSequence (property_of_values carries items (carries.items fit) made)
      · cases read
  | mapping mark anchor tag entries =>
      rw [value] at read
      split at read
      · obtain ⟨parts, found, same⟩ := bind_eq_ok_iff.mp read
        cases same
        exact carries.ofMapping fit found
          (property_of_pairs carries entries (carries.entries fit) found)
      · cases read

/-- So have the values of items. -/
theorem property_of_values (carries : Carries fits property) (items : List Node)
    (fit : ∀ item ∈ items, fits item) {results : List Shared} (read : values items = .ok results) :
    ∀ item ∈ results, property item := by
  cases items with
  | nil =>
      cases read
      exact List.forall_mem_nil _
  | cons item rest =>
      obtain ⟨here, others⟩ := List.forall_mem_cons.mp fit
      obtain ⟨first, valued, read⟩ := bind_eq_ok_iff.mp read
      obtain ⟨more, found, same⟩ := bind_eq_ok_iff.mp read
      cases same
      exact List.forall_mem_cons.mpr
        ⟨property_of_value carries item here valued, property_of_values carries rest others found⟩

/-- So have the values under the keys of a mapping and of what it merges in. -/
theorem property_of_pairs (carries : Carries fits property) (entries : List (Node × Node))
    (fit : ∀ entry ∈ entries, fits entry.2) {parts : List (Value × Shared) × List (Value × Shared)}
    (read : pairs entries = .ok parts) :
    ∀ entry ∈ joined parts, property entry.2 := by
  cases entries with
  | nil =>
      cases read
      exact List.forall_mem_nil _
  | cons entry rest =>
      obtain ⟨key, item⟩ := entry
      obtain ⟨here, others⟩ := List.forall_mem_cons.mp fit
      by_cases merges : key.isMerge = true
      · rw [pairs, if_pos merges] at read
        obtain ⟨more, added, read⟩ := bind_eq_ok_iff.mp read
        obtain ⟨parts, found, same⟩ := bind_eq_ok_iff.mp read
        cases same
        have items := property_of_merged carries item here added
        have tail := property_of_pairs carries rest others found
        simp only [joined, List.append_assoc, List.forall_mem_append] at tail ⊢
        exact ⟨items, tail⟩
      · obtain ⟨name, first, parts, valued, found, rfl⟩ := pairs_cons_eq_ok merges read
        have itself := property_of_value carries item here valued
        have tail := property_of_pairs carries rest others found
        simp only [joined, List.forall_mem_append, List.forall_mem_cons] at tail ⊢
        exact ⟨tail.1, itself, tail.2⟩

/-- So have the values under the keys that are merged in. -/
theorem property_of_merged (carries : Carries fits property) (node : Node) (fit : fits node)
    {entries : List (Value × Shared)} (read : node.merged = .ok entries) :
    ∀ entry ∈ entries, property entry.2 := by
  cases node with
  | reference name => cases read
  | scalar anchor tag text plain => cases read
  | sequence anchor tag items =>
      rw [merged] at read
      exact property_of_mergedItems carries items (carries.items fit) read
  | mapping mark anchor tag inner =>
      rw [merged] at read
      obtain ⟨parts, found, same⟩ := bind_eq_ok_iff.mp read
      cases same
      exact property_of_pairs carries inner (carries.entries fit) found

theorem property_of_mergedItems (carries : Carries fits property) (items : List Node)
    (fit : ∀ item ∈ items, fits item) {entries : List (Value × Shared)}
    (read : mergedItems items = .ok entries) : ∀ entry ∈ entries, property entry.2 := by
  cases items with
  | nil =>
      cases read
      exact List.forall_mem_nil _
  | cons first rest =>
      obtain ⟨here, others⟩ := List.forall_mem_cons.mp fit
      cases first with
      | mapping mark anchor tag inner =>
          rw [mergedItems] at read
          obtain ⟨parts, found, read⟩ := bind_eq_ok_iff.mp read
          obtain ⟨more, foundMore, same⟩ := bind_eq_ok_iff.mp read
          cases same
          exact List.forall_mem_append.mpr ⟨property_of_mergedItems carries rest others foundMore,
            property_of_pairs carries inner (carries.entries here) found⟩
      | _ => cases read

end

end Carried

theorem carries_hasDistinctKeys : Carries (fun _ => True) (·.value.HasDistinctKeys) where
  items _ _ _ := trivial
  entries _ _ _ := trivial
  ofScalar noMap := (Shared.value_ofValue _).symm ▸ .leaf noMap
  ofSequence _ := .leaf rfl
  ofMapping _ _ items := .ofPairs items

/-! ## Marks -/

/-- What is written under each mark. -/
abbrev Table := Nat → List (Node × Node)

/-- The marks of a node are below a bound, and under each is written what a table says. -/
inductive Follows (table : Table) (bound : Nat) : Node → Prop
  | scalar {anchor tag : Option String} {text : String} {plain : Bool} :
      Follows table bound (.scalar anchor tag text plain)
  | sequence {anchor tag : Option String} {items : List Node}
      (inner : ∀ item ∈ items, Follows table bound item) :
      Follows table bound (.sequence anchor tag items)
  | mapping {mark : Nat} {anchor tag : Option String} (below : mark < bound)
      (inner : ∀ entry ∈ table mark, Follows table bound entry.2) :
      Follows table bound (.mapping mark anchor tag (table mark))

variable {table other : Table} {bound : Nat} {node : Node}

/-- More may be written under further marks. -/
theorem Follows.extend (follows : node.Follows table bound)
    (same : ∀ mark < bound, other mark = table mark) {further : Nat} (more : bound ≤ further) :
    node.Follows other further := by
  induction follows with
  | scalar => exact .scalar
  | sequence _ inductionHypothesis => exact .sequence inductionHypothesis
  | mapping below _ inductionHypothesis =>
      rw [← same _ below] at inductionHypothesis ⊢
      exact .mapping (Nat.lt_of_lt_of_le below more) inductionHypothesis

/-- A marked mapping has the entries that are written under its mark. -/
def Denotes (table : Table) (content : Shared) : Prop :=
  ∀ ⦃mark : Nat⦄ ⦃entries : List (Value × Shared)⦄,
    Shared.Occurs (.map (some mark) entries) content → ∃ parts,
      pairs (table mark) = .ok parts ∧ entries = Shared.ofPairs (joined parts)

theorem Denotes.consistent {content : Shared} (denotes : Denotes table content) :
    content.Consistent := by
  intro mark left right first second
  obtain ⟨parts, read, rfl⟩ := denotes first
  obtain ⟨others, alsoRead, rfl⟩ := denotes second
  cases read.symm.trans alsoRead
  rfl

theorem carries_denotes (table : Table) (bound : Nat) :
    Carries (Follows table bound) (Denotes table) where
  items follows := by
    cases follows with
    | sequence inner => exact inner
  entries follows := by
    cases follows with
    | mapping below inner => exact inner
  ofScalar _ _ _ occurs := (Shared.unmarked_ofValue _ occurs).elim
  ofSequence items := by
    intro mark entries occurs
    cases occurs with
    | within member inside => exact items _ member inside
  ofMapping follows read items := by
    intro mark entries occurs
    cases follows with
    | mapping below inner =>
        cases occurs with
        | here => exact ⟨_, read, rfl⟩
        | within member inside =>
            obtain ⟨pair, present, rfl⟩ := Shared.mem_contents_ofPairs member
            exact items pair present inside

/-- What is complete of the anchors follows a table, with the marks that are given away. -/
def Known.Follows (known : Known) (table : Table) : Prop :=
  ∀ ⦃name : String⦄ ⦃node : Node⦄, known.anchors.lookup name = some (some node) →
    node.Follows table known.next

/-- More is known afterwards, and the table that it follows says the same under earlier marks. -/
structure Known.Extends (known : Known) (table : Table) (after : Known) (other : Table) : Prop where
  grows : known.next ≤ after.next
  same : ∀ mark < known.next, other mark = table mark
  follows : after.Follows other

variable {known middle after : Known}

theorem Known.Extends.trans {between : Table} (first : known.Extends table middle between)
    (second : middle.Extends between after other) : known.Extends table after other where
  grows := Nat.le_trans first.grows second.grows
  same mark below :=
    (second.same mark (Nat.lt_of_lt_of_le below first.grows)).trans (first.same mark below)
  follows := second.follows

/-- An anchor that begins has nothing yet. -/
theorem Known.Follows.beginAnchor (follows : known.Follows table) {anchor : Option String}
    (begun : known.beginAnchor anchor = .ok after) :
    after.next = known.next ∧ after.Follows table := by
  cases anchor with
  | none =>
      cases begun
      exact ⟨rfl, follows⟩
  | some name =>
      rw [Known.beginAnchor] at begun
      split at begun <;> cases begun
      refine ⟨rfl, fun other node found => ?_⟩
      rw [List.lookup_cons] at found
      split at found
      · cases found
      · exact follows found

theorem Known.next_endAnchor (known : Known) (node : Node) (anchor : Option String) :
    (known.endAnchor node anchor).next = known.next := by
  cases anchor <;> rfl

/-- What is known after a node follows what the node and the others do. -/
theorem Known.Follows.endAnchor (follows : known.Follows table)
    (complete : node.Follows table known.next) (anchor : Option String) :
    (known.endAnchor node anchor).Follows table := by
  cases anchor with
  | none => exact follows
  | some name =>
      intro other found isFound
      rw [Known.endAnchor, List.lookup_cons] at isFound
      split at isFound
      · cases isFound
        exact complete
      · exact follows isFound

theorem Known.Extends.refl (follows : known.Follows table) : known.Extends table known table :=
  ⟨Nat.le_refl _, fun _ _ => rfl, follows⟩

/-- What is known after a node is what is known after all that is in it, and the node. -/
theorem Known.Extends.around {begun : Known} (inner : begun.Extends table middle other)
    (next : begun.next = known.next) (complete : node.Follows other middle.next)
    (anchor : Option String) : known.Extends table (middle.endAnchor node anchor) other where
  grows := by
    rw [next_endAnchor, ← next]
    exact inner.grows
  same mark below := inner.same mark (next ▸ below)
  follows := inner.follows.endAnchor complete anchor

/-- The next mark is given to entries. -/
theorem Known.Extends.write (follows : known.Follows table) (entries : List (Node × Node)) :
    known.Extends table { known with next := known.next + 1 }
      (Function.update table known.next entries) := by
  have same : ∀ mark < known.next, Function.update table known.next entries mark = table mark :=
    fun mark below => Function.update_of_ne (Nat.ne_of_lt below) _ _
  exact ⟨Nat.le_succ _, same, fun _ _ found => (follows found).extend same (Nat.le_succ _)⟩

mutual

/-- Where aliases are replaced, some table says what is written under the marks. -/
theorem exists_follows_of_resolve (node : Node) {known after : Known} {table : Table}
    {result : Node} (follows : known.Follows table)
    (resolved : node.resolve known = .ok (result, after)) :
    ∃ other, known.Extends table after other ∧ result.Follows other after.next := by
  cases node with
  | reference name =>
      rw [resolve] at resolved
      split at resolved <;> cases resolved
      rename_i found
      exact ⟨table, .refl follows, follows found⟩
  | scalar anchor tag text plain =>
      rw [resolve] at resolved
      obtain ⟨begun, isBegun, same⟩ := bind_eq_ok_iff.mp resolved
      cases same
      obtain ⟨next, follows⟩ := follows.beginAnchor isBegun
      exact ⟨table, (Known.Extends.refl follows).around next .scalar anchor, .scalar⟩
  | sequence anchor tag items =>
      rw [resolve] at resolved
      obtain ⟨begun, isBegun, resolved⟩ := bind_eq_ok_iff.mp resolved
      obtain ⟨⟨results, middle⟩, done, same⟩ := bind_eq_ok_iff.mp resolved
      cases same
      obtain ⟨next, follows⟩ := follows.beginAnchor isBegun
      obtain ⟨other, inner, each⟩ := exists_follows_of_resolveItems items follows done
      refine ⟨other, inner.around next (.sequence each) anchor, ?_⟩
      rw [Known.next_endAnchor]
      exact .sequence each
  | mapping mark anchor tag entries =>
      rw [resolve] at resolved
      obtain ⟨begun, isBegun, resolved⟩ := bind_eq_ok_iff.mp resolved
      obtain ⟨⟨results, middle⟩, done, same⟩ := bind_eq_ok_iff.mp resolved
      cases same
      obtain ⟨next, follows⟩ := follows.beginAnchor isBegun
      obtain ⟨other, inner, each⟩ := exists_follows_of_resolveEntries entries follows done
      have written := Known.Extends.write inner.follows results
      have complete : (Node.mapping middle.next none tag results).Follows
          (Function.update other middle.next results) (middle.next + 1) := by
        have shape := Function.update_self middle.next results other
        have further : ∀ entry ∈ Function.update other middle.next results middle.next,
            entry.2.Follows (Function.update other middle.next results) (middle.next + 1) := by
          rw [shape]
          exact fun entry member => (each entry member).extend written.same (Nat.le_succ _)
        have whole : (Node.mapping middle.next none tag _).Follows _ _ :=
          .mapping (Nat.lt_succ_self _) further
        rwa [shape] at whole
      refine ⟨_, (inner.trans written).around next complete anchor, ?_⟩
      rw [Known.next_endAnchor]
      exact complete

theorem exists_follows_of_resolveItems (items : List Node) {known after : Known} {table : Table}
    {results : List Node} (follows : known.Follows table)
    (resolved : resolveItems known items = .ok (results, after)) :
    ∃ other, known.Extends table after other ∧
      ∀ item ∈ results, item.Follows other after.next := by
  cases items with
  | nil =>
      cases resolved
      exact ⟨table, .refl follows, List.forall_mem_nil _⟩
  | cons item rest =>
      rw [resolveItems] at resolved
      obtain ⟨⟨first, middle⟩, here, resolved⟩ := bind_eq_ok_iff.mp resolved
      obtain ⟨⟨others, last⟩, later, same⟩ := bind_eq_ok_iff.mp resolved
      cases same
      obtain ⟨between, start, itself⟩ := exists_follows_of_resolve item follows here
      obtain ⟨other, further, each⟩ := exists_follows_of_resolveItems rest start.follows later
      exact ⟨other, start.trans further,
        List.forall_mem_cons.mpr ⟨itself.extend further.same further.grows, each⟩⟩

theorem exists_follows_of_resolveEntries (entries : List (Node × Node)) {known after : Known}
    {table : Table} {results : List (Node × Node)} (follows : known.Follows table)
    (resolved : resolveEntries known entries = .ok (results, after)) :
    ∃ other, known.Extends table after other ∧
      ∀ entry ∈ results, entry.2.Follows other after.next := by
  cases entries with
  | nil =>
      cases resolved
      exact ⟨table, .refl follows, List.forall_mem_nil _⟩
  | cons entry rest =>
      obtain ⟨key, item⟩ := entry
      rw [resolveEntries] at resolved
      obtain ⟨⟨name, named⟩, ofKey, resolved⟩ := bind_eq_ok_iff.mp resolved
      obtain ⟨⟨first, middle⟩, here, resolved⟩ := bind_eq_ok_iff.mp resolved
      obtain ⟨⟨others, last⟩, later, same⟩ := bind_eq_ok_iff.mp resolved
      cases same
      obtain ⟨_, keyed, -⟩ := exists_follows_of_resolve key follows ofKey
      obtain ⟨_, start, itself⟩ := exists_follows_of_resolve item keyed.follows here
      obtain ⟨other, further, each⟩ := exists_follows_of_resolveEntries rest start.follows later
      exact ⟨other, keyed.trans (start.trans further),
        List.forall_mem_cons.mpr ⟨itself.extend further.same further.grows, each⟩⟩

end

end Yaml.Node

namespace Yaml

/-- What a text is read as is the value of a node whose marks follow a table, or null. -/
theorem exists_node_of_read {text : String} {content : Shared} (read : read text = .ok content) :
    content = .leaf .null rfl ∨ ∃ (node : Node) (table : Node.Table) (bound : Nat),
      node.Follows table bound ∧ node.value = .ok content := by
  rw [Yaml.read] at read
  obtain ⟨tokens, -, read⟩ := bind_eq_ok_iff.mp read
  obtain ⟨node, -, read⟩ := bind_eq_ok_iff.mp read
  cases node with
  | none =>
      cases read
      exact .inl rfl
  | some node =>
      obtain ⟨⟨resolved, known⟩, done, read⟩ := bind_eq_ok_iff.mp read
      have nothing : Node.Known.start.Follows fun _ => [] := by
        intro name node known
        cases known
      obtain ⟨table, -, follows⟩ := Node.exists_follows_of_resolve node nothing done
      exact .inr ⟨resolved, table, known.next, follows, read⟩

/-- Every mapping of the value of a text has each key once. -/
theorem hasDistinctKeys_of_read {text : String} {content : Shared}
    (read : read text = .ok content) : content.value.HasDistinctKeys := by
  rcases exists_node_of_read read with rfl | ⟨node, -, -, -, valued⟩
  · exact .leaf rfl
  · exact Node.property_of_value Node.carries_hasDistinctKeys node trivial valued

/-- The places of a mark hold the same in what a text is read as. -/
theorem consistent_of_read {text : String} {content : Shared} (read : read text = .ok content) :
    content.Consistent := by
  rcases exists_node_of_read read with rfl | ⟨node, table, bound, follows, valued⟩
  · exact (Shared.unmarked_ofValue .null).consistent
  · exact (Node.property_of_value (Node.carries_denotes table bound) node follows valued).consistent

/-- The reader makes nothing else. -/
theorem reader_makes {property : Shared → Prop}
    (ofText : ∀ {text : String} {content : Shared}, read text = .ok content → property content) :
    reader.Makes property := by
  intro text content made
  rw [reader] at made
  cases done : read text with
  | ok found =>
      rw [done] at made
      cases made
      exact ofText done
  | error fault =>
      rw [done] at made
      cases made

end Yaml

end Structex
