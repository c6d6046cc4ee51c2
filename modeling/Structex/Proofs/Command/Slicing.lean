import Structex.Proofs.Command.Range

/-!
# Ranges as slices

What a range holds, said of places and not of offsets: an end names a place, a negative one by
counting from the end, and the range holds the items that are not before the place of its first end
and before that of its second, if it has one. Nothing has to be said of ends beyond the items, which
may name places where no item is, nor of a second end before the first, as no place is between
them. Resolving a range says the same by two offsets (`inRange_iff`, `itemsInRange_eq`), so a
command on a range of characters is given that part of the text and keeps what comes before and
after it (`Command.ranges_are_slices`). Commands on lines and the steps that narrow a text to a
range rest on the same part (`Command.onLines_eq_inRange`, `Command.narrow_eq_inRange`).
-/

namespace Structex

/-- The place that an end of a range names. -/
def endPlace (length : Nat) (index : Int) : Int :=
  if index < 0 then length + index else index

/-- A range of so many items holds a place. -/
def InRange (start : Int) (stop : Option Int) (length place : Nat) : Prop :=
  endPlace length start ≤ place ∧ ∀ last ∈ stop, (place : Int) < endPlace length last

instance (start : Int) (stop : Option Int) (length : Nat) :
    DecidablePred (InRange start stop length) :=
  fun _ => inferInstanceAs (Decidable (_ ∧ _))

/-- The items at the places that a range holds. -/
def itemsInRange {α : Type} (items : List α) (start : Int) (stop : Option Int) : List α :=
  (items.zipIdx.filter fun (_, place) => InRange start stop items.length place).map Prod.fst

/-- The characters of a text at the places that a range holds. -/
def Text.inRange (text : String) (start : Int) (stop : Option Int) : String :=
  String.ofList (itemsInRange text.toList start stop)

/-- An end is resolved to the offset next to its place. -/
theorem resolveEnd_eq_min (length : Nat) (index : Int) :
    resolveEnd length index = min (endPlace length index).toNat length := by
  unfold resolveEnd endPlace
  split <;> omega

/-- Of the places of items, the same ones are before an end and before its offset. -/
theorem lt_resolveEnd_iff {length place : Nat} (inside : place < length) (index : Int) :
    place < resolveEnd length index ↔ (place : Int) < endPlace length index := by
  rw [resolveEnd_eq_min]
  omega

/-- A range holds the places between the offsets that it is resolved to. -/
theorem inRange_iff {length place : Nat} (inside : place < length) (start : Int)
    (stop : Option Int) :
    InRange start stop length place ↔
      (resolveRange start stop length).1 ≤ place ∧ place < (resolveRange start stop length).2 := by
  have first := lt_resolveEnd_iff inside start
  cases stop with
  | none =>
      simp only [InRange, resolveRange, Option.not_mem_none, false_implies, implies_true, and_true]
      omega
  | some stop =>
      have last := lt_resolveEnd_iff inside stop
      simp only [InRange, resolveRange, Option.mem_some_iff, forall_eq']
      omega

/-- Items whose places are all chosen stay. -/
theorem filter_zipIdx_of_forall {α : Type} (items : List α) {chosen : Nat → Prop}
    [DecidablePred chosen] {offset : Nat}
    (all : ∀ place, offset ≤ place → place < offset + items.length → chosen place) :
    (items.zipIdx offset).filter (fun (_, place) => chosen place) = items.zipIdx offset := by
  rw [List.filter_eq_self]
  rintro ⟨item, place⟩ member
  obtain ⟨reached, bound, -⟩ := List.mem_zipIdx member
  exact decide_eq_true (all place reached bound)

/-- Of items whose places are all passed over, none stays. -/
theorem filter_zipIdx_of_forall_not {α : Type} (items : List α) {chosen : Nat → Prop}
    [DecidablePred chosen] {offset : Nat}
    (none : ∀ place, offset ≤ place → place < offset + items.length → ¬ chosen place) :
    (items.zipIdx offset).filter (fun (_, place) => chosen place) = [] := by
  rw [List.filter_eq_nil_iff]
  rintro ⟨item, place⟩ member
  obtain ⟨reached, bound, -⟩ := List.mem_zipIdx member
  simpa using none place reached bound

/-- Items chosen by their places are those between two offsets if the places between these are the
ones chosen. -/
theorem filter_zipIdx_eq {α : Type} (items : List α) {first last : Nat} (ordered : first ≤ last)
    (within : last ≤ items.length) (chosen : Nat → Prop) [DecidablePred chosen]
    (between : ∀ place < items.length, chosen place ↔ first ≤ place ∧ place < last) :
    (items.zipIdx.filter fun (_, place) => chosen place).map Prod.fst =
      (items.drop first).take (last - first) := by
  have lengthBefore : (items.take first).length = first :=
    List.length_take_of_le (Nat.le_trans ordered within)
  have lengthHeld : ((items.drop first).take (last - first)).length = last - first := by
    rw [List.length_take, List.length_drop]
    omega
  have lengthBehind : (items.drop last).length = items.length - last := List.length_drop
  have apart : items.zipIdx =
      (items.take first).zipIdx ++ ((items.drop first).take (last - first)).zipIdx first ++
        (items.drop last).zipIdx last := by
    have whole := congrArg List.zipIdx (take_append_range items ordered)
    rw [List.zipIdx_append, List.zipIdx_append, List.length_append, lengthBefore, lengthHeld,
      Nat.zero_add, Nat.zero_add, Nat.add_sub_cancel' ordered] at whole
    exact whole.symm
  -- Of the three pieces the first and the last are passed over, and the one between them stays.
  rw [apart, List.filter_append, List.filter_append,
    filter_zipIdx_of_forall_not (items.take first), filter_zipIdx_of_forall,
    filter_zipIdx_of_forall_not (items.drop last), List.nil_append, List.append_nil,
    List.zipIdx_map_fst]
  · intro place reached bound
    rw [between place (by omega)]
    omega
  · intro place reached bound
    exact (between place (by omega)).mpr (by omega)
  · intro place reached bound
    rw [between place (by omega)]
    omega

/-- The items that a range holds are those between the offsets that it is resolved to. -/
theorem itemsInRange_eq {α : Type} (items : List α) (start : Int) (stop : Option Int) :
    let range := resolveRange start stop items.length
    itemsInRange items start stop = (items.drop range.1).take (range.2 - range.1) := by
  obtain ⟨ordered, within⟩ := resolveRange_bounds start stop items.length
  exact filter_zipIdx_eq items ordered within (InRange start stop items.length)
    fun place inside => inRange_iff inside start stop

/-- Ends that are offsets in order among the items are resolved to themselves. -/
theorem resolveRange_of_le {first last length : Nat} (ordered : first ≤ last)
    (within : last ≤ length) : resolveRange first (some last) length = (first, last) := by
  simp only [resolveRange, resolveEnd_eq_min, endPlace, Prod.mk.injEq]
  omega

/-- From an offset on a range without a second end goes to the end of the items. -/
theorem resolveRange_none {first length : Nat} (within : first ≤ length) :
    resolveRange first none length = (first, length) := by
  simp only [resolveRange, resolveEnd_eq_min, endPlace, Prod.mk.injEq]
  omega

/-- What comes before an offset is the range that ends there. -/
theorem itemsInRange_before {α : Type} {items : List α} {offset : Nat}
    (within : offset ≤ items.length) : itemsInRange items 0 (some offset) = items.take offset := by
  have resolved : resolveRange 0 (some offset) items.length = (0, offset) :=
    resolveRange_of_le (Nat.zero_le offset) within
  rw [itemsInRange_eq, resolved]
  rfl

/-- What comes from an offset on is the range that begins there. -/
theorem itemsInRange_behind {α : Type} {items : List α} {offset : Nat}
    (within : offset ≤ items.length) : itemsInRange items offset none = items.drop offset := by
  rw [itemsInRange_eq, resolveRange_none within]
  exact List.take_of_length_le (Nat.le_of_eq List.length_drop)

/-- Counted from the end or from the start, an end is resolved to the same offset. -/
theorem resolveEnd_neg {length count : Nat} (positive : 1 ≤ count) (within : count ≤ length) :
    resolveEnd length (-count) = resolveEnd length (length - count) := by
  simp only [resolveEnd_eq_min, endPlace]
  omega

namespace Text

/-- The part of a text in a range is the slice between the offsets that it is resolved to. -/
theorem inRange_eq_slice (text : String) (start : Int) (stop : Option Int) :
    let range := resolveRange start stop text.length
    inRange text start stop = slice text range.1 range.2 := by
  simp only [inRange, slice, itemsInRange_eq, String.length_toList]

theorem inRange_before {text : String} {offset : Nat} (within : offset ≤ text.length) :
    inRange text 0 (some offset) = slice text 0 offset := by
  rw [← String.length_toList] at within
  rw [inRange, itemsInRange_before within, slice, List.drop_zero, Nat.sub_zero]

theorem inRange_behind {text : String} {offset : Nat} (within : offset ≤ text.length) :
    inRange text offset none = slice text offset text.length := by
  rw [← String.length_toList] at within ⊢
  rw [inRange, itemsInRange_behind within, slice, ← List.length_drop, List.take_length]

end Text

namespace Command

variable {m : Type → Type} [Monad m]

/-- Ranges that are resolved alike are given the same part of a text. -/
theorem onCharacters_congr {start start' : Int} {stop stop' : Option Int} {text : String}
    (alike : resolveRange start stop text.length = resolveRange start' stop' text.length)
    (command : Command m) :
    onCharacters start stop command text = onCharacters start' stop' command text := by
  simp only [onCharacters, alike]

/-- A step that narrows a text to a range gives what is in the range. -/
theorem narrow_eq_inRange (start : Int) (stop : Option Int) (text : String) :
    narrowCharacters start stop text = (pure (Text.inRange text start stop) : m String) ∧
    narrowLines start stop text =
      (pure (Text.unlines (itemsInRange (Text.lines text) start stop)) : m String) := by
  constructor
  · rw [Text.inRange_eq_slice]
    rfl
  · rw [itemsInRange_eq]
    rfl

variable [LawfulMonad m]

/-- A command on a range of lines is given the lines in the range, and the lines of what it makes
of them are put between those before the range and those from its end on. -/
theorem onLines_eq_inRange (start : Int) (stop : Option Int) (command : Command m)
    (text : String) :
    let all := Text.lines text
    let range := resolveRange start stop all.length
    onLines start stop command text =
      (fun put => Text.unlines (itemsInRange all 0 (some range.1) ++ Text.lines put ++
        itemsInRange all range.2 none)) <$>
        command (Text.unlines (itemsInRange all start stop)) := by
  intro all range
  obtain ⟨ordered, within⟩ := resolveRange_bounds start stop all.length
  rw [itemsInRange_before (Nat.le_trans ordered within), itemsInRange_behind within,
    itemsInRange_eq]
  exact onLines_eq_map start stop command text

/-- The offsets that a range of characters is resolved to are in order and within the text, and the
slice between them is what is in the range, whatever its ends are. So a command on the range is
given that part of the text, and what it makes of it is put between what comes before the first
offset and what comes from the second on; the command that keeps its text keeps the whole. An end
that is counted from the end of the text does what the same place counted from its start does. -/
theorem ranges_are_slices (start : Int) (stop : Option Int) (command : Command m)
    (text : String) :
    let range := resolveRange start stop text.length
    (0 ≤ range.1 ∧ range.1 ≤ range.2 ∧ range.2 ≤ text.length) ∧
    Text.slice text range.1 range.2 = Text.inRange text start stop ∧
    onCharacters start stop command text =
      (fun put => Text.inRange text 0 (some range.1) ++ put ++ Text.inRange text range.2 none) <$>
        command (Text.inRange text start stop) ∧
    onCharacters start stop keep text = (pure text : m String) ∧
    ∀ count : Nat, 1 ≤ count → count ≤ text.length →
      onCharacters (-count) stop command text =
        onCharacters (text.length - count) stop command text ∧
      onCharacters start (some (-count)) command text =
        onCharacters start (some (text.length - count)) command text := by
  intro range
  obtain ⟨ordered, within⟩ := resolveRange_bounds start stop text.length
  have part := Text.inRange_eq_slice text start stop
  refine ⟨⟨Nat.zero_le _, ordered, within⟩, part.symm, ?_, onCharacters_keep start stop text, ?_⟩
  · rw [part, Text.inRange_before (Nat.le_trans ordered within), Text.inRange_behind within]
    exact onCharacters_eq_map start stop command text
  · intro count positive most
    have same := resolveEnd_neg positive most
    constructor
    · apply onCharacters_congr
      simp only [resolveRange, same]
    · apply onCharacters_congr
      simp only [resolveRange, same]

/-- The second end, counted from the end, lies before the first: nothing is in the range, and the
letter is put at its first end. -/
theorem ranges_are_slices_of_inverted :
    (1 ≤ 4 ∧ 4 ≤ "hello".length) ∧
    resolveRange 3 (some (-4)) "hello".length = (3, 3) ∧
    Text.inRange "hello" 3 (some (-4)) = "" ∧
    onCharacters 3 (some (-4)) (fun text => Except.ok (ε := String) (text ++ "X")) "hello" =
      .ok "helXlo" ∧
    onCharacters 3 (some (-4)) (fun text => Except.ok (ε := String) (text ++ "X")) "hello" =
      onCharacters 3 (some 1) (fun text => Except.ok (ε := String) (text ++ "X")) "hello" := by
  obtain ⟨-, part, given, -, counted⟩ := ranges_are_slices 3 (some (-4))
    (fun text => Except.ok (ε := String) (text ++ "X")) "hello"
  refine ⟨by decide, by decide, part.symm.trans (by decide), given.trans (by rfl), ?_⟩
  exact (counted 4 (by decide) (by decide)).2

end Command

end Structex
