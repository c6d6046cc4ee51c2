/-!
# Cutting and joining text

Cutting a text at every occurrence of a separating character, joining the pieces again, and
taking the piece between two offsets. A cut always gives at least one piece, so cutting and
joining undo each other.
-/

namespace Structex.Text

/-- The pieces between the separators, empty ones included; never an empty list. -/
def splitChars (separator : Char) : List Char → List (List Char)
  | [] => [[]]
  | c :: rest =>
    if c == separator then
      [] :: splitChars separator rest
    else
      match splitChars separator rest with
      | [] => [[c]]
      | piece :: pieces => (c :: piece) :: pieces

/-- The pieces with the separator between each two. -/
def joinChars (separator : Char) : List (List Char) → List Char
  | [] => []
  | [piece] => piece
  | piece :: pieces => piece ++ separator :: joinChars separator pieces

/-- The pieces of a text between the separators. -/
def split (separator : Char) (text : String) : List String :=
  (splitChars separator text.toList).map String.ofList

/-- The pieces joined by the separator. -/
def join (separator : Char) (pieces : List String) : String :=
  String.ofList (joinChars separator (pieces.map String.toList))

/-- The part of a text from one offset up to another. -/
def slice (text : String) (start stop : Nat) : String :=
  String.ofList ((text.toList.drop start).take (stop - start))

/-- The lines of a text: its pieces between line feeds. -/
def lines (text : String) : List String :=
  split '\n' text

/-- Lines put under each other. -/
def unlines (pieces : List String) : String :=
  join '\n' pieces

theorem splitChars_ne_nil (separator : Char) (text : List Char) :
    splitChars separator text ≠ [] := by
  induction text with
  | nil => simp [splitChars]
  | cons c rest ih =>
    unfold splitChars
    split
    · simp
    · split <;> simp

/-- Joining the pieces of a cut gives the text back. -/
theorem joinChars_splitChars (separator : Char) (text : List Char) :
    joinChars separator (splitChars separator text) = text := by
  induction text with
  | nil => rfl
  | cons c rest ih =>
    obtain ⟨piece, pieces, shape⟩ := List.exists_cons_of_ne_nil (splitChars_ne_nil separator rest)
    rw [shape] at ih
    by_cases same : c = separator
    · subst same
      rw [splitChars, if_pos (by simp), shape, joinChars, ih]
      · rfl
      · simp
    · simp only [splitChars, beq_iff_eq, same, if_false, shape]
      cases pieces with
      | nil => simpa [joinChars] using ih
      | cons next others => simpa [joinChars] using ih

/-- Joining the pieces of a text gives the text back. -/
theorem join_split (separator : Char) (text : String) :
    join separator (split separator text) = text := by
  simp [join, split, Function.comp_def, joinChars_splitChars]

/-- No piece has the separator in it. -/
theorem ne_of_mem_splitChars {separator : Char} {text piece : List Char}
    (member : piece ∈ splitChars separator text) : ∀ c ∈ piece, c ≠ separator := by
  induction text generalizing piece with
  | nil =>
      cases List.mem_singleton.mp member
      exact nofun
  | cons d rest inductionHypothesis =>
      rw [splitChars] at member
      split at member
      · rcases List.mem_cons.mp member with rfl | later
        · exact nofun
        · exact inductionHypothesis later
      · rename_i other
        split at member
        · cases List.mem_singleton.mp member
          simpa using other
        · rename_i first pieces shape
          rw [shape] at inductionHypothesis
          rcases List.mem_cons.mp member with rfl | later
          · exact List.forall_mem_cons.mpr
              ⟨by simpa using other, inductionHypothesis List.mem_cons_self⟩
          · exact inductionHypothesis (List.mem_cons_of_mem _ later)

theorem split_ne_nil (separator : Char) (text : String) : split separator text ≠ [] := by
  simpa [split] using splitChars_ne_nil separator text.toList

/-- No piece of a text has the separator in it. -/
theorem notMem_of_mem_split {separator : Char} {text piece : String}
    (member : piece ∈ split separator text) : separator ∉ piece.toList := by
  obtain ⟨chars, isPiece, rfl⟩ := List.mem_map.mp member
  rw [String.toList_ofList]
  exact fun isChar => ne_of_mem_splitChars isPiece separator isChar rfl

/-- Without the separator a text is one piece. -/
theorem splitChars_of_forall_ne {separator : Char} {word : List Char}
    (free : ∀ c ∈ word, c ≠ separator) : splitChars separator word = [word] := by
  induction word with
  | nil => rfl
  | cons c word inductionHypothesis =>
      have other : ¬ (c == separator) = true := by simpa using free c List.mem_cons_self
      rw [splitChars, if_neg other,
        inductionHypothesis fun d member => free d (List.mem_cons_of_mem c member)]

/-- What comes before the first separator is the first piece. -/
theorem splitChars_append {separator : Char} {word : List Char}
    (free : ∀ c ∈ word, c ≠ separator) (rest : List Char) :
    splitChars separator (word ++ separator :: rest) = word :: splitChars separator rest := by
  induction word with
  | nil => simp [splitChars]
  | cons c word inductionHypothesis =>
      have other : ¬ (c == separator) = true := by simpa using free c List.mem_cons_self
      rw [List.cons_append, splitChars, if_neg other,
        inductionHypothesis fun d member => free d (List.mem_cons_of_mem c member)]

/-- Cutting joined pieces gives them back if no piece has the separator in it. -/
theorem splitChars_joinChars {separator : Char} {pieces : List (List Char)} (nonempty : pieces ≠ [])
    (free : ∀ piece ∈ pieces, ∀ c ∈ piece, c ≠ separator) :
    splitChars separator (joinChars separator pieces) = pieces := by
  induction pieces with
  | nil => exact absurd rfl nonempty
  | cons piece pieces inductionHypothesis =>
      have first := free piece List.mem_cons_self
      cases pieces with
      | nil => exact splitChars_of_forall_ne first
      | cons next others =>
          rw [joinChars, splitChars_append first,
            inductionHypothesis (List.cons_ne_nil next others)
              fun other member => free other (List.mem_cons_of_mem _ member)]
          simp

/-- Cutting joined texts gives them back if no text has the separator in it. -/
theorem split_join {separator : Char} {pieces : List String} (nonempty : pieces ≠ [])
    (free : ∀ piece ∈ pieces, separator ∉ piece.toList) :
    split separator (join separator pieces) = pieces := by
  have apart : ∀ piece ∈ pieces.map String.toList, ∀ c ∈ piece, c ≠ separator := by
    intro piece member c isChar same
    obtain ⟨text, isPiece, rfl⟩ := List.mem_map.mp member
    exact free text isPiece (same ▸ isChar)
  rw [split, join, String.toList_ofList, splitChars_joinChars (by simpa using nonempty) apart]
  simp [Function.comp_def]

@[simp] theorem slice_self (text : String) (offset : Nat) : slice text offset offset = "" := by
  simp [slice]

/-- The slice of the whole text is the text. -/
@[simp] theorem slice_all (text : String) : slice text 0 text.length = text := by
  simp [slice, ← String.length_toList]

/-- A slice that ends in the text is as long as its offsets are apart. -/
theorem length_slice {text : String} {start stop : Nat} (inside : stop ≤ text.length) :
    (slice text start stop).length = stop - start := by
  rw [← String.length_toList] at inside
  simp only [slice, String.length_ofList, List.length_take, List.length_drop]
  omega

/-- Slices that touch are one slice. -/
theorem slice_append {text : String} {start middle stop : Nat} (before : start ≤ middle)
    (after : middle ≤ stop) :
    slice text start middle ++ slice text middle stop = slice text start stop := by
  have whole : stop - start = (middle - start) + (stop - middle) := by omega
  have place : start + (middle - start) = middle := by omega
  simp only [slice, ← String.ofList_append]
  rw [whole, List.take_add, List.drop_drop, place]

end Structex.Text
