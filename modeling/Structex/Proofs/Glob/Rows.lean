import Structex.Glob

/-!
# What the rows of a glob tell

The row of a list of segments has one entry for every rest of the path. So the test follows the
segments: each of them is taken off together with what it stands for in the path.
-/

namespace Structex.Segment

/-- A row is never empty. -/
theorem rowOf_ne_nil (segments : List Segment) (path : List String) :
    rowOf path segments ≠ [] := by
  induction segments with
  | nil => simp [rowOf]
  | cons segment rest inductionHypothesis =>
      cases segment with
      | literal text => simp [rowOf, row]
      | single => simp [rowOf, row]
      | double =>
          obtain ⟨holds, later, shape⟩ := List.exists_cons_of_ne_nil inductionHypothesis
          simp [rowOf, row, shape, orRest]

/-- Behind its first entry, the row of a path is the row of the rest of it. -/
theorem rowOf_cons (segments : List Segment) (part : String) (path : List String) :
    rowOf (part :: path) segments = matchAll segments (part :: path) :: rowOf path segments := by
  suffices behind : (rowOf (part :: path) segments).tail = rowOf path segments by
    obtain ⟨holds, later, shape⟩ :=
      List.exists_cons_of_ne_nil (rowOf_ne_nil segments (part :: path))
    rw [matchAll, ← behind, shape]
    rfl
  induction segments with
  | nil => rfl
  | cons segment rest inductionHypothesis =>
      obtain ⟨holds, later, shape⟩ := List.exists_cons_of_ne_nil (rowOf_ne_nil rest path)
      cases segment with
      | literal text =>
          rw [rowOf, rowOf, row, row, inductionHypothesis, shape]
          rfl
      | single =>
          rw [rowOf, rowOf, row, row, inductionHypothesis, shape]
          rfl
      | double =>
          obtain ⟨first, others, whole⟩ :=
            List.exists_cons_of_ne_nil (rowOf_ne_nil rest (part :: path))
          rw [whole] at inductionHypothesis
          rw [rowOf, rowOf, row, row, whole, ← inductionHypothesis]
          rfl

/-- The row of the empty path has one entry. -/
theorem rowOf_nil (segments : List Segment) : rowOf [] segments = [matchAll segments []] := by
  suffices single : ∃ holds, rowOf [] segments = [holds] by
    obtain ⟨holds, shape⟩ := single
    rw [matchAll, shape]
    rfl
  induction segments with
  | nil => exact ⟨true, rfl⟩
  | cons segment rest inductionHypothesis =>
      obtain ⟨holds, shape⟩ := inductionHypothesis
      cases segment with
      | literal text => exact ⟨false, rfl⟩
      | single => exact ⟨false, by rw [rowOf, row, shape]; rfl⟩
      | double => exact ⟨holds || false, by rw [rowOf, row, shape]; rfl⟩

/-- No segments match the empty path alone. -/
theorem matchAll_nil (path : List String) : matchAll [] path = path.isEmpty := by
  cases path <;> rfl

/-- At the end only double wildcards match. -/
theorem matchAll_of_end (segment : Segment) (rest : List Segment) :
    matchAll (segment :: rest) [] = (segment == .double && matchAll rest []) := by
  cases segment with
  | literal text => rfl
  | single =>
      rw [matchAll, rowOf, row, rowOf_nil]
      rfl
  | double =>
      rw [matchAll, rowOf, row, rowOf_nil, orRest, orRest]
      exact Bool.or_false _

/-- A literal matches its own text. -/
theorem matchAll_literal (text : String) (rest : List Segment) (part : String)
    (path : List String) :
    matchAll (.literal text :: rest) (part :: path) = (part == text && matchAll rest path) := by
  obtain ⟨holds, later, shape⟩ := List.exists_cons_of_ne_nil (rowOf_ne_nil rest path)
  have head : matchAll rest path = holds := by
    rw [matchAll, shape]
    rfl
  rw [matchAll, rowOf, row, rowOf_cons, shape, head]
  rfl

/-- A single wildcard matches any one segment. -/
theorem matchAll_single (rest : List Segment) (part : String) (path : List String) :
    matchAll (.single :: rest) (part :: path) = matchAll rest path := by
  obtain ⟨holds, later, shape⟩ := List.exists_cons_of_ne_nil (rowOf_ne_nil rest path)
  have head : matchAll rest path = holds := by
    rw [matchAll, shape]
    rfl
  rw [matchAll, rowOf, row, rowOf_cons, shape, head]
  rfl

/-- A double wildcard takes nothing, or one segment more. -/
theorem matchAll_double (rest : List Segment) (part : String) (path : List String) :
    matchAll (.double :: rest) (part :: path) =
      (matchAll rest (part :: path) || matchAll (.double :: rest) path) := by
  rw [matchAll, rowOf, row, rowOf_cons, orRest]
  rfl

/-- A double wildcard can take nothing. -/
theorem matchAll_double_of_matchAll {rest : List Segment} {path : List String}
    (matched : matchAll rest path = true) : matchAll (.double :: rest) path = true := by
  cases path with
  | nil => rw [matchAll_of_end, matched]; rfl
  | cons part path => rw [matchAll_double, matched, Bool.true_or]

end Structex.Segment
