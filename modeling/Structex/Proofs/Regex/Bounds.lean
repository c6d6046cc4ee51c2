import Structex.Proofs.Regex.Course
import Structex.Regex.Search

/-!
# A match lies in the text

Matching only moves on, and never beyond the text. This holds of every pattern tree, whatever its
groups, references and looks are. A search so gives a match that begins where it was started or
later and that ends in the text.
-/

namespace Structex.Regex

/-- Matching moves on within the text. -/
theorem Course.moves (subject : Array Char) :
    Course subject (fun _ => True) fun place reached => place.position ≤ subject.size →
      place.position ≤ reached.position ∧ reached.position ≤ subject.size where
  refl := fun _ within => ⟨Nat.le_refl _, within⟩
  trans := by
    intro place middle reached before after within
    obtain ⟨later, inside⟩ := before within
    exact ⟨Nat.le_trans later (after inside).1, (after inside).2⟩
  taken := by
    intro place count inside within
    dsimp only
    omega
  captured := fun _ moved => moved
  looked := fun _ within => ⟨Nat.le_refl _, within⟩

namespace Pattern

/-- A match at an offset begins there and ends in the text. -/
theorem matchAtWhere_bounds {pattern : Pattern} {subject : Array Char} {wanted : Place → Bool}
    {position : Nat} {found : Found} (within : position ≤ subject.size)
    (taken : pattern.matchAtWhere subject wanted position = some found) :
    found.start = position ∧ position ≤ found.stop ∧ found.stop ≤ subject.size := by
  obtain ⟨place, ran, rfl⟩ := Option.map_eq_some_iff.mp taken
  obtain ⟨reached, moved, done⟩ :=
    Node.run_keeps (Course.moves subject) (fun _ _ => trivial) _ _ _ ran
  obtain ⟨later, inside⟩ := moved within
  split at done
  · cases done
    exact ⟨rfl, later, inside⟩
  · cases done

/-- The first match at one of several offsets begins at one of them and ends in the text. -/
theorem searchNext_bounds {pattern : Pattern} {subject : Array Char} {tries position : Nat}
    {found : Found} (within : position + tries ≤ subject.size + 1)
    (taken : pattern.searchNext subject tries position = some found) :
    position ≤ found.start ∧ found.start ≤ found.stop ∧ found.stop ≤ subject.size := by
  induction tries generalizing position with
  | zero => cases taken
  | succ tries inductionHypothesis =>
      rcases Option.or_eq_some_iff.mp taken with here | ⟨-, later⟩
      · obtain ⟨begins, ends, inside⟩ := matchAtWhere_bounds (by omega) here
        omega
      · obtain ⟨begins, ends, inside⟩ := inductionHypothesis (by omega) later
        omega

/-- What a search finds begins at the offset or later and ends in the text. -/
theorem search_bounds {pattern : Pattern} {subject : Array Char} {position : Nat} {found : Found}
    (taken : pattern.search subject position = some found) :
    position ≤ found.start ∧ found.start ≤ found.stop ∧ found.stop ≤ subject.size := by
  by_cases within : position ≤ subject.size + 1
  · exact searchNext_bounds (by omega) taken
  · -- Beyond the end no offset is tried at all.
    have none : subject.size + 1 - position = 0 := by omega
    rw [search, none] at taken
    cases taken

/-- A search tries the offsets in order. -/
theorem searchNext_eq_findSome? (pattern : Pattern) (subject : Array Char)
    (tries position : Nat) :
    pattern.searchNext subject tries position =
      (List.range' position tries).findSome? (pattern.matchAt subject) := by
  induction tries generalizing position with
  | zero => rfl
  | succ tries inductionHypothesis =>
      rw [searchNext, inductionHypothesis, List.range'_succ, List.findSome?_cons]
      cases pattern.matchAt subject position <;> rfl

end Pattern

end Structex.Regex
