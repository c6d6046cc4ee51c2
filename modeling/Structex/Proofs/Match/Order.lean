import Structex.Match
import Structex.Proofs.Regex.Bounds

/-!
# Matches in order

The matches of a text come one after another: each begins where the one before ended or later, and
takes a slice of the text. `Follow` says so of a list of matches from an offset on.
-/

namespace Structex

/-- Matches that come one after another in a text, the first of them at an offset or later. -/
def Match.Follow (text : String) : (last : Nat) → List Match → Prop
  | _, [] => True
  | last, found :: rest =>
    last ≤ found.start ∧ found.start ≤ found.stop ∧ found.stop ≤ text.length ∧
      found.text = Text.slice text found.start found.stop ∧ Match.Follow text found.stop rest

/-- Each of the matches lies in the text behind the offset and takes its slice. -/
theorem Match.Follow.mem {text : String} {last : Nat} {matched : List Match}
    (follow : Follow text last matched) {found : Match} (member : found ∈ matched) :
    last ≤ found.start ∧ found.start ≤ found.stop ∧ found.stop ≤ text.length ∧
      found.text = Text.slice text found.start found.stop := by
  induction matched generalizing last with
  | nil => cases member
  | cons first rest inductionHypothesis =>
      obtain ⟨begins, ends, inside, slice, others⟩ := follow
      rcases List.mem_cons.mp member with rfl | later
      · exact ⟨begins, ends, inside, slice⟩
      · have behind := inductionHypothesis others later
        exact ⟨by omega, behind.2⟩

/-- The text that a group of a pattern took in a match. -/
theorem Match.group?_ofFound {pattern : Regex.Pattern} {text : String} {found : Regex.Found}
    {group : Nat} (inside : group ≤ pattern.groups) :
    (ofFound pattern text found).group? group =
      (found.span? group).map fun span => Text.slice text span.1 span.2 := by
  rw [group?, ofFound]
  dsimp only
  rw [List.getElem?_map, List.getElem?_range (by omega)]
  rfl

namespace Regex.Pattern

theorem resumeAfter_ge (found : Found) : found.stop ≤ resumeAfter found := by
  rw [resumeAfter]
  split <;> omega

/-- The scan yields matches one after another. -/
theorem foundFrom_follow (pattern : Pattern) (text : String) (fuel position last : Nat)
    (passed : last ≤ position) :
    Match.Follow text last
      ((pattern.foundFrom text.toList.toArray fuel position).map
        (Match.ofFound pattern text)) := by
  induction fuel generalizing position last with
  | zero => trivial
  | succ fuel inductionHypothesis =>
      rw [foundFrom]
      cases searched : pattern.search text.toList.toArray position with
      | none => trivial
      | some found =>
          obtain ⟨begins, ends, inside⟩ := search_bounds searched
          have within : found.stop ≤ text.length := by
            simpa [String.length_toList] using inside
          exact ⟨Nat.le_trans passed begins, ends, within, rfl,
            inductionHypothesis _ _ (resumeAfter_ge found)⟩

/-- The matches of a text come one after another. -/
theorem findMatches_follow (pattern : Pattern) (text : String) :
    Match.Follow text 0 (pattern.findMatches text) :=
  pattern.foundFrom_follow text _ 0 0 (Nat.le_refl 0)

/-- A search that must not stay where it begins finds nothing before its offset. -/
theorem searchAdvancing_bounds {pattern : Pattern} {subject : Array Char} {position : Nat}
    {found : Found} (within : position ≤ subject.size)
    (taken : pattern.searchAdvancing subject position = some found) :
    position ≤ found.start ∧ found.start ≤ found.stop ∧ found.stop ≤ subject.size := by
  rcases Option.or_eq_some_iff.mp taken with here | ⟨-, later⟩
  · obtain ⟨begins, ends, inside⟩ := matchAtWhere_bounds within here
    omega
  · obtain ⟨begins, ends, inside⟩ := search_bounds later
    omega

/-- The scan for substitution yields matches one after another. -/
theorem scanFrom_follow (pattern : Pattern) (text : String) (fuel : Nat) {position last : Nat}
    (advance : Bool) (passed : last ≤ position) (within : position ≤ text.length) :
    Match.Follow text last
      ((pattern.scanFrom text.toList.toArray fuel position advance).map
        (Match.ofFound pattern text)) := by
  have size : text.toList.toArray.size = text.length := by simp [String.length_toList]
  induction fuel generalizing position last advance with
  | zero => trivial
  | succ fuel inductionHypothesis =>
      rw [scanFrom]
      have bounds : ∀ found, (if advance then pattern.searchAdvancing text.toList.toArray position
          else pattern.search text.toList.toArray position) = some found →
          position ≤ found.start ∧ found.start ≤ found.stop ∧ found.stop ≤ text.length := by
        intro found taken
        rw [← size] at within ⊢
        split at taken
        · exact searchAdvancing_bounds within taken
        · exact search_bounds taken
      split
      · trivial
      · rename_i found taken
        obtain ⟨begins, ends, inside⟩ := bounds found taken
        exact ⟨Nat.le_trans passed begins, ends, inside, rfl,
          inductionHypothesis _ (Nat.le_refl _) inside⟩

/-- The matches that substitution sees come one after another. -/
theorem scanMatches_follow (pattern : Pattern) (text : String) :
    Match.Follow text 0 (pattern.scanMatches text) :=
  pattern.scanFrom_follow text _ false (Nat.le_refl 0) (Nat.zero_le _)

/-- The first of all matches is the match that a single search finds. -/
theorem head?_findMatches (pattern : Pattern) (text : String) :
    (pattern.findMatches text).head? = pattern.firstMatch? text := by
  simp only [findMatches, foundIn, foundFrom, firstMatch?]
  cases pattern.search text.toList.toArray 0 <;> rfl

/-- There are no matches exactly where the pattern matches nowhere. -/
theorem findMatches_eq_nil_iff (pattern : Pattern) (text : String) :
    pattern.findMatches text = [] ↔ pattern.containsMatch text = false := by
  rw [← List.head?_eq_none_iff, head?_findMatches, firstMatch?, containsMatch]
  simp

end Regex.Pattern

end Structex
