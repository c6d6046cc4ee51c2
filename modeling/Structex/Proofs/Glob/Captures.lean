import Structex.Proofs.Glob.Cuts

/-!
# What wildcards capture

A matching path may be cut in many ways. What a glob captures belongs to one of them: from left to
right, each double wildcard takes the shortest run behind which the other segments still match. The
invariant of the walk over the segments is that those that are left match what is left of the path,
so each of them finds a run to take (`exists_taken?`).
-/

namespace Structex.Segment

/-- Each double wildcard takes the shortest run behind which the segments that follow it still cut
the path. -/
def Shortest : List Segment → List (List String) → Prop
  | .double :: rest, run :: runs =>
    (∀ shorter < run.length, ∀ others, ¬ Cuts rest ((run ++ runs.flatten).drop shorter) others) ∧
      Shortest rest runs
  | .single :: rest, _ :: runs => Shortest rest runs
  | .literal _ :: rest, _ :: runs => Shortest rest runs
  | _, _ => True

/-- The runs that wildcards stand for, among those of all segments. -/
def wildcardRuns : List Segment → List (List String) → List (List String)
  | .double :: rest, run :: runs => run :: wildcardRuns rest runs
  | .single :: rest, run :: runs => run :: wildcardRuns rest runs
  | .literal _ :: rest, _ :: runs => wildcardRuns rest runs
  | _, _ => []

/-- The path with given runs in place of the wildcards, and the literals between them. -/
def fillIn : List Segment → List (List String) → List String
  | .literal text :: rest, runs => text :: fillIn rest runs
  | .single :: rest, run :: runs => run ++ fillIn rest runs
  | .double :: rest, run :: runs => run ++ fillIn rest runs
  | _, _ => []

/-- The runs of the wildcards in place of them give the path back. -/
theorem fillIn_wildcardRuns {segments : List Segment} {path : List String}
    {runs : List (List String)} (cuts : Cuts segments path runs) :
    fillIn segments (wildcardRuns segments runs) = path := by
  induction segments generalizing path runs with
  | nil =>
      obtain ⟨rfl, rfl⟩ := cuts_nil_iff.mp cuts
      rfl
  | cons segment rest inductionHypothesis =>
      obtain ⟨run, left, others, here, later, rfl, rfl⟩ := cuts_cons_iff.mp cuts
      have behind := inductionHypothesis later
      cases segment with
      | literal text =>
          obtain rfl : run = [text] := here
          rw [wildcardRuns, fillIn, behind]
          rfl
      | single => rw [wildcardRuns, fillIn, behind]
      | double => rw [wildcardRuns, fillIn, behind]

/-- There is one cut in which each double wildcard takes the shortest run. -/
theorem Shortest.unique {segments : List Segment} {path : List String}
    {runs runs' : List (List String)} (shortest : Shortest segments runs)
    (cuts : Cuts segments path runs) (shortest' : Shortest segments runs')
    (cuts' : Cuts segments path runs') : runs = runs' := by
  induction segments generalizing path runs runs' with
  | nil => rw [(cuts_nil_iff.mp cuts).1, (cuts_nil_iff.mp cuts').1]
  | cons segment rest inductionHypothesis =>
      obtain ⟨run, left, others, here, later, rfl, rfl⟩ := cuts_cons_iff.mp cuts
      obtain ⟨run', left', others', here', later', same, rfl⟩ := cuts_cons_iff.mp cuts'
      cases segment with
      | literal text =>
          obtain rfl : run = [text] := here
          obtain rfl : run' = [text] := here'
          cases same
          rw [inductionHypothesis shortest later shortest' later']
      | single =>
          obtain ⟨part, rfl⟩ := here
          obtain ⟨part', rfl⟩ := here'
          cases same
          rw [inductionHypothesis shortest later shortest' later']
      | double =>
          obtain ⟨none, shortest⟩ := shortest
          obtain ⟨none', shortest'⟩ := shortest'
          rw [later.whole, same] at none
          rw [later'.whole, ← same] at none'
          -- The longer of two runs would not be the shortest: behind the other one the rest is cut.
          have length : run.length = run'.length := by
            rcases Nat.lt_trichotomy run.length run'.length with less | equal | more
            · exact absurd (by rwa [List.drop_left]) (none' run.length less others)
            · exact equal
            · exact absurd (by rwa [List.drop_left]) (none run'.length more others')
          obtain ⟨rfl, rfl⟩ := List.append_inj same length
          rw [inductionHypothesis shortest later shortest' later']

/-- A run that lets the segments match what is left of a path has a shortest one before it. -/
theorem exists_shortestRun? {segments : List Segment} {path : List String} {skip : Nat}
    (within : skip ≤ path.length) (matched : matchAll segments (path.drop skip) = true) :
    ∃ run left, shortestRun? segments path = some run.length ∧ path = run ++ left ∧
      matchAll segments left = true ∧
        ∀ shorter < run.length, matchAll segments (path.drop shorter) = false := by
  induction path generalizing skip with
  | nil =>
      rw [List.drop_nil] at matched
      exact ⟨[], [], by rw [shortestRun?, if_pos matched]; rfl, rfl, matched, nofun⟩
  | cons part path inductionHypothesis =>
      by_cases here : matchAll segments (part :: path) = true
      · exact ⟨[], part :: path, by rw [shortestRun?, if_pos here]; rfl, rfl, here, nofun⟩
      · cases skip with
        | zero => exact absurd matched here
        | succ skip =>
            obtain ⟨run, left, found, rfl, behind, before⟩ :=
              inductionHypothesis (Nat.le_of_succ_le_succ within) matched
            refine ⟨part :: run, left, ?_, rfl, behind, fun shorter less => ?_⟩
            · rw [shortestRun?, if_neg here, found]
              rfl
            · cases shorter with
              | zero => exact Bool.eq_false_iff.mpr here
              | succ shorter => exact before shorter (Nat.lt_of_succ_lt_succ less)

/-- Of a path that the segments match, the wildcards take their runs in the shortest cut. -/
theorem exists_taken? {segments : List Segment} {path : List String}
    (matched : matchAll segments path = true) :
    ∃ runs, Cuts segments path runs ∧ Shortest segments runs ∧
      taken? segments path = some (wildcardRuns segments runs).flatten := by
  induction segments generalizing path with
  | nil =>
      rw [matchAll_nil, List.isEmpty_iff] at matched
      exact ⟨[], cuts_nil_iff.mpr ⟨rfl, matched⟩, trivial, rfl⟩
  | cons segment rest inductionHypothesis =>
      cases segment with
      | literal text =>
          obtain ⟨run, left, rfl, behind, rfl⟩ := matchAll_cons_iff.mp matched
          obtain ⟨runs, cuts, shortest, taken⟩ := inductionHypothesis behind
          exact ⟨[text] :: runs, cuts_cons_iff.mpr ⟨[text], left, runs, rfl, cuts, rfl, rfl⟩,
            shortest, taken⟩
      | single =>
          obtain ⟨run, left, ⟨part, rfl⟩, behind, rfl⟩ := matchAll_cons_iff.mp matched
          obtain ⟨runs, cuts, shortest, taken⟩ := inductionHypothesis behind
          refine ⟨[part] :: runs,
            cuts_cons_iff.mpr ⟨[part], left, runs, ⟨part, rfl⟩, cuts, rfl, rfl⟩, shortest, ?_⟩
          rw [List.singleton_append, taken?, taken]
          rfl
      | double =>
          obtain ⟨skip, within, found⟩ := matchAll_double_iff.mp matched
          obtain ⟨run, left, isShortest, rfl, behind, before⟩ := exists_shortestRun? within found
          obtain ⟨runs, cuts, shortest, taken⟩ := inductionHypothesis behind
          refine ⟨run :: runs, cuts_cons_iff.mpr ⟨run, left, runs, trivial, cuts, rfl, rfl⟩,
            ⟨fun shorter less others cut => ?_, shortest⟩, ?_⟩
          · rw [cuts.whole] at cut
            have absent := before shorter less
            rw [matchAll_iff_cuts.mpr ⟨others, cut⟩] at absent
            cases absent
          · rw [taken?, isShortest]
            simp [taken, wildcardRuns]

end Structex.Segment

namespace Structex.Glob

open Segment (Cuts Shortest wildcardRuns fillIn)

/-- A glob captures something of exactly the paths that it matches: the runs of its wildcards in
the cut of the path in which each double wildcard, from left to right, takes the shortest run that
lets the others match. With the literals between them, these runs are the path again. -/
theorem captures?_eq_some_iff (source path : String) :
    ((compile source).captures? path = none ↔ (compile source).isMatch path = false) ∧
      ∀ taken, (compile source).captures? path = some taken ↔
        ∃ runs, Cuts (compile source).segments (pathSegments path) runs ∧
          Shortest (compile source).segments runs ∧
          taken = (wildcardRuns (compile source).segments runs).flatten ∧
          fillIn (compile source).segments (wildcardRuns (compile source).segments runs) =
            pathSegments path := by
  cases matched : (compile source).isMatch path with
  | false =>
      have missed : (compile source).captures? path = none := by rw [captures?, matched]; rfl
      refine ⟨by simp [missed], fun taken => ?_⟩
      rw [missed]
      constructor
      · rintro ⟨⟩
      · rintro ⟨runs, cuts, -⟩
        have found : (compile source).isMatch path = true :=
          Segment.matchAll_iff_cuts.mpr ⟨runs, cuts⟩
        rw [matched] at found
        cases found
  | true =>
      obtain ⟨runs, cuts, shortest, taken⟩ := Segment.exists_taken? matched
      have captured : (compile source).captures? path =
          some (wildcardRuns (compile source).segments runs).flatten := by
        rw [captures?, if_pos matched, taken]
      refine ⟨by simp [captured], fun taken => ?_⟩
      rw [captured, Option.some.injEq]
      constructor
      · rintro rfl
        exact ⟨runs, cuts, shortest, rfl, Segment.fillIn_wildcardRuns cuts⟩
      · rintro ⟨others, otherCuts, otherShortest, rfl, -⟩
        rw [shortest.unique cuts otherShortest otherCuts]

end Structex.Glob
