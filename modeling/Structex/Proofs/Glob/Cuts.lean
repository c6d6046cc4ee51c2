import Mathlib.Data.List.Forall2
import Structex.Proofs.Glob.Rows

/-!
# Paths cut into runs

A glob says how a path is cut: into one run of segments for each of its own, where a literal stands
for its text, a single wildcard for any one segment and a double wildcard for any number of them.
The rows find out whether there is such a cut, and so does the search that goes from place to place
and tries every run of a double wildcard in turn; that search never looks beyond the path.
-/

namespace Structex.Segment

/-- A segment stands for a run of the segments of a path. -/
def Fits : Segment → List String → Prop
  | .literal text, run => run = [text]
  | .single, run => ∃ part, run = [part]
  | .double, _ => True

/-- A path is cut into consecutive runs, one for each of the segments in order. -/
structure Cuts (segments : List Segment) (path : List String) (runs : List (List String)) :
    Prop where
  fit : List.Forall₂ Fits segments runs
  whole : runs.flatten = path

theorem cuts_nil_iff {path : List String} {runs : List (List String)} :
    Cuts [] path runs ↔ runs = [] ∧ path = [] := by
  constructor
  · rintro ⟨fit, rfl⟩
    cases fit
    exact ⟨rfl, rfl⟩
  · rintro ⟨rfl, rfl⟩
    exact ⟨.nil, rfl⟩

/-- The first segment takes the first run, and the others cut what is left. -/
theorem cuts_cons_iff {segment : Segment} {rest : List Segment} {path : List String}
    {runs : List (List String)} :
    Cuts (segment :: rest) path runs ↔
      ∃ run left others, segment.Fits run ∧ Cuts rest left others ∧ path = run ++ left ∧
        runs = run :: others := by
  constructor
  · rintro ⟨fit, rfl⟩
    cases fit with
    | @cons _ run _ others here later => exact ⟨run, _, others, here, ⟨later, rfl⟩, rfl, rfl⟩
  · rintro ⟨run, left, others, here, ⟨later, rfl⟩, rfl, rfl⟩
    exact ⟨.cons here later, rfl⟩

/-! ## What the rows find -/

/-- A double wildcard takes some run of the path and leaves the rest to the other segments. -/
theorem matchAll_double_iff {rest : List Segment} {path : List String} :
    matchAll (.double :: rest) path = true ↔
      ∃ skip ≤ path.length, matchAll rest (path.drop skip) = true := by
  induction path with
  | nil => simp [matchAll_of_end]
  | cons part path inductionHypothesis =>
      rw [matchAll_double, Bool.or_eq_true, inductionHypothesis]
      constructor
      · rintro (here | ⟨skip, within, later⟩)
        · exact ⟨0, Nat.zero_le _, here⟩
        · exact ⟨skip + 1, Nat.succ_le_succ within, later⟩
      · rintro ⟨skip, within, found⟩
        cases skip with
        | zero => exact .inl found
        | succ skip => exact .inr ⟨skip, Nat.le_of_succ_le_succ within, found⟩

/-- A segment is taken off together with a run that it stands for. -/
theorem matchAll_cons_iff {segment : Segment} {rest : List Segment} {path : List String} :
    matchAll (segment :: rest) path = true ↔
      ∃ run left, segment.Fits run ∧ matchAll rest left = true ∧ path = run ++ left := by
  cases segment with
  | literal text =>
      cases path with
      | nil => simp [matchAll_of_end, Fits]
      | cons part path =>
          rw [matchAll_literal, Bool.and_eq_true, beq_iff_eq]
          constructor
          · rintro ⟨rfl, matched⟩
            exact ⟨[part], path, rfl, matched, rfl⟩
          · rintro ⟨run, left, rfl, matched, split⟩
            cases split
            exact ⟨rfl, matched⟩
  | single =>
      cases path with
      | nil =>
          constructor
          · intro matched
            rw [matchAll_of_end] at matched
            cases matched
          · rintro ⟨run, left, ⟨part, rfl⟩, -, split⟩
            cases split
      | cons part path =>
          rw [matchAll_single]
          constructor
          · intro matched
            exact ⟨[part], path, ⟨part, rfl⟩, matched, rfl⟩
          · rintro ⟨run, left, ⟨other, rfl⟩, matched, split⟩
            cases split
            exact matched
  | double =>
      rw [matchAll_double_iff]
      constructor
      · rintro ⟨skip, -, matched⟩
        exact ⟨path.take skip, path.drop skip, trivial, matched,
          (List.take_append_drop skip path).symm⟩
      · rintro ⟨run, left, -, matched, rfl⟩
        exact ⟨run.length, by simp, by simpa using matched⟩

/-- The rows tell whether a path can be cut. -/
theorem matchAll_iff_cuts {segments : List Segment} {path : List String} :
    matchAll segments path = true ↔ ∃ runs, Cuts segments path runs := by
  induction segments generalizing path with
  | nil => simp [matchAll_nil, cuts_nil_iff]
  | cons segment rest inductionHypothesis =>
      rw [matchAll_cons_iff]
      constructor
      · rintro ⟨run, left, here, matched, split⟩
        obtain ⟨others, later⟩ := inductionHypothesis.mp matched
        exact ⟨run :: others, cuts_cons_iff.mpr ⟨run, left, others, here, later, split, rfl⟩⟩
      · rintro ⟨runs, cuts⟩
        obtain ⟨run, left, others, here, later, split, -⟩ := cuts_cons_iff.mp cuts
        exact ⟨run, left, here, inductionHypothesis.mpr ⟨others, later⟩, split⟩

/-! ## The search from place to place -/

/-- Whether segments match a path from a place on. A double wildcard tries the runs from there one
after another, the shortest first. Nothing, if a place beyond the path is looked at. -/
def search? (path : List String) : List Segment → Nat → Option Bool
  | [], place => some (path.length ≤ place)
  | .double :: rest, place =>
    (List.range (path.length + 1 - place)).anyM fun skip => search? path rest (place + skip)
  | .single :: rest, place =>
    if path.length ≤ place then some false else search? path rest (place + 1)
  | .literal text :: rest, place =>
    if path.length ≤ place then some false
    else do
      let part ← path[place]?
      if part != text then return false
      search? path rest (place + 1)

/-- Trying what never fails is looking for one that holds. -/
theorem anyM_eq_some_any {α : Type} {tries : List α} {attempt : α → Option Bool}
    {holds : α → Bool} (answered : ∀ one ∈ tries, attempt one = some (holds one)) :
    tries.anyM attempt = some (tries.any holds) := by
  induction tries with
  | nil => rfl
  | cons one rest inductionHypothesis =>
      obtain ⟨first, others⟩ := List.forall_mem_cons.mp answered
      rw [List.anyM, first, List.any_cons, inductionHypothesis others]
      cases holds one <;> rfl

/-- A double wildcard tries all runs from its place on. -/
theorem matchAll_double_eq_any (rest : List Segment) {path : List String} {place : Nat}
    (inside : place ≤ path.length) :
    matchAll (.double :: rest) (path.drop place) =
      (List.range (path.length + 1 - place)).any fun skip =>
        matchAll rest (path.drop (place + skip)) := by
  rw [Bool.eq_iff_iff, matchAll_double_iff, List.any_eq_true]
  simp only [List.length_drop, List.drop_drop, List.mem_range]
  constructor
  · rintro ⟨skip, within, matched⟩
    exact ⟨skip, by omega, matched⟩
  · rintro ⟨skip, within, matched⟩
    exact ⟨skip, by omega, matched⟩

/-- From every place of a path the search answers, with what the rows tell of the rest of it. -/
theorem search?_eq_matchAll {path : List String} (segments : List Segment) {place : Nat}
    (inside : place ≤ path.length) :
    search? path segments place = some (matchAll segments (path.drop place)) := by
  induction segments generalizing place with
  | nil =>
      rw [search?, matchAll_nil, Option.some.injEq, Bool.eq_iff_iff, decide_eq_true_iff,
        List.isEmpty_iff, List.drop_eq_nil_iff]
  | cons segment rest inductionHypothesis =>
      cases segment with
      | double =>
          rw [search?, matchAll_double_eq_any rest inside]
          refine anyM_eq_some_any fun skip within => inductionHypothesis ?_
          have bound := List.mem_range.mp within
          omega
      | single =>
          rw [search?]
          split
          case isTrue atEnd => rw [List.drop_eq_nil_iff.mpr atEnd, matchAll_of_end]; rfl
          case isFalse before =>
            have more : place < path.length := Nat.lt_of_not_le before
            rw [List.drop_eq_getElem_cons more, matchAll_single, inductionHypothesis more]
      | literal text =>
          rw [search?]
          split
          case isTrue atEnd => rw [List.drop_eq_nil_iff.mpr atEnd, matchAll_of_end]; rfl
          case isFalse before =>
            have more : place < path.length := Nat.lt_of_not_le before
            rw [List.drop_eq_getElem_cons more, matchAll_literal, List.getElem?_eq_getElem more,
              inductionHypothesis more]
            by_cases same : path[place] = text <;> simp [same]

end Structex.Segment

namespace Structex.Glob

/-- A glob matches the paths that can be cut into what its segments stand for, one run for each of
them in order; and the search over places answers the same, without looking beyond the path. -/
theorem isMatch_iff_cuts (source path : String) :
    Segment.search? (pathSegments path) (compile source).segments 0 =
        some ((compile source).isMatch path) ∧
      ((compile source).isMatch path = true ↔
        ∃ runs, Segment.Cuts (compile source).segments (pathSegments path) runs) :=
  ⟨Segment.search?_eq_matchAll _ (Nat.zero_le _), Segment.matchAll_iff_cuts⟩

end Structex.Glob
