import Mathlib.Data.List.Forall2

/-!
# Results and faults

What the result of several steps says of each of them: of two in a row, of one for every member of
a list, and of a test by which a list is filtered.
-/

namespace Structex

variable {α β ε : Type}

/-- A sequence of two computations gives what the second makes of what the first gives. -/
theorem bind_eq_ok_iff {first : Except ε α} {next : α → Except ε β} {result : β} :
    (first >>= next) = .ok result ↔ ∃ value, first = .ok value ∧ next value = .ok result := by
  cases first with
  | error fault => simp [bind, Except.bind]
  | ok value => simp [bind, Except.bind]

/-- One step after another fails where the first of them does that fails. -/
theorem bind_eq_error_iff {first : Except ε α} {next : α → Except ε β} {fault : ε} :
    (first >>= next) = .error fault ↔
      first = .error fault ∨ ∃ value, first = .ok value ∧ next value = .error fault := by
  cases first with
  | error other => simp [bind, Except.bind]
  | ok value => simp [bind, Except.bind]

/-- A change of a result is made unless there is none. -/
theorem map_eq_error_iff {result : Except ε α} {change : α → β} {fault : ε} :
    change <$> result = .error fault ↔ result = .error fault := by
  cases result <;> simp [Functor.map, Except.map]

/-- Where there is a result it can be named. -/
theorem eq_ok_of_isSome {result : Except ε α} (accepted : result.toOption.isSome = true)
    (other : α) : result = .ok (result.toOption.getD other) := by
  cases result with
  | error fault => cases accepted
  | ok value => rfl

/-! ## Lists -/

/-- What a function makes of the members of a list in order, if it makes something of each. -/
theorem mapM_eq_ok_iff {make : α → Except ε β} {given : List α} {made : List β} :
    given.mapM make = .ok made ↔
      List.Forall₂ (fun argument result => make argument = .ok result) given made := by
  induction given generalizing made with
  | nil =>
      rw [List.forall₂_nil_left_iff]
      exact ⟨fun ran => by cases ran; rfl, fun none => none ▸ rfl⟩
  | cons argument rest inductionHypothesis =>
      rw [List.mapM_cons, List.forall₂_cons_left_iff, bind_eq_ok_iff]
      constructor
      · rintro ⟨value, first, ran⟩
        obtain ⟨values, others, made⟩ := bind_eq_ok_iff.mp ran
        cases made
        exact ⟨value, values, first, inductionHypothesis.mp others, rfl⟩
      · rintro ⟨value, values, first, others, rfl⟩
        exact ⟨value, first, bind_eq_ok_iff.mpr ⟨values, inductionHypothesis.mpr others, rfl⟩⟩

/-- Where nothing is made of a list, nothing is made of some member. -/
theorem exists_of_mapM_eq_error {make : α → Except ε β} {given : List α} {fault : ε}
    (failed : given.mapM make = .error fault) :
    ∃ argument ∈ given, make argument = .error fault := by
  induction given with
  | nil => cases failed
  | cons argument rest inductionHypothesis =>
      rw [List.mapM_cons] at failed
      rcases bind_eq_error_iff.mp failed with first | ⟨value, -, failed⟩
      · exact ⟨argument, List.mem_cons_self, first⟩
      rcases bind_eq_error_iff.mp failed with others | ⟨values, -, never⟩
      · obtain ⟨found, member, same⟩ := inductionHypothesis others
        exact ⟨found, List.mem_cons_of_mem _ member, same⟩
      · cases never

/-- Each member of a list is related to one of the list that is related to it. -/
theorem exists_of_forall₂ {related : α → β → Prop} {given : List α} {made : List β}
    (all : List.Forall₂ related given made) {result : β} (member : result ∈ made) :
    ∃ argument ∈ given, related argument result := by
  induction all with
  | nil => cases member
  | cons first _ inductionHypothesis =>
      rcases List.mem_cons.mp member with rfl | later
      · exact ⟨_, List.mem_cons_self, first⟩
      · obtain ⟨argument, isArgument, same⟩ := inductionHypothesis later
        exact ⟨argument, List.mem_cons_of_mem _ isArgument, same⟩

theorem filterAuxM_eq_ok {test : α → Except ε Bool} {holds : α → Bool} {items : List α}
    (answers : ∀ item ∈ items, test item = .ok (holds item)) (kept : List α) :
    List.filterAuxM test items kept = .ok ((items.filter holds).reverse ++ kept) := by
  induction items generalizing kept with
  | nil => rfl
  | cons item rest inductionHypothesis =>
      obtain ⟨answer, others⟩ := List.forall_mem_cons.mp answers
      show (test item >>= fun yes => List.filterAuxM test rest (cond yes (item :: kept) kept)) = _
      rw [answer, List.filter_cons]
      cases holds item with
      | false => exact inductionHypothesis others kept
      | true =>
          refine (inductionHypothesis others (item :: kept)).trans ?_
          simp

/-- Where a test answers for all members, filtering by it keeps those of a yes. -/
theorem filterM_eq_ok {test : α → Except ε Bool} {holds : α → Bool} {items : List α}
    (answers : ∀ item ∈ items, test item = .ok (holds item)) :
    items.filterM test = .ok (items.filter holds) := by
  rw [List.filterM, filterAuxM_eq_ok answers, List.append_nil]
  exact congrArg Except.ok (List.reverse_reverse _)

end Structex
