import Structex.Command.Range

/-!
# Commands on ranges

A command on a range gives its own command what the range holds, and puts what that gives between
what lies around the range (`onCharacters_eq_map`, `onLines_eq_map`). For lines this is said of the
lines of the outcome: those around the range stay as they are (`lines_onLines`). What is put there
is always at least one line, as every text is, whereas the range may hold none. So the command that
keeps its text keeps a text on every range of characters, but on a range of lines exactly if it
holds one; else it puts an empty line there (`keep_on_ranges`).
-/

namespace Structex

/-- A list falls into what comes before a range, the range, and what comes after it. -/
theorem take_append_range {α : Type} (items : List α) {first last : Nat}
    (ordered : first ≤ last) :
    items.take first ++ (items.drop first).take (last - first) ++ items.drop last = items := by
  have behind : items.drop last = (items.drop first).drop (last - first) := by
    rw [List.drop_drop, Nat.add_sub_cancel' ordered]
  rw [behind, List.append_assoc, List.take_append_drop, List.take_append_drop]

namespace Text

/-- Joined pieces, the first of them set apart from the rest: the separators before the rest are
those of a piece that is empty. -/
theorem joinChars_append (separator : Char) {pieces : List (List Char)} (nonempty : pieces ≠ [])
    (others : List (List Char)) :
    joinChars separator (pieces ++ others) =
      joinChars separator pieces ++ joinChars separator ([] :: others) := by
  induction pieces with
  | nil => exact absurd rfl nonempty
  | cons piece pieces inductionHypothesis =>
      cases pieces with
      | nil => cases others <;> simp [joinChars]
      | cons next rest =>
          have further := inductionHypothesis (List.cons_ne_nil next rest)
          simp only [List.cons_append] at further
          simp [joinChars, further]

/-- An empty piece more is a separator more. -/
theorem exists_joinChars_insert (separator : Char) {first last : List (List Char)}
    (nonempty : first ++ last ≠ []) :
    ∃ before after, joinChars separator (first ++ last) = before ++ after ∧
      joinChars separator (first ++ [] :: last) = before ++ separator :: after := by
  cases first with
  | nil =>
      obtain ⟨next, rest, rfl⟩ := List.exists_cons_of_ne_nil nonempty
      exact ⟨[], joinChars separator (next :: rest), rfl, rfl⟩
  | cons piece pieces =>
      have present := List.cons_ne_nil piece pieces
      exact ⟨joinChars separator (piece :: pieces), joinChars separator ([] :: last),
        joinChars_append separator present last,
        joinChars_append separator present ([] :: last)⟩

/-- Lines put under each other are the lines of what they become. -/
theorem lines_unlines {pieces : List String} (nonempty : pieces ≠ [])
    (free : ∀ line ∈ pieces, '\n' ∉ line.toList) : lines (unlines pieces) = pieces :=
  split_join nonempty free

theorem unlines_lines (text : String) : unlines (lines text) = text :=
  join_split '\n' text

/-- Lines, at least one of them, that are put between lines of a text are lines of what they
become. -/
theorem lines_unlines_splice (text : String) {inner : List String} (nonempty : inner ≠ [])
    (free : ∀ line ∈ inner, '\n' ∉ line.toList) (first last : Nat) :
    lines (unlines ((lines text).take first ++ inner ++ (lines text).drop last)) =
      (lines text).take first ++ inner ++ (lines text).drop last := by
  refine lines_unlines (by simp [nonempty]) fun line member => ?_
  simp only [List.mem_append] at member
  rcases member with (before | here) | after
  · exact notMem_of_mem_split (List.mem_of_mem_take before)
  · exact free line here
  · exact notMem_of_mem_split (List.mem_of_mem_drop after)

theorem unlines_ofList (pieces : List (List Char)) :
    unlines (pieces.map String.ofList) = String.ofList (joinChars '\n' pieces) := by
  simp [unlines, join, Function.comp_def]

/-- A text with an empty line more is the text with a line feed more. -/
theorem exists_unlines_insert (text : String) (place : Nat) :
    ∃ before after, text = before ++ after ∧
      unlines ((lines text).take place ++ "" :: (lines text).drop place) =
        before ++ "\n" ++ after := by
  have nonempty : (splitChars '\n' text.toList).take place ++
      (splitChars '\n' text.toList).drop place ≠ [] := by
    rw [List.take_append_drop]
    exact splitChars_ne_nil '\n' text.toList
  obtain ⟨before, after, apart, inserted⟩ := exists_joinChars_insert '\n' nonempty
  rw [List.take_append_drop, joinChars_splitChars] at apart
  refine ⟨String.ofList before, String.ofList after, ?_, ?_⟩
  · rw [← String.ofList_append, ← apart, String.ofList_toList]
  · have pieces := unlines_ofList ((splitChars '\n' text.toList).take place ++
      [] :: (splitChars '\n' text.toList).drop place)
    rw [inserted, List.map_append, List.map_cons, List.map_take, List.map_drop] at pieces
    exact pieces.trans (by simp [String.ofList_append, ← String.append_assoc])

end Text

namespace Command

variable {m : Type → Type} [Monad m] [LawfulMonad m]

/-- A command on a range of characters puts what its command makes of them between the characters
around the range. -/
theorem onCharacters_eq_map (start : Int) (stop : Option Int) (command : Command m)
    (text : String) :
    let range := resolveRange start stop text.length
    onCharacters start stop command text =
      (fun put => Text.slice text 0 range.1 ++ put ++ Text.slice text range.2 text.length) <$>
        command (Text.slice text range.1 range.2) :=
  bind_pure_comp _ _

/-- A command on a range of lines puts the lines of what its command makes of them between the
lines around the range. -/
theorem onLines_eq_map (start : Int) (stop : Option Int) (command : Command m) (text : String) :
    let all := Text.lines text
    let range := resolveRange start stop all.length
    onLines start stop command text =
      (fun put => Text.unlines (all.take range.1 ++ Text.lines put ++ all.drop range.2)) <$>
        command (Text.unlines ((all.drop range.1).take (range.2 - range.1))) :=
  bind_pure_comp _ _

/-- The lines of a text fall into those before a range, those of it and those after it, and a
command on the range leaves the first and the last as they are: the lines of what it gives are
theirs, with the lines of what its command gives for those of the range between them. -/
theorem lines_onLines (start : Int) (stop : Option Int) (command : Command m) (text : String) :
    let all := Text.lines text
    let range := resolveRange start stop all.length
    let inner := (all.drop range.1).take (range.2 - range.1)
    all.take range.1 ++ inner ++ all.drop range.2 = all ∧
    Text.lines <$> onLines start stop command text =
      (fun put => all.take range.1 ++ Text.lines put ++ all.drop range.2) <$>
        command (Text.unlines inner) := by
  intro all range inner
  refine ⟨take_append_range all (resolveRange_bounds start stop all.length).1, ?_⟩
  rw [onLines_eq_map, Functor.map_map]
  refine congrArg (· <$> command _) (funext fun put => ?_)
  exact Text.lines_unlines_splice text (Text.split_ne_nil '\n' put)
    (fun _ => Text.notMem_of_mem_split) _ _

/-- The last two lines of a text, the last of them empty, are given to a command that puts a line
feed before them and a letter behind them. -/
theorem lines_onLines_of_lastTwo :
    Text.lines <$> onLines (-2) none (fun text => Except.ok (ε := String) ("\n" ++ text ++ "x"))
        "a\nb\n" =
      .ok ["a", "", "b", "x"] :=
  (lines_onLines (-2) none (fun text => Except.ok (ε := String) ("\n" ++ text ++ "x"))
    "a\nb\n").2.trans (by rfl)

/-- The command that keeps its text keeps it on every range of characters. -/
theorem onCharacters_keep (start : Int) (stop : Option Int) (text : String) :
    onCharacters start stop keep text = (pure text : m String) := by
  obtain ⟨ordered, inside⟩ := resolveRange_bounds start stop text.length
  rw [onCharacters_eq_map, keep, map_pure, Text.slice_append (Nat.zero_le _) ordered,
    Text.slice_append (Nat.zero_le _) inside, Text.slice_all]

/-- The command that keeps its text keeps it on a range that holds a line. -/
theorem onLines_keep_of_lt (start : Int) (stop : Option Int) (text : String)
    (held : (resolveRange start stop (Text.lines text).length).1 <
      (resolveRange start stop (Text.lines text).length).2) :
    onLines start stop keep text = (pure text : m String) := by
  obtain ⟨ordered, inside⟩ := resolveRange_bounds start stop (Text.lines text).length
  rw [onLines_eq_map, keep, map_pure, Text.lines_unlines, take_append_range _ ordered,
    Text.unlines_lines]
  · apply List.ne_nil_of_length_pos
    rw [List.length_take, List.length_drop]
    omega
  · intro line member
    exact Text.notMem_of_mem_split (List.mem_of_mem_drop (List.mem_of_mem_take member))

/-- On a range without a line it puts an empty one there, as no line at all is an empty text. -/
theorem onLines_keep_of_eq (start : Int) (stop : Option Int) (text : String) {place : Nat}
    (resolved : resolveRange start stop (Text.lines text).length = (place, place)) :
    onLines start stop keep text =
      (pure (Text.unlines ((Text.lines text).take place ++ "" :: (Text.lines text).drop place)) :
        m String) := by
  have nothing : Text.lines (Text.unlines []) = [""] := by decide
  rw [onLines_eq_map, resolved, keep, map_pure, Nat.sub_self, List.take_zero, nothing,
    List.append_assoc, List.singleton_append]

/-- The command that keeps its text keeps a text on every range of characters. On a range of lines
it does so exactly if the range holds a line; if it holds none, an empty line comes to stand at its
place, which is a line feed more. -/
theorem keep_on_ranges (start : Int) (stop : Option Int) (text : String) :
    let all := Text.lines text
    let range := resolveRange start stop all.length
    onCharacters start stop keep text = (pure text : m String) ∧
    ∃ kept, onLines start stop keep text = (pure kept : m String) ∧
      (kept = text ↔ range.1 < range.2) ∧
      (range.1 = range.2 → Text.lines kept = all.take range.1 ++ "" :: all.drop range.1 ∧
        ∃ before after, text = before ++ after ∧ kept = before ++ "\n" ++ after) := by
  intro all range
  refine ⟨onCharacters_keep start stop text, ?_⟩
  rcases Nat.lt_or_eq_of_le (resolveRange_bounds start stop all.length).1 with held | empty
  · exact ⟨text, onLines_keep_of_lt start stop text held, iff_of_true rfl held,
      fun empty => absurd empty (Nat.ne_of_lt held)⟩
  · have lines := Text.lines_unlines_splice text (List.cons_ne_nil "" []) (by simp) range.1 range.1
    rw [List.append_assoc, List.singleton_append] at lines
    obtain ⟨before, after, apart, inserted⟩ := Text.exists_unlines_insert text range.1
    have longer : before ++ "\n" ++ after ≠ before ++ after := by
      intro same
      have lengths := congrArg String.length same
      simp at lengths
    refine ⟨_, onLines_keep_of_eq start stop text (Prod.ext rfl empty.symm), ?_, fun _ => ?_⟩
    · rw [inserted, apart]
      exact iff_of_false longer (Nat.not_lt.mpr (Nat.le_of_eq empty.symm))
    · exact ⟨lines, before, after, apart, inserted⟩

/-- A range behind the last line of a text that ends with a line feed: a third line comes to stand
there. -/
theorem keep_on_ranges_of_beyond :
    resolveRange 5 none (Text.lines "a\n").length = (2, 2) ∧
    ∃ kept, onLines (m := Id) 5 none keep "a\n" = kept ∧ Text.lines kept = ["a", "", ""] ∧
      ∃ before after, "a\n" = before ++ after ∧ kept = before ++ "\n" ++ after := by
  have resolved : resolveRange 5 none (Text.lines "a\n").length = (2, 2) := by decide
  obtain ⟨-, kept, given, -, added⟩ := keep_on_ranges (m := Id) 5 none "a\n"
  obtain ⟨lines, inserted⟩ := added (by decide)
  exact ⟨resolved, kept, given, lines.trans (by decide), inserted⟩

/-- Between two lines the command that keeps its text adds a third. -/
theorem keep_adds_line :
    onLines (m := Id) 1 (some 1) keep "a\nb" = "a\n\nb" ∧
      onLines (m := Id) 1 (some 1) keep "a\nb" ≠ "a\nb" ∧
      onCharacters (m := Id) 1 (some 1) keep "a\nb" = "a\nb" := by
  have added : onLines (m := Id) 1 (some 1) keep "a\nb" = "a\n\nb" := by rfl
  have longer : "a\n\nb" ≠ "a\nb" := by decide
  exact ⟨added, fun same => longer (added.symm.trans same), by rfl⟩

end Command

end Structex
