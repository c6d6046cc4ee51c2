import Structex.Proofs.Regex.Names
import Structex.Proofs.Replacement.Reading

/-!
# Writing replacements

Pieces are written so that they can stand next to each other: a group with two digits, a name with
its closing sign, a literal with its dollar signs doubled. What is written is read back whatever
stands behind it (`renderAll_written`), so a replacement can be put together from any pieces, and
any text can be inserted as it is.
-/

namespace Structex

/-- A character that is neither at the start nor inside of identifiers is in none. -/
theorem Text.not_mem_of_isIdentifier {c : Char} (noStart : Text.isIdentifierStart c = false)
    (noPart : Text.isIdentifierPart c = false) {name : List Char}
    (isName : Text.isIdentifier name = true) : c ∉ name := by
  cases name with
  | nil => exact List.not_mem_nil
  | cons first rest =>
      obtain ⟨starts, parts⟩ := Bool.and_eq_true_iff.mp isName
      rintro (- | ⟨-, member⟩)
      · exact absurd starts (by rw [noStart]; decide)
      · exact absurd (List.all_eq_true.mp parts c member) (by rw [noPart]; decide)

namespace Piece

variable {pattern : Regex.Pattern}

/-- A text with every dollar sign doubled. -/
def doubled (content : String) : String :=
  String.ofList (content.toList.flatMap fun c => if c = '$' then ['$', '$'] else [c])

/-- A piece as it is written in a replacement. -/
def written : Piece → List Char
  | .literal content => (doubled content).toList
  | .group index => ['$', Nat.digitChar (index / 10), Nat.digitChar (index % 10)]
  | .named name => '$' :: '<' :: (name.toList ++ ['>'])
  | .whole => ['$', '&']
  | .before => ['$', '\x60']
  | .after => ['$', '\'']

/-- The replacement in which pieces are written one after another. -/
def replacement (pieces : List Piece) : String :=
  String.ofList (pieces.flatMap written)

/-- A group is written by its number if that has at most two digits, and by a name if it has it. -/
def Refers (pattern : Regex.Pattern) : Piece → Prop
  | .group index => 1 ≤ index ∧ index ≤ min pattern.groups 99
  | .named name => (pattern.names.lookup name).isSome
  | _ => True

/-- No name that a pattern gives a group holds the sign that closes it in a replacement. -/
theorem closed_of_parse {source : String} {flags : Regex.Flags}
    (parsed : Regex.Pattern.parse source flags = .ok pattern) {name : String} {index : Nat}
    (known : pattern.names.lookup name = some index) : '>' ∉ name.toList := by
  obtain ⟨before, after, split, -⟩ := List.lookup_eq_some_iff.mp known
  have member : (name, index) ∈ pattern.names := by
    rw [split]
    exact List.mem_append_right _ List.mem_cons_self
  exact Text.not_mem_of_isIdentifier (by decide) (by decide)
    (Regex.Pattern.isIdentifier_of_parse parsed _ member)

/-- A group that is written with two digits. -/
theorem takes_group {index : Nat} (known : Refers pattern (.group index)) (rest : List Char) :
    Takes pattern (written (.group index) ++ rest) (.group index) rest := by
  obtain ⟨positive, within⟩ := known
  have digits : 10 * (index / 10) + index % 10 = index := Nat.div_add_mod index 10
  have first : index / 10 < 10 := by omega
  have second : index % 10 < 10 := Nat.mod_lt _ (by decide)
  have isGroup : IsGroup pattern (10 * (index / 10) + index % 10) := by
    rw [digits]
    exact ⟨positive, by omega⟩
  have takes : Takes pattern (written (.group index) ++ rest)
      (.group (10 * (index / 10) + index % 10)) rest :=
    @Takes.pair pattern ⟨index / 10, first⟩ ⟨index % 10, second⟩ rest isGroup
  rwa [digits] at takes

/-- A name that is written with its closing sign. -/
theorem takes_name {name : String} {index : Nat} (known : pattern.names.lookup name = some index)
    (closed : '>' ∉ name.toList) (rest : List Char) :
    Takes pattern (written (.named name) ++ rest) (.named name) rest := by
  have hasNames : pattern.names ≠ [] := by
    intro none
    rw [none] at known
    cases known
  have takes : Takes pattern _ _ rest := .name closed hasNames
  rw [String.ofList_toList] at takes
  simpa [written] using takes

/-- A text with its dollar signs doubled is read back character by character. -/
theorem renderAll_doubled (content : String) (rest : List Char) (text : String) (found : Match) :
    renderAll pattern text found (readChars pattern ((doubled content).toList ++ rest)) =
      content ++ renderAll pattern text found (readChars pattern rest) := by
  obtain ⟨chars, rfl⟩ : ∃ chars, content = String.ofList chars :=
    ⟨content.toList, String.ofList_toList.symm⟩
  simp only [doubled, String.toList_ofList]
  induction chars with
  | nil => simp
  | cons c chars inductionHypothesis =>
      have split : String.ofList (c :: chars) = String.ofList [c] ++ String.ofList chars :=
        @String.ofList_append [c] chars
      rw [List.flatMap_cons, List.append_assoc, split, String.append_assoc, ← inductionHypothesis]
      by_cases isDollar : c = '$'
      · subst isDollar
        exact renderAll_of_takes .dollar text found
      · rw [if_neg isDollar]
        exact renderAll_of_takes (.character isDollar) text found

/-- What is written is read back, whatever stands behind it. -/
theorem renderAll_written {source : String} {flags : Regex.Flags}
    (parsed : Regex.Pattern.parse source flags = .ok pattern) {piece : Piece}
    (refers : Refers pattern piece) (rest : List Char) (text : String) (found : Match) :
    renderAll pattern text found (readChars pattern (written piece ++ rest)) =
      render pattern text found piece ++ renderAll pattern text found (readChars pattern rest) := by
  cases piece with
  | literal content => exact renderAll_doubled content rest text found
  | group index => exact renderAll_of_takes (takes_group refers rest) text found
  | named name =>
      obtain ⟨index, known⟩ := Option.isSome_iff_exists.mp refers
      exact renderAll_of_takes (takes_name known (closed_of_parse parsed known) rest) text found
  | whole => exact renderAll_of_takes .whole text found
  | before => exact renderAll_of_takes .before text found
  | after => exact renderAll_of_takes .after text found

/-- Pieces that are written one after another are what is inserted. -/
theorem inserts_replacement {source : String} {flags : Regex.Flags}
    (parsed : Regex.Pattern.parse source flags = .ok pattern) {pieces : List Piece}
    (refer : ∀ piece ∈ pieces, Refers pattern piece) :
    Inserts pattern (replacement pieces) pieces := by
  refine inserts_of_renderAll fun text found => ?_
  rw [replacement, String.toList_ofList]
  induction pieces with
  | nil => rfl
  | cons piece pieces inductionHypothesis =>
      obtain ⟨refers, others⟩ := List.forall_mem_cons.mp refer
      rw [List.flatMap_cons, renderAll_written parsed refers, inductionHypothesis others,
        List.map_cons, String.join_cons]

end Piece

/-- A text whose dollar signs are doubled is inserted as it is. -/
theorem Command.substitute_doubled {m : Type → Type} [Monad m] (pattern : Regex.Pattern)
    (content text : String) :
    Command.substitute (m := m) pattern (Piece.doubled content) text =
      Command.substituteWith pattern (fun _ => pure content) text := by
  have same : ∀ found, Piece.renderAll pattern text found
      (Piece.readChars pattern (Piece.doubled content).toList) = content := by
    intro found
    have rendered := @Piece.renderAll_doubled pattern content [] text found
    rw [List.append_nil] at rendered
    exact rendered.trans String.append_empty
  rw [Command.substituteWith, ← funext fun found => congrArg pure (same found)]
  rfl

/-- Every list of pieces has a replacement that inserts them: each literal with its dollar signs
doubled, each group with two digits. So any text can be inserted as it is. -/
theorem Command.substitute_replacement {source : String} {flags : Regex.Flags}
    {pattern : Regex.Pattern} (parsed : Regex.Pattern.parse source flags = .ok pattern) :
    (∀ pieces : List Piece, (∀ piece ∈ pieces, piece.Refers pattern) →
      Piece.Inserts pattern (Piece.replacement pieces) pieces) ∧
    ∀ {m : Type → Type} [Monad m] (content text : String),
      Command.substitute (m := m) pattern (Piece.doubled content) text =
        Command.substituteWith pattern (fun _ => pure content) text :=
  ⟨fun _ refer => Piece.inserts_replacement parsed refer,
    fun content text => Command.substitute_doubled pattern content text⟩

/-- A digit, a dollar sign and what looks like a name stand right behind signs. -/
theorem Command.substitute_replacement_of_namedLetter :
    Regex.Pattern.parse "(?P<a>x)" {} = .ok namedLetter ∧
      Piece.replacement [.group 1, .literal "0$<a>", .named "a", .literal "$", .whole] =
        "$010$$<a>$<a>$$$&" ∧
      Piece.Inserts namedLetter "$010$$<a>$<a>$$$&"
        [.group 1, .literal "0$<a>", .named "a", .literal "$", .whole] := by
  have parsed : Regex.Pattern.parse "(?P<a>x)" {} = .ok namedLetter := by decide +kernel
  have written : Piece.replacement [.group 1, .literal "0$<a>", .named "a", .literal "$", .whole] =
      "$010$$<a>$<a>$$$&" := by rfl
  refine ⟨parsed, written, ?_⟩
  rw [← written]
  refine (Command.substitute_replacement parsed).1 _ ?_
  simp [Piece.Refers, namedLetter]

end Structex
