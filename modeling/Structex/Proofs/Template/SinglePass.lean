import Structex.Proofs.Template.Segmentation
import Structex.Template.Expand

/-!
# Templates are expanded in a single pass

A template gives its literals with a text in place of each placeholder. The texts come from the
context, or are identifiers, one drawn for each place that asks for one and in the order of those
places; they are put in as they are and never read again. `Shows` says what a placeholder gives,
without the order in which anything is computed; the value that `data.` asks for is `Reached` by
keys and numbers.
-/

namespace Structex.Template

/-! ## Values reached from a payload -/

/-- The number that digits write. -/
def numeral (digits : List Char) : Nat :=
  Decimal.ofDigits 10 (digits.map fun c => (Text.digitValue? c).getD 0)

/-- A part of a path that can be a place in a sequence. -/
def IsPlace (part : List Char) : Prop :=
  part ≠ [] ∧ ∀ c ∈ part, Text.isAsciiDigit c = true

/-- The items of a sequence. -/
def items? : Value → Option (List Value)
  | .list items => some items
  | .tuple items => some items
  | _ => none

/-- A value is reached from another by the parts of a path: by key through mappings, and by place
through sequences. -/
inductive Reached : Value → List (List Char) → Value → Prop
  | here (value : Value) : Reached value [] value
  | key {entries : Entries} {part : List Char} {item found : Value} {rest : List (List Char)}
      (held : entries.get? (String.ofList part) = some item) (further : Reached item rest found) :
      Reached (.map entries) (part :: rest) found
  | place {value : Value} {items : List Value} {part : List Char} {item found : Value}
      {rest : List (List Char)} (sequence : items? value = some items) (place : IsPlace part)
      (held : items[numeral part]? = some item) (further : Reached item rest found) :
      Reached value (part :: rest) found

/-- The numbers in a path are short enough to be read. -/
def HasShortPlaces (parts : List (List Char)) : Prop :=
  ∀ part ∈ parts, IsPlace part → part.length ≤ Decimal.longestInteger

theorem number_of_short {digits : List Char} (short : digits.length ≤ Decimal.longestInteger) :
    number digits = .ok (numeral digits) :=
  if_pos short

/-- Nothing is found from null on. -/
theorem follow_null (parts : List (List Char)) : follow .null parts = .ok .null := by
  induction parts with
  | nil => rfl
  | cons part rest inductionHypothesis => exact inductionHypothesis

/-- What is found at the end of a path: the one value that is reached, or null for want of one. -/
structure IsFound (value : Value) (parts : List (List Char)) (found : Value) : Prop where
  only : ∀ other, Reached value parts other → other = found
  reached : found ≠ .null → Reached value parts found

/-- A step to an item or to nothing, and what is found from there. -/
theorem exists_follow_of_step {value : Value} {part : List Char} {rest : List (List Char)}
    (item : Option Value) (stepped : step value part = .ok (item.getD .null))
    (reached : ∀ found, Reached value (part :: rest) found ↔
      ∃ inner, item = some inner ∧ Reached inner rest found)
    (further : ∀ inner, ∃ found, follow inner rest = .ok found ∧ IsFound inner rest found) :
    ∃ found, follow value (part :: rest) = .ok found ∧ IsFound value (part :: rest) found := by
  cases item with
  | none =>
      have followed : follow value (part :: rest) = .ok .null := by
        rw [follow, stepped]
        exact follow_null rest
      refine ⟨.null, followed, fun other isReached => ?_, fun present => absurd rfl present⟩
      obtain ⟨inner, absent, -⟩ := (reached other).mp isReached
      cases absent
  | some inner =>
      obtain ⟨found, later, isFound⟩ := further inner
      have followed : follow value (part :: rest) = .ok found := by
        rw [follow, stepped]
        exact later
      refine ⟨found, followed, fun other isReached => ?_, fun present => ?_⟩
      · obtain ⟨inner', same, isReached⟩ := (reached other).mp isReached
        cases same
        exact isFound.only other isReached
      · exact (reached found).mpr ⟨inner, rfl, isFound.reached present⟩

theorem isPlace_iff {part : List Char} :
    IsPlace part ↔ (!part.isEmpty && part.all Text.isAsciiDigit) = true := by
  simp [IsPlace]

/-- In a sequence, a part of a path is a step to the item at its place. -/
theorem step_of_items {value : Value} {items : List Value} (sequence : items? value = some items)
    (part : List Char) : step value part = step.item part items := by
  cases value with
  | list others =>
      cases sequence
      rfl
  | tuple others =>
      cases sequence
      rfl
  | _ => cases sequence

theorem item_of_isPlace {part : List Char} (place : IsPlace part)
    (short : part.length ≤ Decimal.longestInteger) (items : List Value) :
    step.item part items = .ok (items[numeral part]?.getD .null) := by
  rw [step.item, if_pos (isPlace_iff.mp place), number_of_short short]
  rfl

theorem item_of_not_isPlace {part : List Char} (noPlace : ¬ IsPlace part) (items : List Value) :
    step.item part items = .ok .null :=
  if_neg fun place => noPlace (isPlace_iff.mpr place)

/-- A path with short numbers can be followed from every value. -/
theorem exists_follow {parts : List (List Char)} (short : HasShortPlaces parts) (value : Value) :
    ∃ found, follow value parts = .ok found ∧ IsFound value parts found := by
  induction parts generalizing value with
  | nil =>
      refine ⟨value, rfl, fun other isReached => ?_, fun _ => .here value⟩
      cases isReached
      rfl
  | cons part rest inductionHypothesis =>
      obtain ⟨here, later⟩ := List.forall_mem_cons.mp short
      have further (inner : Value) := inductionHypothesis later inner
      cases kind : items? value with
      | some items =>
          have stepped := step_of_items kind part
          by_cases place : IsPlace part
          · rw [item_of_isPlace place (here place)] at stepped
            refine exists_follow_of_step _ stepped (fun found => ?_) further
            constructor
            · rintro (_ | _ | ⟨sequence, -, held, isReached⟩)
              · cases kind
              · cases kind.symm.trans sequence
                exact ⟨_, held, isReached⟩
            · rintro ⟨inner, held, isReached⟩
              exact .place kind place held isReached
          · rw [item_of_not_isPlace place] at stepped
            refine exists_follow_of_step none stepped (fun found => ?_) further
            constructor
            · rintro (_ | _ | ⟨-, isPlace, -, -⟩)
              · cases kind
              · exact absurd isPlace place
            · rintro ⟨inner, absent, -⟩
              cases absent
      | none =>
          cases value with
          | map entries =>
              refine exists_follow_of_step (Entries.get? entries (String.ofList part)) rfl
                (fun found => ?_) further
              constructor
              · rintro (_ | ⟨held, isReached⟩ | ⟨sequence, -, -, -⟩)
                · exact ⟨_, held, isReached⟩
                · cases sequence
              · rintro ⟨inner, held, isReached⟩
                exact .key held isReached
          | list items => cases kind
          | tuple items => cases kind
          | _ =>
              refine exists_follow_of_step none rfl (fun found => ?_) further
              constructor
              · rintro (_ | _ | ⟨sequence, -, -, -⟩)
                cases sequence
              · rintro ⟨inner, absent, -⟩
                cases absent

/-! ## What placeholders give -/

/-- The entry at a place: empty beyond the end, and where there is none. -/
def entryAt (entries : List (Option String)) (place : Nat) : String :=
  match entries[place]? with
  | some (some text) => text
  | _ => ""

/-- The context has no values for a placeholder of this kind. -/
def IsUnset (context : TemplateContext) : Placeholder → Prop
  | .capture _ => context.captures = none
  | .path _ => context.path = none
  | .identifier => False
  | .input => context.input = none
  | .data _ => context.data = .null

/-- What a placeholder that asks for no identifier gives in a context. -/
inductive Shows (context : TemplateContext) : Placeholder → String → Prop
  | capture {entries : List (Option String)} {digits : List Char}
      (given : context.captures = some entries) :
      Shows context (.capture digits) (entryAt entries (numeral digits))
  | path {segments : List String} {digits : List Char} (given : context.path = some segments) :
      Shows context (.path digits) (entryAt (segments.map some) (numeral digits))
  | input {text : String} (given : context.input = some text) : Shows context .input text
  | data {fields : List Char} {value : Value} {text : String}
      (reached : Reached context.data (Text.splitChars '.' fields) value)
      (present : value ≠ .null) (rendered : render value = .ok text) :
      Shows context (.data fields) text
  | missing {fields : List Char} (given : context.data ≠ .null)
      (nothing : ∀ value, Reached context.data (Text.splitChars '.' fields) value →
        value = .null) :
      Shows context (.data fields) ""
  | unset {placeholder : Placeholder} (unset : IsUnset context placeholder) :
      Shows context placeholder (String.ofList placeholder.written)

/-- The numbers in a placeholder are short enough to be read. -/
def HasShortNumbers : Placeholder → Prop
  | .capture digits => digits.length ≤ Decimal.longestInteger
  | .path digits => digits.length ≤ Decimal.longestInteger
  | .identifier => True
  | .input => True
  | .data fields => HasShortPlaces (Text.splitChars '.' fields)

/-- The value that a placeholder reaches, if it reaches one, has a text. -/
def HasText (context : TemplateContext) : Placeholder → Prop
  | .data fields => ∀ value, Reached context.data (Text.splitChars '.' fields) value →
      ∃ text, render value = .ok text
  | _ => True

theorem textAt_of_short {digits : List Char} (short : digits.length ≤ Decimal.longestInteger)
    (entries : List (Option String)) :
    textAt entries digits = .ok (entryAt entries (numeral digits)) := by
  rw [textAt, number_of_short short]
  show Except.ok _ = Except.ok _
  rw [entryAt]
  rcases entries[numeral digits]? with _ | _ | text <;> rfl

/-- Every placeholder that asks for no identifier gives a text, and that is what is looked up for
it. -/
theorem exists_shows {context : TemplateContext} {placeholder : Placeholder}
    (other : placeholder ≠ .identifier) (short : HasShortNumbers placeholder)
    (hasText : HasText context placeholder) :
    ∃ found, lookUp context placeholder = .ok found ∧
      Shows context placeholder (found.getD (String.ofList placeholder.written)) := by
  cases placeholder with
  | capture digits =>
      cases given : context.captures with
      | none => exact ⟨none, by rw [lookUp, given]; rfl, .unset given⟩
      | some entries =>
          refine ⟨some _, ?_, .capture given⟩
          rw [lookUp, given, Option.mapM_some, textAt_of_short short]
          rfl
  | path digits =>
      cases given : context.path with
      | none => exact ⟨none, by rw [lookUp, given]; rfl, .unset given⟩
      | some segments =>
          refine ⟨some _, ?_, .path given⟩
          rw [lookUp, given, Option.mapM_some, textAt_of_short short]
          rfl
  | identifier => exact absurd rfl other
  | input =>
      refine ⟨context.input, rfl, ?_⟩
      cases given : context.input with
      | none => exact .unset given
      | some text => exact .input given
  | data fields =>
      by_cases unset : context.data = .null
      · exact ⟨none, by rw [lookUp, unset], .unset unset⟩
      · obtain ⟨value, followed, isFound⟩ := exists_follow short context.data
        have looked : lookUp context (.data fields) = (render value).map some := by
          dsimp only [lookUp]
          split
          case h_1 isNull => exact absurd isNull unset
          case h_2 =>
            rw [lookup, followed]
            show (do return some (← render value)) = _
            cases render value <;> rfl
        by_cases isNull : value = .null
        · subst isNull
          exact ⟨some "", looked, .missing unset isFound.only⟩
        · have isReached := isFound.reached isNull
          obtain ⟨text, rendered⟩ := hasText value isReached
          exact ⟨some text, by rw [looked, rendered]; rfl, .data isReached isNull rendered⟩

/-- What is looked up for a placeholder; the placeholder as it is written, if there is nothing. -/
def shownIn (context : TemplateContext) (placeholder : Placeholder) : String :=
  (lookUp context placeholder).toOption.join.getD (String.ofList placeholder.written)

theorem shownIn_of_lookUp {context : TemplateContext} {placeholder : Placeholder}
    {found : Option String} (looked : lookUp context placeholder = .ok found) :
    shownIn context placeholder = found.getD (String.ofList placeholder.written) := by
  rw [shownIn, looked]
  rfl

/-! ## Whole templates -/

/-- The result of a template: its literals with a text for each placeholder, identifiers in the
order in which they are asked for. -/
def filled (shown : Placeholder → String) : List TemplatePiece → List String → String
  | [], _ => ""
  | piece :: rest, identifiers =>
    if piece.placeholder = .identifier then
      piece.literal ++ identifiers.headD "" ++ filled shown rest identifiers.tail
    else piece.literal ++ shown piece.placeholder ++ filled shown rest identifiers

/-- How many identifiers pieces ask for. -/
def identifierCount (pieces : List TemplatePiece) : Nat :=
  pieces.countP fun piece => piece.placeholder = .identifier

section

variable {m : Type → Type} [Monad m]

/-- So many identifiers, drawn one after another. -/
def drawn (newIdentifier : m String) : Nat → m (List String)
  | 0 => pure []
  | count + 1 => do
    let first ← newIdentifier
    let others ← drawn newIdentifier count
    return first :: others

variable [MonadExceptOf EvaluationFault m]

/-- A placeholder that asks for no identifier gives what is looked up for it. -/
theorem expandPart_of_lookUp {context : TemplateContext} {placeholder : Placeholder}
    (other : placeholder ≠ .identifier) {found : Option String}
    (looked : lookUp context placeholder = .ok found) (newIdentifier : m String)
    (source : List Char) :
    expandPart context newIdentifier (.hole placeholder source) =
      pure (found.getD (String.ofList source)) := by
  rw [expandPart, looked]
  exact other

variable [LawfulMonad m]

theorem expandParts_append (context : TemplateContext) (newIdentifier : m String)
    (first second : List TemplatePart) :
    expandParts context newIdentifier (first ++ second) = do
      let before ← expandParts context newIdentifier first
      let after ← expandParts context newIdentifier second
      return before ++ after := by
  induction first with
  | nil =>
      simp only [List.nil_append, expandParts, pure_bind, String.empty_append, bind_pure]
  | cons part rest inductionHypothesis =>
      simp only [List.cons_append, expandParts, inductionHypothesis, bind_assoc, pure_bind,
        String.append_assoc]

/-- Literal text gives itself. -/
theorem expandParts_literal (context : TemplateContext) (newIdentifier : m String)
    (text : List Char) :
    expandParts context newIdentifier (text.map .literal) = pure (String.ofList text) := by
  induction text with
  | nil => simp [expandParts]
  | cons c rest inductionHypothesis =>
      simp [expandParts, expandPart, inductionHypothesis]

/-- A piece gives its literal and what its placeholder gives. -/
theorem expandParts_piece (context : TemplateContext) (newIdentifier : m String)
    (piece : TemplatePiece) :
    expandParts context newIdentifier piece.parts = do
      let text ← expandPart context newIdentifier
        (.hole piece.placeholder piece.placeholder.written)
      return piece.literal ++ text := by
  have after (text : String) : text ++ "" = text := String.append_empty
  simp only [TemplatePiece.parts, expandParts_append, expandParts_literal, expandParts, pure_bind,
    bind_assoc, String.ofList_toList, after]

/-- Pieces draw the identifiers that they ask for, and put them in with the other texts. -/
theorem expandParts_pieces {context : TemplateContext} {shown : Placeholder → String}
    {pieces : List TemplatePiece}
    (gives : ∀ piece ∈ pieces, piece.placeholder ≠ .identifier →
      ∃ found, lookUp context piece.placeholder = .ok found ∧
        shown piece.placeholder = found.getD (String.ofList piece.placeholder.written))
    (newIdentifier : m String) :
    expandParts context newIdentifier (pieces.flatMap TemplatePiece.parts) = do
      let identifiers ← drawn newIdentifier (identifierCount pieces)
      return filled shown pieces identifiers := by
  induction pieces with
  | nil => simp [expandParts, identifierCount, drawn, filled]
  | cons piece rest inductionHypothesis =>
      obtain ⟨here, later⟩ := List.forall_mem_cons.mp gives
      rw [List.flatMap_cons, expandParts_append, inductionHypothesis later, expandParts_piece]
      by_cases asks : piece.placeholder = .identifier
      · have count : identifierCount (piece :: rest) = identifierCount rest + 1 := by
          simp [identifierCount, asks]
        simp [count, drawn, filled, asks, expandPart]
      · have count : identifierCount (piece :: rest) = identifierCount rest := by
          simp [identifierCount, asks]
        obtain ⟨found, looked, same⟩ := here asks
        simp [expandPart_of_lookUp asks looked, count, filled, asks, same]

end

/-- A template gives its literals with the texts of its placeholders between them, put in as they
are, whatever the context has for them; and of the identifiers drawn, each place that asks for one
gets the next. Only a value that is reached and has no text keeps it from giving anything. -/
theorem expand_text (layout : TemplateLayout) (context : TemplateContext)
    (short : ∀ piece ∈ layout.pieces, HasShortNumbers piece.placeholder)
    (hasText : ∀ piece ∈ layout.pieces, HasText context piece.placeholder) :
    ∃ shown : Placeholder → String,
      (∀ piece ∈ layout.pieces, piece.placeholder ≠ .identifier →
        Shows context piece.placeholder (shown piece.placeholder)) ∧
      ∀ {m : Type → Type} [Monad m] [LawfulMonad m] [MonadExceptOf EvaluationFault m]
        (newIdentifier : m String),
        expand layout.text context newIdentifier = do
          let identifiers ← drawn newIdentifier (identifierCount layout.pieces)
          return filled shown layout.pieces identifiers ++ layout.last := by
  refine ⟨shownIn context, fun piece member other => ?_, fun newIdentifier => ?_⟩
  · obtain ⟨found, looked, shows⟩ := exists_shows other (short piece member) (hasText piece member)
    rwa [shownIn_of_lookUp looked]
  · have gives : ∀ piece ∈ layout.pieces, piece.placeholder ≠ .identifier →
        ∃ found, lookUp context piece.placeholder = .ok found ∧ shownIn context piece.placeholder =
          found.getD (String.ofList piece.placeholder.written) := by
      intro piece member other
      obtain ⟨found, looked, -⟩ := exists_shows other (short piece member) (hasText piece member)
      exact ⟨found, looked, shownIn_of_lookUp looked⟩
    rw [expand, layout.read_text, expandParts_append, expandParts_pieces gives,
      expandParts_literal]
    simp

/-- A source of identifiers that counts. -/
def numbered : StateT Nat (Except EvaluationFault) String :=
  fun count => .ok (toString count, count + 1)

/-- Literals that end in the middle of a placeholder. -/
def brokenOff : TemplateLayout where
  pieces := [
    ⟨"$\x7b", .identifier, by decide, trivial⟩,
    ⟨"$\x7b1", .capture ['1'], by decide, by decide⟩,
    ⟨"", .data ['a', '.', '1'], by decide, by decide⟩,
    ⟨"\x7d$", .identifier, by decide, trivial⟩]
  last := "$\x7bpath.\x7d"
  isLiteral := by decide

/-- A context whose texts are written like placeholders. -/
def quoting : TemplateContext where
  captures := some [some "", some "$\x7binput\x7d"]
  data := .map [(.str "a", .tuple [.null, .str "$\x7buuid\x7d"])]

/-- The literals keep their broken placeholders, and what looks like a placeholder in the context is
not read. -/
theorem expand_text_of_brokenOff :
    (∀ piece ∈ brokenOff.pieces, HasShortNumbers piece.placeholder) ∧
      (∀ piece ∈ brokenOff.pieces, HasText quoting piece.placeholder) ∧
      ∃ shown : Placeholder → String,
        (∀ piece ∈ brokenOff.pieces, piece.placeholder ≠ .identifier →
          Shows quoting piece.placeholder (shown piece.placeholder)) ∧
        expand brokenOff.text quoting numbered = do
          let identifiers ← drawn numbered (identifierCount brokenOff.pieces)
          return filled shown brokenOff.pieces identifiers ++ brokenOff.last := by
  have short : ∀ piece ∈ brokenOff.pieces, HasShortNumbers piece.placeholder := by
    have one : 1 ≤ Decimal.longestInteger := by decide
    have places : HasShortPlaces [['a'], ['1']] :=
      List.forall_mem_cons.mpr ⟨fun _ => one, List.forall_mem_singleton.mpr fun _ => one⟩
    simp only [brokenOff, List.forall_mem_cons]
    exact ⟨trivial, one, places, trivial, nofun⟩
  have hasText : ∀ piece ∈ brokenOff.pieces, HasText quoting piece.placeholder := by
    simp only [brokenOff, List.forall_mem_cons]
    refine ⟨trivial, trivial, fun value isReached => ?_, trivial, nofun⟩
    obtain _ | ⟨held, further⟩ | ⟨sequence, -, -, -⟩ := isReached
    · obtain rfl : Value.tuple [.null, .str "$\x7buuid\x7d"] = _ := by
        simpa [Entries.get?, Entries.find?] using held
      obtain _ | _ | ⟨⟨⟩, -, ⟨⟩, ⟨⟩⟩ := further
      exact ⟨_, rfl⟩
    · cases sequence
  obtain ⟨shown, shows, expands⟩ := expand_text brokenOff quoting short hasText
  exact ⟨short, hasText, shown, shows, expands numbered⟩

example : brokenOff.text =
    "$\x7b$\x7buuid\x7d$\x7b1$\x7b1\x7d$\x7bdata.a.1\x7d\x7d$$\x7buuid\x7d$\x7bpath.\x7d" := by
  decide +kernel

example : (expand brokenOff.text quoting numbered).run 0 =
    .ok ("$\x7b0$\x7b1$\x7binput\x7d$\x7buuid\x7d\x7d$1$\x7bpath.\x7d", 2) := by
  decide +kernel

/-- A context with a mapping that has a pair as a key, which has no text. -/
def pairKeyed : TemplateContext where
  data := .map [(.str "a", .map [(.tuple [.int 1, .int 2], .int 3)])]

/-- A value that has no text keeps a template from giving anything. -/
theorem expand_fails_at_pairKeyed :
    Reached pairKeyed.data [['a']] (.map [(.tuple [.int 1, .int 2], .int 3)]) ∧
      (expand "$\x7bdata.a\x7d" pairKeyed numbered).run 0 =
        .error (.interchange (.keyKind "tuple")) := by
  refine ⟨.key ?_ (.here _), by decide +kernel⟩
  simp [Entries.get?, Entries.find?]

end Structex.Template
