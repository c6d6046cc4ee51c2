import Structex.Proofs.Cascade.Admission

/-!
# The order in which values are expanded

Every text and every text key of a value is expanded once, from left to right, each key before what
stands under it. `Value.texts` lists them in this order, and `Value.Refills` puts others in their
places and keeps everything else. The placeholders for identifiers are counted through all of these
texts, in one row: `Template.Receives` hands the identifiers out part by part. An evaluation comes
to what these say and to nothing else (`expandValue_run`), and a reaction counts its key before its
payload.
-/

namespace Structex

open Registry

variable {ids : Type}

/-! ## Keys that become the same -/

namespace Entries

/-- The value that stands last under a key among pairs, or else the one given. -/
def lastUnder (key value : Value) (pairs : Entries) : Value :=
  ((List.filter (fun pair => key.sameKey pair.1) pairs).map (·.2)).getLastD value

/-- Pairs make a mapping: the first key, with the value that stands last under it, and then the
other keys in the same way. -/
inductive Gathers : Entries → Entries → Prop
  | nil : Gathers [] []
  | cons {key value : Value} {pairs others : Entries}
      (further : Gathers (List.filter (fun pair => !key.sameKey pair.1) pairs) others) :
      Gathers ((key, value) :: pairs) ((key, lastUnder key value pairs) :: others)

theorem lastUnder_cons (key value : Value) (pair : Value × Value) (pairs : Entries) :
    lastUnder key value (pair :: pairs) =
      lastUnder key (if key.sameKey pair.1 then pair.2 else value) pairs := by
  cases same : key.sameKey pair.1 with
  | true =>
      simp only [lastUnder, List.filter_cons, same, if_true, List.map_cons, List.getLastD_cons]
  | false => simp only [lastUnder, List.filter_cons, same, Bool.false_eq_true, if_false]

/-- What is put under the first key of a mapping stays apart from what is put under the others. -/
theorem foldl_put_cons (key value : Value) (entries pairs : Entries) :
    List.foldl (fun entries pair => put entries pair.1 pair.2) ((key, value) :: entries) pairs =
      (key, lastUnder key value pairs) ::
        List.foldl (fun entries pair => put entries pair.1 pair.2) entries
          (List.filter (fun pair => !key.sameKey pair.1) pairs) := by
  induction pairs generalizing value entries with
  | nil => rfl
  | cons pair pairs inductionHypothesis =>
      rw [List.foldl_cons, put, lastUnder_cons, List.filter_cons]
      cases same : key.sameKey pair.1 with
      | true => exact inductionHypothesis pair.2 entries
      | false => exact inductionHypothesis value (put entries pair.1 pair.2)

/-- Pairs that are put one after another make one mapping. -/
theorem gathers_iff {pairs gathered : Entries} :
    Gathers pairs gathered ↔ gathered = ofList pairs := by
  constructor
  · intro gathers
    induction gathers with
    | nil => rfl
    | @cons key value pairs others further inductionHypothesis =>
        rw [inductionHypothesis]
        exact (foldl_put_cons key value [] pairs).symm
  · rintro rfl
    -- What is left when the first key is taken out is no tail of the pairs, but it is shorter.
    induction length : pairs.length using Nat.strongRecOn generalizing pairs with
    | _ size inductionHypothesis =>
        cases pairs with
        | nil => exact .nil
        | cons pair pairs =>
            have shorter := List.length_filter_le (fun other => !pair.1.sameKey other.1) pairs
            rw [ofList, List.foldl_cons, put, foldl_put_cons]
            exact .cons (inductionHypothesis _ (by rw [← length, List.length_cons]; omega) rfl)

end Entries

/-! ## Texts and what takes their place -/

namespace Value

/-- The text of a key, if it is one. -/
def keyTexts : Value → List String
  | .str text => [text]
  | _ => []

mutual

/-- The texts of a value and its text keys, in order, each key before what stands under it. -/
def texts : Value → List String
  | .str text => [text]
  | .list items => itemTexts items
  | .tuple items => itemTexts items
  | .map entries => entryTexts entries
  | _ => []

/-- The texts of items, in order. -/
def itemTexts : List Value → List String
  | [] => []
  | item :: rest => item.texts ++ itemTexts rest

/-- The texts of entries, in order. -/
def entryTexts : List (Value × Value) → List String
  | [] => []
  | (key, item) :: rest => key.keyTexts ++ (item.texts ++ entryTexts rest)

end

/-- A value that is no text and holds no other values. -/
def IsPlain : Value → Prop
  | .str _ | .list _ | .tuple _ | .map _ => False
  | _ => True

/-- A key with another text in its place, if it is a text; any other key stays. -/
inductive RefillsKey : Value → List String → Value → Prop
  | text (old new : String) : RefillsKey (.str old) [new] (.str new)
  | other {key : Value} (noText : ∀ text, key ≠ .str text) : RefillsKey key [] key

mutual

/-- A value with other texts in the places of its own, in order. Sequences keep their kind and
length, a mapping gathers its entries under the new keys, and everything else stays. -/
inductive Refills : Value → List String → Value → Prop
  | text (old new : String) : Refills (.str old) [new] (.str new)
  | plain {value : Value} (isPlain : value.IsPlain) : Refills value [] value
  | list {items made : List Value} {texts : List String} (refills : RefillsItems items texts made) :
      Refills (.list items) texts (.list made)
  | tuple {items made : List Value} {texts : List String}
      (refills : RefillsItems items texts made) : Refills (.tuple items) texts (.tuple made)
  | map {entries made gathered : List (Value × Value)} {texts : List String}
      (refills : RefillsEntries entries texts made) (gathers : Entries.Gathers made gathered) :
      Refills (.map entries) texts (.map gathered)

/-- Items with other texts in the places of their own. -/
inductive RefillsItems : List Value → List String → List Value → Prop
  | nil : RefillsItems [] [] []
  | cons {item made : Value} {rest others : List Value} {texts further : List String}
      (refills : Refills item texts made) (refillsRest : RefillsItems rest further others) :
      RefillsItems (item :: rest) (texts ++ further) (made :: others)

/-- Entries with other texts in the places of their own. -/
inductive RefillsEntries : List (Value × Value) → List String → List (Value × Value) → Prop
  | nil : RefillsEntries [] [] []
  | cons {key item newKey made : Value} {rest others : List (Value × Value)}
      {keyText texts further : List String} (refillsKey : RefillsKey key keyText newKey)
      (refills : Refills item texts made) (refillsRest : RefillsEntries rest further others) :
      RefillsEntries ((key, item) :: rest) (keyText ++ (texts ++ further))
        ((newKey, made) :: others)

end

theorem RefillsKey.length_eq {key newKey : Value} {new : List String}
    (refills : RefillsKey key new newKey) : new.length = key.keyTexts.length := by
  cases refills with
  | text old new => rfl
  | other noText =>
      cases key with
      | str text => exact absurd rfl (noText text)
      | _ => rfl

mutual

/-- There is one new text for each text of a value. -/
theorem Refills.length_eq {value made : Value} {new : List String}
    (refills : Refills value new made) : new.length = value.texts.length := by
  cases refills with
  | text old new => rfl
  | plain isPlain =>
      cases value with
      | str _ | list _ | tuple _ | map _ => cases isPlain
      | _ => rfl
  | list refills => exact refills.length_eq
  | tuple refills => exact refills.length_eq
  | map refills gathers => exact refills.length_eq

theorem RefillsItems.length_eq {items made : List Value} {new : List String}
    (refills : RefillsItems items new made) : new.length = (itemTexts items).length := by
  cases refills with
  | nil => rfl
  | cons refills refillsRest =>
      rw [itemTexts, List.length_append, List.length_append, refills.length_eq,
        refillsRest.length_eq]

theorem RefillsEntries.length_eq {entries made : List (Value × Value)} {new : List String}
    (refills : RefillsEntries entries new made) : new.length = (entryTexts entries).length := by
  cases refills with
  | nil => rfl
  | cons refillsKey refills refillsRest =>
      simp only [entryTexts, List.length_append, refillsKey.length_eq, refills.length_eq,
        refillsRest.length_eq]

end

section

variable {new : List String} {made : Value}

theorem refills_str_iff {text : String} :
    Refills (.str text) new made ↔ ∃ fresh, new = [fresh] ∧ made = .str fresh := by
  constructor
  · intro refills
    cases refills with
    | text _ fresh => exact ⟨fresh, rfl, rfl⟩
    | plain isPlain => cases isPlain
  · rintro ⟨fresh, rfl, rfl⟩
    exact .text text fresh

theorem refills_list_iff {items : List Value} :
    Refills (.list items) new made ↔
      ∃ others, RefillsItems items new others ∧ .list others = made := by
  constructor
  · intro refills
    cases refills with
    | list refills => exact ⟨_, refills, rfl⟩
    | plain isPlain => cases isPlain
  · rintro ⟨others, refills, rfl⟩
    exact .list refills

theorem refills_tuple_iff {items : List Value} :
    Refills (.tuple items) new made ↔
      ∃ others, RefillsItems items new others ∧ .tuple others = made := by
  constructor
  · intro refills
    cases refills with
    | tuple refills => exact ⟨_, refills, rfl⟩
    | plain isPlain => cases isPlain
  · rintro ⟨others, refills, rfl⟩
    exact .tuple refills

theorem refills_map_iff {entries : List (Value × Value)} :
    Refills (.map entries) new made ↔
      ∃ others, RefillsEntries entries new others ∧ .map (Entries.ofList others) = made := by
  constructor
  · intro refills
    cases refills with
    | map refills gathers =>
        exact ⟨_, refills, congrArg Value.map (Entries.gathers_iff.mp gathers).symm⟩
    | plain isPlain => cases isPlain
  · rintro ⟨others, refills, rfl⟩
    exact .map refills (Entries.gathers_iff.mpr rfl)

end

end Value

/-! ## Identifiers in a row -/

/-- Whether a part asks for a new identifier. -/
def TemplatePart.asks : TemplatePart → Bool
  | .hole .identifier _ => true
  | _ => false

namespace Template

/-- What a part that asks for no identifier gives. -/
inductive Gives (context : TemplateContext) : TemplatePart → String → Prop
  | literal (c : Char) : Gives context (.literal c) (String.ofList [c])
  | hole {placeholder : Placeholder} {source : List Char} {found : Option String}
      (noIdentifier : placeholder ≠ .identifier) (known : lookUp context placeholder = .ok found) :
      Gives context (.hole placeholder source) (found.getD (String.ofList source))

/-- Parts receive identifiers from left to right, each that asks for one the next, and all others
give what the context has. -/
inductive Receives (context : TemplateContext) :
    List TemplatePart → List String → List String → Prop
  | nil : Receives context [] [] []
  | asks {part : TemplatePart} {parts : List TemplatePart} {identifier : String}
      {identifiers fragments : List String} (asks : part.asks = true)
      (others : Receives context parts identifiers fragments) :
      Receives context (part :: parts) (identifier :: identifiers) (identifier :: fragments)
  | gives {part : TemplatePart} {parts : List TemplatePart} {fragment : String}
      {identifiers fragments : List String} (gives : Gives context part fragment)
      (others : Receives context parts identifiers fragments) :
      Receives context (part :: parts) identifiers (fragment :: fragments)

/-- Texts are expanded to others with identifiers from a source. The parts of all texts stand in
one row: the source is asked once for each that asks, in this order. -/
def Expands (context : TemplateContext) (draw : Drawing ids String) (texts : List String)
    (start : ids) (expanded : List String) (stop : ids) : Prop :=
  ∃ identifiers fragments, Draws draw start identifiers stop ∧
    Receives context (texts.flatMap TemplatePart.read) identifiers fragments.flatten ∧
    List.Forall₂ (fun text own => own.length = (TemplatePart.read text).length) texts fragments ∧
    expanded = fragments.map String.join

variable {context : TemplateContext} {draw : Drawing ids String} {start stop : ids}

theorem Gives.asks_eq_false {part : TemplatePart} {fragment : String}
    (gives : Gives context part fragment) : part.asks = false := by
  cases gives with
  | literal c => rfl
  | @hole placeholder source found noIdentifier known =>
      cases placeholder with
      | identifier => exact absurd rfl noIdentifier
      | _ => rfl

namespace Receives

variable {parts : List TemplatePart} {identifiers fragments : List String}

/-- There is one fragment for each part. -/
theorem length_eq (receives : Receives context parts identifiers fragments) :
    fragments.length = parts.length := by
  induction receives with
  | nil => rfl
  | asks _ _ inductionHypothesis => simp [inductionHypothesis]
  | gives _ _ inductionHypothesis => simp [inductionHypothesis]

/-- There is one identifier for each part that asks. -/
theorem count_eq (receives : Receives context parts identifiers fragments) :
    identifiers.length = parts.countP TemplatePart.asks := by
  induction receives with
  | nil => rfl
  | asks asks _ inductionHypothesis => simp [asks, inductionHypothesis]
  | gives gives _ inductionHypothesis => simp [gives.asks_eq_false, inductionHypothesis]

/-- A part that asks receives the identifier whose place among the identifiers is its own place
among the parts that ask. -/
theorem at_asks (receives : Receives context parts identifiers fragments) {place : Nat}
    {part : TemplatePart} (here : parts[place]? = some part) (asks : part.asks = true) :
    fragments[place]? = identifiers[(parts.take place).countP TemplatePart.asks]? := by
  induction receives generalizing place with
  | nil => cases here
  | asks asksFirst _ inductionHypothesis =>
      cases place with
      | zero => rfl
      | succ place => simp [asksFirst, inductionHypothesis here]
  | gives givesFirst _ inductionHypothesis =>
      cases place with
      | zero =>
          cases here
          exact absurd asks (by simp [givesFirst.asks_eq_false])
      | succ place => simp [givesFirst.asks_eq_false, inductionHypothesis here]

/-- Two rows of parts receive identifiers one after the other. -/
theorem append_iff {more : List TemplatePart} {further : List String}
    (length : fragments.length = parts.length) :
    Receives context (parts ++ more) identifiers (fragments ++ further) ↔
      ∃ first rest, identifiers = first ++ rest ∧ Receives context parts first fragments ∧
        Receives context more rest further := by
  induction parts generalizing identifiers fragments with
  | nil =>
      obtain rfl := List.length_eq_zero_iff.mp length
      constructor
      · intro receives
        exact ⟨[], identifiers, rfl, .nil, receives⟩
      · rintro ⟨first, rest, rfl, ⟨⟩, receives⟩
        exact receives
  | cons part parts inductionHypothesis =>
      obtain ⟨fragment, fragments, rfl⟩ := List.exists_cons_of_length_eq_add_one length
      have shorter := Nat.succ.inj length
      constructor
      · intro receives
        cases receives with
        | asks asks others =>
            obtain ⟨first, rest, rfl, before, after⟩ := (inductionHypothesis shorter).mp others
            exact ⟨_, rest, rfl, .asks asks before, after⟩
        | gives gives others =>
            obtain ⟨first, rest, rfl, before, after⟩ := (inductionHypothesis shorter).mp others
            exact ⟨first, rest, rfl, .gives gives before, after⟩
      · rintro ⟨first, rest, rfl, before, after⟩
        cases before with
        | asks asks others =>
            exact .asks asks ((inductionHypothesis shorter).mpr ⟨_, rest, rfl, others, after⟩)
        | gives gives others =>
            exact .gives gives ((inductionHypothesis shorter).mpr ⟨first, rest, rfl, others, after⟩)

/-- The first of a row of parts receives identifiers before the others. -/
theorem cons_iff {part : TemplatePart} {fragment : String} :
    Receives context (part :: parts) identifiers (fragment :: fragments) ↔
      ∃ own rest, identifiers = own ++ rest ∧ Receives context [part] own [fragment] ∧
        Receives context parts rest fragments :=
  @append_iff context [part] identifiers [fragment] parts fragments rfl

end Receives

/-! ## What an evaluation comes to -/

/-- Two evaluations one after the other, and what is made of both. -/
theorem drawing_both_eq_ok {α β γ : Type} {first : Drawing ids α} {second : Drawing ids β}
    {join : α → β → γ} {result : γ} :
    (do
      let value ← first
      let other ← second
      return join value other : Drawing ids γ).run start = .ok (result, stop) ↔
      ∃ value middle other, first.run start = .ok (value, middle) ∧
        second.run middle = .ok (other, stop) ∧ result = join value other := by
  simp only [drawing_bind_eq_ok]
  constructor
  · rintro ⟨value, middle, ran, other, last, otherRan, same⟩
    cases same
    exact ⟨value, middle, other, ran, otherRan, rfl⟩
  · rintro ⟨value, middle, other, ran, otherRan, rfl⟩
    exact ⟨value, middle, ran, other, stop, otherRan, rfl⟩

theorem expandPart_of_asks {part : TemplatePart} (asks : part.asks = true) :
    expandPart context draw part = draw := by
  unfold TemplatePart.asks at asks
  split at asks
  · rfl
  · cases asks

/-- A part that asks for no identifier leaves the source as it is. -/
theorem expandPart_run_gives {part : TemplatePart} (silent : part.asks = false)
    {fragment : String} :
    (expandPart context draw part).run start = .ok (fragment, stop) ↔
      Gives context part fragment ∧ stop = start := by
  cases part with
  | literal c =>
      constructor
      · intro ran
        cases ran
        exact ⟨.literal c, rfl⟩
      · rintro ⟨⟨⟩, rfl⟩
        rfl
  | hole placeholder source =>
      have noIdentifier : placeholder ≠ .identifier := by
        rintro rfl
        cases silent
      have looksUp : expandPart context draw (.hole placeholder source) =
          Rule.orThrow ((lookUp context placeholder).map (·.getD (String.ofList source))) := by
        cases placeholder with
        | identifier => exact absurd rfl noIdentifier
        | _ =>
            simp only [expandPart]
            cases lookUp context _ <;> rfl
      rw [looksUp, Rule.run_orThrow_eq_ok]
      refine and_congr_left' ⟨fun given => ?_, ?_⟩
      · cases known : lookUp context placeholder with
        | error fault =>
            rw [known] at given
            cases given
        | ok found =>
            rw [known] at given
            cases given
            exact .hole noIdentifier known
      · rintro (- | ⟨-, known⟩)
        rw [known]
        rfl

/-- A part gives what it receives alone. -/
theorem expandPart_run {part : TemplatePart} {fragment : String} :
    (expandPart context draw part).run start = .ok (fragment, stop) ↔
      ∃ identifiers, Draws draw start identifiers stop ∧
        Receives context [part] identifiers [fragment] := by
  cases asks : part.asks with
  | true =>
      rw [expandPart_of_asks asks]
      constructor
      · intro given
        exact ⟨[fragment], .cons given (.nil stop), .asks asks .nil⟩
      · rintro ⟨identifiers, draws, _ | ⟨-, ⟨⟩⟩ | ⟨gives, -⟩⟩
        · obtain _ | ⟨given, ⟨⟩⟩ := draws
          exact given
        · exact absurd gives.asks_eq_false (by simp [asks])
  | false =>
      rw [expandPart_run_gives asks]
      constructor
      · rintro ⟨gives, rfl⟩
        exact ⟨[], .nil stop, .gives gives .nil⟩
      · rintro ⟨identifiers, draws, _ | ⟨asksPart, -⟩ | ⟨gives, ⟨⟩⟩⟩
        · exact absurd asksPart (by simp [asks])
        · cases draws
          exact ⟨gives, rfl⟩

/-- Parts give what they receive in a row. -/
theorem expandParts_run {parts : List TemplatePart} {expanded : String} :
    (expandParts context draw parts).run start = .ok (expanded, stop) ↔
      ∃ identifiers fragments, Draws draw start identifiers stop ∧
        Receives context parts identifiers fragments ∧ expanded = String.join fragments := by
  induction parts generalizing start expanded with
  | nil =>
      constructor
      · intro ran
        cases ran
        exact ⟨[], [], .nil stop, .nil, rfl⟩
      · rintro ⟨identifiers, fragments, draws, ⟨⟩, rfl⟩
        cases draws
        rfl
  | cons part parts inductionHypothesis =>
      rw [expandParts, drawing_both_eq_ok]
      constructor
      · rintro ⟨fragment, middle, rest, first, others, rfl⟩
        obtain ⟨own, draws, receives⟩ := expandPart_run.mp first
        obtain ⟨further, fragments, drawsFurther, receivesFurther, rfl⟩ :=
          inductionHypothesis.mp others
        exact ⟨own ++ further, fragment :: fragments,
          draws_append.mpr ⟨middle, draws, drawsFurther⟩,
          Receives.cons_iff.mpr ⟨own, further, rfl, receives, receivesFurther⟩,
          String.join_cons.symm⟩
      · rintro ⟨identifiers, fragments, draws, receives, rfl⟩
        obtain ⟨fragment, fragments, rfl⟩ :=
          List.exists_cons_of_length_eq_add_one receives.length_eq
        obtain ⟨own, further, rfl, first, others⟩ := Receives.cons_iff.mp receives
        obtain ⟨middle, drawsOwn, drawsFurther⟩ := draws_append.mp draws
        exact ⟨fragment, middle, String.join fragments, expandPart_run.mpr ⟨own, drawsOwn, first⟩,
          inductionHypothesis.mpr ⟨further, fragments, drawsFurther, others, rfl⟩, String.join_cons⟩

/-! ## Texts in a row -/

/-- Texts have as many parts as there are fragments of them. -/
theorem length_flatten_eq {texts : List String} {fragments : List (List String)}
    (lengths : List.Forall₂ (fun text own => own.length = (TemplatePart.read text).length) texts
      fragments) :
    fragments.flatten.length = (texts.flatMap TemplatePart.read).length := by
  induction lengths with
  | nil => rfl
  | cons length _ inductionHypothesis =>
      rw [List.flatten_cons, List.flatMap_cons, List.length_append, List.length_append, length,
        inductionHypothesis]

theorem expands_nil {expanded : List String} :
    Expands context draw [] start expanded stop ↔ expanded = [] ∧ stop = start := by
  constructor
  · rintro ⟨identifiers, fragments, draws, receives, ⟨⟩, rfl⟩
    cases receives
    cases draws
    exact ⟨rfl, rfl⟩
  · rintro ⟨rfl, rfl⟩
    exact ⟨[], [], .nil stop, .nil, .nil, rfl⟩

/-- Two rows of texts are expanded one after the other. -/
theorem expands_append {texts more first rest : List String}
    (length : first.length = texts.length) :
    Expands context draw (texts ++ more) start (first ++ rest) stop ↔
      ∃ middle, Expands context draw texts start first middle ∧
        Expands context draw more middle rest stop := by
  constructor
  · rintro ⟨identifiers, fragments, draws, receives, lengths, same⟩
    obtain ⟨own, others, rfl, rfl, rfl⟩ := List.map_eq_append_iff.mp same.symm
    rw [List.length_map] at length
    have lengthsOwn := List.forall₂_take_append _ _ _ lengths
    have lengthsOthers := List.forall₂_drop_append _ _ _ lengths
    rw [length, List.take_left] at lengthsOwn
    rw [length, List.drop_left] at lengthsOthers
    rw [List.flatMap_append, List.flatten_append] at receives
    obtain ⟨before, after, rfl, receivesOwn, receivesOthers⟩ :=
      (Receives.append_iff (length_flatten_eq lengthsOwn)).mp receives
    obtain ⟨middle, drawsOwn, drawsOthers⟩ := draws_append.mp draws
    exact ⟨middle, ⟨before, own, drawsOwn, receivesOwn, lengthsOwn, rfl⟩,
      after, others, drawsOthers, receivesOthers, lengthsOthers, rfl⟩
  · rintro ⟨middle, ⟨own, fragments, draws, receives, lengths, rfl⟩,
      further, others, drawsFurther, receivesFurther, lengthsFurther, rfl⟩
    refine ⟨own ++ further, fragments ++ others, draws_append.mpr ⟨middle, draws, drawsFurther⟩,
      ?_, List.rel_append lengths lengthsFurther, List.map_append.symm⟩
    rw [List.flatMap_append, List.flatten_append]
    exact (Receives.append_iff (length_flatten_eq lengths)).mpr
      ⟨own, further, rfl, receives, receivesFurther⟩

/-- The first of a row of texts is expanded before the others. -/
theorem expands_cons {text expanded : String} {texts rest : List String} :
    Expands context draw (text :: texts) start (expanded :: rest) stop ↔
      ∃ middle, Expands context draw [text] start [expanded] middle ∧
        Expands context draw texts middle rest stop :=
  @expands_append _ _ _ _ _ [text] texts [expanded] rest rfl

/-- A text is expanded as a row of its own. -/
theorem expand_run {text expanded : String} :
    (expand text context draw).run start = .ok (expanded, stop) ↔
      Expands context draw [text] start [expanded] stop := by
  rw [expand, expandParts_run]
  constructor
  · rintro ⟨identifiers, fragments, draws, receives, rfl⟩
    refine ⟨identifiers, [fragments], draws, ?_, .cons receives.length_eq .nil, rfl⟩
    simpa using receives
  · rintro ⟨identifiers, fragments, draws, receives, lengths, same⟩
    obtain ⟨own, rfl, rfl⟩ := List.map_eq_singleton_iff.mp same.symm
    refine ⟨identifiers, own, draws, ?_, rfl⟩
    simpa using receives

/-! ## Values -/

/-- A key with its text expanded, if it is one. -/
def expandKey (context : TemplateContext) (draw : Drawing ids String) : Value → Drawing ids Value
  | .str text => Value.str <$> expand text context draw
  | other => pure other

theorem expandEntries_cons (context : TemplateContext) (draw : Drawing ids String)
    (key item : Value) (rest : List (Value × Value)) :
    expandEntries context draw ((key, item) :: rest) = (do
      let newKey ← expandKey context draw key
      let entry ← Prod.mk newKey <$> expandValue context draw item
      let others ← expandEntries context draw rest
      return entry :: others) := by
  cases key <;> simp [expandEntries, expandKey]

/-- A text is expanded where it stands, in its place among all texts. -/
theorem expand_str_run {text : String} {result : Value} :
    (Value.str <$> expand text context draw).run start = .ok (result, stop) ↔
      ∃ expanded, Expands context draw [text] start [expanded] stop ∧ result = .str expanded := by
  simp only [drawing_map_eq_ok, expand_run]

theorem expandKey_run {key newKey : Value} :
    (expandKey context draw key).run start = .ok (newKey, stop) ↔
      ∃ expanded, Expands context draw key.keyTexts start expanded stop ∧
        key.RefillsKey expanded newKey := by
  unfold expandKey
  split
  · rename_i text
    rw [expand_str_run]
    constructor
    · rintro ⟨expanded, expands, rfl⟩
      exact ⟨[expanded], expands, .text text expanded⟩
    · rintro ⟨_, expands, refills⟩
      cases refills with
      | text old expanded => exact ⟨expanded, expands, rfl⟩
      | other noText => exact absurd rfl (noText text)
  · rename_i noText
    have silent : key.keyTexts = [] := by
      cases key with
      | str text => exact absurd rfl (noText text)
      | _ => rfl
    rw [silent]
    constructor
    · intro ran
      cases ran
      exact ⟨[], expands_nil.mpr ⟨rfl, rfl⟩, .other noText⟩
    · rintro ⟨_, expands, refills⟩
      cases refills with
      | text old expanded => exact absurd rfl (noText old)
      | other =>
          obtain ⟨-, rfl⟩ := expands_nil.mp expands
          rfl

/-- What an evaluation makes of a row of texts is what a value has in their places, if the value has
what is made of the result. -/
theorem run_map_iff {α : Type} {evaluation : Drawing ids α} {change : α → Value}
    {texts : List String} {refills : List String → α → Prop} {value result : Value}
    (run : ∀ {made}, evaluation.run start = .ok (made, stop) ↔
      ∃ expanded, Expands context draw texts start expanded stop ∧ refills expanded made)
    (refills_iff : ∀ {expanded}, value.Refills expanded result ↔
      ∃ made, refills expanded made ∧ change made = result) :
    (change <$> evaluation).run start = .ok (result, stop) ↔
      ∃ expanded, Expands context draw texts start expanded stop ∧
        value.Refills expanded result := by
  rw [drawing_map_eq_ok]
  constructor
  · rintro ⟨made, ran, rfl⟩
    obtain ⟨expanded, expands, fills⟩ := run.mp ran
    exact ⟨expanded, expands, refills_iff.mpr ⟨made, fills, rfl⟩⟩
  · rintro ⟨expanded, expands, has⟩
    obtain ⟨made, fills, rfl⟩ := refills_iff.mp has
    exact ⟨made, run.mpr ⟨expanded, expands, fills⟩, rfl⟩

mutual

/-- A value is expanded in one row of its texts. -/
theorem expandValue_run (value : Value) {start stop : ids} {result : Value} :
    (expandValue context draw value).run start = .ok (result, stop) ↔
      ∃ expanded, Expands context draw value.texts start expanded stop ∧
        value.Refills expanded result := by
  cases value with
  | str text =>
      rw [expandValue, ← map_eq_pure_bind, expand_str_run]
      constructor
      · rintro ⟨expanded, expands, rfl⟩
        exact ⟨[expanded], expands, .text text expanded⟩
      · rintro ⟨_, expands, refills⟩
        obtain ⟨expanded, rfl, rfl⟩ := Value.refills_str_iff.mp refills
        exact ⟨expanded, expands, rfl⟩
  | list items =>
      rw [expandValue, ← map_eq_pure_bind]
      exact run_map_iff (expandItems_run items) Value.refills_list_iff
  | tuple items =>
      rw [expandValue, ← map_eq_pure_bind]
      exact run_map_iff (expandItems_run items) Value.refills_tuple_iff
  | map entries =>
      rw [expandValue, ← map_eq_pure_bind]
      exact run_map_iff (expandEntries_run entries) Value.refills_map_iff
  | _ =>
      simp only [expandValue]
      constructor
      · intro ran
        cases ran
        exact ⟨[], expands_nil.mpr ⟨rfl, rfl⟩, .plain trivial⟩
      · rintro ⟨_, expands, ⟨⟩⟩
        obtain ⟨-, rfl⟩ := expands_nil.mp expands
        rfl

theorem expandItems_run (items : List Value) {start stop : ids} {result : List Value} :
    (expandItems context draw items).run start = .ok (result, stop) ↔
      ∃ expanded, Expands context draw (Value.itemTexts items) start expanded stop ∧
        Value.RefillsItems items expanded result := by
  cases items with
  | nil =>
      rw [expandItems]
      constructor
      · intro ran
        cases ran
        exact ⟨[], expands_nil.mpr ⟨rfl, rfl⟩, .nil⟩
      · rintro ⟨_, expands, ⟨⟩⟩
        obtain ⟨-, rfl⟩ := expands_nil.mp expands
        rfl
  | cons item rest =>
      rw [expandItems, drawing_both_eq_ok]
      constructor
      · rintro ⟨made, middle, others, ran, ranRest, rfl⟩
        obtain ⟨first, expands, refills⟩ := (expandValue_run item).mp ran
        obtain ⟨further, expandsRest, refillsRest⟩ := (expandItems_run rest).mp ranRest
        exact ⟨first ++ further,
          (expands_append refills.length_eq).mpr ⟨middle, expands, expandsRest⟩,
          .cons refills refillsRest⟩
      · rintro ⟨_, expands, - | ⟨refills, refillsRest⟩⟩
        obtain ⟨middle, expandsItem, expandsRest⟩ := (expands_append refills.length_eq).mp expands
        exact ⟨_, middle, _, (expandValue_run item).mpr ⟨_, expandsItem, refills⟩,
          (expandItems_run rest).mpr ⟨_, expandsRest, refillsRest⟩, rfl⟩

theorem expandEntries_run (entries : List (Value × Value)) {start stop : ids}
    {result : List (Value × Value)} :
    (expandEntries context draw entries).run start = .ok (result, stop) ↔
      ∃ expanded, Expands context draw (Value.entryTexts entries) start expanded stop ∧
        Value.RefillsEntries entries expanded result := by
  cases entries with
  | nil =>
      rw [expandEntries]
      constructor
      · intro ran
        cases ran
        exact ⟨[], expands_nil.mpr ⟨rfl, rfl⟩, .nil⟩
      · rintro ⟨_, expands, ⟨⟩⟩
        obtain ⟨-, rfl⟩ := expands_nil.mp expands
        rfl
  | cons entry rest =>
      obtain ⟨key, item⟩ := entry
      rw [expandEntries_cons, drawing_bind_eq_ok]
      simp only [drawing_both_eq_ok, drawing_map_eq_ok]
      constructor
      · rintro ⟨newKey, keyed, ranKey, _, middle, others, ⟨made, ran, rfl⟩, ranRest, rfl⟩
        obtain ⟨keyText, expandsKey, refillsKey⟩ := expandKey_run.mp ranKey
        obtain ⟨first, expands, refills⟩ := (expandValue_run item).mp ran
        obtain ⟨further, expandsRest, refillsRest⟩ := (expandEntries_run rest).mp ranRest
        have expandsBoth := (expands_append refills.length_eq).mpr ⟨middle, expands, expandsRest⟩
        exact ⟨keyText ++ (first ++ further),
          (expands_append refillsKey.length_eq).mpr ⟨keyed, expandsKey, expandsBoth⟩,
          .cons refillsKey refills refillsRest⟩
      · rintro ⟨_, expands, - | ⟨refillsKey, refills, refillsRest⟩⟩
        obtain ⟨keyed, expandsKey, expandsBoth⟩ := (expands_append refillsKey.length_eq).mp expands
        obtain ⟨middle, expandsItem, expandsRest⟩ :=
          (expands_append refills.length_eq).mp expandsBoth
        exact ⟨_, keyed, expandKey_run.mpr ⟨_, expandsKey, refillsKey⟩, _, middle, _,
          ⟨_, (expandValue_run item).mpr ⟨_, expandsItem, refills⟩, rfl⟩,
          (expandEntries_run rest).mpr ⟨_, expandsRest, refillsRest⟩, rfl⟩

end

end Template

/-! ## Reactions -/

namespace Rule

open Template

variable {rule : Rule} {document reaction : Document} {payload : String}
  {draw : Drawing ids String} {start stop : ids}

/-- The key and the payload of a reaction are expanded in one row, the key first. -/
theorem reaction_run :
    (rule.reaction document payload draw).run start = .ok (reaction, stop) ↔
      ∃ key expanded data,
        Expands (rule.context document payload) draw (rule.emitPath :: rule.template.texts) start
          (key :: expanded) stop ∧
        rule.template.Refills expanded data ∧
        reaction = ⟨.str key, .str rule.emit, data, some rule.metadata⟩ := by
  rw [reaction_eq, drawing_map_eq_ok]
  constructor
  · rintro ⟨_, made, rfl⟩
    obtain ⟨key, middle, data, keyed, filled, rfl⟩ := drawing_both_eq_ok.mp made
    obtain ⟨expanded, expands, refills⟩ := (expandValue_run _).mp filled
    exact ⟨key, expanded, data, expands_cons.mpr ⟨middle, expand_run.mp keyed, expands⟩,
      refills, rfl⟩
  · rintro ⟨key, expanded, data, expands, refills, rfl⟩
    obtain ⟨middle, keyed, expandsData⟩ := expands_cons.mp expands
    have filled := (expandValue_run _).mpr ⟨expanded, expandsData, refills⟩
    exact ⟨(key, data),
      drawing_both_eq_ok.mpr ⟨key, middle, data, expand_run.mpr keyed, filled, rfl⟩, rfl⟩

/-- A rule makes a reaction of the documents that it watches and whose payload it admits. -/
theorem fire?_run :
    (rule.fire? document draw).run start = .ok (some reaction, stop) ↔
      ∃ payload, rule.watches document.key = .ok true ∧ payloadText document.data = .ok payload ∧
        rule.admits payload = true ∧
        (rule.reaction document payload draw).run start = .ok (reaction, stop) := by
  constructor
  · intro fired
    obtain ⟨watched, _, looked, rest⟩ := drawing_bind_eq_ok.mp fired
    obtain ⟨watches, rfl⟩ := run_orThrow_eq_ok.mp looked
    cases watched with
    | false => cases rest
    | true =>
        rw [if_pos rfl] at rest
        obtain ⟨payload, _, read, guarded⟩ := drawing_bind_eq_ok.mp rest
        obtain ⟨readable, rfl⟩ := run_orThrow_eq_ok.mp read
        cases text : payloadText document.data with
        | error fault =>
            rw [text] at readable
            cases readable
        | ok found =>
            rw [text] at readable
            cases readable
            cases admitted : rule.admits payload with
            | false =>
                rw [admitted] at guarded
                cases guarded
            | true =>
                rw [admitted, if_pos rfl, ← map_eq_pure_bind, drawing_map_eq_ok] at guarded
                obtain ⟨_, made, same⟩ := guarded
                cases same
                exact ⟨payload, watches, rfl, admitted, made⟩
  · rintro ⟨payload, watches, readable, admitted, made⟩
    rw [fire?_eq watches readable, accepts_of_watches watches, admitted]
    exact drawing_map_eq_ok.mpr ⟨reaction, made, rfl⟩

end Rule

/-- Values are expanded in the order of their texts, and reactions in that of the key and then the
payload. An evaluation returns exactly what has the texts of the value, expanded in one row, in
their places; and in a row of texts the place of a placeholder for an identifier among all of them
is the place of the identifier that it receives. -/
theorem Template.expansion_in_order (draw : Drawing ids String) (start stop : ids) :
    (∀ context value result,
      (expandValue context draw value).run start = .ok (result, stop) ↔
        ∃ expanded, Expands context draw value.texts start expanded stop ∧
          value.Refills expanded result) ∧
    (∀ (rule : Rule) document reaction,
      (rule.fire? document draw).run start = .ok (some reaction, stop) ↔
        ∃ payload, rule.watches document.key = .ok true ∧
          payloadText document.data = .ok payload ∧ rule.admits payload = true ∧
          ∃ key expanded data,
            Expands (rule.context document payload) draw (rule.emitPath :: rule.template.texts)
              start (key :: expanded) stop ∧
            rule.template.Refills expanded data ∧
            reaction = ⟨.str key, .str rule.emit, data, some rule.metadata⟩) ∧
    ∀ context parts identifiers fragments, Receives context parts identifiers fragments →
      identifiers.length = parts.countP TemplatePart.asks ∧
        ∀ place part, parts[place]? = some part → part.asks = true →
          fragments[place]? = identifiers[(parts.take place).countP TemplatePart.asks]? := by
  refine ⟨fun context value result => expandValue_run value, fun rule document reaction => ?_,
    fun context parts identifiers fragments receives =>
      ⟨receives.count_eq, fun place part here asks => receives.at_asks here asks⟩⟩
  simp only [Rule.fire?_run, Rule.reaction_run]

end Structex
