import Structex.Proofs.Settings.Lookup
import Structex.Proofs.Value.Placement

/-!
# Sections and layers

The lookup of a key at which the settings as a whole have a section gives the section of one layer,
the highest that has one there. In the whole this section is laid over what the layers below it,
laid over each other, have there. So the section that is found never says anything else than the
whole, but it may lack what only lower layers say; each of those keys is still found by itself
(`find?_of_merged_leaf`).
-/

namespace Structex

namespace Value

/-- Only a mapping is a mapping when it is laid over something. -/
theorem exists_map_of_overlay {below above : Value} {entries : Entries}
    (laid : Value.map entries = overlay below above) : ∃ top, above = .map top := by
  cases above with
  | map top => exact ⟨top, rfl⟩
  | _ => cases laid

end Value

namespace Layer

/-- The layers below a layer, the lowest first. -/
def below (layer : Layer) : List Layer :=
  all.filter fun other => other.number < layer.number

/-- The layers before a layer are those below it, and those above it come after it. -/
theorem below_of_all_eq {lower upper : List Layer} {layer : Layer}
    (split : all = lower ++ layer :: upper) :
    lower = layer.below ∧ ∀ other, layer.number < other.number → other ∈ upper := by
  have rising : all.Pairwise fun earlier later => earlier.number < later.number := by decide
  rw [split] at rising
  obtain ⟨-, behind, across⟩ := List.pairwise_append.mp rising
  have before : ∀ other ∈ lower, other.number < layer.number :=
    fun other isLower => across other isLower layer List.mem_cons_self
  have after := (List.pairwise_cons.mp behind).1
  constructor
  · have nothing : (layer :: upper).filter (fun other => other.number < layer.number) = [] := by
      simp only [List.filter_eq_nil_iff, List.forall_mem_cons, decide_eq_true_eq]
      exact ⟨Nat.lt_irrefl _, fun other isUpper => Nat.lt_asymm (after other isUpper)⟩
    rw [below, split, List.filter_append, nothing, List.append_nil]
    exact (List.filter_eq_self.mpr fun other isLower => decide_eq_true (before other isLower)).symm
  · intro other higher
    have member := mem_all other
    rw [split, List.mem_append, List.mem_cons] at member
    rcases member with isLower | rfl | isUpper
    · exact absurd higher (Nat.lt_asymm (before other isLower))
    · exact absurd higher (Nat.lt_irrefl _)
    · exact isUpper

end Layer

namespace Settings

/-- A section that layers laid over each other have at a path is that of the highest of them that
has anything there, laid over what the layers below have there. -/
def TopmostIn (settings : Settings) (path : List String) (layers : List Layer)
    (entries : Entries) : Prop :=
  ∃ lower layer upper under top, layers = lower ++ layer :: upper ∧
    settings.laid lower = some under ∧ settings.at? path layer = some (.map top) ∧
    (∀ other ∈ upper, settings.at? path other = none) ∧
    Value.map entries = Value.overlay ((Value.at? path (.map under)).getD .null) (.map top)

variable {settings : Settings} {path : List String} {entries : Entries}

/-- A layer that has nothing at the path may stand above. -/
theorem TopmostIn.keep {layers : List Layer} (topmost : TopmostIn settings path layers entries)
    {last : Layer} (nothing : settings.at? path last = none) :
    TopmostIn settings path (layers ++ [last]) entries := by
  obtain ⟨lower, layer, upper, under, top, rfl, laidUnder, held, above, merged⟩ := topmost
  refine ⟨lower, layer, upper ++ [last], under, top, by simp, laidUnder, held, ?_, merged⟩
  simpa [or_imp, forall_and] using ⟨above, nothing⟩

/-- What layers laid over each other have as a section comes from the highest that has anything
there. -/
theorem topmostIn_of_laid (distinct : settings.HasDistinctKeys) {layers : List Layer}
    {whole : Entries} (laidOver : settings.laid layers = some whole) (nonempty : path ≠ [])
    (held : Value.at? path (.map whole) = some (.map entries)) :
    TopmostIn settings path layers entries := by
  -- The layers are taken away from the top until one has something at the path.
  induction layers using List.reverseRecOn generalizing whole with
  | nil =>
      cases laidOver
      obtain ⟨part, rest, rfl⟩ := List.exists_cons_of_ne_nil nonempty
      cases held
  | append_singleton lower last inductionHypothesis =>
      cases present : settings.layer last with
      | none =>
          rw [laid_concat_of_none present] at laidOver
          have nothing : settings.at? path last = none := by rw [at?, present, Option.bind_none]
          exact (inductionHypothesis laidOver held).keep nothing
      | some content =>
          obtain ⟨under, lowerLaid, whole_eq⟩ := laid_concat_eq_some present laidOver
          have once := distinct last content present
          have here := at?_of_layer present path
          rw [whole_eq] at held
          cases reached : Value.at? path content with
          | some item =>
              rw [Value.at?_overlay_of_held once _ reached] at held
              have merged := (Option.some.inj held).symm
              obtain ⟨top, rfl⟩ := Value.exists_map_of_overlay merged
              exact ⟨lower, last, [], under, top, rfl, lowerLaid, here.trans reached,
                List.forall_mem_nil _, merged⟩
          | none =>
              -- The layer does not hide the path either, as there is a section in the whole.
              have isOpen : ¬ Value.Blocks path content := by
                intro blocks
                rw [Value.at?_overlay_of_blocks once _ blocks] at held
                cases held
              rw [Value.at?_overlay_of_open once _ reached isOpen] at held
              exact (inductionHypothesis lowerLaid held).keep (here.trans reached)

/-- Where the layers laid over each other have a section, the lookup of the path finds the section
of the highest layer that has anything there, whatever it would give otherwise. The section of the
whole is this one laid over what the layers below, laid over each other, have there. So both are one
if those have no section there; where something is found in the section, the whole has the same, or
a section as well; and what the whole alone has is what those layers have. -/
theorem find?_of_merged_section (settings : Settings) (distinct : settings.HasDistinctKeys)
    (whole : Entries) (all : settings.all? = some whole) (path : List String)
    (nonempty : path ≠ []) (dotFree : ∀ part ∈ path, '.' ∉ part.toList) (entries : Entries)
    (held : Value.at? path (.map whole) = some (.map entries)) :
    ∃ layer top under, settings.laid layer.below = some under ∧
      (∀ default, settings.getD (Text.join '.' path) default = .map top) ∧
      settings.find? (Text.join '.' path) = some (.map top, layer) ∧
      settings.at? path layer = some (.map top) ∧
      (∀ other, layer.number < other.number → settings.at? path other = none) ∧
      let below := (Value.at? path (.map under)).getD .null
      Value.map entries = Value.overlay below (.map top) ∧
      (below.isMap = false → entries = top) ∧
      (∀ further item, Value.at? further (.map top) = some item →
        ∃ joined, Value.at? further (.map entries) = some joined ∧ item.Alike joined) ∧
      ∀ further item, Value.at? further (.map top) = none →
        Value.at? further (.map entries) = some item → Value.at? further below = some item := by
  obtain ⟨lower, layer, upper, under, top, split, laidUnder, first, above, merged⟩ :=
    topmostIn_of_laid distinct (settings.all?_eq_laid.symm.trans all) nonempty held
  obtain ⟨rfl, higher⟩ := Layer.below_of_all_eq split
  have found : settings.find? (Text.join '.' path) = some (.map top, layer) := by
    simp only [find?_eq_some_iff, inLayer?_eq_some_iff, inLayer?_eq_none_iff,
      parts_join nonempty dotFree]
    exact ⟨⟨first, rfl⟩, fun other isHigher => .inl (above other (higher other isHigher))⟩
  have distinctTop : Value.HasDistinctKeys (.map top) := by
    obtain ⟨content, present, reached⟩ := Option.bind_eq_some_iff.mp first
    exact (distinct layer content present).of_at? reached
  refine ⟨layer, top, under, laidUnder, getD_of_find? found, found, first,
    fun other isHigher => above other (higher other isHigher), merged, ?_, ?_, ?_⟩
  · intro noMap
    rw [Value.overlay_of_not_isMap noMap] at merged
    exact Value.map.inj merged
  · intro further item reached
    rw [merged]
    exact Value.at?_overlay_of_some distinctTop _ reached
  · intro further item missing reached
    rw [merged] at reached
    have isOpen : ¬ Value.Blocks further (.map top) := by
      intro blocks
      rw [Value.at?_overlay_of_blocks distinctTop _ blocks] at reached
      cases reached
    rwa [Value.at?_overlay_of_open distinctTop _ missing isOpen] at reached

/-- The section of the highest layer, which has nothing but a null, over what is left of those of
the layers below. -/
theorem find?_of_merged_section_of_restored :
    restoredSettings.HasDistinctKeys ∧
    restoredSettings.all? =
      some [(.str "a", mapping [("b", .str "restored"), ("c", .null)])] ∧
    (∀ part ∈ ["a"], '.' ∉ part.toList) ∧
    ∃ layer top under, restoredSettings.laid layer.below = some under ∧
      (∀ default, restoredSettings.getD "a" default = .map top) ∧
      restoredSettings.find? "a" = some (.map top, layer) ∧
      mapping [("b", .str "restored"), ("c", .null)] =
        Value.overlay ((Value.at? ["a"] (.map under)).getD .null) (.map top) := by
  have all : restoredSettings.all? =
      some [(.str "a", mapping [("b", .str "restored"), ("c", .null)])] := by rfl
  have dotFree : ∀ part ∈ ["a"], '.' ∉ part.toList := by decide
  obtain ⟨layer, top, under, laidUnder, read, found, -, -, merged, -⟩ :=
    find?_of_merged_section restoredSettings restoredSettings_hasDistinctKeys _ all ["a"]
      (List.cons_ne_nil _ _) dotFree _ rfl
  exact ⟨restoredSettings_hasDistinctKeys, all, dotFree, layer, top, under, laidUnder, read, found,
    merged⟩

/-- Settings with a section of two numbers, one of which a higher layer replaces. -/
def overriddenSettings : Settings :=
  (initial.load (mapping [("a", mapping [("b", .int 1), ("c", .int 2)])]) .user).load
    (mapping [("a", mapping [("b", .int 3)])]) .runtime

/-- The number that is not replaced is in the section of the whole, but not in the section that the
lookup finds; by its own key it is found. -/
theorem override_hides_rest :
    (overriddenSettings.all?.bind fun whole => Value.at? ["a"] (.map whole)) =
      some (mapping [("b", .int 3), ("c", .int 2)]) ∧
    overriddenSettings.get? "a" = some (mapping [("b", .int 3)]) ∧
    mapping [("b", .int 3)] ≠ mapping [("b", .int 3), ("c", .int 2)] ∧
    overriddenSettings.get? "a.c" = some (.int 2) := by
  refine ⟨rfl, rfl, ?_, rfl⟩
  simp [mapping]

end Settings

end Structex
