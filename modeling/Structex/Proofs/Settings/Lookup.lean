import Mathlib.Data.List.Induction
import Structex.Proofs.Value.Overlay
import Structex.Settings.Basic

/-!
# Keys and layers

A key is looked up layer by layer from the highest down, past layers that have nothing or null
there; the whole of the settings is the layers laid over each other from the lowest up, and there
null counts. `compare` says for every key how the two differ. They have the same, up to what is in
a mapping, unless the lookup goes past a layer that has null at the key or no mapping on the way to
it: such a layer hides what is below it from the whole, but not from the lookup. So what the whole
has at a key, if it is neither a mapping nor null, is what the lookup finds.
-/

namespace Structex.Settings

theorem layer_withLayer_same (settings : Settings) (layer : Layer) (content : Option Shared) :
    (settings.withLayer layer content).layer layer = content.map Shared.value :=
  congrArg (Option.map Shared.value) (if_pos rfl)

theorem layer_withLayer_other {settings : Settings} {layer other : Layer} (differs : other ≠ layer)
    (content : Option Shared) :
    (settings.withLayer layer content).layer other = settings.layer other :=
  congrArg (Option.map Shared.value) (if_neg differs)

/-- What a layer has at a path. -/
def at? (settings : Settings) (path : List String) (layer : Layer) : Option Value :=
  (settings.layer layer).bind (Value.at? path)

theorem at?_of_layer {settings : Settings} {layer : Layer} {content : Value}
    (present : settings.layer layer = some content) (path : List String) :
    settings.at? path layer = Value.at? path content := by
  rw [at?, present, Option.bind_some]

/-- A layer has something for the lookup of a key unless it has nothing or null there. -/
theorem inLayer?_eq_some_iff {settings : Settings} {key : String} {layer : Layer} {value : Value} :
    settings.inLayer? key layer = some value ↔
      settings.at? (parts key) layer = some value ∧ value.isNull = false := by
  rw [inLayer?, ← at?]
  cases settings.at? (parts key) layer with
  | none => simp
  | some held =>
      cases held with
      | null =>
          simp only [Option.some.injEq, reduceCtorEq, false_iff, not_and]
          rintro rfl
          simp [Value.isNull]
      | _ =>
          simp only [Option.some.injEq, iff_self_and]
          rintro rfl
          rfl

theorem inLayer?_eq_none_iff {settings : Settings} {key : String} {layer : Layer} :
    settings.inLayer? key layer = none ↔
      settings.at? (parts key) layer = none ∨ settings.at? (parts key) layer = some .null := by
  rw [inLayer?, ← at?]
  cases settings.at? (parts key) layer with
  | none => simp
  | some held => cases held <;> simp

/-- A layer that holds nothing has nothing for any lookup. -/
theorem inLayer?_of_none {settings : Settings} {layer : Layer} (empty : settings.layer layer = none)
    (key : String) : settings.inLayer? key layer = none :=
  inLayer?_eq_none_iff.mpr (.inl (by rw [at?, empty, Option.bind_none]))

/-- Where all layers have the same for a key, its lookup finds the same. -/
theorem find?_congr {settings others : Settings} {key : String}
    (same : ∀ layer, settings.inLayer? key layer = others.inLayer? key layer) :
    settings.find? key = others.find? key := by
  simp only [find?, same]

/-- What is found under a key is had whatever is given for the case that nothing is. -/
theorem getD_of_find? {settings : Settings} {key : String} {value : Value} {layer : Layer}
    (found : settings.find? key = some (value, layer)) (default : Value) :
    settings.getD key default = value := by
  rw [getD, get?, found, Option.map_some, Option.getD_some]

theorem getD_congr {settings others : Settings} {key : String}
    (same : settings.find? key = others.find? key) (default : Value) :
    settings.getD key default = others.getD key default := by
  rw [getD, getD, get?, get?, same]

/-- Of the layers, given from the lowest up, the highest that has something for the lookup of a
key, and what it has. -/
def highest (settings : Settings) (key : String) (layers : List Layer) : Option (Value × Layer) :=
  layers.reverse.findSome? fun layer =>
    (settings.inLayer? key layer).map fun value => (value, layer)

theorem find?_eq_highest (settings : Settings) (key : String) :
    settings.find? key = settings.highest key Layer.all :=
  rfl

theorem highest_concat_of_some {settings : Settings} {key : String} {top : Layer} {value : Value}
    (found : settings.inLayer? key top = some value) (lower : List Layer) :
    settings.highest key (lower ++ [top]) = some (value, top) := by
  rw [highest, List.reverse_concat, List.findSome?_cons, found]
  rfl

theorem highest_concat_of_none {settings : Settings} {key : String} {top : Layer}
    (unfound : settings.inLayer? key top = none) (lower : List Layer) :
    settings.highest key (lower ++ [top]) = settings.highest key lower := by
  rw [highest, List.reverse_concat, List.findSome?_cons, unfound]
  rfl

/-- A key is found in the highest layer that has something other than null there. -/
theorem find?_eq_some_iff {settings : Settings} {key : String} {value : Value} {layer : Layer} :
    settings.find? key = some (value, layer) ↔
      settings.inLayer? key layer = some value ∧
        ∀ other, layer.number < other.number → settings.inLayer? key other = none := by
  have falling : Layer.all.reverse.Pairwise fun upper lower => lower.number < upper.number := by
    decide
  constructor
  · intro found
    obtain ⟨upper, place, lower, whole, here, above⟩ := List.findSome?_eq_some_iff.mp found
    obtain ⟨held, same, pair⟩ := Option.map_eq_some_iff.mp here
    cases pair
    refine ⟨same, fun other higher => ?_⟩
    have member : other ∈ Layer.all.reverse := List.mem_reverse.mpr (Layer.mem_all other)
    rw [whole] at member falling
    have below := (List.pairwise_cons.mp (List.pairwise_append.mp falling).2.1).1
    rcases List.mem_append.mp member with isUpper | rest
    · exact Option.map_eq_none_iff.mp (above other isUpper)
    · rcases List.mem_cons.mp rest with rfl | isLower
      · exact absurd higher (Nat.lt_irrefl _)
      · exact absurd higher (Nat.lt_asymm (below other isLower))
  · rintro ⟨here, above⟩
    obtain ⟨upper, lower, whole⟩ :=
      List.append_of_mem (List.mem_reverse.mpr (Layer.mem_all layer))
    rw [whole] at falling
    refine List.findSome?_eq_some_iff.mpr ⟨upper, layer, lower, whole, ?_, fun other isUpper => ?_⟩
    · rw [here]
      rfl
    · have higher := (List.pairwise_append.mp falling).2.2 other isUpper layer List.mem_cons_self
      rw [above other higher]
      rfl

/-- A layer's content laid over entries, unless it is no mapping. -/
def layOver (below : Entries) : Value → Option Entries
  | .map above => some (Value.overlayEntries below above)
  | _ => none

/-- What layers, given from the lowest up, hold when they are laid over each other. -/
def laid (settings : Settings) (layers : List Layer) : Option Entries :=
  (layers.filterMap settings.layer).foldlM layOver []

theorem all?_eq_laid (settings : Settings) : settings.all? = settings.laid Layer.all :=
  rfl

theorem laid_concat_of_none {settings : Settings} {top : Layer} (empty : settings.layer top = none)
    (lower : List Layer) : settings.laid (lower ++ [top]) = settings.laid lower := by
  rw [laid, List.filterMap_append, List.filterMap_cons_none empty, List.filterMap_nil,
    List.append_nil, laid]

/-- A layer more is a mapping laid over the layers below it. -/
theorem laid_concat_eq_some {settings : Settings} {top : Layer} {content : Value}
    (present : settings.layer top = some content) {lower : List Layer} {whole : Entries}
    (laidOver : settings.laid (lower ++ [top]) = some whole) :
    ∃ below, settings.laid lower = some below ∧
      Value.map whole = Value.overlay (.map below) content := by
  rw [laid, List.filterMap_append, List.filterMap_cons_some present, List.filterMap_nil,
    List.foldlM_append, ← laid] at laidOver
  obtain ⟨below, lowerLaid, last⟩ := Option.bind_eq_some_iff.mp laidOver
  refine ⟨below, lowerLaid, ?_⟩
  cases content with
  | map above =>
      cases last
      rfl
  | _ => cases last

/-- Settings in which every mapping that a path can lead to has each key once, as it has in all
that are reached from the defaults (`hasDistinctKeys_of_actions`). -/
def HasDistinctKeys (settings : Settings) : Prop :=
  ∀ layer content, settings.layer layer = some content → content.HasDistinctKeys

/-- Whether a layer hides what is below it at a path: it has null there, or something that is no
mapping stands in the way. -/
def Hides (settings : Settings) (path : List String) (layer : Layer) : Prop :=
  settings.at? path layer = some .null ∨
    ∃ content, settings.layer layer = some content ∧ Value.Blocks path content

/-- Whether entries have nothing or null at a path. -/
def Lacks (path : List String) (entries : Entries) : Prop :=
  Value.at? path (.map entries) = none ∨ Value.at? path (.map entries) = some .null

/-- What the lookup of a key finds, beside what layers laid over each other have there. -/
inductive Comparison (settings : Settings) (key : String) (layers : List Layer)
    (whole : Entries) : Prop
  /-- Both have nothing. -/
  | absent (unfound : settings.highest key layers = none) (lacks : Lacks (parts key) whole)
  /-- Both have the same, up to what is in a mapping. -/
  | shown {found value layer} (first : settings.highest key layers = some (found, layer))
      (held : Value.at? (parts key) (.map whole) = some value) (alike : found.Alike value)
  /-- A layer above the one where the key is found hides it from the whole. -/
  | hidden {found layer higher} (first : settings.highest key layers = some (found, layer))
      (lacks : Lacks (parts key) whole) (above : [layer, higher].Sublist layers)
      (hides : settings.Hides (parts key) higher)

theorem parts_ne_nil (key : String) : parts key ≠ [] :=
  Text.split_ne_nil '.' key

/-- The layer of a lookup is one of the layers. -/
theorem mem_of_highest {settings : Settings} {key : String} {layers : List Layer} {value : Value}
    {layer : Layer} (found : settings.highest key layers = some (value, layer)) :
    layer ∈ layers := by
  obtain ⟨place, member, here⟩ := List.exists_of_findSome?_eq_some found
  obtain ⟨_, -, pair⟩ := Option.map_eq_some_iff.mp here
  cases pair
  exact List.mem_reverse.mp member

/-- A layer that has nothing for a lookup leaves the comparison as it was, if the whole does not
change there. -/
theorem Comparison.keep {settings : Settings} {key : String} {lower : List Layer} {top : Layer}
    {below whole : Entries} (comparison : Comparison settings key lower below)
    (unfound : settings.inLayer? key top = none)
    (same : Value.at? (parts key) (.map whole) = Value.at? (parts key) (.map below)) :
    Comparison settings key (lower ++ [top]) whole := by
  have first := highest_concat_of_none unfound lower
  cases comparison with
  | absent empty lacks => exact .absent (first.trans empty) (by rwa [Lacks, same])
  | shown found held alike => exact .shown (first.trans found) (same.trans held) alike
  | hidden found lacks above hides =>
      exact .hidden (first.trans found) (by rwa [Lacks, same])
        (above.trans (List.sublist_append_left ..)) hides

/-- A layer that hides a key from the whole leaves what the lookup finds below it. -/
theorem Comparison.of_hides {settings : Settings} {key : String} {top : Layer}
    {whole : Entries} (lower : List Layer) (unfound : settings.inLayer? key top = none)
    (hides : settings.Hides (parts key) top) (lacks : Lacks (parts key) whole) :
    Comparison settings key (lower ++ [top]) whole := by
  have first := highest_concat_of_none unfound lower
  cases found : settings.highest key lower with
  | none => exact .absent (first.trans found) lacks
  | some entry =>
      have above : [entry.2, top].Sublist (lower ++ [top]) :=
        (List.singleton_sublist.mpr (mem_of_highest found)).append (List.Sublist.refl [top])
      exact .hidden (first.trans found) lacks above hides

/-- A key in layers laid over each other, compared with the lookup through them. -/
theorem compare {settings : Settings} (distinct : settings.HasDistinctKeys) (key : String)
    (layers : List Layer) {whole : Entries} (laidOver : settings.laid layers = some whole) :
    Comparison settings key layers whole := by
  induction layers using List.reverseRecOn generalizing whole with
  | nil =>
      cases laidOver
      refine .absent rfl (.inl ?_)
      obtain ⟨part, rest, same⟩ := List.exists_cons_of_ne_nil (parts_ne_nil key)
      rw [same]
      rfl
  | append_singleton lower top inductionHypothesis =>
      cases present : settings.layer top with
      | none =>
          rw [laid_concat_of_none present] at laidOver
          exact (inductionHypothesis laidOver).keep (inLayer?_of_none present key) rfl
      | some content =>
          obtain ⟨below, lowerLaid, whole_eq⟩ := laid_concat_eq_some present laidOver
          have once := distinct top content present
          have here := at?_of_layer present (parts key)
          cases held : Value.at? (parts key) content with
          | some value =>
              obtain ⟨joined, reached, alike⟩ := Value.at?_overlay_of_some once (.map below) held
              rw [← whole_eq] at reached
              cases isNull : value.isNull with
              | false =>
                  have found := inLayer?_eq_some_iff.mpr ⟨here.trans held, isNull⟩
                  exact .shown (highest_concat_of_some found lower) reached alike
              | true =>
                  obtain rfl := Value.isNull_iff.mp isNull
                  have lacks : Lacks (parts key) whole := by
                    rcases alike with rfl | ⟨noMap, -⟩
                    · exact .inr reached
                    · cases noMap
                  exact .of_hides lower (inLayer?_eq_none_iff.mpr (.inr (here.trans held)))
                    (.inl (here.trans held)) lacks
          | none =>
              have unfound := inLayer?_eq_none_iff.mpr (.inl (here.trans held))
              by_cases blocks : Value.Blocks (parts key) content
              · have nothing := Value.at?_overlay_of_blocks once (.map below) blocks
                rw [← whole_eq] at nothing
                exact .of_hides lower unfound (.inr ⟨content, present, blocks⟩) (.inl nothing)
              · have same := Value.at?_overlay_of_open once (.map below) held blocks
                rw [← whole_eq] at same
                exact (inductionHypothesis lowerLaid).keep unfound same

/-- The parts of a key that is joined from texts without dots. -/
theorem parts_join {path : List String} (nonempty : path ≠ [])
    (dotFree : ∀ part ∈ path, '.' ∉ part.toList) : parts (Text.join '.' path) = path :=
  Text.split_join nonempty dotFree

/-- Where the layers laid over each other have a value that is neither a mapping nor null, the
lookup of the path finds that value, whatever it would give otherwise, and finds it in the highest
layer that has anything but null there. -/
theorem find?_of_merged_leaf (settings : Settings) (distinct : settings.HasDistinctKeys)
    (whole : Entries) (all : settings.all? = some whole) (path : List String)
    (dotFree : ∀ part ∈ path, '.' ∉ part.toList) (value : Value)
    (held : Value.at? path (.map whole) = some value) (noMap : value.isMap = false)
    (notNull : value.isNull = false) :
    (∀ default, settings.getD (Text.join '.' path) default = value) ∧
      ∃ layer, settings.find? (Text.join '.' path) = some (value, layer) ∧
        settings.at? path layer = some value ∧
        ∀ other, layer.number < other.number →
          settings.at? path other = none ∨ settings.at? path other = some .null := by
  have nonempty : path ≠ [] := by
    rintro rfl
    cases held
    cases noMap
  have same := parts_join nonempty dotFree
  have found : ∃ layer, settings.find? (Text.join '.' path) = some (value, layer) := by
    have comparison := compare distinct (Text.join '.' path) Layer.all
      (settings.all?_eq_laid.symm.trans all)
    have present : ¬ Lacks path whole := by
      rintro (nothing | isNull)
      · cases held.symm.trans nothing
      · cases held.symm.trans isNull
        cases notNull
    cases comparison with
    | absent unfound lacks => exact absurd (same ▸ lacks) present
    | hidden first lacks above hides => exact absurd (same ▸ lacks) present
    | shown first reached alike =>
        rw [same, held] at reached
        cases reached
        rcases alike with rfl | ⟨-, isMap⟩
        · exact ⟨_, first⟩
        · cases noMap.symm.trans isMap
  obtain ⟨layer, first⟩ := found
  obtain ⟨here, above⟩ := find?_eq_some_iff.mp first
  rw [inLayer?_eq_some_iff, same] at here
  refine ⟨fun default => ?_, layer, first, here.1, fun other higher => ?_⟩
  · rw [getD, get?, first]
    rfl
  · rw [← same]
    exact inLayer?_eq_none_iff.mp (above other higher)

/-- Settings in which one layer puts a number in the place of a section and a higher one puts a
section there again; the highest has null under a key of the section. -/
def restoredSettings : Settings where
  held
    | .defaults => some (mapping [("a", mapping [("b", .str "low"), ("c", .str "under")])])
    | .system => some (mapping [("a", .int 5)])
    | .user => some (mapping [("a", mapping [("b", .str "restored")])])
    | .environment => none
    | .runtime => some (mapping [("a", mapping [("c", .null)])])
  files := []

theorem restoredSettings_hasDistinctKeys : restoredSettings.HasDistinctKeys := by
  intro layer content present
  obtain ⟨held, there, rfl⟩ := Option.map_eq_some_iff.mp present
  cases layer <;> cases there <;>
    simp +decide [mapping, Value.hasDistinctKeys_map_iff, Entries.Distinct,
      Value.HasDistinctKeys.leaf]

/-- The key of the section is found in the layer that restores it. -/
theorem find?_of_merged_leaf_of_restored :
    restoredSettings.HasDistinctKeys ∧
    restoredSettings.all? =
      some [(.str "a", mapping [("b", .str "restored"), ("c", .null)])] ∧
    (∀ part ∈ ["a", "b"], '.' ∉ part.toList) ∧
    (∀ default, restoredSettings.getD "a.b" default = .str "restored") ∧
    ∃ layer, restoredSettings.find? "a.b" = some (.str "restored", layer) ∧
      restoredSettings.at? ["a", "b"] layer = some (.str "restored") ∧
      ∀ other, layer.number < other.number → restoredSettings.at? ["a", "b"] other = none ∨
        restoredSettings.at? ["a", "b"] other = some .null := by
  have all : restoredSettings.all? =
      some [(.str "a", mapping [("b", .str "restored"), ("c", .null)])] := by rfl
  have dotFree : ∀ part ∈ ["a", "b"], '.' ∉ part.toList := by decide
  exact ⟨restoredSettings_hasDistinctKeys, all, dotFree,
    find?_of_merged_leaf restoredSettings restoredSettings_hasDistinctKeys _ all ["a", "b"] dotFree
      (.str "restored") rfl rfl rfl⟩

end Structex.Settings
