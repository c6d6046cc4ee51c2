import Structex.Proofs.Cascade.BreadthFirst

/-!
# Identifiers in evaluations

How many identifiers an evaluation draws is known before any of them is: nothing that is drawn
decides what is drawn next, and whether the evaluation fails depends on the context alone. So it
keeps to a `Recipe`, a number of identifiers and what is made of them, which is the same whatever
the source of identifiers is. `Uniform` says this of an evaluation over all sources; it holds of
drawing itself and is kept by doing one evaluation after another, and so it reaches templates,
values and the reactions of rules.
-/

namespace Structex

open Registry

variable {ids α β γ : Type}

/-- A source gives identifiers one after another. -/
inductive Draws (draw : Drawing ids String) : ids → List String → ids → Prop
  | nil (source) : Draws draw source [] source
  | cons {source middle last identifier rest}
      (given : draw.run source = .ok (identifier, middle)) (others : Draws draw middle rest last) :
      Draws draw source (identifier :: rest) last

/-- Identifiers are drawn in two parts, one after the other. -/
theorem draws_append {draw : Drawing ids String} {first second : List String}
    {source last : ids} :
    Draws draw source (first ++ second) last ↔
      ∃ middle, Draws draw source first middle ∧ Draws draw middle second last := by
  induction first generalizing source with
  | nil =>
      constructor
      · intro drawn
        exact ⟨source, .nil source, drawn⟩
      · rintro ⟨middle, ⟨⟩, drawn⟩
        exact drawn
  | cons identifier rest inductionHypothesis =>
      constructor
      · rintro (_ | ⟨given, others⟩)
        obtain ⟨middle, before, after⟩ := inductionHypothesis.mp others
        exact ⟨middle, .cons given before, after⟩
      · rintro ⟨middle, _ | ⟨given, before⟩, after⟩
        exact .cons given (inductionHypothesis.mpr ⟨middle, before, after⟩)

/-- A number of identifiers, and what is made of them. -/
structure Recipe (α : Type) where
  count : Nat
  make : List String → α

/-- A source gives as many identifiers as a recipe takes, and this is made of them. -/
def Recipe.Makes (recipe : Recipe α) (draw : Drawing ids String) (start : ids) (value : α)
    (stop : ids) : Prop :=
  ∃ drawn, drawn.length = recipe.count ∧ Draws draw start drawn stop ∧ value = recipe.make drawn

/-- An evaluation over every source of identifiers. -/
abbrev Evaluation (α : Type) := (ids : Type) → Drawing ids String → Drawing ids α

/-- An evaluation uses identifiers in the same way over every source: it keeps to a recipe, unless
it fails with every source. -/
inductive Uniform (evaluation : Evaluation α) : Prop
  | fails (never : ∀ ids draw start result, (evaluation ids draw).run start ≠ .ok result)
  | keeps (recipe : Recipe α) (makes : ∀ ids draw start value stop,
      (evaluation ids draw).run start = .ok (value, stop) ↔ recipe.Makes draw start value stop)

namespace Uniform

/-- A value needs no identifiers. -/
theorem pure (value : α) : Uniform fun _ _ => (Pure.pure value : Drawing _ α) := by
  refine .keeps ⟨0, fun _ => value⟩ fun ids draw start result stop => ?_
  constructor
  · intro returned
    cases returned
    exact ⟨[], rfl, .nil start, rfl⟩
  · rintro ⟨drawn, none, draws, rfl⟩
    cases List.length_eq_zero_iff.mp none
    cases draws
    rfl

/-- A fault comes with every source. -/
theorem throw (fault : EvaluationFault) :
    Uniform fun _ _ => (MonadExcept.throw fault : Drawing _ α) :=
  .fails fun _ _ _ _ returned => nomatch returned

/-- Drawing an identifier gives it. -/
theorem draw : Uniform fun _ draw => draw := by
  refine .keeps ⟨1, fun drawn => drawn.headD ""⟩ fun ids draw start result stop => ?_
  constructor
  · intro given
    exact ⟨[result], rfl, .cons given (.nil stop), rfl⟩
  · rintro ⟨drawn, one, draws, rfl⟩
    obtain ⟨identifier, rfl⟩ := List.length_eq_one_iff.mp one
    obtain _ | ⟨given, ⟨⟩⟩ := draws
    exact given

/-- Two evaluations one after the other take the identifiers of the first and then those of the
second. -/
theorem both {first : Evaluation α} {second : Evaluation β} (join : α → β → γ)
    (firstUniform : Uniform first) (secondUniform : Uniform second) :
    Uniform fun ids draw => do
      let value ← first ids draw
      let other ← second ids draw
      return join value other := by
  cases firstUniform with
  | fails never =>
      refine .fails fun ids draw start result returned => ?_
      obtain ⟨value, middle, ran, -⟩ := drawing_bind_eq_ok.mp returned
      exact never _ _ _ _ ran
  | keeps recipe makes =>
      cases secondUniform with
      | fails never =>
          refine .fails fun ids draw start result returned => ?_
          obtain ⟨value, middle, -, rest⟩ := drawing_bind_eq_ok.mp returned
          obtain ⟨other, last, ran, -⟩ := drawing_bind_eq_ok.mp rest
          exact never _ _ _ _ ran
      | keeps otherRecipe otherMakes =>
          refine .keeps ⟨recipe.count + otherRecipe.count, fun drawn =>
            join (recipe.make (drawn.take recipe.count))
              (otherRecipe.make (drawn.drop recipe.count))⟩ fun ids draw start result stop => ?_
          constructor
          · intro returned
            obtain ⟨value, middle, ran, rest⟩ := drawing_bind_eq_ok.mp returned
            obtain ⟨other, last, otherRan, same⟩ := drawing_bind_eq_ok.mp rest
            cases same
            obtain ⟨drawn, length, draws, rfl⟩ := (makes _ _ _ _ _).mp ran
            obtain ⟨others, otherLength, otherDraws, rfl⟩ := (otherMakes _ _ _ _ _).mp otherRan
            refine ⟨drawn ++ others, ?_, draws_append.mpr ⟨middle, draws, otherDraws⟩, ?_⟩
            · rw [List.length_append, length, otherLength]
            · simp only [← length, List.take_left, List.drop_left]
          · rintro ⟨drawn, length, draws, rfl⟩
            rw [← List.take_append_drop recipe.count drawn] at draws
            obtain ⟨middle, before, after⟩ := draws_append.mp draws
            have ran := (makes ids draw start _ middle).mpr
              ⟨drawn.take recipe.count, by simp [length], before, rfl⟩
            have otherRan := (otherMakes ids draw middle _ stop).mpr
              ⟨drawn.drop recipe.count, by simp [length], after, rfl⟩
            exact drawing_bind_eq_ok.mpr
              ⟨_, _, ran, drawing_bind_eq_ok.mpr ⟨_, _, otherRan, rfl⟩⟩

/-- What is made of the result of an evaluation. -/
theorem map {evaluation : Evaluation α} (change : α → β) (uniform : Uniform evaluation) :
    Uniform fun ids draw => change <$> evaluation ids draw := by
  have both := uniform.both (fun value _ => change value) (Uniform.pure ())
  simpa only [pure_bind, map_eq_pure_bind] using both

end Uniform

namespace Template

/-- What a part of a template gives takes at most one identifier. -/
theorem expandPart_uniform (context : TemplateContext) (part : TemplatePart) :
    Uniform fun _ draw => expandPart context draw part := by
  cases part with
  | literal c => exact .pure _
  | hole placeholder source =>
      cases placeholder with
      | identifier => exact .draw
      | _ =>
          simp only [expandPart]
          cases lookUp context _ with
          | ok value => exact .pure _
          | error fault => exact .throw fault

theorem expandParts_uniform (context : TemplateContext) (parts : List TemplatePart) :
    Uniform fun _ draw => expandParts context draw parts := by
  induction parts with
  | nil => exact .pure _
  | cons part rest inductionHypothesis =>
      exact (expandPart_uniform context part).both (· ++ ·) inductionHypothesis

theorem expand_uniform (template : String) (context : TemplateContext) :
    Uniform fun _ draw => expand template context draw :=
  expandParts_uniform context _

mutual

theorem expandValue_uniform (context : TemplateContext) (value : Value) :
    Uniform fun _ draw => expandValue context draw value := by
  cases value with
  | str text => simpa [expandValue] using (expand_uniform text context).map Value.str
  | list items => simpa [expandValue] using (expandItems_uniform context items).map Value.list
  | tuple items => simpa [expandValue] using (expandItems_uniform context items).map Value.tuple
  | map entries =>
      simpa [expandValue] using
        (expandEntries_uniform context entries).map fun made => Value.map (Entries.ofList made)
  | _ =>
      simp only [expandValue]
      exact .pure _

theorem expandItems_uniform (context : TemplateContext) (items : List Value) :
    Uniform fun _ draw => expandItems context draw items := by
  cases items with
  | nil =>
      simp only [expandItems]
      exact .pure _
  | cons item rest =>
      simp only [expandItems]
      exact (expandValue_uniform context item).both (· :: ·) (expandItems_uniform context rest)

theorem expandEntries_uniform (context : TemplateContext) (entries : List (Value × Value)) :
    Uniform fun _ draw => expandEntries context draw entries := by
  cases entries with
  | nil =>
      simp only [expandEntries]
      exact .pure _
  | cons entry rest =>
      obtain ⟨key, item⟩ := entry
      have newItem := expandValue_uniform context item
      have others := expandEntries_uniform context rest
      cases key with
      | str text =>
          have whole := (expand_uniform text context).both
            (fun newKey made => (Value.str newKey, made.1) :: made.2) (newItem.both Prod.mk others)
          simpa [expandEntries] using whole
      | _ =>
          simp only [expandEntries, pure_bind]
          exact newItem.both (fun newItem made => (_, newItem) :: made) others

end

end Template

end Structex
