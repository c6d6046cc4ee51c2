import Structex.Rule.Basic

/-!
# Evaluation in a larger context

Expanding templates and applying rules use their context only through identifiers and faults. So
they give the same when the context is extended by a state that drawing identifiers does not
touch, such as a log: the extended run is the lifted one.
-/

namespace Structex

section

variable {σ : Type} {n : Type → Type} [Monad n] [MonadExceptOf EvaluationFault n]

/-- A fault of the inner context is the same fault of the extended one. -/
theorem liftM_throw {α : Type} (fault : EvaluationFault) :
    (liftM (throw fault : n α) : StateT σ n α) = throw fault :=
  rfl

variable [LawfulMonad n]

namespace Template

/-- A part of a template expands in the extended context as in the inner one. -/
theorem expandPart_liftM (context : TemplateContext) (draw : n String) (part : TemplatePart) :
    expandPart context (liftM draw : StateT σ n String) part =
      liftM (expandPart context draw part) := by
  cases part with
  | literal c => simp [expandPart]
  | hole placeholder source =>
      cases placeholder with
      | identifier => simp [expandPart]
      | _ =>
          simp only [expandPart]
          cases lookUp context _ with
          | ok value => simp
          | error fault => simp [liftM_throw]

/-- Parts of a template expand in the extended context as in the inner one. -/
theorem expandParts_liftM (context : TemplateContext) (draw : n String)
    (parts : List TemplatePart) :
    expandParts context (liftM draw : StateT σ n String) parts =
      liftM (expandParts context draw parts) := by
  induction parts with
  | nil => simp [expandParts]
  | cons part rest inductionHypothesis =>
      simp [expandParts, expandPart_liftM, inductionHypothesis]

/-- A template expands in the extended context as in the inner one. -/
theorem expand_liftM (template : String) (context : TemplateContext) (draw : n String) :
    expand template context (liftM draw : StateT σ n String) =
      liftM (expand template context draw) :=
  expandParts_liftM context draw _

mutual

/-- A value expands in the extended context as in the inner one. -/
theorem expandValue_liftM (context : TemplateContext) (draw : n String) (value : Value) :
    expandValue context (liftM draw : StateT σ n String) value =
      liftM (expandValue context draw value) := by
  cases value with
  | str text => simp [expandValue, expand_liftM]
  | list items => simp [expandValue, expandItems_liftM]
  | tuple items => simp [expandValue, expandItems_liftM]
  | map entries => simp [expandValue, expandEntries_liftM]
  | _ => simp [expandValue]

/-- Items expand in the extended context as in the inner one. -/
theorem expandItems_liftM (context : TemplateContext) (draw : n String) (items : List Value) :
    expandItems context (liftM draw : StateT σ n String) items =
      liftM (expandItems context draw items) := by
  cases items with
  | nil => simp [expandItems]
  | cons item rest => simp [expandItems, expandValue_liftM, expandItems_liftM]

/-- Entries expand in the extended context as in the inner one. -/
theorem expandEntries_liftM (context : TemplateContext) (draw : n String)
    (entries : List (Value × Value)) :
    expandEntries context (liftM draw : StateT σ n String) entries =
      liftM (expandEntries context draw entries) := by
  cases entries with
  | nil => simp [expandEntries]
  | cons entry rest =>
      obtain ⟨key, item⟩ := entry
      cases key <;>
        simp [expandEntries, expand_liftM, expandValue_liftM, expandEntries_liftM]

end

end Template

namespace Rule

/-- A result is put into the extended context through the inner one. -/
theorem orThrow_liftM {α : Type} (result : Except EvaluationFault α) :
    (orThrow result : StateT σ n α) = liftM (orThrow result : n α) := by
  cases result with
  | ok value => simp [orThrow]
  | error fault => simp [orThrow, liftM_throw]

/-- The reaction to an admitted payload is the same in the extended context. -/
theorem reaction_liftM (rule : Rule) (document : Document) (payload : String) (draw : n String) :
    rule.reaction document payload (liftM draw : StateT σ n String) =
      liftM (rule.reaction document payload draw) := by
  simp [reaction, Template.expand_liftM, Template.expandValue_liftM]

/-- A rule makes the same of a document in the extended context. -/
theorem fire?_liftM (rule : Rule) (document : Document) (draw : n String) :
    rule.fire? document (liftM draw : StateT σ n String) =
      liftM (rule.fire? document draw) := by
  simp only [fire?, orThrow_liftM, liftM_bind]
  congr 1
  funext watched
  cases watched with
  | false => simp
  | true =>
      simp only [if_true, liftM_bind]
      congr 1
      funext payload
      cases rule.admits payload with
      | false => simp
      | true => simp [reaction_liftM]

end Rule

end

end Structex
