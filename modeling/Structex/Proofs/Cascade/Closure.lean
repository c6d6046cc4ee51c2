import Structex.Rule.Cascade

/-!
# What evaluations are made of

Templates, rules and cascades are evaluated in any monad with faults, and do nothing in it but draw
identifiers, note events, fail, and go on from one such step to the next. So whatever is true of
these steps and kept by sequencing is true of every evaluation. `IsKept` is what must be known of a
property for that; the evaluations follow, one lemma for each, without a word on the monad.
-/

namespace Structex

variable {m : Type → Type} [Monad m] [MonadExceptOf EvaluationFault m]

/-- A property of computations that values and faults have and that sequencing keeps. -/
structure IsKept (keeps : (α : Type) → m α → Prop) : Prop where
  pure : ∀ {α : Type} (value : α), keeps α (pure value)
  throw : ∀ {α : Type} (fault : EvaluationFault), keeps α (throw fault)
  bind : ∀ {α β : Type} {first : m α} {next : α → m β}, keeps α first →
    (∀ value, keeps β (next value)) → keeps β (first >>= next)

namespace IsKept

variable {keeps : (α : Type) → m α → Prop} {draw : m String}

/-! ## Templates -/

theorem expandPart (kept : IsKept keeps) (draws : keeps _ draw) (context : TemplateContext)
    (part : TemplatePart) : keeps _ (Template.expandPart context draw part) := by
  cases part with
  | literal c => exact kept.pure _
  | hole placeholder source =>
      cases placeholder with
      | identifier => exact draws
      | _ =>
          simp only [Template.expandPart]
          cases Template.lookUp context _ with
          | ok value => exact kept.pure _
          | error fault => exact kept.throw fault

theorem expandParts (kept : IsKept keeps) (draws : keeps _ draw) (context : TemplateContext)
    (parts : List TemplatePart) : keeps _ (Template.expandParts context draw parts) := by
  induction parts with
  | nil => exact kept.pure ""
  | cons part rest inductionHypothesis =>
      exact kept.bind (kept.expandPart draws context part) fun _ =>
        kept.bind inductionHypothesis fun _ => kept.pure _

theorem expand (kept : IsKept keeps) (draws : keeps _ draw) (template : String)
    (context : TemplateContext) : keeps _ (Template.expand template context draw) :=
  kept.expandParts draws context _

mutual

theorem expandValue (kept : IsKept keeps) (draws : keeps _ draw) (context : TemplateContext)
    (value : Value) : keeps _ (Template.expandValue context draw value) := by
  cases value with
  | str text =>
      rw [Template.expandValue]
      exact kept.bind (kept.expand draws text context) fun _ => kept.pure _
  | list items | tuple items =>
      rw [Template.expandValue]
      exact kept.bind (expandItems kept draws context items) fun _ => kept.pure _
  | map entries =>
      rw [Template.expandValue]
      exact kept.bind (expandEntries kept draws context entries) fun _ => kept.pure _
  | _ =>
      simp only [Template.expandValue]
      exact kept.pure _

theorem expandItems (kept : IsKept keeps) (draws : keeps _ draw) (context : TemplateContext)
    (items : List Value) : keeps _ (Template.expandItems context draw items) := by
  cases items with
  | nil =>
      rw [Template.expandItems]
      exact kept.pure _
  | cons item rest =>
      rw [Template.expandItems]
      exact kept.bind (expandValue kept draws context item) fun _ =>
        kept.bind (expandItems kept draws context rest) fun _ => kept.pure _

theorem expandEntries (kept : IsKept keeps) (draws : keeps _ draw) (context : TemplateContext)
    (entries : List (Value × Value)) : keeps _ (Template.expandEntries context draw entries) := by
  cases entries with
  | nil =>
      rw [Template.expandEntries]
      exact kept.pure _
  | cons entry rest =>
      obtain ⟨key, item⟩ := entry
      have others : ∀ newKey : Value, keeps _ (do
          let newItem ← Template.expandValue context draw item
          let others ← Template.expandEntries context draw rest
          return (newKey, newItem) :: others) := fun newKey =>
        kept.bind (expandValue kept draws context item) fun _ =>
          kept.bind (expandEntries kept draws context rest) fun _ => kept.pure _
      cases key with
      | str text =>
          rw [Template.expandEntries]
          exact kept.bind (kept.expand draws text context) fun _ => kept.bind (kept.pure _) others
      | _ => exact kept.bind (kept.pure _) others

end

/-! ## Rules -/

theorem orThrow (kept : IsKept keeps) {α : Type} (result : Except EvaluationFault α) :
    keeps α (Rule.orThrow result) := by
  cases result with
  | ok value => exact kept.pure value
  | error fault => exact kept.throw fault

theorem reaction (kept : IsKept keeps) (draws : keeps _ draw) (rule : Rule) (document : Document)
    (payload : String) : keeps _ (rule.reaction document payload draw) :=
  kept.bind (kept.expand draws _ _) fun _ =>
    kept.bind (kept.expandValue draws _ _) fun _ => kept.pure _

theorem fire? (kept : IsKept keeps) (draws : keeps _ draw) (rule : Rule) (document : Document) :
    keeps _ (rule.fire? document draw) := by
  refine kept.bind (kept.orThrow _) fun watched => ?_
  split
  · refine kept.bind (kept.orThrow _) fun payload => ?_
    split
    · exact kept.bind (kept.reaction draws rule document payload) fun _ => kept.pure _
    · exact kept.pure none
  · exact kept.pure none

/-! ## Cascades -/

variable {around : Surroundings m}

theorem react (kept : IsKept keeps) (draws : keeps _ around.newIdentifier)
    (notes : ∀ event, keeps _ (around.note event)) (document : Document) (rules : List Rule) :
    keeps _ (Registry.react around document rules) := by
  induction rules with
  | nil => exact kept.pure []
  | cons rule rest inductionHypothesis =>
      refine kept.bind (kept.fire? draws rule document) fun reaction => ?_
      cases reaction with
      | none => exact inductionHypothesis
      | some reaction =>
          exact kept.bind (notes _) fun _ => kept.bind inductionHypothesis fun _ => kept.pure _

theorem cascadeFrom (kept : IsKept keeps) (draws : keeps _ around.newIdentifier)
    (notes : ∀ event, keeps _ (around.note event)) (registry : Registry) (steps : Nat)
    (queue : List Document) (seen : List (Value × Value)) :
    keeps _ (registry.cascadeFrom around steps queue seen) := by
  induction steps generalizing queue seen with
  | zero =>
      cases queue with
      | nil => exact kept.pure _
      | cons document queue => exact kept.pure _
  | succ steps inductionHypothesis =>
      cases queue with
      | nil => exact kept.pure _
      | cons document queue =>
          rw [Registry.cascadeFrom]
          split
          · exact kept.bind (notes _) fun _ => inductionHypothesis queue seen
          · exact kept.bind (kept.react draws notes document registry) fun _ =>
              kept.bind (inductionHypothesis _ _) fun _ => kept.pure _

theorem cascade (kept : IsKept keeps) (draws : keeps _ around.newIdentifier)
    (notes : ∀ event, keeps _ (around.note event)) (registry : Registry) (steps : Nat)
    (document : Document) : keeps _ (registry.cascade around steps document) := by
  rw [Registry.cascade]
  split
  · exact kept.cascadeFrom draws notes registry steps _ _
  · exact kept.throw _

theorem applyOne (kept : IsKept keeps) (draws : keeps _ around.newIdentifier) (registry : Registry)
    (name : String) (document : Document) : keeps _ (registry.applyOne around name document) := by
  rw [Registry.applyOne]
  split
  · exact kept.pure none
  · exact kept.fire? draws _ document

end IsKept

end Structex
