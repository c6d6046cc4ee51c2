import Structex.Rule.Registry

/-!
# Cascades

How a document runs through all rules, and how reactions run through them again where their rule
says so. Documents wait in a queue; one whose key and type were expanded before is passed over.
The keys of reactions can be new every time, so a cascade need not come to an end: it is run for a
number of steps, and running out of them is an outcome of its own.
-/

namespace Structex

/-- What an evaluation draws on and tells. -/
structure Surroundings (m : Type → Type) where
  newIdentifier : m String
  note : Event → m Unit

namespace Registry

/-- The key and the type of a document, by which a cascade knows it. -/
def identity (document : Document) : Value × Value :=
  (document.key, document.kind)

/-- Whether a document of this key and type is among those seen. -/
def isSeen (seen : List (Value × Value)) (document : Document) : Bool :=
  seen.any fun pair => pair.1.sameKey document.key && pair.2.sameKey document.kind

/-- Whether the reactions of a rule run through the rules again. -/
def continues (registry : Registry) (rule : Rule) : Bool :=
  match rule.following with
  | some name => !name.isEmpty && registry.has name
  | none => false

section

variable {m : Type → Type} [Monad m] [MonadExceptOf EvaluationFault m]

/-- The reactions of rules to a document, in order, each with its rule. -/
def react (around : Surroundings m) (document : Document) : List Rule → m (List (Rule × Document))
  | [] => pure []
  | rule :: rest => do
    match ← rule.fire? document around.newIdentifier with
    | none => react around document rest
    | some reaction =>
      around.note (.emitted rule.name reaction.key reaction.kind)
      let others ← react around document rest
      return (rule, reaction) :: others

/-- Works a queue of documents off, at most so many of them; `none` if some are left then. -/
def cascadeFrom (registry : Registry) (around : Surroundings m) :
    (steps : Nat) → (queue : List Document) → (seen : List (Value × Value)) →
    m (Option (List Document))
  | _, [], _ => pure (some [])
  | 0, _ :: _, _ => pure none
  | steps + 1, document :: queue, seen => do
    if isSeen seen document then
      around.note (.skipped document.key document.kind)
      cascadeFrom registry around steps queue seen
    else
      let reactions ← react around document registry
      let again := (reactions.filter fun entry => registry.continues entry.1).map (·.2)
      let later ← cascadeFrom registry around steps (queue ++ again) (identity document :: seen)
      return later.map (reactions.map (·.2) ++ ·)

/-- All reactions to a document, those that run through the rules again after it in breadth-first
order. The rules are those registered at the start. -/
def cascade (registry : Registry) (around : Surroundings m) (steps : Nat) (document : Document) :
    m (Option (List Document)) := do
  if document.key.isKey && document.kind.isKey then
    cascadeFrom registry around steps [document] []
  else
    throw EvaluationFault.unhashable

/-- The reaction of the rule of a name alone. -/
def applyOne (registry : Registry) (around : Surroundings m) (name : String)
    (document : Document) : m (Option Document) :=
  match registry.get? name with
  | none => pure none
  | some rule => rule.fire? document around.newIdentifier

end

end Registry

end Structex
