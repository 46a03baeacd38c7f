import MeshScript.Event
/-!
# MeshScript.Stage -- steps that can fail and leave a trail

`Logged ε α` is an outcome together with the events that led to it. Binding runs the
second step only after a success, and the events of both stand one after the other; a
failure keeps the events recorded before it.

`Stage α β` is a step from `α` to `β` of that kind. Stages are chained with `andThen`
from `identity`: the first one that fails ends the chain, whatever follows.
-/

namespace MeshScript

/-! ## Outcomes with their events -/

/-- **An outcome and its events**, first to last. -/
structure Logged (ε α : Type) where
  outcome : Except ε α
  events : List Event

namespace Logged

/-- Goes on with `next` after a success. -/
protected def bind {ε α β : Type} (first : Logged ε α) (next : α → Logged ε β) : Logged ε β :=
  match first.outcome with
  | .error e => ⟨.error e, first.events⟩
  | .ok a => ⟨(next a).outcome, first.events ++ (next a).events⟩

instance {ε : Type} : Monad (Logged ε) where
  pure a := ⟨.ok a, []⟩
  bind := Logged.bind

/-- A failure without events. -/
def fail {ε α : Type} (e : ε) : Logged ε α := ⟨.error e, []⟩

/-- A success with the given events. -/
def succeed {ε α : Type} (a : α) (events : List Event) : Logged ε α := ⟨.ok a, events⟩

@[simp] theorem pure_outcome {ε α : Type} (a : α) :
    (pure a : Logged ε α).outcome = .ok a := rfl

@[simp] theorem pure_events {ε α : Type} (a : α) : (pure a : Logged ε α).events = [] := rfl

/-- The outcome of a chain is the chain of the outcomes. -/
theorem bind_outcome {ε α β : Type} (first : Logged ε α) (next : α → Logged ε β) :
    (first >>= next).outcome = first.outcome >>= fun a => (next a).outcome := by
  show (Logged.bind first next).outcome = _
  unfold Logged.bind
  cases first.outcome <;> rfl

/-- Going on twice is going on with both steps in one. -/
theorem bind_assoc {ε α β γ : Type} (first : Logged ε α) (next : α → Logged ε β)
    (last : β → Logged ε γ) :
    (first >>= next) >>= last = first >>= fun a => next a >>= last := by
  show Logged.bind (Logged.bind first next) last =
    Logged.bind first fun a => Logged.bind (next a) last
  unfold Logged.bind
  cases first.outcome with
  | error e => rfl
  | ok a =>
    cases hnext : (next a).outcome with
    | error e => simp [hnext]
    | ok b => simp [hnext, List.append_assoc]

end Logged

/-! ## Stages -/

/-- Why a stage fails. -/
inductive StageError
  /-- The refinement field has no surfaces to refer to: no line carried a surface list
  for the group with this token. -/
  | noSurfaceList (token : Text)
  deriving DecidableEq, Repr

/-- The wording of the failure. -/
def StageError.message : StageError → Text
  | noSurfaceList token =>
    "no line contains the wall-group token '".toList ++ token ++
      "'; refinement field surface list is unresolved".toList

/-- **A stage** from `α` to `β`, which can fail and records events. -/
structure Stage (α β : Type) where
  run : α → Logged StageError β

namespace Stage

/-- The stage that changes nothing. -/
def identity {α : Type} : Stage α α := ⟨pure⟩

/-- The stage that fails on every input. -/
def failing {α β : Type} (e : StageError) : Stage α β := ⟨fun _ => .fail e⟩

/-- First one stage, then another on its result. -/
def andThen {α β γ : Type} (first : Stage α β) (second : Stage β γ) : Stage α γ :=
  ⟨fun input => first.run input >>= second.run⟩

theorem andThen_outcome {α β γ : Type} (first : Stage α β) (second : Stage β γ) (input : α) :
    ((first.andThen second).run input).outcome =
      (first.run input).outcome >>= fun middle => (second.run middle).outcome :=
  Logged.bind_outcome _ _

theorem identity_andThen {α β : Type} (stage : Stage α β) : identity.andThen stage = stage :=
  rfl

theorem andThen_assoc {α β γ δ : Type} (first : Stage α β) (second : Stage β γ)
    (third : Stage γ δ) :
    (first.andThen second).andThen third = first.andThen (second.andThen third) :=
  congrArg Stage.mk (funext fun input => Logged.bind_assoc (first.run input) second.run third.run)

end Stage

end MeshScript
