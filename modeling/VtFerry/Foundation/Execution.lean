import Mathlib.Data.List.Basic

/-!
# Executions of a deterministic labelled system

A system is a function `step` from a state and an event to the next state; an
event carries every choice that is not the system's own.  An execution is a
list of events.  The induction over executions is done here once, in two
forms: an invariant that every event preserves, and an invariant that the
events obeying a rule preserve.  What happened along an execution can be noted
beside the states; an invariant may then speak of the notes as well.
-/

universe u v w

namespace Execution

variable {State : Type u} {Event : Type v} {Note : Type w}
variable (step : State → Event → State)

def run (state : State) (events : List Event) : State :=
  events.foldl step state

@[simp] theorem run_nil (state : State) : run step state [] = state :=
  rfl

@[simp] theorem run_cons (state : State) (event : Event) (events : List Event) :
    run step state (event :: events) = run step (step state event) events :=
  rfl

theorem run_append (state : State) (first second : List Event) :
    run step state (first ++ second) =
      run step (run step state first) second :=
  List.foldl_append

/-- Every event happens in a state in which `rule` allows it. -/
def Obeys (rule : State → Event → Prop) : State → List Event → Prop
  | _, [] => True
  | state, event :: events =>
    rule state event ∧ Obeys rule (step state event) events

instance Obeys.decidable (rule : State → Event → Prop)
    [∀ state event, Decidable (rule state event)] :
    ∀ state events, Decidable (Obeys step rule state events)
  | _, [] => isTrue trivial
  | state, event :: events =>
    @instDecidableAnd _ _ _ (Obeys.decidable rule (step state event) events)

/-- What `notes` takes down along an execution, oldest first. -/
def trail (notes : State → Event → List Note) :
    State → List Event → List Note
  | _, [] => []
  | state, event :: events =>
    notes state event ++ trail notes (step state event) events

variable {step}
variable {state : State}
variable {events : List Event}
variable {rule : State → Event → Prop}

theorem obeys_append {first second : List Event} :
    Obeys step rule state (first ++ second) ↔
      Obeys step rule state first ∧ Obeys step rule (run step state first) second := by
  induction first generalizing state with
  | nil => exact ⟨fun rest => ⟨trivial, rest⟩, And.right⟩
  | cons event first induction =>
    simp only [List.cons_append, Obeys, run_cons, induction, and_assoc]

variable {invariant : State → Prop}

/-- An invariant kept by the events that obey the rule holds after every
execution that obeys it. -/
theorem invariant_of_obeys
    (preserved : ∀ state event, invariant state → rule state event → invariant (step state event))
    (initially : invariant state) (obeyed : Obeys step rule state events) :
    invariant (run step state events) := by
  induction events generalizing state with
  | nil => exact initially
  | cons event events induction =>
    obtain ⟨allowed, rest⟩ := obeyed
    exact induction (preserved state event initially allowed) rest

/-- When an event keeps the invariant exactly if the rule allows it, the
invariant holds all along an execution exactly if the execution obeys the
rule. -/
theorem invariant_iff_obeys {proper : State → Event → Prop}
    (kept : ∀ state event, invariant state → proper state event →
      (invariant (step state event) ↔ rule state event)) (initially : invariant state)
    (obeyed : Obeys step proper state events) :
    (∀ before after, events = before ++ after →
      invariant (run step state before)) ↔ Obeys step rule state events := by
  induction events generalizing state with
  | nil =>
    refine ⟨fun _ => trivial, fun _ before after split => ?_⟩
    obtain ⟨rfl, rfl⟩ := List.append_eq_nil_iff.mp split.symm
    exact initially
  | cons event events induction =>
    obtain ⟨allowed, rest⟩ := obeyed
    constructor
    · intro always
      have next : invariant (step state event) :=
        always [event] events rfl
      refine ⟨(kept state event initially allowed).mp next, ?_⟩
      apply (induction next rest).mp
      intro before after split
      exact always (event :: before) after (by rw [split]; rfl)
    · rintro ⟨ruled, rest_ruled⟩ before after split
      have next := (kept state event initially allowed).mpr ruled
      cases before with
      | nil => exact initially
      | cons first before =>
        obtain ⟨rfl, rest_split⟩ := List.cons.inj split
        exact (induction next rest).mpr rest_ruled before after rest_split

/-- An invariant kept by every event holds after every execution. -/
theorem invariant_of_step
    (preserved : ∀ state event, invariant state → invariant (step state event))
    (initially : invariant state) (events : List Event) :
    invariant (run step state events) := by
  induction events generalizing state with
  | nil => exact initially
  | cons event events induction => exact induction (preserved state event initially)

/-- An invariant of the state and the notes so far, kept by the events that
obey the rule, holds after every execution that obeys it. -/
theorem invariant_of_trail {notes : State → Event → List Note}
    {invariant : State → List Note → Prop}
    (preserved : ∀ state event taken, invariant state taken → rule state event →
      invariant (step state event) (taken ++ notes state event)) {taken : List Note}
    (initially : invariant state taken) (obeyed : Obeys step rule state events) :
    invariant (run step state events) (taken ++ trail step notes state events) := by
  induction events generalizing state taken with
  | nil => rwa [trail, List.append_nil]
  | cons event events induction =>
    obtain ⟨allowed, rest⟩ := obeyed
    rw [trail, ← List.append_assoc]
    exact induction (preserved state event taken initially allowed) rest

end Execution
