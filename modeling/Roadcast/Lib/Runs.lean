import Mathlib.Tactic.TypeStar

/-!
# Runs of a deterministic machine

`Meets` says that every event of a run meets a condition on the state in which it arrives, and
`Meets.invariant` is the induction rule for such runs. `Inevitable` says that the possible events
lead to a goal in whatever order they happen; a measure that decreases shows it. `foldl_observe` is
the rule for a part of the state that makes a machine of its own: it handles the events that it sees
and ignores the others.
`foldl_emitted` is the rule for a machine that runs on what the steps of another one come to, each of
which may depend on the state.
-/

namespace Roadcast.Runs

variable {S E : Type*} (step : S → E → S) (good : S → E → Prop)

/-- Every event of a run meets a condition on the state in which it is handled. -/
def Meets : S → List E → Prop
  | _, [] => True
  | state, event :: rest => good state event ∧ Meets (step state event) rest

/-- Whether a run meets a decidable condition can be computed. -/
def Meets.decidable [hgood : ∀ state event, Decidable (good state event)] :
    (state : S) → (events : List E) → Decidable (Meets step good state events)
  | _, [] => isTrue trivial
  | state, event :: rest =>
    @instDecidableAnd _ _ (hgood state event) (Meets.decidable (step state event) rest)

instance [∀ state event, Decidable (good state event)] (state : S) (events : List E) :
    Decidable (Meets step good state events) :=
  Meets.decidable step good state events

variable {step good}

/-- An invariant along a run whose events all meet a condition. -/
theorem Meets.invariant {I : S → Prop} {state : S} {events : List E}
    (hmeets : Meets step good state events)
    (hstep : ∀ event ∈ events, ∀ state, good state event → I state → I (step state event))
    (hinit : I state) : I (events.foldl step state) := by
  induction events generalizing state with
  | nil => exact hinit
  | cons event rest ih =>
    refine ih hmeets.2 (fun later hlater => ?_) ?_
    · exact hstep later (List.mem_cons_of_mem event hlater)
    · exact hstep event List.mem_cons_self state hmeets.1 hinit

/-- Whichever of the possible events happen, they lead to a goal after finitely many of them; until then
there is always one that can happen. -/
inductive Inevitable (step : S → E → S) (good : S → E → Prop) (goal : S → Prop) : S → Prop
  | reached {state : S} (h : goal state) : Inevitable step good goal state
  | pending {state : S} (hsome : ∃ event, good state event)
      (hall : ∀ event, good state event → Inevitable step good goal (step state event)) :
      Inevitable step good goal state

/-- A goal is inevitable if, up to it, an event is always possible and decreases a measure. -/
theorem Inevitable.of_measure {goal : S → Prop} (I : S → Prop) (measure : S → Nat)
    (hsome : ∀ state, I state → ∃ event, good state event)
    (hstep : ∀ state event, good state event → I state →
      goal (step state event) ∨ (I (step state event) ∧ measure (step state event) < measure state))
    {state : S} (h : I state) : Inevitable step good goal state := by
  induction hmeasure : measure state using Nat.strongRecOn generalizing state with
  | ind bound ih =>
    refine .pending (hsome state h) fun event hgood => ?_
    rcases hstep state event hgood h with hgoal | ⟨hkept, hless⟩
    · exact .reached hgoal
    · exact ih _ (hmeasure ▸ hless) hkept rfl

/-- Nothing is asked of the events. -/
theorem Meets.always (state : S) (events : List E) : Meets step (fun _ _ => True) state events := by
  induction events generalizing state with
  | nil => trivial
  | cons event rest ih => exact ⟨trivial, ih _⟩

/-- A weaker condition is met, too. -/
theorem Meets.imp {good' : S → E → Prop} {state : S} {events : List E}
    (h : Meets step good state events) (himp : ∀ state event, good state event → good' state event) :
    Meets step good' state events := by
  induction events generalizing state with
  | nil => trivial
  | cons event rest ih => exact ⟨himp state event h.1, ih h.2⟩

/-- Events that are changed in what no step looks at. -/
theorem Meets.map {f : E → E} (hsame : ∀ state event, step state (f event) = step state event)
    {state : S} {events : List E}
    (h : Meets step (fun state event => good state (f event)) state events) :
    Meets step good state (events.map f) := by
  induction events generalizing state with
  | nil => trivial
  | cons event rest ih =>
    refine ⟨h.1, ?_⟩
    rw [hsame]
    exact ih h.2

/-- What no step looks at does not change a run. -/
theorem foldl_map_same {f : E → E} (hsame : ∀ state event, step state (f event) = step state event)
    (state : S) (events : List E) : (events.map f).foldl step state = events.foldl step state := by
  rw [List.foldl_map]
  simp only [hsame]

/-- A part of the state that every event either leaves alone or moves by its own step, as long as an
invariant holds, runs through the events that it sees. -/
theorem foldl_observe {T V : Type*} (I : S → Prop) (part : S → T) {view : E → Option V}
    {step' : T → V → T} {events : List E}
    (hstep : ∀ event ∈ events, ∀ state, I state → I (step state event) ∧
      part (step state event) = (view event).elim (part state) (step' (part state)))
    {state : S} (hinit : I state) :
    part (events.foldl step state) = (events.filterMap view).foldl step' (part state) := by
  induction events generalizing state with
  | nil => rfl
  | cons event rest ih =>
    obtain ⟨hkept, hpart⟩ := hstep event List.mem_cons_self state hinit
    have hrest := ih (fun later hlater => hstep later (List.mem_cons_of_mem event hlater)) hkept
    rw [List.foldl_cons, hrest, hpart]
    cases hview : view event with
    | none => rw [List.filterMap_cons_none hview, Option.elim_none]
    | some seen => rw [List.filterMap_cons_some hview, List.foldl_cons, Option.elim_some]

/-- What the steps of a run come to. -/
def emitted {V : Type*} (step : S → E → S) (emit : S → E → Option V) : S → List E → List V
  | _, [] => []
  | state, event :: rest => (emit state event).toList ++ emitted step emit (step state event) rest

/-- A view of the state that every step either leaves alone or moves by what the step comes to, as long
as an invariant holds, is a run of its own. -/
theorem foldl_emitted {T V : Type*} (I : S → Prop) (view : S → T) {emit : S → E → Option V}
    {step' : T → V → T}
    (hstep : ∀ state event, I state → I (step state event) ∧
      view (step state event) = (emit state event).elim (view state) (step' (view state)))
    {state : S} (hinit : I state) (events : List E) :
    I (events.foldl step state) ∧
      view (events.foldl step state) = (emitted step emit state events).foldl step' (view state) := by
  induction events generalizing state with
  | nil => exact ⟨hinit, rfl⟩
  | cons event rest ih =>
    obtain ⟨hkept, hview⟩ := hstep state event hinit
    obtain ⟨hlast, hrest⟩ := ih hkept
    refine ⟨hlast, ?_⟩
    rw [List.foldl_cons, hrest, hview, emitted, List.foldl_append]
    cases emit state event with
    | none => rfl
    | some seen => rfl

end Roadcast.Runs
