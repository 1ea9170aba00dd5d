import AgentGraph.Proofs.Serving

/-! The order in which branches move does not matter.

* `Runnable.sequentially`: a runnable run with the branches of a parallel node one after another.
* `inTurn`, `Runnable.sequentially_parallel`: what that means for a parallel node.
* `schedules_agree`: every schedule comes to what running them one after another comes to, and shows
  the same events and calls up to order. -/
namespace AgentGraph
set_option autoImplicit false

variable {μ : Type} {answer : μ → Request → Except Failure String}

/-! ## One branch after another -/

namespace Runnable

/-- Runs a runnable, with the branches of every parallel node one after another. -/
def sequentially (answer : μ → Request → Except Failure String) (r : Runnable μ) (c : Context) :
    Run μ Unit :=
  (r.executable.invoke c).sequentially answer

end Runnable

theorem runAll_eq_map (ps : List (Process μ)) : Process.runAll (.of answer) ps () =
    ⟨ps.map fun p => (p.sequentially answer).outcome, (),
      ps.map fun p => (p.sequentially answer).log⟩ := by
  induction ps with
  | nil => rfl
  | cons p rest ih =>
    simp only [Process.runAll, List.map_cons, Process.sequentially] at ih ⊢
    rw [ih]

/-- A parallel node run in turn: every branch starts from one snapshot of the scope and is run to
its end, also after another one has failed, and then they are gathered. -/
def inTurn (answer : μ → Request → Except Failure String) (id name : String)
    (branches : List (Runnable μ)) (pool : Nat) (key : Option String) (c : Context) : Run μ Unit :=
  let start : Context := ⟨c.scope.branch, c.directive, c.ambient⟩
  let runs := branches.map fun b => b.sequentially answer start
  let after := (c.withScope (c.scope.record id name)).withDirective none
  let outcome := gather key after (runs.map Run.outcome)
  ⟨outcome, (), .event (.unitStarted id .parallel) (.fork (Executable.permits pool)
    (runs.map Run.log) (.event (.closing id outcome.value) .nil))⟩

theorem Runnable.sequentially_parallel (id name : String) (branches : List (Runnable μ))
    (pool : Nat) (key : Option String) (c : Context) :
    (Runnable.parallel id name branches pool key).sequentially answer c =
      inTurn answer id name branches pool key c := by
  let start : Context := ⟨c.scope.branch, c.directive, c.ambient⟩
  let after := (c.withScope (c.scope.record id name)).withDirective none
  let ends := Process.runAll (.of answer)
    ((branches.map executable).map fun x => x.invoke start) ()
  have hrun : ((Executable.parallel id name (branches.map executable) pool key).invoke
      c).sequentially answer =
        let outcome := Executable.join key after ends.outcomes
        ⟨outcome, (), .event (.unitStarted id .parallel) (.fork (Executable.permits pool)
          ends.logs (.event (.closing id outcome.value) .nil))⟩ := rfl
  have houtcomes : ends.outcomes =
      (branches.map fun b => b.sequentially answer start).map Run.outcome := by
    rw [show ends = _ from runAll_eq_map _]
    simp only [List.map_map]
    rfl
  have hlogs : ends.logs = (branches.map fun b => b.sequentially answer start).map Run.log := by
    rw [show ends = _ from runAll_eq_map _]
    simp only [List.map_map]
    rfl
  rw [sequentially, executable_parallel, hrun, houtcomes, hlogs, join_eq_gather]
  rfl

/-! ## Any schedule -/

section Schedules
variable {r : Runnable μ} {c : Context} {actions : List (Action μ)}

theorem Runnable.ended_of_steps {o : Outcome}
    (h : Steps (.of answer) (.active (r.executable.invoke c)) actions (.ended o)) :
    o = (r.sequentially answer c).outcome ∧
      (actions.filterMap Action.event?).Perm (r.sequentially answer c).log.events ∧
      (actions.filterMap Action.call?).Perm (r.sequentially answer c).log.calls := by
  obtain ⟨log, hproduces, hshows⟩ := produces_of_steps h
  have hrun : r.sequentially answer c = ⟨o, (), log⟩ := hproduces.eq_run
  rw [hrun, ← Log.filterMap_event_actions, ← Log.filterMap_call_actions]
  exact ⟨rfl, hshows.perm.filterMap _, hshows.perm.filterMap _⟩

/-- Wherever a schedule is, it can go on to its end. -/
theorem Runnable.ends_from {t : Thread μ}
    (h : Steps (.of answer) (.active (r.executable.invoke c)) actions t) :
    ∃ more, Steps (.of answer) t more (.ended (r.sequentially answer c).outcome) := by
  have hlive : t.Live := h.live (.active (r.live c))
  have hreplies : ∀ model request, ∃ reply, Replies.of answer model request reply :=
    fun model request => ⟨answer model request, rfl⟩
  obtain ⟨more, o, hmore⟩ := hlive.able hreplies
  rw [h.admitted_eq rfl] at hmore
  obtain ⟨ho, -, -⟩ := Runnable.ended_of_steps (h.trans hmore)
  exact ⟨more, ho ▸ hmore⟩

end Schedules

/-- Every schedule comes to what running the branches one after another comes to, and shows the same
events and calls up to order; and wherever a schedule is, it can go on to that end. -/
theorem schedules_agree (answer : μ → Request → Except Failure String) :
    (∀ (r : Runnable μ) (c : Context) (actions : List (Action μ)) (o : Outcome),
      Steps (.of answer) (.active (r.executable.invoke c)) actions (.ended o) →
        o = (r.sequentially answer c).outcome ∧
        (actions.filterMap Action.event?).Perm (r.sequentially answer c).log.events ∧
        (actions.filterMap Action.call?).Perm (r.sequentially answer c).log.calls) ∧
    (∀ (r : Runnable μ) (c : Context) (actions : List (Action μ)) (t : Thread μ),
      Steps (.of answer) (.active (r.executable.invoke c)) actions t →
        ∃ more, Steps (.of answer) t more (.ended (r.sequentially answer c).outcome)) ∧
    ∀ (id name : String) (branches : List (Runnable μ)) (pool : Nat) (key : Option String)
      (c : Context),
      (Runnable.parallel id name branches pool key).sequentially answer c =
        inTurn answer id name branches pool key c := by
  refine ⟨fun r c actions o h => ?_, fun r c actions t h => ?_, ?_⟩
  · exact Runnable.ended_of_steps h
  · exact Runnable.ends_from h
  · exact Runnable.sequentially_parallel

end AgentGraph
