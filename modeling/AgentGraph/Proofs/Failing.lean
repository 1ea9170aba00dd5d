import AgentGraph.Proofs.Nodes
import AgentGraph.Proofs.Serving
import AgentGraph.Proofs.Strands
import AgentGraph.Proofs.Termination

/-! Parallels of which a branch fails.

The branches of a parallel work on copies, and nothing of them is merged before all of them have ended.
So a parallel that fails leaves the scope as it was, whichever branches failed, and in whichever order
they did. Which failure it reports depends on the order of the branches alone.

* `Finished`: a branch that has been run to its end.
* `Steps.of_spread`: a parallel that has ended has run all of its branches to their ends.
* `gather_of_failure`: what comes of their ends if one of them failed.
* `parallel_of_failure`: so the first failure is reported, and the scope is as it was. -/
namespace AgentGraph
set_option autoImplicit false

variable {μ : Type} {may : Replies μ}

/-! ## Branches that have ended -/

/-- A branch that has been run to its end, and what was seen of it. -/
structure Finished (μ : Type) where
  unit : Executable μ
  seen : List (Action μ)
  outcome : Outcome

namespace Finished

/-- The branch began on the context, and came to its end by a schedule of its own. -/
def From (may : Replies μ) (start : Context) (run : Finished μ) : Prop :=
  Steps may (.active (run.unit.invoke start)) run.seen (.ended run.outcome)

def Succeeded (run : Finished μ) : Prop := ∃ value, run.outcome.value = .ok value

def Failed (run : Finished μ) (e : Failure) : Prop := run.outcome.value = .error e

theorem succeeded_or_failed (run : Finished μ) : run.Succeeded ∨ ∃ e, run.Failed e := by
  unfold Succeeded Failed
  cases run.outcome.value <;> simp

end Finished

/-- A strand that has ended does not wait, so it has come there from its start. -/
theorem Strand.finished {start : Context} {strands : List (Strand μ)} {units : List (Executable μ)}
    {outcomes : List Outcome} (hspun : ∀ s ∈ strands, s.Spun may)
    (hstarts : strands.map Strand.start = units.map fun x => x.invoke start)
    (hends : strands.map Strand.thread = outcomes.map .ended) :
    ∃ runs : List (Finished μ), runs.map Finished.unit = units ∧
      (∀ run ∈ runs, run.From may start) ∧
      runs.map Finished.seen = strands.map Strand.seen ∧
      runs.map Finished.outcome = outcomes := by
  induction strands generalizing units outcomes with
  | nil =>
    obtain rfl := List.map_eq_nil_iff.mp hstarts.symm
    obtain rfl := List.map_eq_nil_iff.mp hends.symm
    exact ⟨[], rfl, List.forall_mem_nil _, rfl, rfl⟩
  | cons s strands ih =>
    obtain ⟨x, units', rfl, hx, hunits⟩ := List.map_eq_cons_iff.mp hstarts.symm
    obtain ⟨o, outcomes', rfl, ho, houtcomes⟩ := List.map_eq_cons_iff.mp hends.symm
    have hrest : ∀ t ∈ strands, t.Spun may := fun t ht => hspun t (List.mem_cons_of_mem _ ht)
    obtain ⟨runs, rfl, hruns, hseen, rfl⟩ := ih hrest hunits.symm houtcomes.symm
    have hrun : Steps may (.active (x.invoke start)) s.seen (.ended o) := by
      rcases hspun s List.mem_cons_self with ⟨-, hwaiting⟩ | hsteps
      · cases ho.trans hwaiting
      · rwa [← hx, ← ho] at hsteps
    refine ⟨⟨x, s.seen, o⟩ :: runs, rfl, List.forall_mem_cons.mpr ⟨hrun, hruns⟩, ?_, rfl⟩
    rw [List.map_cons, List.map_cons, hseen]

theorem Steps.of_spread {units : List (Executable μ)} {pool : Nat} {key : Option String}
    {c : Context} {actions : List (Action μ)} {o : Outcome}
    (h : Steps may (.active (Executable.spread units pool key c)) actions (.ended o)) :
    ∃ runs : List (Finished μ), runs.map Finished.unit = units ∧
      (∀ run ∈ runs, run.From may c.handed) ∧ Woven (runs.map Finished.seen) actions ∧
      o = gather key (c.withDirective none) (runs.map Finished.outcome) := by
  rcases h.of_fork with ⟨-, ⟨⟩⟩ | ⟨threads, ⟨⟩, -⟩ | ⟨before, rest, outcomes, rfl, hforked, hrest⟩
  obtain ⟨strands, hstarts, hspun, hwoven, hends⟩ := hforked
  obtain ⟨runs, hunits, hruns, hseen, rfl⟩ := Strand.finished hspun hstarts hends
  rw [← hseen] at hwoven
  cases hrest with
  | step hstep hmore =>
    cases hstep with
    | finish =>
      cases hmore with
      | step hstep _ => cases hstep
      | refl =>
        refine ⟨runs, hunits, hruns, ?_, join_eq_gather _ _ _⟩
        rwa [Option.toList_none, List.append_nil, List.append_nil]

/-! ## Gathering -/

/-- The failure that comes first in the order of the branches is the one that counts. -/
theorem gather_of_failure {runs : List (Finished μ)} {run : Finished μ} (hrun : run ∈ runs)
    {f : Failure} (hfailed : run.Failed f) (key : Option String) (c : Context) :
    ∃ before first after e, runs = before ++ first :: after ∧ (∀ r ∈ before, r.Succeeded) ∧
      first.Failed e ∧ gather key c (runs.map Finished.outcome) = ⟨.error e, c⟩ := by
  cases hfirst : runs.findSome? (Outcome.failure? ∘ Finished.outcome) with
  | none =>
    obtain ⟨value, hvalue⟩ :=
      Outcome.failure?_eq_none_iff.mp (List.findSome?_eq_none_iff.mp hfirst run hrun)
    cases hfailed.symm.trans hvalue
  | some e =>
    obtain ⟨before, first, after, rfl, he, hbefore⟩ := List.findSome?_eq_some_iff.mp hfirst
    refine ⟨before, first, after, e, rfl, fun r hr => ?_, ?_, ?_⟩
    · exact Outcome.failure?_eq_none_iff.mp (hbefore r hr)
    · exact Outcome.failure?_eq_some_iff.mp he
    · simp only [gather, List.findSome?_map, hfirst]

theorem gather_of_success {runs : List (Finished μ)} (h : ∀ run ∈ runs, run.Succeeded)
    (key : Option String) (c : Context) :
    ∃ value, (gather key c (runs.map Finished.outcome)).value = .ok value := by
  have hnone : runs.findSome? (Outcome.failure? ∘ Finished.outcome) = none :=
    List.findSome?_eq_none_iff.mpr fun run hrun => Outcome.failure?_eq_none_iff.mpr (h run hrun)
  simp only [gather, List.findSome?_map, hnone]
  exact ⟨_, rfl⟩

/-! ## Parallels -/

/-- However its branches move and whatever the models reply, a parallel that comes to its end has run
each of its branches to its end, by a schedule of its own, and nothing else was seen meanwhile. It
succeeds if all of them do. If one of them fails, it fails as the first one does in their order that
failed, whichever failed first in time, and its context is left without the directive and with the very
scope that it had. It does not go on for ever; and if its branches never lack a permit, it can be
brought to its end from wherever it is. -/
theorem parallel_of_failure (may : Replies μ) (id name : String) (units : List (Executable μ))
    (pool : Nat) (key : Option String) (c : Context) :
    let start := (Executable.parallel id name units pool key).act c
    (∀ (actions : List (Action μ)) (o : Outcome),
      Steps may (.active start) actions (.ended o) →
        ∃ runs : List (Finished μ), runs.map Finished.unit = units ∧
          (∀ run ∈ runs, run.From may c.handed) ∧ Woven (runs.map Finished.seen) actions ∧
          ((∀ run ∈ runs, run.Succeeded) → ∃ value, o.value = .ok value) ∧
          ∀ run ∈ runs, ∀ f, run.Failed f → ∃ before first after e,
            runs = before ++ first :: after ∧ (∀ r ∈ before, r.Succeeded) ∧ first.Failed e ∧
            o = ⟨.error e, c.withDirective none⟩ ∧ o.context.scope = c.scope) ∧
    (¬ ∃ thread : Nat → Thread μ, thread 0 = .active start ∧
      ∀ n, ∃ action, Step may (thread n) action (thread (n + 1))) ∧
    ((∀ x ∈ units, (x.invoke c.handed).Live) →
      (∀ model request, ∃ reply, may model request reply) →
        ∀ (actions : List (Action μ)) (t : Thread μ), Steps may (.active start) actions t →
          ∃ more o, Steps may t more (.ended o)) := by
  refine ⟨fun actions o h => ?_, Process.no_endless_schedule _, fun hunits hmay actions t h => ?_⟩
  · obtain ⟨runs, hunits, hruns, hwoven, rfl⟩ := h.of_spread
    refine ⟨runs, hunits, hruns, hwoven, fun hall => gather_of_success hall _ _, ?_⟩
    intro run hrun f hfailed
    obtain ⟨before, first, after, e, hsplit, hbefore, hfirst, hgather⟩ :=
      gather_of_failure hrun hfailed key (c.withDirective none)
    refine ⟨before, first, after, e, hsplit, hbefore, hfirst, hgather, ?_⟩
    rw [hgather]
    rfl
  · have hlive : ((Executable.parallel id name units pool key).act c).Live := by
      refine .fork (Nat.lt_of_lt_of_le Nat.zero_lt_one (Nat.le_max_left _ _)) ?_ fun _ => .done
      intro p hp
      obtain ⟨x, hx, rfl⟩ := List.mem_map.mp hp
      exact hunits x hx
    obtain ⟨more, o, hmore⟩ := (h.live (.active hlive)).able hmay
    rw [h.admitted_eq rfl] at hmore
    exact ⟨more, o, hmore⟩

namespace Duet

def singers : List (Executable Unit) :=
  [agent "first" "melody", agent "second" "harmony"].map Runnable.executable

theorem steps_of_failure (id key : String) (f : Failure) (c : Context) : ∃ seen c',
    Steps .any (.active ((agent id key).executable.invoke c))
      (.event (.unitStarted id .agent) :: seen) (.ended ⟨.error f, c'⟩) :=
  ⟨_, _, .step .report (.step .request (.step (@Step.reply _ .any () _ _ (.error f) trivial)
    (.step .report (.step .finish .refl))))⟩

/-- The second agent gets the permit first, and both of them fail. -/
theorem steps_of_discord : ∃ more : List (Action Unit),
    Steps .any (.active ((Executable.parallel "entry" "entry" singers 1 none).act (.ofInput input)))
      (.event (.unitStarted "second" .agent) :: more)
      (.ended ⟨.error (.modelInvocation "no breath"), .ofInput input⟩) := by
  let start := (Context.ofInput input).handed
  let melody := (agent "first" "melody").executable.invoke start
  let harmony := (agent "second" "harmony").executable.invoke start
  let next := fun outcomes : List Outcome =>
    (.done (Executable.join none ((Context.ofInput input).withDirective none) outcomes) : Process Unit)
  obtain ⟨seen, c, hsecond⟩ :=
    steps_of_failure "second" "harmony" (.modelInvocation "no voice") start
  obtain ⟨seen', c', hfirst⟩ :=
    steps_of_failure "first" "melody" (.modelInvocation "no breath") start
  let sung : Outcome := ⟨.error (.modelInvocation "no voice"), c⟩
  let sung' : Outcome := ⟨.error (.modelInvocation "no breath"), c'⟩
  have hfree : Thread.holders [.waiting melody, .waiting harmony] < 1 := Nat.zero_lt_one
  have hfree' : Thread.holders [.waiting melody, .ended sung] < 1 := Nat.zero_lt_one
  have hbegin := Steps.single (@Step.acquire _ .any 1 [.waiting melody] [] harmony next hfree)
  have hgo := @Steps.branch _ .any _ _ _ 1 [.waiting melody] [] next hsecond
  have hbegin' := Steps.single (@Step.acquire _ .any 1 [] [.ended sung] melody next hfree')
  have hgo' := @Steps.branch _ .any _ _ _ 1 [] [.ended sung] next hfirst
  have hjoin := Steps.single (@Step.join _ .any 1 [sung', sung] next)
  exact ⟨_, (Steps.single .fork).trans (hbegin.trans (hgo.trans (hbegin'.trans (hgo'.trans
    (hjoin.trans (.single .finish))))))⟩

end Duet

open Duet in
/-- The second agent fails first, and the failure of the first one is reported. -/
theorem parallel_of_failure_duet : ∃ (more : List (Action Unit)) (o : Outcome)
    (runs : List (Finished Unit)),
    Steps .any (.active ((Executable.parallel "entry" "entry" singers 1 none).act (.ofInput input)))
      (.event (.unitStarted "second" .agent) :: more) (.ended o) ∧
    runs.map Finished.unit = singers ∧ (∃ run ∈ runs, run.Failed (.modelInvocation "no breath")) ∧
    o.value = .error (.modelInvocation "no breath") ∧ o.context.scope = .ofState input ∧
    (∀ x ∈ singers, (x.invoke (Context.ofInput input).handed).Live) ∧ ∃ actions o',
      Steps .any (.active ((Executable.parallel "entry" "entry" singers 1 none).act (.ofInput input)))
        actions (.ended o') := by
  obtain ⟨hends, -, hable⟩ :=
    parallel_of_failure .any "entry" "entry" singers 1 none (.ofInput input)
  obtain ⟨more, h⟩ := steps_of_discord
  obtain ⟨runs, hunits, -, -, hsuccess, hfailure⟩ := hends _ _ h
  have hlive : ∀ x ∈ singers, (x.invoke (Context.ofInput input).handed).Live := by
    intro x hx
    obtain ⟨r, -, rfl⟩ := List.mem_map.mp hx
    exact r.live _
  have hreplies : ∀ (model : Unit) (request : Request), ∃ reply, Replies.any model request reply :=
    fun _ _ => ⟨.ok "", trivial⟩
  -- If no run had failed, the parallel would have succeeded.
  obtain ⟨run, hrun, f, hfailed⟩ : ∃ run ∈ runs, ∃ f, run.Failed f := by
    by_contra hnone
    have hall : ∀ run ∈ runs, run.Succeeded := fun run hrun =>
      run.succeeded_or_failed.resolve_right fun hfailed => hnone ⟨run, hrun, hfailed⟩
    obtain ⟨value, hvalue⟩ := hsuccess hall
    cases hvalue
  obtain ⟨before, first, after, e, rfl, -, hfirst, ho, hscope⟩ := hfailure run hrun f hfailed
  obtain rfl := Except.error.inj (congrArg Outcome.value ho)
  exact ⟨more, _, _, h, hunits, ⟨first, List.mem_append_cons_self, hfirst⟩, rfl, hscope, hlive,
    hable hlive hreplies [] _ .refl⟩

end AgentGraph
