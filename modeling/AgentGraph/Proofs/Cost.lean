import AgentGraph.Proofs.Accounts
import AgentGraph.Proofs.Events
import AgentGraph.Proofs.Nodes
import AgentGraph.Proofs.Termination
import AgentGraph.Execute
import Mathlib.Algebra.Order.Ring.Nat

/-! How many calls a run makes.

* `Runnable.cost`: a bound on the calls of one invocation, read off the tree.
* `Visit.Orderly.calls_le`: an orderly visit makes no more calls than that.
* `Entry.calls_le_of_steps`: neither does any schedule, also one that was broken off.
* `calls_within_cost`: every run ends, and makes no more calls than its tree allows, as does every
  invocation in it. -/
namespace AgentGraph
set_option autoImplicit false

variable {μ σ : Type} {may : Replies μ}

/-! ## Costs -/

/-- A step of a plan costs a call to plan it and what the dearest sub-agent costs; at the end one
more call may compare two answers. -/
def callTally : Tally where
  agent := 1
  sequence := List.sum
  parallel _ := List.sum
  conditional := greatest
  supervisor maxSteps subs := max 1 maxSteps * (1 + greatest subs) + 1

namespace Runnable

/-- The most calls that an invocation of the runnable can make. -/
def cost (r : Runnable μ) : Nat := r.tally callTally

@[simp] theorem cost_agent (id name : String) (a : Executable.Agent μ) :
    (Runnable.agent id name a).cost = 1 := rfl

@[simp] theorem cost_sequence (id name key : String) (steps : List (Runnable μ)) :
    (Runnable.sequence id name steps key).cost = (steps.map cost).sum :=
  congrArg List.sum (tallies_eq_map callTally steps)

@[simp] theorem cost_parallel (id name : String) (branches : List (Runnable μ)) (pool : Nat)
    (key : Option String) :
    (Runnable.parallel id name branches pool key).cost = (branches.map cost).sum :=
  congrArg List.sum (tallies_eq_map callTally branches)

@[simp] theorem cost_conditional (id name : String) (routes : List (Condition × Runnable μ))
    (key : Option String) : (Runnable.conditional id name routes key).cost =
      greatest (routes.map fun route => route.2.cost) :=
  congrArg greatest (routeTallies_eq_map callTally routes)

@[simp] theorem cost_supervisor (id name : String) (s : Supervisor.Setup μ)
    (subs : List (Runnable μ)) : (Runnable.supervisor id name s subs).cost =
      max 1 s.maxSteps * (1 + greatest (subs.map cost)) + 1 :=
  congrArg (fun costs => max 1 s.maxSteps * (1 + greatest costs) + 1)
    (tallies_eq_map callTally subs)

end Runnable

/-! ## Visits -/

theorem length_calls_concat (logs : List (Log μ)) :
    (Log.concat logs).calls.length = (logs.map fun log => log.calls.length).sum := by
  rw [Log.calls_concat, List.length_flatten, List.map_map]
  rfl

theorem sum_calls_le {visits : List (Visit μ)}
    (h : ∀ v ∈ visits, v.log.calls.length ≤ v.unit.cost) :
    ((visits.map Visit.log).map fun log => log.calls.length).sum ≤
      ((visits.map Visit.unit).map Runnable.cost).sum := by
  rw [List.map_map, List.map_map]
  exact List.sum_le_sum h

namespace Supervisor

variable {id : String} {s : Setup μ} {limit bound : Nat} {rounds : List (Round μ)}
  {f : Option Failure} {ending : Log μ}

theorem calls_rounds_le (h : ∀ r ∈ rounds, r.visit.log.calls.length ≤ bound) :
    (Log.concat (rounds.map (Round.log id s))).calls.length ≤ rounds.length * (1 + bound) := by
  rw [length_calls_concat, List.map_map]
  have hround : ∀ n ∈ rounds.map ((fun log => log.calls.length) ∘ Round.log id s),
      n ≤ 1 + bound := by
    intro n hn
    obtain ⟨r, hr, rfl⟩ := List.mem_map.mp hn
    have hlength : (r.log id s).calls.length = r.visit.log.calls.length + 1 := rfl
    have hvisit := h r hr
    rw [Function.comp_apply, hlength]
    omega
  have hsum := List.sum_le_card_nsmul _ _ hround
  rwa [List.length_map, nsmul_eq_mul, Nat.cast_id] at hsum

/-- A plan that leaves a step unused has room for the call that ended it. -/
theorem Ending.calls_le {subs : List (Executable μ)} (h : Ending id s subs limit rounds f ending) :
    rounds.length * (1 + bound) + ending.calls.length ≤ limit * (1 + bound) + 1 := by
  obtain ⟨plans, scores, hcharges, hlength, hscores, -, -⟩ := h.charges
  have hending : ending.calls.length = plans.length + scores.length := by
    rw [hcharges.length, List.length_append, Account.total_nil, Nat.add_zero]
  have hplans : plans.length ≤ plans.length * (1 + bound) := Nat.le_mul_of_pos_right _ (by omega)
  calc rounds.length * (1 + bound) + ending.calls.length
      ≤ rounds.length * (1 + bound) + plans.length * (1 + bound) + 1 := by omega
    _ = (rounds.length + plans.length) * (1 + bound) + 1 := by rw [Nat.add_mul]
    _ ≤ limit * (1 + bound) + 1 := Nat.succ_le_succ (Nat.mul_le_mul_right _ hlength)

end Supervisor

theorem Visit.Orderly.calls_le {v : Visit μ} (h : v.Orderly) :
    v.log.calls.length ≤ v.unit.cost := by
  rw [Visit.calls_log]
  induction h with
  | agent => rw [Runnable.cost_agent]; rfl
  | sequence _ _ ih =>
    simp only [← Visit.calls_log] at ih
    rw [length_calls_concat, Runnable.cost_sequence]
    exact sum_calls_le ih
  | @interrupted _ _ _ visits last rest _ _ _ _ _ ih ihlast =>
    simp only [← Visit.calls_log] at ih ihlast
    -- The steps after the one that failed are counted in the cost and never made.
    have hvisits := sum_calls_le ih
    rw [Log.calls_append, List.length_append, length_calls_concat, Runnable.cost_sequence,
      List.map_append, List.sum_append, List.map_cons, List.sum_cons]
    omega
  | parallel _ ih =>
    simp only [← Visit.calls_log] at ih
    rw [Log.calls, Log.calls, List.append_nil, Log.callsOfAll_eq_flatten, ← Log.calls_concat,
      length_calls_concat, Runnable.cost_parallel]
    exact sum_calls_le ih
  | unmatched => exact Nat.zero_le _
  | @routed _ _ routes _ condition target hroute _ ih =>
    rw [← Visit.calls_log] at ih
    rw [Log.calls, Runnable.cost_conditional]
    exact ih.trans (le_greatest (List.mem_map_of_mem hroute))
  | supervisor _ hsubs _ hending ih =>
    simp only [← Visit.calls_log] at ih
    rw [Log.calls_append, List.length_append, Runnable.cost_supervisor]
    have hvisits := fun r hr => (ih r hr).trans (le_greatest (List.mem_map_of_mem (hsubs r hr)))
    exact (Nat.add_le_add_right (Supervisor.calls_rounds_le hvisits) _).trans hending.calls_le

/-! ## Runs -/

namespace Entry

variable {e : Entry μ} {input : ValueMap}

theorem calls_le_of_produces {log : Log μ} {o : Outcome}
    (h : Produces may (e.process input) log o) : log.calls.length ≤ e.runnable.cost := by
  obtain ⟨v, hv, hunit, -, rfl⟩ := e.visited input log o h
  rw [Log.calls, Log.calls_append, ← hunit]
  exact (List.append_nil v.log.calls).symm ▸ hv.calls_le

theorem calls_le_of_steps {t : Thread μ} {actions : List (Action μ)}
    (h : Steps may (.active (e.process input)) actions t) :
    (actions.filterMap Action.call?).length ≤ e.runnable.cost := by
  obtain ⟨more, o, hall⟩ := h.completed process_live
  obtain ⟨log, hproduces, hshows⟩ := produces_of_steps hall
  have hlength := (hshows.perm.filterMap Action.call?).length_eq
  have hcost := calls_le_of_produces hproduces
  rw [Log.filterMap_call_actions, List.filterMap_append, List.length_append] at hlength
  omega

/-- Every invocation of a run is of a unit within the entry, and makes only calls that it may make
itself; there are no other calls. -/
theorem accounted {log : Log μ} {o : Outcome} (h : Produces may (e.process input) log o) :
    e.runnable.Keeps (log.accounts []) ∧ log.calls.length = Account.total (log.accounts []) := by
  obtain ⟨v, hv, hunit, -, rfl⟩ := e.visited input log o h
  obtain ⟨as, hkeeps, hholds⟩ := hv.accounted
  let told : Log μ := .event (.runCompleted o.value.isOk) .nil
  have haccounts : (Log.event (.runStarted e.entryId) (v.log.append told)).accounts [] = as :=
    (hholds.accounts told []).trans (List.append_nil as)
  have hcalls : (v.log.append told).calls = v.log.calls :=
    (Log.calls_append v.log told).trans (List.append_nil _)
  rw [haccounts, Log.calls, hcalls, ← hunit]
  exact ⟨hkeeps, hholds.length⟩

end Entry

/-- No schedule of a run goes on for ever, and none stops before its end if all models reply. However
far a run has come, it has made no more calls than its entry costs. In a run that has come to its end
every invocation made only calls that its unit allows, whatever it stands under: a supervisor as many
for a plan as its steps, and one to compare. The steps that a supervisor has are those that the graph
was compiled with. -/
theorem calls_within_cost (e : Entry μ) (input : ValueMap) (may : Replies μ) :
    (¬ ∃ thread : Nat → Thread μ, thread 0 = .active (e.process input) ∧
      ∀ n, ∃ action, Step may (thread n) action (thread (n + 1))) ∧
    (∀ (actions : List (Action μ)) (t : Thread μ),
      Steps may (.active (e.process input)) actions t →
        (actions.filterMap Action.call?).length ≤ e.runnable.cost ∧
        ((∀ model request, ∃ reply, may model request reply) →
          (∃ o, t = .ended o) ∨ ∃ action t', Step may t action t')) ∧
    (∀ (actions : List (Action μ)) (o : Outcome),
      Steps may (.active (e.process input)) actions (.ended o) →
        ∃ log : Log μ, Produces may (e.process input) log o ∧ log.Shows actions ∧
          e.runnable.Keeps (log.accounts []) ∧
          log.calls.length = Account.total (log.accounts [])) ∧
    (∀ (σ : Type) (answer : Responder μ σ) (memory : σ),
      (e.execute answer memory input).log.calls.length ≤ e.runnable.cost) ∧
    ∀ (provider : Provider μ) (tools : Registry) (config : Config) (entry : String)
      (decls : List NodeDecl), (compile provider tools config entry decls).result = .ok e →
        ∀ (id name : String) (s : Supervisor.Setup μ) (subs : List (Runnable μ)),
          (Runnable.supervisor id name s subs).Within e.runnable →
            s.maxSteps = config.supervisorSteps := by
  refine ⟨Process.no_endless_schedule _, fun actions t h => ⟨?_, fun hmay => ?_⟩, ?_, ?_, ?_⟩
  · exact Entry.calls_le_of_steps h
  · exact (h.live (.active Entry.process_live)).progress hmay (h.admitted_eq rfl)
  · intro actions o h
    obtain ⟨log, hproduces, hshows⟩ := produces_of_steps h
    exact ⟨log, hproduces, hshows, Entry.accounted hproduces⟩
  · intro σ answer memory
    exact Entry.calls_le_of_produces (produces_run answer (e.process input) memory)
  · intro provider tools config entry decls he id name s subs hs
    obtain ⟨c, -, hcompiled⟩ := compiled_of_compile he
    obtain ⟨n, -, hstands⟩ := hcompiled.node_of_within hs
    exact hstands.limit id name s subs rfl

/-- Two agents beside each other make no more than two calls. -/
theorem calls_within_cost_duet : ∃ actions o,
    Steps .any (.active (Duet.entry.process Duet.input)) actions (.ended o) ∧
      (actions.filterMap Action.call?).length ≤ 2 := by
  have hcost : Duet.entry.runnable.cost = 2 := rfl
  have hlive : (Duet.entry.process Duet.input).Live := Entry.process_live
  have hreplies : ∀ (model : Unit) (request : Request), ∃ reply, Replies.any model request reply :=
    fun _ _ => ⟨.ok "", trivial⟩
  obtain ⟨actions, o, h⟩ := hlive.able hreplies
  obtain ⟨-, hcalls, -⟩ := calls_within_cost Duet.entry Duet.input .any
  exact ⟨actions, o, h, hcost ▸ (hcalls actions _ h).1⟩

end AgentGraph
