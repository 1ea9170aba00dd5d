import AgentGraph.Proofs.Nodes
import AgentGraph.Proofs.Parallels
import AgentGraph.Proofs.Termination
import Mathlib.Algebra.Order.BigOperators.Group.List
import Mathlib.Algebra.Order.Ring.Nat
import Mathlib.Order.Bounds.Basic

/-! How much goes on at once.

Every parallel lets as many of its branches work at a time as its pool has permits. Parallels stand
inside each other, and each has a pool of its own: a branch keeps its permit while the branches of a
parallel inside it wait for theirs.

* `Runnable.width`: a bound on the calls in flight, read off the tree.
* `Log.largestSum_isGreatest`: what the sum of the largest numbers is the largest of.
* `Thread.Serves.inFlight_le`: what serves a runnable has no more calls in flight than its width.
* `Thread.Live.can_move`: whoever holds a permit can go on.
* `states_of_run`: all of this in every state of every schedule. -/
namespace AgentGraph
set_option autoImplicit false

variable {μ : Type} {may : Replies μ}

/-! ## Widths -/

def widthTally : Tally where
  agent := 1
  sequence := greatest
  parallel pool := Log.largestSum (Executable.permits pool)
  conditional := greatest
  supervisor _ subs := max 1 (greatest subs)

/-! ### The largest numbers -/

namespace Log

/-- In a list that falls, no members make a larger sum than as many from its front. -/
theorem sum_le_sum_take {sorted xs : List Nat} (hsorted : sorted.Pairwise (· ≥ ·))
    (h : xs.Sublist sorted) {n : Nat} (hlength : xs.length ≤ n) : xs.sum ≤ (sorted.take n).sum := by
  induction sorted generalizing xs n with
  | nil =>
    rw [List.sublist_nil.mp h]
    exact Nat.zero_le _
  | cons y ys ih =>
    cases xs with
    | nil => exact Nat.zero_le _
    | cons x xs =>
      cases n with
      | zero => cases hlength
      | succ n =>
        have hfalls := List.pairwise_cons.mp hsorted
        have hx : x ≤ y := by
          rcases List.mem_cons.mp (h.subset List.mem_cons_self) with rfl | hx
          · exact le_rfl
          · exact hfalls.1 x hx
        have hrest := ih hfalls.2 h.tail (Nat.le_of_succ_le_succ hlength)
        rw [List.take_succ_cons, List.sum_cons, List.sum_cons]
        exact Nat.add_le_add hx hrest

/-- It is the largest sum that at most `n` of the numbers make. -/
theorem largestSum_isGreatest (n : Nat) (xs : List Nat) :
    IsGreatest {total | ∃ ys : List Nat, ys.Subperm xs ∧ ys.length ≤ n ∧ ys.sum = total}
      (largestSum n xs) := by
  have hperm : (xs.mergeSort fun a b => Nat.ble b a).Perm xs := List.mergeSort_perm xs _
  have hsorted : (xs.mergeSort fun a b => Nat.ble b a).Pairwise (· ≥ ·) := by
    have htrans : ∀ a b c : Nat, Nat.ble b a → Nat.ble c b → Nat.ble c a := by
      intro a b c hba hcb
      rw [Nat.ble_eq] at hba hcb ⊢
      omega
    have htotal : ∀ a b : Nat, (Nat.ble b a || Nat.ble a b) = true := by
      intro a b
      rw [Bool.or_eq_true, Nat.ble_eq, Nat.ble_eq]
      omega
    exact (List.pairwise_mergeSort htrans htotal xs).imp Nat.le_of_ble_eq_true
  constructor
  · refine ⟨_, ?_, List.length_take_le _ _, rfl⟩
    exact (List.take_sublist _ _).subperm.trans hperm.subperm
  · rintro total ⟨ys, hys, hlength, rfl⟩
    obtain ⟨zs, hzs, hsub⟩ := hys.trans hperm.symm.subperm
    rw [← hzs.sum_eq]
    exact sum_le_sum_take hsorted hsub (hzs.length_eq ▸ hlength)

end Log

namespace Runnable

/-- The most calls that an invocation of the runnable can have in flight at once. -/
def width (r : Runnable μ) : Nat := r.tally widthTally

@[simp] theorem width_agent (id name : String) (a : Executable.Agent μ) :
    (Runnable.agent id name a).width = 1 := rfl

@[simp] theorem width_sequence (id name key : String) (steps : List (Runnable μ)) :
    (Runnable.sequence id name steps key).width = greatest (steps.map width) :=
  congrArg greatest (tallies_eq_map widthTally steps)

@[simp] theorem width_parallel (id name : String) (branches : List (Runnable μ)) (pool : Nat)
    (key : Option String) : (Runnable.parallel id name branches pool key).width =
      Log.largestSum (Executable.permits pool) (branches.map width) :=
  congrArg (Log.largestSum (Executable.permits pool)) (tallies_eq_map widthTally branches)

@[simp] theorem width_conditional (id name : String) (routes : List (Condition × Runnable μ))
    (key : Option String) : (Runnable.conditional id name routes key).width =
      greatest (routes.map fun route => route.2.width) :=
  congrArg greatest (routeTallies_eq_map widthTally routes)

@[simp] theorem width_supervisor (id name : String) (s : Supervisor.Setup μ)
    (subs : List (Runnable μ)) :
    (Runnable.supervisor id name s subs).width = max 1 (greatest (subs.map width)) :=
  congrArg (fun widths => max 1 (greatest widths)) (tallies_eq_map widthTally subs)

theorem width_le_of_part {s r : Runnable μ} (hs : s ∈ r.parts) : s.width ≤ r.width := by
  cases r with
  | agent => cases hs
  | sequence id name steps key =>
    rw [width_sequence]
    exact le_greatest (List.mem_map_of_mem hs)
  | parallel id name branches pool key =>
    rw [width_parallel]
    refine (Log.largestSum_isGreatest _ _).2 ⟨[s.width], ?_, ?_, List.sum_singleton⟩
    · exact List.singleton_subperm_iff.mpr (List.mem_map_of_mem hs)
    · exact Process.permits_pos pool
  | conditional id name routes key =>
    obtain ⟨route, hroute, rfl⟩ := List.mem_map.mp hs
    rw [width_conditional]
    exact le_greatest (List.mem_map_of_mem hroute)
  | supervisor id name setup subs =>
    have hle : s.width ≤ greatest (subs.map width) := le_greatest (List.mem_map_of_mem hs)
    rw [width_supervisor]
    exact hle.trans (Nat.le_max_right _ _)

theorem width_le_of_within {s r : Runnable μ} (hs : s.Within r) : s.width ≤ r.width := by
  induction hs with
  | refl => exact le_rfl
  | tail _ hpart ih => exact (width_le_of_part hpart).trans ih

theorem Requests.width_pos {s : Runnable μ} {c : Context} {model : μ} {request : Request}
    (h : s.Requests c model request) : 1 ≤ s.width := by
  cases s with
  | agent => rw [width_agent]
  | supervisor =>
    rw [width_supervisor]
    exact Nat.le_max_left _ _
  | _ => cases h

end Runnable

/-! ## Calls in flight -/

namespace Thread

mutual

/-- How many models have been asked and have not replied yet. -/
def inFlight : Thread μ → Nat
  | .asking _ _ _ => 1
  | .joining _ branches _ => inFlightOfAll branches
  | .waiting _ | .active _ | .ended _ => 0

def inFlightOfAll : List (Thread μ) → Nat
  | [] => 0
  | t :: rest => inFlight t + inFlightOfAll rest

end

theorem inFlightOfAll_eq_sum (threads : List (Thread μ)) :
    inFlightOfAll threads = (threads.map inFlight).sum := by
  induction threads with
  | nil => rfl
  | cons t rest ih => rw [inFlightOfAll, ih, List.map_cons, List.sum_cons]

theorem inFlight_eq_zero {t : Thread μ} (h : ¬ t.holds) : t.inFlight = 0 := by
  cases t with
  | waiting => rfl
  | ended => rfl
  | _ => exact absurd rfl h

theorem sum_inFlight_holders (branches : List (Runnable μ × Thread μ)) :
    (branches.map fun b => b.2.inFlight).sum =
      ((branches.filter fun b => b.2.holds).map fun b => b.2.inFlight).sum := by
  induction branches with
  | nil => rfl
  | cons b rest ih =>
    rw [List.map_cons, List.sum_cons, List.filter_cons, ih]
    split
    · rw [List.map_cons, List.sum_cons]
    · next hidle => rw [inFlight_eq_zero hidle, Nat.zero_add]

theorem sum_inFlight_le {n : Nat} {branches : List (Runnable μ × Thread μ)}
    (h : ∀ b ∈ branches, b.2.inFlight ≤ b.1.width)
    (hholders : holders (branches.map Prod.snd) ≤ n) :
    (branches.map fun b => b.2.inFlight).sum ≤
      Log.largestSum n (branches.map fun b => b.1.width) := by
  let working := branches.filter fun b => b.2.holds
  have hwidths : (working.map fun b => b.2.inFlight).sum ≤ (working.map fun b => b.1.width).sum :=
    List.sum_le_sum fun b hb => h b (List.mem_of_mem_filter hb)
  have hlength : working.length ≤ n := by
    rw [holders, List.countP_map] at hholders
    rwa [List.countP_eq_length_filter] at hholders
  -- Only the branches that hold a permit count, and there are no more of them than permits.
  rw [sum_inFlight_holders]
  refine hwidths.trans ((Log.largestSum_isGreatest _ _).2 ⟨_, ?_, ?_, rfl⟩)
  · exact (List.filter_sublist.map _).subperm
  · rwa [List.length_map]

theorem Serves.inFlight_le {R : Context → Context → Prop} {r : Runnable μ} {Q : Context → Prop}
    {t : Thread μ} (h : t.Serves R r Q) : t.inFlight ≤ r.width := by
  induction h with
  | asking hs _ hrequest => exact hrequest.width_pos.trans (Runnable.width_le_of_within hs)
  | joining hs _ _ hholders _ ih =>
    have hparallel := Runnable.width_le_of_within hs
    rw [Runnable.width_parallel, List.map_map] at hparallel
    rw [inFlight, inFlightOfAll_eq_sum, List.map_map]
    exact (sum_inFlight_le ih hholders).trans hparallel
  | _ => exact Nat.zero_le _

/-! ## Going on -/

theorem Live.inside {s t : Thread μ} (h : t.Live) (hs : s.Inside t) : s.Live := by
  induction hs with
  | refl => exact h
  | branch ht _ ih => cases h with | joining _ hbranches _ => exact ih (hbranches _ ht)

/-- Whoever holds a permit can go on, whatever is inside of it and whatever it is inside of. -/
theorem Live.can_move (hmay : ∀ model request, ∃ reply, may model request reply) {t : Thread μ}
    (h : t.Live) (hholds : t.holds) : ∃ action t', Step may t action t' := by
  rcases h.progress hmay (admitted_of_holds hholds) with ⟨o, rfl⟩ | hstep
  · cases hholds
  · exact hstep

end Thread

/-! ## Runs -/

/-- In every state of every schedule, every fork inside it is that of a parallel within the entry, and
each of its branches waits for a permit or is on a schedule of its own, which began once; at most as
many of them are at work as the pool has permits. No more calls are in flight than the entry is wide.
Whoever holds a permit can go on if all models reply, as can the whole unless it has ended. A parallel
runs every branch to its end once, before it gathers them. Its pool is that of its node, else the one
that the graph was compiled with. -/
theorem states_of_run (e : Entry μ) (input : ValueMap) (may : Replies μ) :
    (∀ (actions : List (Action μ)) (t : Thread μ),
      Steps may (.active (e.process input)) actions t →
        (∀ (pool : Nat) (threads : List (Thread μ)) (next : List Outcome → Process μ),
          (Thread.joining pool threads next).Inside t →
            Thread.holders threads ≤ pool ∧
            ∃ (id name : String) (units : List (Runnable μ)) (size : Nat) (key : Option String)
              (c : Context) (seen : List (Action μ)),
              (Runnable.parallel id name units size key).Within e.runnable ∧ pool = max 1 size ∧
              Forked may (units.map fun u => u.executable.invoke c.handed) seen threads) ∧
        t.inFlight ≤ e.runnable.width ∧
        ((∀ model request, ∃ reply, may model request reply) →
          (∀ s : Thread μ, s.Inside t → s.holds → ∃ action s', Step may s action s') ∧
          ((∃ o, t = .ended o) ∨ ∃ action t', Step may t action t'))) ∧
    (∀ (id name : String) (units : List (Runnable μ)) (size : Nat) (key : Option String)
      (c : Context) (actions : List (Action μ)) (t : Thread μ),
      Steps may (.active ((Runnable.parallel id name units size key).executable.act c)) actions t →
        (actions = [] ∧ t = .active ((Runnable.parallel id name units size key).executable.act c)) ∨
          Beside may units size key c actions t) ∧
    ∀ (provider : Provider μ) (tools : Registry) (config : Config) (entry : String)
      (decls : List NodeDecl), (compile provider tools config entry decls).result = .ok e →
        ∀ (id name : String) (units : List (Runnable μ)) (size : Nat) (key : Option String),
          (Runnable.parallel id name units size key).Within e.runnable →
            ∃ (n : Node) (ids : List String) (poolSize : Option Nat), e.node? id = some n ∧
              n.role = .parallel ids poolSize ∧ size = poolSize.getD config.poolSize := by
  refine ⟨fun actions t h => ⟨?_, ?_, fun hmay => ⟨?_, ?_⟩⟩, ?_, ?_⟩
  · intro pool threads next hinside
    have hserves : (Thread.active (e.process input)).Serves (fun _ _ => True) e.runnable
        fun _ => True := Entry.serves (Frame.trivial _)
    have hspreads := h.spreads_inside hserves hinside
    exact ⟨(h.serves (Frame.trivial _) hserves).holders_le hinside, hspreads pool threads next rfl⟩
  · exact (h.serves (Frame.trivial _) (Entry.serves (Frame.trivial _))).inFlight_le
  · have hlive : t.Live := h.live (.active Entry.process_live)
    exact fun s hs hholds => (hlive.inside hs).can_move hmay hholds
  · have hlive : t.Live := h.live (.active Entry.process_live)
    exact hlive.progress hmay (h.admitted_eq rfl)
  · exact fun id name units size key c actions t h => h.of_parallel
  · intro provider tools config entry decls he id name units size key hs
    obtain ⟨c, -, hcompiled⟩ := compiled_of_compile he
    obtain ⟨n, hn, hstands⟩ := hcompiled.node_of_within hs
    obtain ⟨ids, poolSize, hrole, hsize⟩ := hstands.pool id name units size key rfl
    exact ⟨n, ids, poolSize, hn, hrole, hsize⟩

/-- One agent has asked, and the other one waits for the permit that it holds. -/
theorem states_of_run_duet : ∃ actions threads next,
    Steps .any (.active (Duet.entry.process Duet.input)) actions (.joining 1 threads next) ∧
      threads.length = 2 ∧ Thread.holders threads = 1 ∧
      Thread.inFlight (.joining 1 threads next) = 1 ∧ 1 ≤ Duet.entry.runnable.width ∧
      ∃ action t, Step .any (.joining 1 threads next) action t := by
  have hacquire (p q : Process Unit) (next : List Outcome → Process Unit) :
      Step .any (.joining 1 [.waiting p, .waiting q] next) none
        (.joining 1 [.active p, .waiting q] next) :=
    @Step.acquire _ _ _ [] [.waiting q] p next Nat.zero_lt_one
  have hbranch {t t' : Thread Unit} {action : Option (Action Unit)} (h : Step .any t action t')
      (q : Thread Unit) (next : List Outcome → Process Unit) :
      Step .any (.joining 1 [t, q] next) action (.joining 1 [t', q] next) :=
    @Step.branch _ _ _ [] [q] t t' action next h
  have hsteps : ∃ actions request p q next,
      Steps .any (.active (Duet.entry.process Duet.input)) actions
        (.joining 1 [.asking () request p, .waiting q] next) :=
    ⟨_, _, _, _, _, .step .report (.step .report (.step .fork (.step (hacquire _ _ _)
      (.step (hbranch .report _ _) (.step (hbranch .request _ _) .refl)))))⟩
  obtain ⟨actions, request, p, q, next, h⟩ := hsteps
  obtain ⟨hstates, -⟩ := states_of_run Duet.entry Duet.input .any
  obtain ⟨-, hinFlight, hgoing⟩ := hstates actions _ h
  obtain ⟨-, ⟨o, hended⟩ | hstep⟩ := hgoing fun _ _ => ⟨.ok "", trivial⟩
  · cases hended
  · exact ⟨actions, _, next, h, rfl, rfl, rfl, hinFlight, hstep⟩

end AgentGraph
