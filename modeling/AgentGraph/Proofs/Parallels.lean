import AgentGraph.Proofs.States
import AgentGraph.Proofs.Strands

/-! The parallels of a run.

* `Beside`: units that are being run beside each other, or have been.
* `Steps.of_parallel`: a parallel does nothing else.
* `Thread.Spreads`: a fork that came of a parallel.
* `Steps.spreads_inside`: every fork did that is found somewhere inside a run. -/
namespace AgentGraph
set_option autoImplicit false

variable {μ : Type} {may : Replies μ}

/-! ## A parallel -/

/-- The units are being run beside each other, on what is handed to them; or each of them has been run
to its end, by one schedule of its own that began with its permit, and they are gathered. -/
def Beside (may : Replies μ) (units : List (Runnable μ)) (size : Nat) (key : Option String)
    (c : Context) (actions : List (Action μ)) (t : Thread μ) : Prop :=
  let starts := units.map fun u => u.executable.invoke c.handed
  (∃ threads next, t = .joining (Executable.permits size) threads next ∧
    Forked may starts actions threads) ∨
  ∃ outcomes : List Outcome, Forked may starts actions (outcomes.map .ended) ∧
    (t = .active (.done (gather key (c.withDirective none) outcomes)) ∨
      t = .ended (gather key (c.withDirective none) outcomes))

theorem Runnable.act_parallel (id name : String) (units : List (Runnable μ)) (size : Nat)
    (key : Option String) (c : Context) :
    (Runnable.parallel id name units size key).executable.act c =
      .fork (Executable.permits size) (units.map fun u => u.executable.invoke c.handed)
        fun outcomes => .done (gather key (c.withDirective none) outcomes) := by
  rw [executable_parallel]
  simp only [Executable.parallel, Executable.spread, List.map_map, join_eq_gather]
  rfl

theorem Steps.of_parallel {id name : String} {units : List (Runnable μ)} {size : Nat}
    {key : Option String} {c : Context} {actions : List (Action μ)} {t : Thread μ}
    (h : Steps may (.active ((Runnable.parallel id name units size key).executable.act c)) actions
      t) :
    (actions = [] ∧ t = .active ((Runnable.parallel id name units size key).executable.act c)) ∨
      Beside may units size key c actions t := by
  rw [Runnable.act_parallel] at h ⊢
  rcases h.of_fork with hstart | ⟨threads, rfl, hforked⟩ | ⟨before, rest, outcomes, rfl, hended, hrest⟩
  · exact .inl hstart
  · exact .inr (.inl ⟨threads, _, rfl, hforked⟩)
  · refine .inr (.inr ⟨outcomes, ?_⟩)
    cases hrest with
    | refl => exact ⟨by rwa [List.append_nil], .inl rfl⟩
    | step hstep hmore =>
      cases hstep with
      | finish =>
        cases hmore with
        | refl => exact ⟨by rwa [Option.toList_none, List.append_nil, List.append_nil], .inr rfl⟩
        | step hstep _ => cases hstep

/-! ## Forks in a run -/

/-- If the thread is a fork, it is that of a parallel within the runnable, whose units are being run
beside each other. -/
def Thread.Spreads (may : Replies μ) (r : Runnable μ) (t : Thread μ) : Prop :=
  ∀ pool threads next, t = .joining pool threads next →
    ∃ (id name : String) (units : List (Runnable μ)) (size : Nat) (key : Option String)
      (c : Context) (seen : List (Action μ)),
      (Runnable.parallel id name units size key).Within r ∧ pool = max 1 size ∧
      Forked may (units.map fun u => u.executable.invoke c.handed) seen threads

section Spreads
variable {r : Runnable μ} {Q : Context → Prop}

theorem spreads_active (p : Process μ) : (Thread.active p).Spreads may r :=
  fun _ _ _ heq => nomatch heq

theorem Step.spreads {t t' : Thread μ} {action : Option (Action μ)} (h : Step may t action t')
    (hserves : t.Serves (fun _ _ => True) r Q) (ht : t.Spreads may r) : t'.Spreads may r := by
  intro pool threads next heq
  cases t with
  | waiting => cases h
  | ended => cases h
  | asking => cases h with | reply => cases heq
  | active p =>
    cases h with
    | fork =>
      cases heq
      cases hserves with
      | active hserves =>
        cases hserves with
        | fork hs _ _ => exact ⟨_, _, _, _, _, _, [], hs, rfl, forked_start _⟩
    | _ => cases heq
  | joining =>
    obtain ⟨id, name, units, size, key, c, seen, hs, hpool, hforked⟩ := ht _ _ _ rfl
    rcases hforked.step h with ⟨threads', rfl, hforked'⟩ | ⟨outcomes, -, -, rfl⟩
    · cases heq
      exact ⟨id, name, units, size, key, c, _, hs, hpool, hforked'⟩
    · cases heq

theorem Steps.spreads {t t' : Thread μ} {actions : List (Action μ)} (h : Steps may t actions t')
    (hserves : t.Serves (fun _ _ => True) r Q) (ht : t.Spreads may r) : t'.Spreads may r := by
  induction h with
  | refl => exact ht
  | step hstep _ ih =>
    exact ih (hstep.serves (Frame.trivial r) hserves) (hstep.spreads hserves ht)

/-- A fork somewhere inside a run is that of a parallel within the runnable. Down to it one follows the
branches, each of which is on a run of its own. -/
theorem Steps.spreads_inside {p : Process μ} {t : Thread μ} {actions : List (Action μ)}
    (h : Steps may (.active p) actions t)
    (hserves : (Thread.active p).Serves (fun _ _ => True) r Q) {s : Thread μ} (hs : s.Inside t) :
    s.Spreads may r := by
  induction hs generalizing r Q p actions with
  | refl => exact h.spreads hserves (spreads_active p)
  | branch ht hinside ih =>
    obtain ⟨id, name, units, size, key, c, seen, hparallel, -, hforked⟩ :=
      h.spreads hserves (spreads_active p) _ _ _ rfl
    obtain ⟨strands, hstarts, hspun, -, rfl⟩ := hforked
    obtain ⟨strand, hstrand, rfl⟩ := List.mem_map.mp ht
    rcases hspun strand hstrand with ⟨-, hwaiting⟩ | hsteps
    · -- A branch that waits is no fork, and nothing is inside it.
      intro pool threads next heq
      rw [hwaiting, heq] at hinside
      cases hinside
    · have hstart : strand.start ∈ units.map fun u => u.executable.invoke c.handed :=
        hstarts ▸ List.mem_map_of_mem hstrand
      obtain ⟨u, hu, hinvoke⟩ := List.mem_map.mp hstart
      have hbranch : (Thread.active strand.start).Serves (fun _ _ => True) u fun _ => True := by
        rw [← hinvoke]
        exact .active (Runnable.serves (Frame.trivial u) c.handed)
      intro pool threads next heq
      obtain ⟨id', name', units', size', key', c', seen', hwithin, hrest⟩ :=
        ih hsteps hbranch pool threads next heq
      have hpart : u ∈ (Runnable.parallel id name units size key).parts := hu
      exact ⟨id', name', units', size', key', c', seen',
        hwithin.trans ((u.within_self.of_part hpart).trans hparallel), hrest⟩

end Spreads

end AgentGraph
