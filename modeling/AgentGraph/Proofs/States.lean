import AgentGraph.Proofs.Serving
import AgentGraph.Run.Report

/-! The states that a run passes through.

* `Thread.Serves`: what is left of a thread serves a runnable, the branches of a fork each the unit
  that they were made from, and no more of them hold a permit than the fork has.
* `Step.serves`: that stays so.
* `Thread.Inside`: what goes on inside a thread.
* `Thread.Serves.inside`: everything inside a thread serves a unit within the runnable. -/
namespace AgentGraph
set_option autoImplicit false

variable {μ : Type} {may : Replies μ}

namespace Thread

/-! ## Permits -/

theorem holders_replace (before after : List (Thread μ)) (t : Thread μ) :
    holders (before ++ t :: after) = holders before + holders after + if t.holds then 1 else 0 := by
  rw [holders, holders, holders, List.countP_append, List.countP_cons]
  omega

theorem holds_of_step {t t' : Thread μ} {action : Option (Action μ)} (h : Step may t action t') :
    t.holds = true := by
  cases h <;> rfl

theorem holders_of_step {before after : List (Thread μ)} {t t' : Thread μ}
    {action : Option (Action μ)} (h : Step may t action t') :
    holders (before ++ t' :: after) ≤ holders (before ++ t :: after) := by
  rw [holders_replace, holders_replace, if_pos (holds_of_step h)]
  split <;> omega

theorem holders_waiting (ps : List (Process μ)) : holders (ps.map .waiting) = 0 := by
  apply holders_eq_zero
  intro t ht
  obtain ⟨p, -, rfl⟩ := List.mem_map.mp ht
  exact Bool.false_ne_true

/-! ## Serving -/

/-- What is left of the thread serves the runnable: what has been asked is what a unit within it asks,
and what has been forked is one of its parallels, at most as many of its branches at work as it has
permits. -/
inductive Serves (R : Context → Context → Prop) :
    Runnable μ → (Context → Prop) → Thread μ → Prop
  | waiting {r : Runnable μ} {Q : Context → Prop} {p : Process μ} (h : p.Serves r R Q) :
    Serves R r Q (.waiting p)
  | active {r : Runnable μ} {Q : Context → Prop} {p : Process μ} (h : p.Serves r R Q) :
    Serves R r Q (.active p)
  | asking {r s : Runnable μ} {Q : Context → Prop} {c : Context} {model : μ} {request : Request}
      {next : Except Failure String → Process μ} (hs : s.Within r) (hc : Q c)
      (hrequest : s.Requests c model request) (h : ∀ reply, (next reply).Serves r R Q) :
    Serves R r Q (.asking model request next)
  | joining {r : Runnable μ} {Q : Context → Prop} {id name : String} {size : Nat}
      {key : Option String} {c : Context} {branches : List (Runnable μ × Thread μ)}
      {next : List Outcome → Process μ}
      (hs : (Runnable.parallel id name (branches.map Prod.fst) size key).Within r) (hc : Q c)
      (hbranches : ∀ b ∈ branches, Serves R b.1 (R c.handed) b.2)
      (hholders : holders (branches.map Prod.snd) ≤ Executable.permits size)
      (h : ∀ outcomes : List Outcome, (∀ o ∈ outcomes, R c.handed o.context) →
        (next outcomes).Serves r R Q) :
    Serves R r Q (.joining (Executable.permits size) (branches.map Prod.snd) next)
  | ended {r : Runnable μ} {Q : Context → Prop} {o : Outcome} (h : Q o.context) :
    Serves R r Q (.ended o)

variable {r : Runnable μ} {R : Context → Context → Prop} {Q : Context → Prop}

theorem serves_joining_iff {pool : Nat} {threads : List (Thread μ)} {next : List Outcome → Process μ} :
    Serves R r Q (.joining pool threads next) ↔
      ∃ (id name : String) (size : Nat) (key : Option String) (c : Context)
        (branches : List (Runnable μ × Thread μ)), pool = Executable.permits size ∧
        branches.map Prod.snd = threads ∧
        (Runnable.parallel id name (branches.map Prod.fst) size key).Within r ∧ Q c ∧
        (∀ b ∈ branches, Serves R b.1 (R c.handed) b.2) ∧ holders threads ≤ pool ∧
        ∀ outcomes : List Outcome, (∀ o ∈ outcomes, R c.handed o.context) →
          (next outcomes).Serves r R Q := by
  constructor
  · intro h
    cases h with
    | joining hs hc hbranches hholders h =>
      exact ⟨_, _, _, _, _, _, rfl, rfl, hs, hc, hbranches, hholders, h⟩
  · rintro ⟨id, name, size, key, c, branches, rfl, rfl, hs, hc, hbranches, hholders, h⟩
    exact .joining hs hc hbranches hholders h

/-- One branch may give way to another thread that serves the same unit. -/
theorem Serves.replace {pool : Nat} {before after : List (Thread μ)} {t : Thread μ}
    {next : List Outcome → Process μ}
    (h : Serves R r Q (.joining pool (before ++ t :: after) next)) :
    ∃ (u : Runnable μ) (P : Context → Prop), u.Within r ∧ Serves R u P t ∧
      holders (before ++ t :: after) ≤ pool ∧
      ∀ t', Serves R u P t' → holders (before ++ t' :: after) ≤ pool →
        Serves R r Q (.joining pool (before ++ t' :: after) next) := by
  obtain ⟨id, name, size, key, c, branches, hpool, hthreads, hs, hc, hbranches, hholders, hnext⟩ :=
    serves_joining_iff.mp h
  obtain ⟨left, others, rfl, rfl, hothers⟩ := List.map_eq_append_iff.mp hthreads
  obtain ⟨b, right, rfl, rfl, rfl⟩ := List.map_eq_cons_iff.mp hothers
  have hpart : b.1 ∈ (Runnable.parallel id name ((left ++ b :: right).map Prod.fst) size key).parts :=
    List.mem_map_of_mem List.mem_append_cons_self
  refine ⟨b.1, _, hs.part hpart, hbranches b List.mem_append_cons_self, hholders, ?_⟩
  intro t' ht' hfew
  refine serves_joining_iff.mpr ⟨id, name, size, key, c, left ++ (b.1, t') :: right, hpool, ?_, ?_, hc,
    forall_mem_replace hbranches ht', hfew, hnext⟩
  · rw [List.map_append, List.map_cons]
  · rw [List.map_append, List.map_cons] at hs ⊢
    exact hs

end Thread

/-! ## Steps -/

variable {r : Runnable μ} {R : Context → Context → Prop} {Q : Context → Prop}
  {t t' : Thread μ}

theorem Step.serves {action : Option (Action μ)} (h : Step may t action t') (hframe : Frame r R)
    (ht : t.Serves R r Q) : t'.Serves R r Q := by
  induction h generalizing r Q with
  | report =>
    cases ht with | active h => cases h with | report h => exact .active h
  | write =>
    cases ht with | active h => cases h with | write _ h => exact .active h
  | request =>
    cases ht with
    | active h => cases h with | ask hs hc hrequest h => exact .asking hs hc hrequest h
  | reply =>
    cases ht with | asking _ _ _ h => exact .active (h _)
  | fork =>
    cases ht with
    | active h =>
      cases h with
      | @fork id name units size key c next hs hc h =>
        let branches := units.map fun u => (u, Thread.waiting (u.executable.invoke c.handed))
        have hunits : branches.map Prod.fst = units := by
          rw [List.map_map]
          exact List.map_id units
        refine Thread.serves_joining_iff.mpr ⟨id, name, size, key, c, branches, rfl, ?_,
          hunits ▸ hs, hc, fun b hb => ?_, ?_, h⟩
        · rw [List.map_map, List.map_map]
          rfl
        · obtain ⟨u, hu, rfl⟩ := List.mem_map.mp hb
          exact .waiting (Runnable.serves (hframe.within (hs.part hu)) c.handed)
        · rw [Thread.holders_waiting]
          exact Nat.zero_le _
  | @acquire _ _ _ p _ hfree =>
    obtain ⟨u, P, -, hwaiting, -, hreplace⟩ := ht.replace
    have hactive : Thread.Serves R u P (.active p) := by
      cases hwaiting with | waiting h => exact .active h
    refine hreplace _ hactive ?_
    rw [Thread.holders_replace] at hfree ⊢
    rw [if_neg (by exact Bool.false_ne_true)] at hfree
    split <;> omega
  | branch hstep ih =>
    obtain ⟨u, P, hu, hbranch, hholders, hreplace⟩ := ht.replace
    exact hreplace _ (ih (hframe.within hu) hbranch) ((Thread.holders_of_step hstep).trans hholders)
  | finish =>
    cases ht with | active h => cases h with | done h => exact .ended h
  | @join pool outcomes next =>
    obtain ⟨id, name, size, key, c, branches, -, hthreads, -, -, hbranches, -, hnext⟩ :=
      Thread.serves_joining_iff.mp ht
    refine .active (hnext outcomes fun o ho => ?_)
    have hended : Thread.ended o ∈ branches.map Prod.snd := hthreads ▸ List.mem_map_of_mem ho
    obtain ⟨b, hb, heq⟩ := List.mem_map.mp hended
    have hserves := hbranches b hb
    rw [heq] at hserves
    cases hserves with | ended h => exact h

theorem Steps.serves {actions : List (Action μ)} (h : Steps may t actions t') (hframe : Frame r R)
    (ht : t.Serves R r Q) : t'.Serves R r Q := by
  induction h with
  | refl => exact ht
  | step hstep _ ih => exact ih (hstep.serves hframe ht)

/-! ## Inside a thread -/

/-- The first thread is the second one, or a branch somewhere inside it. -/
inductive Thread.Inside : Thread μ → Thread μ → Prop
  | refl {t : Thread μ} : Inside t t
  | branch {s t : Thread μ} {pool : Nat} {branches : List (Thread μ)}
      {next : List Outcome → Process μ} (ht : t ∈ branches) (h : Inside s t) :
    Inside s (.joining pool branches next)

/-- Everything inside a thread serves a unit within the runnable, and works on contexts of which
everything holds that passes on along the relation and to branches. -/
theorem Thread.Serves.inside {s : Thread μ} {G : Context → Prop}
    (hR : ∀ c c', G c → R c c' → G c') (hhanded : ∀ c, G c → G c.handed)
    (h : t.Serves R r Q) (hs : s.Inside t) (hQ : ∀ c, Q c → G c) :
    ∃ (u : Runnable μ) (P : Context → Prop), u.Within r ∧ s.Serves R u P ∧ ∀ c, P c → G c := by
  induction hs generalizing r Q with
  | refl => exact ⟨r, Q, r.within_self, h, hQ⟩
  | branch ht _ ih =>
    obtain ⟨id, name, size, key, c, branches, -, rfl, hparallel, hc, hbranches, -⟩ :=
      serves_joining_iff.mp h
    obtain ⟨b, hb, rfl⟩ := List.mem_map.mp ht
    obtain ⟨u, P, hu, hserves, hP⟩ :=
      ih (hbranches b hb) fun c' => hR _ c' (hhanded c (hQ c hc))
    have hpart : b.1 ∈ (Runnable.parallel id name (branches.map Prod.fst) size key).parts :=
      List.mem_map_of_mem hb
    exact ⟨u, P, hu.trans (hparallel.part hpart), hserves, hP⟩

theorem Thread.Serves.holders_le (h : t.Serves R r Q) {pool : Nat} {threads : List (Thread μ)}
    {next : List Outcome → Process μ} (hinside : (Thread.joining pool threads next).Inside t) :
    Thread.holders threads ≤ pool := by
  obtain ⟨u, P, -, hjoining, -⟩ := h.inside (G := fun _ => True) (fun _ _ _ _ => trivial)
    (fun _ _ => trivial) hinside fun _ _ => trivial
  obtain ⟨-, -, -, -, -, -, -, -, -, -, -, hholders, -⟩ := Thread.serves_joining_iff.mp hjoining
  exact hholders

/-! ## Runs -/

namespace Entry

variable {e : Entry μ} {input : ValueMap}

theorem process_live : (e.process input).Live :=
  .report ((e.runnable.live _).andThen fun _ => .report .done)

theorem serves (hframe : Frame e.runnable R) :
    (Thread.active (e.process input)).Serves R e.runnable (R (.ofInput input)) := by
  refine .active (.report ?_)
  exact (Runnable.serves hframe _).andThen (fun _ hc => hc) fun o ho => .report (.done ho)

end Entry

end AgentGraph
