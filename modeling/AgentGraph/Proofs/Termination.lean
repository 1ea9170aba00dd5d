import AgentGraph.Proofs.Always
import Mathlib.Order.WellFounded

/-! Every schedule comes to an end.

A process is finite whatever the models reply, but nothing bounds how long it goes on: how much it
still has to do may depend on the next reply. So there is no measure in numbers. Instead one follows
a thread as it moves, and the branches of a fork beside each other.

* `Thread.Moves`: what becomes of a thread by one step of its own or by getting a permit.
* `Process.terminates`: a process cannot move for ever.
* `Process.no_endless_schedule`: so no schedule goes on for ever.
* `Thread.Live.progress`: and where a live one cannot go on, it has come to its end.
* `Steps.completed`: a schedule that was broken off is the beginning of one that was not. -/
namespace AgentGraph
set_option autoImplicit false

variable {μ : Type} {may : Replies μ}

/-! ## Lists of which one member moves -/

/-- One member of the list gives way to another one. -/
inductive Descent {α : Type} (R : α → α → Prop) : List α → List α → Prop
  | mk {before after : List α} {x y : α} (h : R y x) :
    Descent R (before ++ y :: after) (before ++ x :: after)

theorem descent_cons {α : Type} {R : α → α → Prop} {x : α} {xs zs : List α}
    (h : Descent R zs (x :: xs)) :
    (∃ y, R y x ∧ zs = y :: xs) ∨ ∃ ys, Descent R ys xs ∧ zs = x :: ys := by
  generalize hwhole : x :: xs = whole at h
  obtain ⟨hxy⟩ := h
  rename_i before after a y
  cases before with
  | nil =>
    obtain ⟨rfl, rfl⟩ := List.cons_eq_cons.mp hwhole
    exact .inl ⟨y, hxy, rfl⟩
  | cons b before =>
    obtain ⟨rfl, rfl⟩ := List.cons_eq_cons.mp hwhole
    exact .inr ⟨before ++ y :: after, .mk hxy, rfl⟩

theorem acc_descent {α : Type} {R : α → α → Prop} {xs : List α} (h : ∀ x ∈ xs, Acc R x) :
    Acc (Descent R) xs := by
  induction xs with
  | nil =>
    refine .intro _ fun ys hys => ?_
    generalize hnil : ([] : List α) = whole at hys
    obtain ⟨-⟩ := hys
    simp at hnil
  | cons x xs ih =>
    have hx : Acc R x := h x List.mem_cons_self
    have hxs : Acc (Descent R) xs := ih fun y hy => h y (List.mem_cons_of_mem _ hy)
    clear h ih
    -- Whichever of the two moves, what is left of it is smaller and the other one is as it was.
    induction hx generalizing xs with
    | intro x _ ihx =>
      induction hxs with
      | intro xs hxs ihxs =>
        refine .intro _ fun zs hzs => ?_
        rcases descent_cons hzs with ⟨y, hy, rfl⟩ | ⟨ys, hys, rfl⟩
        · exact ihx y hy xs (.intro xs hxs)
        · exact ihxs ys hys

/-! ## Threads -/

namespace Thread

/-- The first thread is what becomes of the second one when it takes a step, or when it is given the
permit that it waits for. -/
inductive Moves (may : Replies μ) : Thread μ → Thread μ → Prop
  | step {t t' : Thread μ} {action : Option (Action μ)} (h : Step may t action t') : Moves may t' t
  | enter {p : Process μ} : Moves may (.active p) (.waiting p)

/-- The thread cannot move for ever. -/
def Terminates (may : Replies μ) (t : Thread μ) : Prop := Acc (Moves may) t

theorem terminates_waiting {p : Process μ} (h : (active p).Terminates may) :
    (waiting p).Terminates may := by
  refine .intro _ fun t hmove => ?_
  cases hmove with
  | step hstep => cases hstep
  | enter => exact h

theorem terminates_ended {o : Outcome} : (ended o : Thread μ).Terminates may := by
  refine .intro _ fun t hmove => ?_
  cases hmove with | step hstep => cases hstep

/-- A fork moves as one of its branches moves, until they all have ended. -/
theorem terminates_joining {pool : Nat} {branches : List (Thread μ)}
    {next : List Outcome → Process μ} (hbranches : ∀ t ∈ branches, t.Terminates may)
    (hnext : ∀ outcomes, (active (next outcomes)).Terminates may) :
    (joining pool branches next).Terminates may := by
  have hacc : Acc (Descent (Moves may)) branches := acc_descent hbranches
  clear hbranches
  induction hacc with
  | intro branches _ ih =>
    refine .intro _ fun t hmove => ?_
    cases hmove with
    | step hstep =>
      cases hstep with
      | acquire => exact ih _ (.mk .enter)
      | branch hstep => exact ih _ (.mk (.step hstep))
      | join => exact hnext _

end Thread

/-! ## Processes -/

namespace Process

mutual

theorem terminates : (p : Process μ) → (Thread.active p).Terminates may
  | .done _ => by
    refine .intro _ fun t hmove => ?_
    cases hmove with | step hstep => cases hstep with | finish => exact Thread.terminates_ended
  | .report _ next => by
    refine .intro _ fun t hmove => ?_
    cases hmove with | step hstep => cases hstep with | report => exact terminates next
  | .write _ _ _ next => by
    refine .intro _ fun t hmove => ?_
    cases hmove with | step hstep => cases hstep with | write => exact terminates (next _)
  | .ask _ _ next => by
    refine .intro _ fun t hmove => ?_
    cases hmove with
    | step hstep =>
      cases hstep with
      | request =>
        refine .intro _ fun t hmove => ?_
        cases hmove with
        | step hstep => cases hstep with | reply => exact terminates (next _)
  | .fork _ branches next => by
    refine .intro _ fun t hmove => ?_
    cases hmove with
    | step hstep =>
      cases hstep with
      | fork =>
        refine Thread.terminates_joining (fun t ht => ?_) fun outcomes => terminates (next outcomes)
        obtain ⟨p, hp, rfl⟩ := List.mem_map.mp ht
        exact Thread.terminates_waiting (all_terminate branches p hp)

theorem all_terminate : (ps : List (Process μ)) → ∀ p ∈ ps, (Thread.active p).Terminates may
  | [] => fun _ hp => nomatch hp
  | p :: rest => List.forall_mem_cons.mpr ⟨terminates p, all_terminate rest⟩

end

theorem no_endless_schedule (p : Process μ) : ¬ ∃ thread : Nat → Thread μ,
    thread 0 = .active p ∧ ∀ n, ∃ action, Step may (thread n) action (thread (n + 1)) := by
  rintro ⟨thread, hstart, hsteps⟩
  have hterminates : (Thread.active p).Terminates may := terminates p
  refine (acc_iff_isEmpty_descending_chain.mp hterminates).false ⟨thread, hstart, ?_⟩
  intro n
  obtain ⟨action, hstep⟩ := hsteps n
  exact .step hstep

end Process

/-! ## Coming to the end -/

theorem Thread.Live.progress (hmay : ∀ model request, ∃ reply, may model request reply)
    {t : Thread μ} (h : t.Live) (ht : t.admitted = t) :
    (∃ o, t = .ended o) ∨ ∃ action t', Step may t action t' := by
  obtain ⟨actions, o, hsteps⟩ := h.able hmay
  rw [ht] at hsteps
  cases hsteps with
  | refl => exact .inl ⟨o, rfl⟩
  | step hstep _ => exact .inr ⟨_, _, hstep⟩

theorem Step.any {t t' : Thread μ} {action : Option (Action μ)} (h : Step may t action t') :
    Step .any t action t' := by
  induction h with
  | report => exact .report
  | write => exact .write
  | request => exact .request
  | reply => exact .reply trivial
  | fork => exact .fork
  | acquire hfree => exact .acquire hfree
  | branch _ ih => exact .branch ih
  | finish => exact .finish
  | join => exact .join

theorem Steps.any {t t' : Thread μ} {actions : List (Action μ)} (h : Steps may t actions t') :
    Steps .any t actions t' := by
  induction h with
  | refl => exact .refl
  | step hstep _ ih => exact .step hstep.any ih

theorem Steps.completed {p : Process μ} (hlive : p.Live) {t : Thread μ}
    {actions : List (Action μ)} (h : Steps may (.active p) actions t) :
    ∃ more o, Steps .any (.active p) (actions ++ more) (.ended o) := by
  have hreplies : ∀ (model : μ) (request : Request), ∃ reply, Replies.any model request reply :=
    fun _ _ => ⟨.ok "", trivial⟩
  obtain ⟨more, o, hmore⟩ := (h.live (.active hlive)).able hreplies
  rw [h.admitted_eq rfl] at hmore
  exact ⟨more, o, h.any.trans hmore⟩

end AgentGraph
