import AgentGraph.Run.Log

/-! Schedules: how a process gets from its start to its end, one step after another.

A fork puts all its branches beside each other. Each of them waits for one of the permits of that
fork, holds it while it goes on, and gives it back when it has ended; the fork goes on when all of
them have. Any branch that can take a step may be the next to take one.

* `Thread`: a process on its way.
* `Step`: one step of a thread, and what is seen of it from outside.
* `Steps`: a schedule, and everything that is seen while it lasts.
* `Live`: the processes whose forks all have a permit.
* `Thread.Live.able`: such a process can always be brought to its end, from wherever it is. -/
namespace AgentGraph
set_option autoImplicit false

/-! ## Threads -/

/-- What is seen of a step from outside. -/
inductive Action (μ : Type) where
  | event (e : Event)
  | call (model : μ) (request : Request)

/-- A process on its way. -/
inductive Thread (μ : Type) where
  /-- A branch without a permit. -/
  | waiting (p : Process μ)
  | active (p : Process μ)
  /-- A model has been asked and has not replied yet. -/
  | asking (model : μ) (request : Request) (next : Except Failure String → Process μ)
  | joining (pool : Nat) (branches : List (Thread μ)) (next : List Outcome → Process μ)
  | ended (outcome : Outcome)

/-- Which replies a model may give to a request. -/
abbrev Replies (μ : Type) := μ → Request → Except Failure String → Prop

/-- Every model replies to a request in one way. -/
def Replies.of {μ : Type} (answer : μ → Request → Except Failure String) : Replies μ :=
  fun model request reply => reply = answer model request

variable {μ : Type} {may : Replies μ}

namespace Thread

/-- The branch has a permit. -/
def holds : Thread μ → Bool
  | .waiting _ | .ended _ => false
  | .active _ | .asking _ _ _ | .joining _ _ _ => true

/-- How many of the permits of a fork are taken. -/
def holders (branches : List (Thread μ)) : Nat := branches.countP holds

end Thread

/-! ## Steps -/

inductive Step (may : Replies μ) : Thread μ → Option (Action μ) → Thread μ → Prop
  | report {e : Event} {next : Process μ} :
    Step may (.active (.report e next)) (some (.event e)) (.active next)
  | write {c : Context} {key : String} {value : Value} {next : Context → Process μ} :
    Step may (.active (.write c key value next)) none (.active (next (c.write key value)))
  | request {model : μ} {request : Request} {next : Except Failure String → Process μ} :
    Step may (.active (.ask model request next)) (some (.call model request))
      (.asking model request next)
  | reply {model : μ} {request : Request} {next : Except Failure String → Process μ}
      {reply : Except Failure String} (hreply : may model request reply) :
    Step may (.asking model request next) none (.active (next reply))
  | fork {pool : Nat} {branches : List (Process μ)} {next : List Outcome → Process μ} :
    Step may (.active (.fork pool branches next)) none
      (.joining pool (branches.map .waiting) next)
  | acquire {pool : Nat} {before after : List (Thread μ)} {p : Process μ}
      {next : List Outcome → Process μ}
      (hfree : Thread.holders (before ++ .waiting p :: after) < pool) :
    Step may (.joining pool (before ++ .waiting p :: after) next) none
      (.joining pool (before ++ .active p :: after) next)
  | branch {pool : Nat} {before after : List (Thread μ)} {t t' : Thread μ}
      {action : Option (Action μ)} {next : List Outcome → Process μ} (h : Step may t action t') :
    Step may (.joining pool (before ++ t :: after) next) action
      (.joining pool (before ++ t' :: after) next)
  | finish {outcome : Outcome} : Step may (.active (.done outcome)) none (.ended outcome)
  | join {pool : Nat} {outcomes : List Outcome} {next : List Outcome → Process μ} :
    Step may (.joining pool (outcomes.map .ended) next) none (.active (next outcomes))

/-- A schedule, with everything that is seen while it lasts. -/
inductive Steps (may : Replies μ) : Thread μ → List (Action μ) → Thread μ → Prop
  | refl {t : Thread μ} : Steps may t [] t
  | step {t t' t'' : Thread μ} {action : Option (Action μ)} {actions : List (Action μ)}
      (h : Step may t action t') (rest : Steps may t' actions t'') :
    Steps may t (action.toList ++ actions) t''

namespace Steps

variable {t t' t'' : Thread μ} {actions more : List (Action μ)}

theorem single {action : Option (Action μ)} (h : Step may t action t') :
    Steps may t action.toList t' := by
  have hstep := Steps.step h .refl
  rwa [List.append_nil] at hstep

theorem trans (h : Steps may t actions t') (h' : Steps may t' more t'') :
    Steps may t (actions ++ more) t'' := by
  induction h with
  | refl => exact h'
  | step hstep _ ih =>
    rw [List.append_assoc]
    exact .step hstep (ih h')

/-- A branch goes on while the others stay where they are. -/
theorem branch {pool : Nat} {before after : List (Thread μ)} {next : List Outcome → Process μ}
    (h : Steps may t actions t') :
    Steps may (.joining pool (before ++ t :: after) next) actions
      (.joining pool (before ++ t' :: after) next) := by
  induction h with
  | refl => exact .refl
  | step hstep _ ih => exact .step (.branch hstep) ih

end Steps

/-! ## Live processes -/

/-- Every fork of the process has a permit. -/
inductive Process.Live : Process μ → Prop
  | done {outcome : Outcome} : Live (.done outcome)
  | report {e : Event} {next : Process μ} (h : Live next) : Live (.report e next)
  | write {c : Context} {key : String} {value : Value} {next : Context → Process μ}
      (h : Live (next (c.write key value))) : Live (.write c key value next)
  | ask {model : μ} {request : Request} {next : Except Failure String → Process μ}
      (h : ∀ reply, Live (next reply)) : Live (.ask model request next)
  | fork {pool : Nat} {branches : List (Process μ)} {next : List Outcome → Process μ}
      (hpool : 0 < pool) (hbranches : ∀ p ∈ branches, Live p)
      (h : ∀ outcomes, Live (next outcomes)) : Live (.fork pool branches next)

theorem Process.Live.andThen {p : Process μ} (h : p.Live) {k : Outcome → Process μ}
    (hk : ∀ o, (k o).Live) : (p.andThen k).Live := by
  induction h with
  | done => exact hk _
  | report _ ih => exact .report ih
  | write _ ih => exact .write ih
  | ask _ ih => exact .ask ih
  | fork hpool hbranches _ _ ih => exact .fork hpool hbranches ih

namespace Thread

/-- What is left to do is live. -/
inductive Live : Thread μ → Prop
  | waiting {p : Process μ} (h : p.Live) : Live (.waiting p)
  | active {p : Process μ} (h : p.Live) : Live (.active p)
  | asking {model : μ} {request : Request} {next : Except Failure String → Process μ}
      (h : ∀ reply, (next reply).Live) : Live (.asking model request next)
  | joining {pool : Nat} {branches : List (Thread μ)} {next : List Outcome → Process μ}
      (hpool : 0 < pool) (hbranches : ∀ t ∈ branches, Live t)
      (h : ∀ outcomes, (next outcomes).Live) : Live (.joining pool branches next)
  | ended {outcome : Outcome} : Live (.ended outcome)

end Thread

/-- What holds of all branches still does when one gives way to another of which it holds. -/
theorem forall_mem_replace {α : Type} {P : α → Prop} {before after : List α} {x y : α}
    (h : ∀ z ∈ before ++ x :: after, P z) (hy : P y) : ∀ z ∈ before ++ y :: after, P z := by
  intro z hz
  rcases List.mem_append.mp hz with hz | hz
  · exact h z (List.mem_append_left _ hz)
  · rcases List.mem_cons.mp hz with rfl | hz
    · exact hy
    · exact h z (List.mem_append_right _ (List.mem_cons_of_mem _ hz))

theorem Step.live {t t' : Thread μ} {action : Option (Action μ)} (h : Step may t action t')
    (hlive : t.Live) : t'.Live := by
  induction h with
  | report =>
    cases hlive with | active h => cases h with | report h => exact .active h
  | write =>
    cases hlive with | active h => cases h with | write h => exact .active h
  | request =>
    cases hlive with | active h => cases h with | ask h => exact .asking h
  | reply =>
    cases hlive with | asking h => exact .active (h _)
  | fork =>
    cases hlive with
    | active h =>
      cases h with
      | fork hpool hbranches h =>
        refine .joining hpool (fun t ht => ?_) h
        obtain ⟨p, hp, rfl⟩ := List.mem_map.mp ht
        exact .waiting (hbranches p hp)
  | @acquire _ _ _ p =>
    cases hlive with
    | joining hpool hbranches h =>
      have hactive : Thread.Live (.active p) := by
        cases hbranches _ List.mem_append_cons_self with | waiting hp => exact .active hp
      exact .joining hpool (forall_mem_replace hbranches hactive) h
  | branch _ ih =>
    cases hlive with
    | joining hpool hbranches h =>
      have hbranch := ih (hbranches _ List.mem_append_cons_self)
      exact .joining hpool (forall_mem_replace hbranches hbranch) h
  | finish => exact .ended
  | join =>
    cases hlive with | joining _ _ h => exact .active (h _)

theorem Steps.live {t t' : Thread μ} {actions : List (Action μ)} (h : Steps may t actions t')
    (hlive : t.Live) : t'.Live := by
  induction h with
  | refl => exact hlive
  | step hstep _ ih => exact ih (hstep.live hlive)

/-! ## Coming to an end -/

namespace Thread

/-- The thread as it is once it has got a permit. -/
def admitted : Thread μ → Thread μ
  | .waiting p => .active p
  | t => t

/-- With a permit, the thread can be brought to its end. -/
def Able (may : Replies μ) (t : Thread μ) : Prop :=
  ∃ actions outcome, Steps may t.admitted actions (.ended outcome)

theorem admitted_of_holds {t : Thread μ} (h : t.holds) : t.admitted = t := by
  cases t with
  | waiting p => cases h
  | _ => rfl

theorem admitted_of_step {t t' : Thread μ} {action : Option (Action μ)} (h : Step may t action t') :
    t'.admitted = t' := by
  cases h <;> rfl

theorem able_ended {outcome : Outcome} : Able may (.ended outcome : Thread μ) :=
  ⟨[], outcome, .refl⟩

variable {pool : Nat} {next : List Outcome → Process μ}

/-- First, all branches that have a permit go to their ends. -/
theorem settle {branches : List (Thread μ)} (h : ∀ t ∈ branches, t.Able may)
    (before : List (Thread μ)) :
    ∃ actions branches', Steps may (.joining pool (before ++ branches) next) actions
        (.joining pool (before ++ branches') next) ∧
      ∀ t ∈ branches', t.Able may ∧ ¬ t.holds := by
  induction branches generalizing before with
  | nil => exact ⟨[], [], .refl, fun t ht => nomatch ht⟩
  | cons t rest ih =>
    have hrest : ∀ u ∈ rest, u.Able may := fun u hu => h u (List.mem_cons_of_mem _ hu)
    have hmove : ∃ actions t', Steps may (.joining pool (before ++ t :: rest) next) actions
        (.joining pool (before ++ t' :: rest) next) ∧ t'.Able may ∧ ¬ t'.holds := by
      by_cases hholds : t.holds
      · obtain ⟨actions, outcome, hsteps⟩ := h t List.mem_cons_self
        rw [admitted_of_holds hholds] at hsteps
        exact ⟨actions, .ended outcome, hsteps.branch, able_ended, Bool.false_ne_true⟩
      · exact ⟨[], t, .refl, h t List.mem_cons_self, hholds⟩
    obtain ⟨actions, t', hsteps, ht', hidle⟩ := hmove
    obtain ⟨more, rest', hmore, hrest'⟩ := ih hrest (before ++ [t'])
    rw [List.append_assoc, List.append_assoc] at hmore
    refine ⟨actions ++ more, t' :: rest', hsteps.trans hmore, fun u hu => ?_⟩
    rcases List.mem_cons.mp hu with rfl | hu
    · exact ⟨ht', hidle⟩
    · exact hrest' u hu

theorem holders_eq_zero {branches : List (Thread μ)} (h : ∀ t ∈ branches, ¬ t.holds) :
    holders branches = 0 :=
  List.countP_eq_zero.mpr h

/-- Then no permit is taken, and the branches that are left go to their ends one after another. -/
theorem drain (hpool : 0 < pool) {branches : List (Thread μ)}
    (h : ∀ t ∈ branches, t.Able may ∧ ¬ t.holds) (outcomes : List Outcome) :
    ∃ actions, ∃ outcomes' : List Outcome,
      Steps may (.joining pool (outcomes.map .ended ++ branches) next) actions
        (.joining pool (outcomes'.map .ended) next) := by
  induction branches generalizing outcomes with
  | nil =>
    rw [List.append_nil]
    exact ⟨[], outcomes, .refl⟩
  | cons t rest ih =>
    have hrest : ∀ u ∈ rest, u.Able may ∧ ¬ u.holds := fun u hu => h u (List.mem_cons_of_mem _ hu)
    have hmove : ∃ actions outcome,
        Steps may (.joining pool (outcomes.map .ended ++ t :: rest) next) actions
          (.joining pool (outcomes.map .ended ++ .ended outcome :: rest) next) := by
      obtain ⟨⟨actions, outcome, hsteps⟩, hidle⟩ := h t List.mem_cons_self
      cases t with
      | waiting p =>
        -- The branches before it have ended, those after it wait too: every permit is free.
        have hfree : holders (outcomes.map .ended ++ .waiting p :: rest) < pool := by
          rw [holders_eq_zero]
          · exact hpool
          · intro u hu
            rcases List.mem_append.mp hu with hu | hu
            · obtain ⟨_, -, rfl⟩ := List.mem_map.mp hu
              exact Bool.false_ne_true
            · exact (h u hu).2
        have hacquire : Step may (.joining pool (outcomes.map .ended ++ .waiting p :: rest) next)
            none (.joining pool (outcomes.map .ended ++ .active p :: rest) next) := .acquire hfree
        exact ⟨_, outcome, .step hacquire hsteps.branch⟩
      | ended o => exact ⟨[], o, .refl⟩
      | _ => exact absurd rfl hidle
    obtain ⟨actions, outcome, hsteps⟩ := hmove
    obtain ⟨more, outcomes', hmore⟩ := ih hrest (outcomes ++ [outcome])
    rw [List.map_append, List.append_assoc] at hmore
    exact ⟨actions ++ more, outcomes', hsteps.trans hmore⟩

/-- A fork whose branches can all be brought to their ends goes on. -/
theorem join_of_able (hpool : 0 < pool) {branches : List (Thread μ)}
    (h : ∀ t ∈ branches, t.Able may) : ∃ actions outcomes,
    Steps may (.joining pool branches next) actions (.active (next outcomes)) := by
  obtain ⟨actions, branches', hsettle, hidle⟩ := settle h []
  obtain ⟨more, outcomes, hdrain⟩ := drain hpool hidle []
  exact ⟨_, outcomes, (hsettle.trans hdrain).trans (.single .join)⟩

end Thread

/-- A live process can be brought to its end, if every model replies. -/
theorem Process.Live.able (hmay : ∀ model request, ∃ reply, may model request reply)
    {p : Process μ} (h : p.Live) : Thread.Able may (.active p) := by
  induction h with
  | @done outcome => exact ⟨_, outcome, .single .finish⟩
  | report _ ih =>
    obtain ⟨actions, outcome, hsteps⟩ := ih
    exact ⟨_, outcome, .step .report hsteps⟩
  | write _ ih =>
    obtain ⟨actions, outcome, hsteps⟩ := ih
    exact ⟨_, outcome, .step .write hsteps⟩
  | @ask model request next _ ih =>
    obtain ⟨reply, hreply⟩ := hmay model request
    obtain ⟨actions, outcome, hsteps⟩ := ih reply
    exact ⟨_, outcome, .step .request (.step (.reply hreply) hsteps)⟩
  | @fork pool branches next hpool _ _ hbranches ih =>
    have hable : ∀ t ∈ branches.map Thread.waiting, t.Able may := by
      intro t ht
      obtain ⟨p, hp, rfl⟩ := List.mem_map.mp ht
      exact hbranches p hp
    obtain ⟨actions, outcomes, hjoin⟩ : ∃ actions outcomes,
        Steps may (.joining pool (branches.map .waiting) next) actions (.active (next outcomes)) :=
      Thread.join_of_able hpool hable
    obtain ⟨more, outcome, hsteps⟩ := ih outcomes
    exact ⟨_, outcome, .step .fork (hjoin.trans hsteps)⟩

theorem Thread.Live.able (hmay : ∀ model request, ∃ reply, may model request reply)
    {t : Thread μ} (h : t.Live) : t.Able may := by
  induction h with
  | waiting h => exact h.able hmay
  | active h => exact h.able hmay
  | @asking model request next h =>
    obtain ⟨reply, hreply⟩ := hmay model request
    obtain ⟨actions, outcome, hsteps⟩ := (h reply).able hmay
    exact ⟨_, outcome, .step (.reply hreply) hsteps⟩
  | @joining pool branches next hpool _ h ih =>
    obtain ⟨actions, outcomes, hjoin⟩ : ∃ actions outcomes,
        Steps may (.joining pool branches next) actions (.active (next outcomes)) :=
      Thread.join_of_able hpool ih
    obtain ⟨more, outcome, hsteps⟩ := (h outcomes).able hmay
    exact ⟨_, outcome, hjoin.trans hsteps⟩
  | ended => exact Thread.able_ended

/-- What does not wait at the start never waits. -/
theorem Steps.admitted_eq {t t' : Thread μ} {actions : List (Action μ)} (h : Steps may t actions t')
    (ht : t.admitted = t) : t'.admitted = t' := by
  induction h with
  | refl => exact ht
  | step hstep _ ih => exact ih (Thread.admitted_of_step hstep)

end AgentGraph
