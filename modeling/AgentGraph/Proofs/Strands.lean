import AgentGraph.Proofs.Weaving

/-! The branches of a fork, each followed on its own.

* `Strand`: one branch, with what has been seen of it so far.
* `Forked`: every branch still waits, or is on a schedule of its own that began once, when it was given
  its permit; what has been seen of the fork is what has been seen of these, woven.
* `Steps.of_fork`: a fork does nothing else until all of its branches have ended. -/
namespace AgentGraph
set_option autoImplicit false

variable {μ : Type} {may : Replies μ}

/-- A branch of a fork: the process that it is, what has been seen of it, and where it has come. -/
structure Strand (μ : Type) where
  start : Process μ
  seen : List (Action μ)
  thread : Thread μ

/-- The branch still waits, or it has come where it is by a schedule from its start. -/
def Strand.Spun (may : Replies μ) (s : Strand μ) : Prop :=
  (s.seen = [] ∧ s.thread = .waiting s.start) ∨ Steps may (.active s.start) s.seen s.thread

/-- The processes are being run beside each other; this has been seen so far, and this is where they
have come. -/
def Forked (may : Replies μ) (starts : List (Process μ)) (seen : List (Action μ))
    (threads : List (Thread μ)) : Prop :=
  ∃ strands : List (Strand μ), strands.map Strand.start = starts ∧ (∀ s ∈ strands, s.Spun may) ∧
    Woven (strands.map Strand.seen) seen ∧ strands.map Strand.thread = threads

theorem forked_start (starts : List (Process μ)) : Forked may starts [] (starts.map .waiting) := by
  let strands : List (Strand μ) := starts.map fun p => ⟨p, [], .waiting p⟩
  refine ⟨strands, ?_, fun s hs => ?_, .done fun row hrow => ?_, ?_⟩
  · rw [List.map_map]
    exact List.map_id starts
  · obtain ⟨p, -, rfl⟩ := List.mem_map.mp hs
    exact .inl ⟨rfl, rfl⟩
  · obtain ⟨s, hs, rfl⟩ := List.mem_map.mp hrow
    obtain ⟨p, -, rfl⟩ := List.mem_map.mp hs
    rfl
  · rw [List.map_map]
    rfl

variable {starts : List (Process μ)} {seen actions : List (Action μ)}

theorem Forked.replace {before after : List (Thread μ)} {t t' : Thread μ}
    (h : Forked may starts seen (before ++ t :: after))
    (hmove : ∀ s : Strand μ, s.thread = t → s.Spun may →
      Strand.Spun may ⟨s.start, s.seen ++ actions, t'⟩) :
    Forked may starts (seen ++ actions) (before ++ t' :: after) := by
  obtain ⟨strands, rfl, hspun, hwoven, hthreads⟩ := h
  obtain ⟨left, others, rfl, rfl, hothers⟩ := List.map_eq_append_iff.mp hthreads
  obtain ⟨s, right, rfl, rfl, rfl⟩ := List.map_eq_cons_iff.mp hothers
  have hs : s.Spun may := hspun s List.mem_append_cons_self
  rw [List.map_append, List.map_cons] at hwoven
  refine ⟨left ++ ⟨s.start, s.seen ++ actions, t'⟩ :: right, ?_, ?_, ?_, ?_⟩
  · rw [List.map_append, List.map_append, List.map_cons, List.map_cons]
  · exact forall_mem_replace hspun (hmove s rfl hs)
  · rw [List.map_append, List.map_cons]
    exact hwoven.grow actions
  · rw [List.map_append, List.map_cons]

variable {pool : Nat} {threads : List (Thread μ)} {next : List Outcome → Process μ} {t : Thread μ}

/-- A step of a fork is one of its branches, or they have all ended and it goes on. -/
theorem Forked.step {action : Option (Action μ)} (h : Forked may starts seen threads)
    (hstep : Step may (.joining pool threads next) action t) :
    (∃ threads', t = .joining pool threads' next ∧
      Forked may starts (seen ++ action.toList) threads') ∨
    ∃ outcomes : List Outcome, action = none ∧ threads = outcomes.map .ended ∧
      t = .active (next outcomes) := by
  cases hstep with
  | acquire =>
    refine .inl ⟨_, rfl, h.replace fun s hthread hspun => ?_⟩
    rcases hspun with ⟨hseen, hwaiting⟩ | hsteps
    · have hstart := Thread.waiting.inj (hwaiting.symm.trans hthread)
      rw [hseen, hstart]
      exact .inr .refl
    · -- A schedule never comes to a thread that waits.
      have hadmitted := hsteps.admitted_eq rfl
      rw [hthread] at hadmitted
      cases hadmitted
  | branch hbranch =>
    refine .inl ⟨_, rfl, h.replace fun s hthread hspun => ?_⟩
    rcases hspun with ⟨-, hwaiting⟩ | hsteps
    · rw [← hthread, hwaiting] at hbranch
      cases hbranch
    · rw [hthread] at hsteps
      exact .inr (hsteps.trans (.single hbranch))
  | join => exact .inr ⟨_, rfl, rfl, rfl⟩

theorem Forked.steps {whole : Thread μ} (hwhole : whole = .joining pool threads next)
    (h : Forked may starts seen threads) (hsteps : Steps may whole actions t) :
    (∃ threads', t = .joining pool threads' next ∧ Forked may starts (seen ++ actions) threads') ∨
    ∃ (before rest : List (Action μ)) (outcomes : List Outcome), actions = before ++ rest ∧
      Forked may starts (seen ++ before) (outcomes.map .ended) ∧
      Steps may (.active (next outcomes)) rest t := by
  induction hsteps generalizing seen threads with
  | refl =>
    refine .inl ⟨threads, hwhole, ?_⟩
    rwa [List.append_nil]
  | step hstep hrest ih =>
    subst hwhole
    rcases h.step hstep with ⟨threads', rfl, hforked⟩ | ⟨outcomes, rfl, rfl, rfl⟩
    · rcases ih rfl hforked with ⟨last, rfl, hlast⟩ | ⟨before, rest, outcomes, rfl, hended, hmore⟩
      · rw [List.append_assoc] at hlast
        exact .inl ⟨last, rfl, hlast⟩
      · rw [List.append_assoc] at hended
        exact .inr ⟨_, rest, outcomes, (List.append_assoc ..).symm, hended, hmore⟩
    · refine .inr ⟨[], _, outcomes, rfl, ?_, hrest⟩
      rwa [List.append_nil]

/-- A schedule of a fork has not begun, or its branches are being run beside each other, or they have
all been run to their ends, each by one schedule of its own, and the fork has gone on. -/
theorem Steps.of_fork (h : Steps may (.active (.fork pool starts next)) actions t) :
    (actions = [] ∧ t = .active (.fork pool starts next)) ∨
    (∃ threads, t = .joining pool threads next ∧ Forked may starts actions threads) ∨
    ∃ (before rest : List (Action μ)) (outcomes : List Outcome), actions = before ++ rest ∧
      Forked may starts before (outcomes.map .ended) ∧
      Steps may (.active (next outcomes)) rest t := by
  cases h with
  | refl => exact .inl ⟨rfl, rfl⟩
  | step hstep hrest =>
    cases hstep with
    | fork => exact .inr ((forked_start starts).steps rfl hrest)

end AgentGraph
