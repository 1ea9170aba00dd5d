import AgentGraph.Proofs.Weaving

/-! What a process can come to, and that schedules do not matter for it.

* `Produces`: a process can come to an outcome, with a log, if its branches are run one after
  another and the models reply as they may.
* `Yields`: the same for what is left of a thread.
* `yields_of_step`: what is left before a step is that step and what is left after it.
* `produces_of_steps`: what a process comes to by some schedule it can come to without one, and what
  is seen on the way is its log, woven in some way.
* `Produces.eq_run`: if every model replies in one way, there is only one thing to come to. -/
namespace AgentGraph
set_option autoImplicit false

variable {μ : Type} {may : Replies μ}

/-! ## Processes -/

/-- Something that was run: what it was, its log, and what it came to. -/
structure Ran (α μ : Type) where
  start : α
  log : Log μ
  outcome : Outcome

/-- The process can come to the outcome, with this log. -/
inductive Produces (may : Replies μ) : Process μ → Log μ → Outcome → Prop
  | done {outcome : Outcome} : Produces may (.done outcome) .nil outcome
  | report {e : Event} {next : Process μ} {log : Log μ} {o : Outcome}
      (h : Produces may next log o) : Produces may (.report e next) (.event e log) o
  | write {c : Context} {key : String} {value : Value} {next : Context → Process μ} {log : Log μ}
      {o : Outcome} (h : Produces may (next (c.write key value)) log o) :
    Produces may (.write c key value next) log o
  | ask {model : μ} {request : Request} {next : Except Failure String → Process μ}
      {reply : Except Failure String} {log : Log μ} {o : Outcome} (hreply : may model request reply)
      (h : Produces may (next reply) log o) :
    Produces may (.ask model request next) (.call model request log) o
  | fork {pool : Nat} {runs : List (Ran (Process μ) μ)} {next : List Outcome → Process μ}
      {log : Log μ} {o : Outcome} (hruns : ∀ r ∈ runs, Produces may r.start r.log r.outcome)
      (h : Produces may (next (runs.map Ran.outcome)) log o) :
    Produces may (.fork pool (runs.map Ran.start) next) (.fork pool (runs.map Ran.log) log) o

/-! ## Threads -/

/-- What is left of the thread can come to the outcome, with this log. -/
inductive Yields (may : Replies μ) : Thread μ → Log μ → Outcome → Prop
  | waiting {p : Process μ} {log : Log μ} {o : Outcome} (h : Produces may p log o) :
    Yields may (.waiting p) log o
  | active {p : Process μ} {log : Log μ} {o : Outcome} (h : Produces may p log o) :
    Yields may (.active p) log o
  | asking {model : μ} {request : Request} {next : Except Failure String → Process μ}
      {reply : Except Failure String} {log : Log μ} {o : Outcome} (hreply : may model request reply)
      (h : Produces may (next reply) log o) : Yields may (.asking model request next) log o
  | joining {pool : Nat} {runs : List (Ran (Thread μ) μ)} {next : List Outcome → Process μ}
      {log : Log μ} {o : Outcome} (hruns : ∀ r ∈ runs, Yields may r.start r.log r.outcome)
      (h : Produces may (next (runs.map Ran.outcome)) log o) :
    Yields may (.joining pool (runs.map Ran.start) next) (.fork pool (runs.map Ran.log) log) o
  | ended {outcome : Outcome} : Yields may (.ended outcome) .nil outcome

section Joining
variable {pool : Nat} {next : List Outcome → Process μ} {log : Log μ} {o : Outcome}

theorem yields_joining_iff {branches : List (Thread μ)} :
    Yields may (.joining pool branches next) log o ↔
      ∃ (runs : List (Ran (Thread μ) μ)) (rest : Log μ), runs.map Ran.start = branches ∧
        (∀ r ∈ runs, Yields may r.start r.log r.outcome) ∧
        Produces may (next (runs.map Ran.outcome)) rest o ∧
        log = .fork pool (runs.map Ran.log) rest := by
  constructor
  · intro h
    cases h with
    | joining hruns h => exact ⟨_, _, rfl, hruns, h, rfl⟩
  · rintro ⟨runs, rest, rfl, hruns, h, rfl⟩
    exact .joining hruns h

/-- Branches that all wait are processes beside each other. -/
theorem ran_of_waiting {branches : List (Process μ)} {runs : List (Ran (Thread μ) μ)}
    (hstart : runs.map Ran.start = branches.map .waiting)
    (hruns : ∀ r ∈ runs, Yields may r.start r.log r.outcome) :
    ∃ runs' : List (Ran (Process μ) μ), runs'.map Ran.start = branches ∧
      runs'.map Ran.log = runs.map Ran.log ∧ runs'.map Ran.outcome = runs.map Ran.outcome ∧
      ∀ r ∈ runs', Produces may r.start r.log r.outcome := by
  induction branches generalizing runs with
  | nil =>
    rw [List.map_nil, List.map_eq_nil_iff] at hstart
    subst hstart
    exact ⟨[], rfl, rfl, rfl, fun r hr => nomatch hr⟩
  | cons p branches ih =>
    rw [List.map_cons, List.map_eq_cons_iff] at hstart
    obtain ⟨r, rest, rfl, hr, hrest⟩ := hstart
    obtain ⟨rest', hstarts, hlogs, houtcomes, hrest'⟩ :=
      ih hrest fun x hx => hruns x (List.mem_cons_of_mem _ hx)
    have hyields := hruns r List.mem_cons_self
    rw [hr] at hyields
    have hproduces : Produces may p r.log r.outcome := by
      cases hyields with | waiting h => exact h
    refine ⟨⟨p, r.log, r.outcome⟩ :: rest', ?_, ?_, ?_, fun x hx => ?_⟩
    · rw [List.map_cons, hstarts]
    · rw [List.map_cons, List.map_cons, hlogs]
    · rw [List.map_cons, List.map_cons, houtcomes]
    · rcases List.mem_cons.mp hx with rfl | hx
      · exact hproduces
      · exact hrest' x hx

/-- One branch may be put back by some actions; the others keep what is left of them. -/
theorem yields_replace {before after : List (Thread μ)} {t' : Thread μ}
    (h : Yields may (.joining pool (before ++ t' :: after) next) log o) :
    ∃ log₁ o₁, Yields may t' log₁ o₁ ∧ ∀ t log₂, Yields may t log₂ o₁ →
      ∃ log₃, Yields may (.joining pool (before ++ t :: after) next) log₃ o ∧
        ∀ actions, log₂.Offers actions log₁ → log₃.Offers actions log := by
  obtain ⟨runs, rest, hstart, hruns, hrest, rfl⟩ := yields_joining_iff.mp h
  obtain ⟨left, others, rfl, rfl, hothers⟩ := List.map_eq_append_iff.mp hstart
  obtain ⟨r, right, rfl, rfl, rfl⟩ := List.map_eq_cons_iff.mp hothers
  refine ⟨r.log, r.outcome, hruns r List.mem_append_cons_self, fun t log₂ ht => ?_⟩
  refine ⟨.fork pool (left.map Ran.log ++ log₂ :: right.map Ran.log) rest, ?_, ?_⟩
  · refine yields_joining_iff.mpr ⟨left ++ ⟨t, log₂, r.outcome⟩ :: right, rest, ?_, ?_, ?_, ?_⟩
    · rw [List.map_append, List.map_cons]
    · exact forall_mem_replace hruns ht
    · rw [List.map_append, List.map_cons] at hrest ⊢
      exact hrest
    · rw [List.map_append, List.map_cons]
  · intro actions hoffers
    rw [List.map_append, List.map_cons]
    exact hoffers.branch pool _ _ rest

/-- Nothing is left of branches that have ended. -/
theorem yields_of_ended {outcomes : List Outcome} (h : Produces may (next outcomes) log o) :
    Yields may (.joining pool (outcomes.map .ended) next)
      (.fork pool (outcomes.map fun _ => .nil) log) o := by
  let runs : List (Ran (Thread μ) μ) := outcomes.map fun o => ⟨.ended o, .nil, o⟩
  have hstart : runs.map Ran.start = outcomes.map .ended := List.map_map
  have hlogs : runs.map Ran.log = outcomes.map fun _ => .nil := List.map_map
  have houtcomes : runs.map Ran.outcome = outcomes := by
    rw [List.map_map]
    exact List.map_id _
  have hruns : ∀ r ∈ runs, Yields may r.start r.log r.outcome := by
    intro r hr
    obtain ⟨outcome, -, rfl⟩ := List.mem_map.mp hr
    exact .ended
  rw [← hlogs]
  exact yields_joining_iff.mpr ⟨runs, log, hstart, hruns, houtcomes.symm ▸ h, rfl⟩

end Joining

/-! ## Schedules -/

/-- What is left before a step is that step and what is left after it. -/
theorem yields_of_step {t t' : Thread μ} {action : Option (Action μ)} (h : Step may t action t')
    {log : Log μ} {o : Outcome} (hleft : Yields may t' log o) :
    ∃ log₀, Yields may t log₀ o ∧ log₀.Offers action.toList log := by
  induction h generalizing log o with
  | report =>
    cases hleft with | active h => exact ⟨_, .active (.report h), fun _ hw => .event hw⟩
  | write =>
    cases hleft with | active h => exact ⟨_, .active (.write h), log.offers_refl⟩
  | request =>
    cases hleft with
    | asking hreply h => exact ⟨_, .active (.ask hreply h), fun _ hw => .call hw⟩
  | reply hreply =>
    cases hleft with | active h => exact ⟨_, .asking hreply h, log.offers_refl⟩
  | fork =>
    obtain ⟨runs, rest, hstart, hruns, hrest, rfl⟩ := yields_joining_iff.mp hleft
    obtain ⟨runs', rfl, hlogs, houtcomes, hruns'⟩ := ran_of_waiting hstart hruns
    rw [← houtcomes] at hrest
    rw [← hlogs]
    exact ⟨_, .active (.fork hruns' hrest), Log.offers_refl _⟩
  | acquire =>
    obtain ⟨log₁, o₁, hactive, hreplace⟩ := yields_replace hleft
    cases hactive with
    | active h =>
      obtain ⟨log₀, hyields, hoffers⟩ := hreplace _ _ (.waiting h)
      exact ⟨log₀, hyields, hoffers [] log₁.offers_refl⟩
  | branch _ ih =>
    obtain ⟨log₁, o₁, hbranch, hreplace⟩ := yields_replace hleft
    obtain ⟨log₂, hyields, hoffers⟩ := ih hbranch
    obtain ⟨log₀, hyields₀, hoffers₀⟩ := hreplace _ _ hyields
    exact ⟨log₀, hyields₀, hoffers₀ _ hoffers⟩
  | finish =>
    cases hleft with | ended => exact ⟨_, .active .done, Log.offers_refl _⟩
  | join =>
    cases hleft with
    | active h => exact ⟨_, yields_of_ended h, Log.offers_of_silent _ _ log⟩

theorem yields_of_steps {t t' : Thread μ} {actions : List (Action μ)} (h : Steps may t actions t')
    {log : Log μ} {o : Outcome} (hleft : Yields may t' log o) :
    ∃ log₀, Yields may t log₀ o ∧ log₀.Offers actions log := by
  induction h with
  | refl => exact ⟨log, hleft, log.offers_refl⟩
  | step hstep _ ih =>
    obtain ⟨log₁, hyields₁, hoffers₁⟩ := ih hleft
    obtain ⟨log₀, hyields₀, hoffers₀⟩ := yields_of_step hstep hyields₁
    refine ⟨log₀, hyields₀, fun w hw => ?_⟩
    rw [List.append_assoc]
    exact hoffers₀ _ (hoffers₁ w hw)

/-- Whatever a schedule comes to, the process can come to without one, and what is seen on the way
is what its log may be seen as. -/
theorem produces_of_steps {p : Process μ} {actions : List (Action μ)} {o : Outcome}
    (h : Steps may (.active p) actions (.ended o)) :
    ∃ log, Produces may p log o ∧ log.Shows actions := by
  obtain ⟨log, hyields, hoffers⟩ := yields_of_steps h .ended
  cases hyields with
  | active hproduces =>
    have hshows := hoffers [] .nil
    rw [List.append_nil] at hshows
    exact ⟨log, hproduces, hshows⟩

/-! ## Models that reply in one way -/

/-- A responder that remembers nothing. -/
def Responder.of (answer : μ → Request → Except Failure String) : Responder μ Unit :=
  fun model request memory => (answer model request, memory)

/-- Runs the branches of every fork one after another, with models that reply in one way. -/
def Process.sequentially (answer : μ → Request → Except Failure String) (p : Process μ) :
    Run μ Unit :=
  p.run (.of answer) ()

theorem runAll_of_run {answer : μ → Request → Except Failure String}
    {runs : List (Ran (Process μ) μ)}
    (h : ∀ r ∈ runs, r.start.sequentially answer = ⟨r.outcome, (), r.log⟩) :
    Process.runAll (.of answer) (runs.map Ran.start) () =
      ⟨runs.map Ran.outcome, (), runs.map Ran.log⟩ := by
  induction runs with
  | nil => rfl
  | cons r rest ih =>
    have hr : r.start.run (.of answer) () = ⟨r.outcome, (), r.log⟩ := h r List.mem_cons_self
    have hrest := ih fun x hx => h x (List.mem_cons_of_mem _ hx)
    simp only [List.map_cons, Process.runAll, hr, hrest]

/-- If every model replies in one way, there is only one thing to come to. -/
theorem Produces.eq_run {answer : μ → Request → Except Failure String} {p : Process μ}
    {log : Log μ} {o : Outcome} (h : Produces (.of answer) p log o) :
    p.sequentially answer = ⟨o, (), log⟩ := by
  induction h with
  | done => rfl
  | report _ ih =>
    rw [Process.sequentially] at ih ⊢
    simp only [Process.run, ih]
  | write _ ih => exact ih
  | @ask model request next reply log o hreply _ ih =>
    subst hreply
    have hnext : (next (answer model request)).run (.of answer) () = ⟨o, (), log⟩ := ih
    have hrun : (Process.ask model request next).run (.of answer) () =
        { (next (answer model request)).run (.of answer) () with
          log := .call model request ((next (answer model request)).run (.of answer) ()).log } :=
      rfl
    rw [Process.sequentially, hrun, hnext]
  | fork _ _ hruns ih =>
    rw [Process.sequentially] at ih ⊢
    simp only [Process.run, runAll_of_run hruns, ih]

end AgentGraph
