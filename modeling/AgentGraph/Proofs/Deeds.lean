import AgentGraph.Proofs.Always
import AgentGraph.Run.Executable

/-! Everything that a process does on its way to an outcome.

A log tells of events and calls. A deed can also be a write, and of a call it keeps the reply.

* `Does`: by some deeds a process comes to an outcome.
* `Does.of_andThen`, `Does.of_consult`: the deeds of two parts that follow on each other.
* `exists_deeds_of_produces`: there are deeds behind every log.
* `exists_deeds_of_steps`, `exists_deeds_of_run`: so there are behind every schedule and every run. -/
namespace AgentGraph
set_option autoImplicit false

variable {μ σ : Type} {may : Replies μ}

/-! ## Deeds -/

inductive Deed (μ : Type) where
  | event (e : Event)
  | exchange (model : μ) (request : Request) (reply : Except Failure String)
  | write (key : String) (value : Value)
  | fork (pool : Nat) (branches : List (List (Deed μ)))

namespace Deed

mutual

/-- The log of a deed and what comes after it; neither replies nor writes are told. -/
def before : Deed μ → Log μ → Log μ
  | .event e, rest => .event e rest
  | .exchange model request _, rest => .call model request rest
  | .write _ _, rest => rest
  | .fork pool branches, rest => .fork pool (logs branches) rest

def log : List (Deed μ) → Log μ
  | [] => .nil
  | deed :: rest => deed.before (log rest)

def logs : List (List (Deed μ)) → List (Log μ)
  | [] => []
  | deeds :: rest => log deeds :: logs rest

end

theorem logs_eq_map (branches : List (List (Deed μ))) : logs branches = branches.map log := by
  induction branches with
  | nil => rfl
  | cons deeds rest ih => rw [logs, ih, List.map_cons]

end Deed

/-- A process that was run: what it did, and what it came to. -/
structure Did (μ : Type) where
  start : Process μ
  deeds : List (Deed μ)
  outcome : Outcome

/-- By these deeds the process comes to the outcome. -/
inductive Does (may : Replies μ) : Process μ → List (Deed μ) → Outcome → Prop
  | done {o : Outcome} : Does may (.done o) [] o
  | report {e : Event} {next : Process μ} {deeds : List (Deed μ)} {o : Outcome}
      (h : Does may next deeds o) : Does may (.report e next) (.event e :: deeds) o
  | write {c : Context} {key : String} {value : Value} {next : Context → Process μ}
      {deeds : List (Deed μ)} {o : Outcome} (h : Does may (next (c.write key value)) deeds o) :
    Does may (.write c key value next) (.write key value :: deeds) o
  | ask {model : μ} {request : Request} {next : Except Failure String → Process μ}
      {reply : Except Failure String} {deeds : List (Deed μ)} {o : Outcome}
      (hreply : may model request reply) (h : Does may (next reply) deeds o) :
    Does may (.ask model request next) (.exchange model request reply :: deeds) o
  | fork {pool : Nat} {runs : List (Did μ)} {next : List Outcome → Process μ}
      {deeds : List (Deed μ)} {o : Outcome} (hruns : ∀ r ∈ runs, Does may r.start r.deeds r.outcome)
      (h : Does may (next (runs.map Did.outcome)) deeds o) :
    Does may (.fork pool (runs.map Did.start) next) (.fork pool (runs.map Did.deeds) :: deeds) o

/-! ## One part after another -/

section Inversion
variable {deeds : List (Deed μ)} {o : Outcome} {c : Context} {value : Value}

theorem Does.of_fork {pool : Nat} {branches : List (Process μ)} {next : List Outcome → Process μ}
    (h : Does may (.fork pool branches next) deeds o) :
    ∃ (runs : List (Did μ)) (rest : List (Deed μ)), runs.map Did.start = branches ∧
      (∀ r ∈ runs, Does may r.start r.deeds r.outcome) ∧
      Does may (next (runs.map Did.outcome)) rest o ∧
      deeds = .fork pool (runs.map Did.deeds) :: rest := by
  cases h with
  | fork hruns h => exact ⟨_, _, rfl, hruns, h, rfl⟩

theorem Does.of_done {o' : Outcome} (h : Does may (.done o' : Process μ) deeds o) :
    deeds = [] ∧ o = o' := by
  cases h with
  | done => exact ⟨rfl, rfl⟩

theorem Does.of_andThen {k : Outcome → Process μ} : (p : Process μ) → {deeds : List (Deed μ)} →
    {o : Outcome} → Does may (p.andThen k) deeds o →
    ∃ first o₁ rest, Does may p first o₁ ∧ Does may (k o₁) rest o ∧ deeds = first ++ rest
  | .done o₁, deeds, _, h => ⟨[], o₁, deeds, .done, h, rfl⟩
  | .report e next, _, _, h => by
    cases h with
    | report h =>
      obtain ⟨first, o₁, rest, hfirst, hrest, rfl⟩ := of_andThen next h
      exact ⟨.event e :: first, o₁, rest, .report hfirst, hrest, rfl⟩
  | .write c key value next, _, _, h => by
    cases h with
    | write h =>
      obtain ⟨first, o₁, rest, hfirst, hrest, rfl⟩ := of_andThen (next _) h
      exact ⟨.write key value :: first, o₁, rest, .write hfirst, hrest, rfl⟩
  | .ask model request next, _, _, h => by
    cases h with
    | @ask _ _ _ reply _ _ hreply h =>
      obtain ⟨first, o₁, rest, hfirst, hrest, rfl⟩ := of_andThen (next reply) h
      exact ⟨.exchange model request reply :: first, o₁, rest, .ask hreply hfirst, hrest, rfl⟩
  | .fork pool branches next, _, _, h => by
    obtain ⟨runs, _, rfl, hruns, hnext, rfl⟩ := Does.of_fork h
    obtain ⟨first, o₁, rest, hfirst, hrest, rfl⟩ := of_andThen (next _) hnext
    exact ⟨.fork pool (runs.map Did.deeds) :: first, o₁, rest, .fork hruns hfirst, hrest, rfl⟩

theorem Does.of_consult {model : μ} {request : Request} {k : String → Process μ} {c' : Context}
    (h : Does may (.consult model request c k) deeds ⟨.ok value, c'⟩) :
    ∃ reply rest, may model request (.ok reply) ∧ Does may (k reply) rest ⟨.ok value, c'⟩ ∧
      deeds = .exchange model request (.ok reply) :: rest := by
  cases h with
  | @ask _ _ _ reply rest _ hreply h =>
    cases reply with
    | ok reply => exact ⟨reply, rest, hreply, h, rfl⟩
    | error e => cases h

/-- An invocation tells that it begins, acts, and tells that it has succeeded. -/
theorem Does.of_invoke {x : Executable μ} {c' : Context}
    (h : Does may (x.invoke c) deeds ⟨.ok value, c'⟩) :
    ∃ inside, Does may (x.act (c.withScope (c.scope.record x.id x.name))) inside ⟨.ok value, c'⟩ ∧
      deeds = .event (.unitStarted x.id x.kind) :: (inside ++ [.event (.unitCompleted x.id)]) := by
  cases h with
  | report h =>
    obtain ⟨first, o, rest, hfirst, hrest, rfl⟩ := Does.of_andThen _ h
    cases hrest with
    | report hrest =>
      obtain ⟨rfl, rfl⟩ := hrest.of_done
      exact ⟨first, hfirst, rfl⟩

end Inversion

/-! ## Schedules and runs -/

theorem exists_did {runs : List (Ran (Process μ) μ)}
    (h : ∀ r ∈ runs, ∃ deeds, Does may r.start deeds r.outcome ∧ Deed.log deeds = r.log) :
    ∃ did : List (Did μ), did.map Did.start = runs.map Ran.start ∧
      did.map Did.outcome = runs.map Ran.outcome ∧
      did.map (fun d => Deed.log d.deeds) = runs.map Ran.log ∧
      ∀ d ∈ did, Does may d.start d.deeds d.outcome := by
  induction runs with
  | nil => exact ⟨[], rfl, rfl, rfl, List.forall_mem_nil _⟩
  | cons r rest ih =>
    obtain ⟨deeds, hr, hlog⟩ := h r List.mem_cons_self
    obtain ⟨did, hstarts, houtcomes, hlogs, hdid⟩ := ih fun x hx => h x (List.mem_cons_of_mem _ hx)
    refine ⟨⟨r.start, deeds, r.outcome⟩ :: did, ?_, ?_, ?_, List.forall_mem_cons.mpr ⟨hr, hdid⟩⟩
    · rw [List.map_cons, List.map_cons, hstarts]
    · rw [List.map_cons, List.map_cons, houtcomes]
    · rw [List.map_cons, List.map_cons, hlogs, hlog]

theorem exists_deeds_of_produces {p : Process μ} {log : Log μ} {o : Outcome}
    (h : Produces may p log o) : ∃ deeds, Does may p deeds o ∧ Deed.log deeds = log := by
  induction h with
  | done => exact ⟨[], .done, rfl⟩
  | report _ ih =>
    obtain ⟨deeds, h, rfl⟩ := ih
    exact ⟨_, .report h, rfl⟩
  | write _ ih =>
    obtain ⟨deeds, h, rfl⟩ := ih
    exact ⟨_, .write h, rfl⟩
  | ask hreply _ ih =>
    obtain ⟨deeds, h, rfl⟩ := ih
    exact ⟨_, .ask hreply h, rfl⟩
  | @fork pool runs next log o _ _ hruns ih =>
    obtain ⟨deeds, hnext, rfl⟩ := ih
    obtain ⟨did, hstarts, houtcomes, hlogs, hdid⟩ := exists_did hruns
    rw [← houtcomes] at hnext
    rw [← hstarts, ← hlogs]
    refine ⟨_, .fork hdid hnext, ?_⟩
    rw [Deed.log, Deed.before, Deed.logs_eq_map, List.map_map]
    rfl

theorem exists_deeds_of_steps {p : Process μ} {actions : List (Action μ)} {o : Outcome}
    (h : Steps may (.active p) actions (.ended o)) :
    ∃ deeds, Does may p deeds o ∧ (Deed.log deeds).Shows actions := by
  obtain ⟨log, hproduces, hshows⟩ := produces_of_steps h
  obtain ⟨deeds, hdeeds, rfl⟩ := exists_deeds_of_produces hproduces
  exact ⟨deeds, hdeeds, hshows⟩

theorem exists_deeds_of_run (answer : Responder μ σ) (p : Process μ) (memory : σ) :
    ∃ deeds, Does (.by answer) p deeds (p.run answer memory).outcome ∧
      Deed.log deeds = (p.run answer memory).log :=
  exists_deeds_of_produces (produces_run_by answer p memory)

end AgentGraph
