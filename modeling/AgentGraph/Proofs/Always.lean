import AgentGraph.Proofs.Possible

/-! What holds of everything that a process can come to: one rule for each way to make a process. A
rule asks of the parts what makes the whole come out right; the logs of two parts that follow on
each other are appended. -/
namespace AgentGraph
set_option autoImplicit false

variable {μ σ : Type} {may : Replies μ}

/-! ## One part after another -/

theorem produces_fork_iff {pool : Nat} {branches : List (Process μ)}
    {next : List Outcome → Process μ} {log : Log μ} {o : Outcome} : Produces may (.fork pool branches next) log o ↔
      ∃ (runs : List (Ran (Process μ) μ)) (rest : Log μ), runs.map Ran.start = branches ∧
        (∀ r ∈ runs, Produces may r.start r.log r.outcome) ∧
        Produces may (next (runs.map Ran.outcome)) rest o ∧
        log = .fork pool (runs.map Ran.log) rest := by
  constructor
  · intro h
    cases h with
    | fork hruns h => exact ⟨_, _, rfl, hruns, h, rfl⟩
  · rintro ⟨runs, rest, rfl, hruns, h, rfl⟩
    exact .fork hruns h

theorem produces_of_andThen {k : Outcome → Process μ} : (p : Process μ) → {log : Log μ} →
    {o : Outcome} → Produces may (p.andThen k) log o → ∃ first o₁ rest,
      Produces may p first o₁ ∧ Produces may (k o₁) rest o ∧ log = first.append rest
  | .done o₁, log, _, h => ⟨.nil, o₁, log, .done, h, rfl⟩
  | .report e next, _, _, h => by
    cases h with
    | report h =>
      obtain ⟨first, o₁, rest, hfirst, hrest, rfl⟩ := produces_of_andThen next h
      exact ⟨.event e first, o₁, rest, .report hfirst, hrest, rfl⟩
  | .write c key value next, _, _, h => by
    cases h with
    | write h =>
      obtain ⟨first, o₁, rest, hfirst, hrest, rfl⟩ := produces_of_andThen (next _) h
      exact ⟨first, o₁, rest, .write hfirst, hrest, rfl⟩
  | .ask model request next, _, _, h => by
    cases h with
    | @ask _ _ _ reply _ _ hreply h =>
      obtain ⟨first, o₁, rest, hfirst, hrest, rfl⟩ := produces_of_andThen (next reply) h
      exact ⟨.call model request first, o₁, rest, .ask hreply hfirst, hrest, rfl⟩
  | .fork pool branches next, _, _, h => by
    obtain ⟨runs, _, rfl, hruns, hnext, rfl⟩ := produces_fork_iff.mp h
    obtain ⟨first, o₁, rest, hfirst, hrest, rfl⟩ := produces_of_andThen (next _) hnext
    exact ⟨.fork pool _ first, o₁, rest, .fork hruns hfirst, hrest, rfl⟩

/-! ## The rules -/

/-- Everything that the process can come to is as `Q` says, together with its log. -/
def Always (may : Replies μ) (p : Process μ) (Q : Log μ → Outcome → Prop) : Prop :=
  ∀ log o, Produces may p log o → Q log o

variable {p : Process μ} {Q : Log μ → Outcome → Prop} {c : Context}

theorem Always.imp {R : Log μ → Outcome → Prop} (h : Always may p R)
    (hRQ : ∀ log o, R log o → Q log o) : Always may p Q :=
  fun log o hp => hRQ log o (h log o hp)

theorem always_done {o : Outcome} (h : Q .nil o) : Always may (.done o) Q := by
  intro log o' hp
  cases hp with | done => exact h

theorem always_report {e : Event} {next : Process μ}
    (h : Always may next fun log o => Q (.event e log) o) : Always may (.report e next) Q := by
  intro log o hp
  cases hp with | report hnext => exact h _ _ hnext

theorem always_write {key : String} {value : Value} {next : Context → Process μ}
    (h : Always may (next (c.write key value)) Q) : Always may (.write c key value next) Q := by
  intro log o hp
  cases hp with | write hnext => exact h _ _ hnext

theorem always_ask {model : μ} {request : Request} {next : Except Failure String → Process μ}
    (h : ∀ reply, may model request reply →
      Always may (next reply) fun log o => Q (.call model request log) o) :
    Always may (.ask model request next) Q := by
  intro log o hp
  cases hp with | ask hreply hnext => exact h _ hreply _ _ hnext

theorem always_fork {pool : Nat} {branches : List (Process μ)} {next : List Outcome → Process μ}
    {R : Process μ → Log μ → Outcome → Prop} (hbranches : ∀ p ∈ branches, Always may p (R p))
    (h : ∀ runs : List (Ran (Process μ) μ), runs.map Ran.start = branches →
      (∀ r ∈ runs, R r.start r.log r.outcome) →
      Always may (next (runs.map Ran.outcome)) fun log o =>
        Q (.fork pool (runs.map Ran.log) log) o) :
    Always may (.fork pool branches next) Q := by
  intro log o hp
  obtain ⟨runs, rest, rfl, hruns, hnext, rfl⟩ := produces_fork_iff.mp hp
  refine h runs rfl (fun r hr => ?_) _ _ hnext
  exact hbranches r.start (List.mem_map_of_mem hr) _ _ (hruns r hr)

theorem always_andThen {k : Outcome → Process μ}
    (h : Always may p fun log o => Always may (k o) fun rest o' => Q (log.append rest) o') :
    Always may (p.andThen k) Q := by
  intro log o hp
  obtain ⟨first, o₁, rest, hfirst, hrest, rfl⟩ := produces_of_andThen p hp
  exact h _ _ hfirst _ _ hrest

theorem always_onSuccess {k : Value → Context → Process μ}
    (h : Always may p fun log o => match o.value with
      | .ok value => Always may (k value o.context) fun rest o' => Q (log.append rest) o'
      | .error e => Q log ⟨.error e, o.context⟩) :
    Always may (p.onSuccess k) Q := by
  refine always_andThen (h.imp fun log o ho => ?_)
  cases hvalue : o.value with
  | ok value =>
    rw [hvalue] at ho
    exact ho
  | error e =>
    rw [hvalue] at ho
    refine always_done ?_
    rwa [Log.append_nil]

theorem always_consult {model : μ} {request : Request} {k : String → Process μ}
    (hk : ∀ reply, may model request (.ok reply) →
      Always may (k reply) fun log o => Q (.call model request log) o)
    (hfail : ∀ e, may model request (.error e) → Q (.call model request .nil) ⟨.error e, c⟩) :
    Always may (.consult model request c k) Q := by
  refine always_ask fun reply hreply => ?_
  cases reply with
  | ok reply => exact hk reply hreply
  | error e => exact always_done (hfail e hreply)

/-! ## Models that remember -/

/-- Any reply at all. -/
def Replies.any : Replies μ := fun _ _ _ => True

/-- A reply that is given for some memory. -/
def Replies.by (answer : Responder μ σ) : Replies μ := fun model request reply =>
  ∃ memory, (answer model request memory).1 = reply

mutual

/-- What running a process comes to, it can come to if whatever is replied may be. -/
theorem produces_run_of {answer : Responder μ σ}
    (h : ∀ model request memory, may model request (answer model request memory).1) :
    (p : Process μ) → (memory : σ) →
      Produces may p (p.run answer memory).log (p.run answer memory).outcome
  | .done _, _ => .done
  | .report _ next, memory => .report (produces_run_of h next memory)
  | .write c key value next, memory =>
    .write (produces_run_of h (next (c.write key value)) memory)
  | .ask model request next, memory =>
    .ask (h model request memory) (produces_run_of h (next (answer model request memory).1)
      (answer model request memory).2)
  | .fork pool branches next, memory => by
    obtain ⟨runs, hstart, hlogs, houtcomes, hruns⟩ := ran_runAll h branches memory
    have hnext := produces_run_of h (next (Process.runAll answer branches memory).outcomes)
      (Process.runAll answer branches memory).memory
    refine produces_fork_iff.mpr ⟨runs, _, hstart, hruns, by rw [houtcomes]; exact hnext, ?_⟩
    rw [hlogs]
    rfl

theorem ran_runAll {answer : Responder μ σ}
    (h : ∀ model request memory, may model request (answer model request memory).1) :
    (ps : List (Process μ)) → (memory : σ) →
    ∃ runs : List (Ran (Process μ) μ), runs.map Ran.start = ps ∧
      runs.map Ran.log = (Process.runAll answer ps memory).logs ∧
      runs.map Ran.outcome = (Process.runAll answer ps memory).outcomes ∧
      ∀ r ∈ runs, Produces may r.start r.log r.outcome
  | [], _ => ⟨[], rfl, rfl, rfl, fun _ hr => nomatch hr⟩
  | p :: rest, memory => by
    have hp := produces_run_of h p memory
    obtain ⟨runs, hstart, hlogs, houtcomes, hruns⟩ := ran_runAll h rest (p.run answer memory).memory
    refine ⟨⟨p, (p.run answer memory).log, (p.run answer memory).outcome⟩ :: runs, ?_, ?_, ?_,
      List.forall_mem_cons.mpr ⟨hp, hruns⟩⟩
    · rw [List.map_cons, hstart]
    · rw [List.map_cons, hlogs]
      rfl
    · rw [List.map_cons, houtcomes]
      rfl

end

variable (answer : Responder μ σ) (p : Process μ) (memory : σ)

/-- So it is whatever the models remember. -/
theorem produces_run :
    Produces .any p (p.run answer memory).log (p.run answer memory).outcome :=
  produces_run_of (fun _ _ _ => trivial) p memory

theorem produces_run_by :
    Produces (.by answer) p (p.run answer memory).log (p.run answer memory).outcome :=
  produces_run_of (fun _ _ memory => ⟨memory, rfl⟩) p memory

end AgentGraph
