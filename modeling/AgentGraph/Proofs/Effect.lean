import AgentGraph.Execute
import AgentGraph.Proofs.Growth
import AgentGraph.Proofs.Nodes

/-! What a run does to the state that it begins with.

* `Context.Covers`: the context holds everything that the run began with.
* `Thread.WorksOn`: the contexts that a state of a run shows.
* `Steps.call_inside`: every call that is seen was about to be made somewhere inside a state.
* `Entry.Framed`: a report that changes the input only under the keys of the nodes that took part.
* `effect_of_run`: at no point is anything of the input missing from a scope, no message is taken from
  anywhere but a scope, and every report is framed. -/
namespace AgentGraph
set_option autoImplicit false

variable {μ σ : Type} {may : Replies μ}

/-! ## Nothing is lost -/

/-- The context is one of a run on the input, and its scope has all names of the input. -/
structure Context.Covers (c : Context) (input : ValueMap) : Prop where
  ambient : c.ambient = input
  names : ∀ name, (Fields.get? input name).isSome → (c.scope.get? name).isSome

namespace Context.Covers

variable {c c' : Context} {input : ValueMap}

theorem ofInput (input : ValueMap) : (Context.ofInput input).Covers input := ⟨rfl, fun _ => id⟩

theorem handed (h : c.Covers input) : c.handed.Covers input := ⟨h.ambient, h.names⟩

theorem grows {r : Runnable μ} (h : c.Covers input) (hgrows : r.Grows c c') : c'.Covers input := by
  obtain ⟨added, hgrowth⟩ := hgrows
  exact ⟨hgrowth.ambient.trans h.ambient, fun name hname => hgrowth.kept name (h.names name hname)⟩

/-- A scope that has all names of the input is only empty if the input is. -/
theorem isEmpty (h : c.Covers input) (hempty : c.scope.isEmpty) : c.ambient = [] := by
  rw [h.ambient]
  cases input with
  | nil => rfl
  | cons e rest =>
    have hname := h.names e.1 (by simp [Fields.get?])
    rw [Scope.get?, List.isEmpty_iff.mp hempty] at hname
    cases hname

end Context.Covers

/-! ## Messages come from the scope -/

theorem Prompt.message_of_covers {c : Context} {input : ValueMap} (h : c.Covers input)
    (p : Prompt) : p.message c.scope.state c.ambient = p.message c.scope.state [] := by
  have hsource : Prompt.source c.scope.state c.ambient = Prompt.source c.scope.state [] := by
    unfold Prompt.source
    cases hempty : c.scope.state.isEmpty with
    | false => rfl
    | true => rw [h.isEmpty hempty]
  rw [Prompt.message, Prompt.message, hsource]

/-- What a unit asks it would ask as well if there were nothing but the scope. -/
theorem Runnable.Requests.of_covers {s : Runnable μ} {c : Context} {input : ValueMap} {model : μ}
    {request : Request} (hrequest : s.Requests c model request) (h : c.Covers input) :
    s.Requests { c with ambient := [] } model request := by
  cases s with
  | agent id name a =>
    obtain ⟨hmodel, rfl⟩ := hrequest
    refine ⟨hmodel, ?_⟩
    have hmessage : a.message c = a.message { c with ambient := [] } := by
      rw [Executable.Agent.message, Executable.Agent.message, Prompt.message_of_covers h]
    rw [Executable.Agent.request, Executable.Agent.request, hmessage]
  | supervisor id name s subs =>
    have htask : Supervisor.task c = Supervisor.task { c with ambient := [] } := by
      rw [Supervisor.task, Supervisor.task, Prompt.message_of_covers h]
    obtain ⟨hmodel, hwhich⟩ := hrequest
    rw [htask] at hwhich
    exact ⟨hmodel, hwhich⟩
  | _ => cases hrequest

/-! ## States -/

/-- A thread is about to write to the context, or to end with it, or has ended with it. -/
inductive Thread.WorksOn : Thread μ → Context → Prop
  | write {c : Context} {key : String} {value : Value} {next : Context → Process μ} :
    WorksOn (.active (.write c key value next)) c
  | done {o : Outcome} : WorksOn (.active (.done o)) o.context
  | ended {o : Outcome} : WorksOn (.ended o) o.context

theorem Thread.Serves.worksOn {R : Context → Context → Prop} {r : Runnable μ} {Q : Context → Prop}
    {t : Thread μ} {c : Context} (h : t.Serves R r Q) (hc : t.WorksOn c) : Q c := by
  cases hc with
  | write => cases h with | active h => cases h with | write hc _ => exact hc
  | done => cases h with | active h => cases h with | done hc => exact hc
  | ended => cases h with | ended hc => exact hc

theorem Step.call_inside {t t' : Thread μ} {action : Option (Action μ)} {model : μ}
    {request : Request} (h : Step may t action t') (haction : action = some (.call model request)) :
    ∃ next, (Thread.active (.ask model request next)).Inside t := by
  induction h with
  | request =>
    obtain ⟨rfl, rfl⟩ := Action.call.inj (Option.some.inj haction)
    exact ⟨_, .refl⟩
  | branch _ ih =>
    obtain ⟨next, hinside⟩ := ih haction
    exact ⟨next, .branch List.mem_append_cons_self hinside⟩
  | report => cases haction
  | _ => cases haction

theorem Steps.call_inside {t t' : Thread μ} {actions : List (Action μ)} {model : μ}
    {request : Request} (h : Steps may t actions t') (hcall : .call model request ∈ actions) :
    ∃ before t₁ next, Steps may t before t₁ ∧
      (Thread.active (.ask model request next)).Inside t₁ := by
  induction h with
  | refl => cases hcall
  | step hstep _ ih =>
    rcases List.mem_append.mp hcall with hcall | hcall
    · obtain ⟨next, hinside⟩ := hstep.call_inside (Option.mem_toList.mp hcall)
      exact ⟨[], _, next, .refl, hinside⟩
    · obtain ⟨before, t₁, next, hsteps, hinside⟩ := ih hcall
      exact ⟨_, t₁, next, .step hstep hsteps, hinside⟩

namespace Entry

variable {e : Entry μ} {input : ValueMap} {actions : List (Action μ)} {t : Thread μ}

/-- Everything inside a state serves a unit within the entry, on contexts that cover the input. -/
theorem serves_inside (h : Steps may (.active (e.process input)) actions t) {s : Thread μ}
    (hs : s.Inside t) : ∃ (u : Runnable μ) (P : Context → Prop), u.Within e.runnable ∧
      s.Serves e.runnable.Grows u P ∧ ∀ c, P c → c.Covers input := by
  have hserves := h.serves e.runnable.frame_grows (Entry.serves e.runnable.frame_grows)
  exact hserves.inside (G := fun c => c.Covers input) (fun _ _ hc hgrows => hc.grows hgrows)
    (fun _ hc => hc.handed) hs fun c hgrows => (Context.Covers.ofInput input).grows hgrows

theorem covers_of_worksOn (h : Steps may (.active (e.process input)) actions t) {s : Thread μ}
    (hs : s.Inside t) {c : Context} (hc : s.WorksOn c) : c.Covers input := by
  obtain ⟨u, P, -, hserves, hP⟩ := serves_inside h hs
  exact hP c (hserves.worksOn hc)

theorem requested_of_call (h : Steps may (.active (e.process input)) actions t) {model : μ}
    {request : Request} (hcall : .call model request ∈ actions) : ∃ (s : Runnable μ) (c : Context),
      s.Within e.runnable ∧ c.Covers input ∧ s.Requests c model request := by
  obtain ⟨before, t₁, next, hbefore, hinside⟩ := h.call_inside hcall
  obtain ⟨u, P, hu, hserves, hP⟩ := serves_inside hbefore hinside
  cases hserves with
  | active hserves =>
    cases hserves with
    | ask hs hc hrequest _ => exact ⟨_, _, hs.trans hu, hP _ hc, hrequest⟩

end Entry

/-! ## Reports -/

namespace Entry

variable {e : Entry μ} {input : ValueMap}

theorem mem_firstOccurrences {seen ids : List String} {id : String} :
    id ∈ firstOccurrences seen ids ↔ id ∈ ids ∧ id ∉ seen := by
  induction ids generalizing seen with
  | nil => simp [firstOccurrences]
  | cons first rest ih =>
    unfold firstOccurrences
    by_cases hseen : first ∈ seen
    · rw [if_pos hseen, ih, List.mem_cons]
      constructor
      · exact fun ⟨hid, hnew⟩ => ⟨.inr hid, hnew⟩
      · rintro ⟨rfl | hid, hnew⟩
        · exact absurd hseen hnew
        · exact ⟨hid, hnew⟩
    · rw [if_neg hseen, List.mem_cons, ih, List.mem_cons, List.mem_cons]
      by_cases hid : id = first
      · subst hid
        simp [hseen]
      · simp [hid]

theorem mem_executedIds {trace : List Invocation} {i : Invocation} {n : Node} (hi : i ∈ trace)
    (hn : e.node? i.nodeId = some n) : n.id ∈ e.executedIds trace := by
  have hnode : e.nodeOf? i = some n := by rw [nodeOf?, hn]; rfl
  refine mem_firstOccurrences.mpr ⟨List.mem_filterMap.mpr ⟨i, hi, ?_⟩, List.not_mem_nil⟩
  rw [hnode]
  rfl

theorem report_eq_ok {o : Outcome} {report : Report} (h : e.report input o = .ok report) :
    report.state = Fields.extend input o.context.scope.state ∧
      report.executedIds = e.executedIds o.context.scope.trace := by
  unfold Entry.report at h
  cases hvalue : o.value with
  | error f =>
    rw [hvalue] at h
    cases h
  | ok value =>
    rw [hvalue] at h
    obtain rfl := Except.ok.inj h
    exact ⟨rfl, rfl⟩

theorem report_of_execute {answer : Responder μ σ} {memory : σ} {report : Report}
    (h : (e.execute answer memory input).result = .ok report) :
    e.report input ((e.process input).run answer memory).outcome = .ok report := by
  have hresult : (e.execute answer memory input).result =
      (e.report input ((e.process input).run answer memory).outcome).mapError .failed := rfl
  rw [hresult] at h
  cases hreport : e.report input ((e.process input).run answer memory).outcome with
  | error f =>
    rw [hreport] at h
    cases h
  | ok found =>
    rw [hreport] at h
    cases h
    rfl

/-- The report's state is the scope that the run came to; it has every name of the input, and differs
from it only under keys that nodes write under which took part. -/
structure Framed (e : Entry μ) (input : ValueMap) (scope : Scope) (report : Report) : Prop where
  state : report.state = scope.state
  kept : ∀ name, (Fields.get? input name).isSome → (Fields.get? report.state name).isSome
  unchanged : ∀ name,
    (∀ id ∈ report.executedIds, ∀ n, e.node? id = some n → n.writes? ≠ some name) →
      Fields.get? report.state name = Fields.get? input name

end Entry

theorem Compiled.framed {provider : Provider μ} {tools : Registry} {config : Config} {c : Checked}
    {e : Entry μ} (h : Compiled provider tools config c e) {input : ValueMap}
    (hinput : Fields.Ordered input) {log : Log μ} {o : Outcome}
    (hp : Produces may (e.process input) log o) {report : Report}
    (hreport : e.report input o = .ok report) : e.Framed input o.context.scope report := by
  obtain ⟨added, hgrowth⟩ := e.grown input log o hp
  have htrace : o.context.scope.trace = added := hgrowth.trace
  have hextend : Fields.extend input o.context.scope.state = o.context.scope.state :=
    hinput.extend_of_covers (hgrowth.ordered hinput) hgrowth.kept
  obtain ⟨hstate, hids⟩ := Entry.report_eq_ok hreport
  rw [hextend] at hstate
  refine ⟨hstate, ?_, ?_⟩
  · rw [hstate]
    exact hgrowth.kept
  · intro name hnone
    rw [hstate]
    rcases hgrowth.changed name with heq | ⟨s, hs, hkey, hmem⟩
    · exact heq
    · -- The unit that wrote under the name took part, so its node would have to be excluded.
      obtain ⟨n, hn, hstands⟩ := h.node_of_within hs
      have hid : n.id ∈ report.executedIds := hids ▸ Entry.mem_executedIds (htrace ▸ hmem) hn
      have hnode : e.node? n.id = some n := hstands.id ▸ hn
      exact absurd (hstands.key ▸ hkey) (hnone n.id hid n hnode)

/-- In every state of every run, all contexts hold all of the input, so that no scope is empty unless
the input is; and every call is what some unit asks on such a context, and would ask as well if there
were nothing but its scope. If a graph was compiled, whatever is reported about a run of it has all of
the input, and differs from it only under the keys of nodes that took part; and what the run came to
needs nothing of the input to be added. -/
theorem effect_of_run (provider : Provider μ) (tools : Registry) (config : Config) (entry : String)
    (decls : List NodeDecl) (may : Replies μ) :
    (∀ (e : Entry μ) (input : ValueMap) (actions : List (Action μ)) (t : Thread μ),
      Steps may (.active (e.process input)) actions t →
        (∀ (s : Thread μ) (c : Context), s.Inside t → s.WorksOn c →
          c.Covers input ∧ (c.scope.isEmpty → c.ambient = [])) ∧
        ∀ (model : μ) (request : Request), .call model request ∈ actions →
          ∃ (s : Runnable μ) (c : Context), s.Within e.runnable ∧ c.Covers input ∧
            s.Requests c model request ∧ s.Requests { c with ambient := [] } model request) ∧
    ∀ e, (compile provider tools config entry decls).result = .ok e →
      ∀ input, Fields.Ordered input →
        (∀ (actions : List (Action μ)) (o : Outcome) (report : Report),
          Steps may (.active (e.process input)) actions (.ended o) →
            e.report input o = .ok report → e.Framed input o.context.scope report) ∧
        ∀ (σ : Type) (answer : Responder μ σ) (memory : σ) (report : Report),
          (e.execute answer memory input).result = .ok report →
            e.Framed input ((e.process input).run answer memory).outcome.context.scope report := by
  refine ⟨fun e input actions t h => ⟨fun s c hs hc => ?_, fun model request hcall => ?_⟩, ?_⟩
  · have hcovers := Entry.covers_of_worksOn h hs hc
    exact ⟨hcovers, hcovers.isEmpty⟩
  · obtain ⟨s, c, hs, hcovers, hrequest⟩ := Entry.requested_of_call h hcall
    exact ⟨s, c, hs, hcovers, hrequest, hrequest.of_covers hcovers⟩
  · intro e he input hinput
    obtain ⟨c, -, hcompiled⟩ := compiled_of_compile he
    refine ⟨fun actions o report h hreport => ?_, fun σ answer memory report hresult => ?_⟩
    · obtain ⟨log, hproduces, -⟩ := produces_of_steps h
      exact hcompiled.framed hinput hproduces hreport
    · have hproduces := produces_run answer (e.process input) memory
      exact hcompiled.framed hinput hproduces (Entry.report_of_execute hresult)

/-- The request is still there, and the two answers are new. -/
theorem effect_of_run_duet : ∃ report,
    (Duet.entry.execute (fun _ _ memory => (.ok "la", memory)) () Duet.input).result = .ok report ∧
      Duet.entry.Framed Duet.input ((Duet.entry.process Duet.input).run
        (fun _ _ memory => (.ok "la", memory)) ()).outcome.context.scope report ∧
      report.state.map Prod.fst = ["harmony", "melody", "request"] := by
  obtain ⟨-, hcompiled⟩ := effect_of_run (fun _ => .ok ()) [] {} "entry" Duet.decls .any
  have hordered : Fields.Ordered Duet.input := List.pairwise_singleton _ _
  obtain ⟨-, hexecuted⟩ := hcompiled _ Duet.compile_decls _ hordered
  exact ⟨_, rfl, hexecuted Unit _ () _ rfl, rfl⟩

end AgentGraph
