import AgentGraph.Execute
import AgentGraph.Proofs.Accounts
import AgentGraph.Proofs.Messages
import AgentGraph.Proofs.Reached
import AgentGraph.Proofs.Serving
import AgentGraph.Proofs.Termination
import AgentGraph.Proofs.Turns

/-! The requests that are made in a run.

* `Context.Hands`: no directive is there but one that was there before.
* `Turn.Proper.hands_part`: only a supervisor hands down a directive that it was not given itself.
* `Turn.Proper.directed`: however deep a turn stands, no blank directive comes to it.
* `Turn.Local.mem_calls`: a turn makes the requests of its unit, and those of the turns below it.
* `Turn.Courteous`: nothing blank is asked or handed down in the turn.
* `requests_of_run`: so it is in every run of a compiled graph. -/
namespace AgentGraph
open Relation
set_option autoImplicit false

variable {μ σ : Type} {may : Replies μ}

/-! ## Directives -/

/-- The second context has no directive but that of the first one. -/
def Context.Hands (c c' : Context) : Prop := c'.directive = none ∨ c'.directive = c.directive

namespace Context.Hands

variable {c c' c'' : Context}

theorem of_none (h : c'.directive = none) : c.Hands c' := .inl h

theorem of_eq (h : c'.directive = c.directive) : c.Hands c' := .inr h

theorem trans (h : c.Hands c') (h' : c'.Hands c'') : c.Hands c'' := by
  rcases h' with h' | h'
  · exact .inl h'
  · exact h.imp h'.trans h'.trans

theorem directed (h : c.Hands c') (hc : c.Directed) : c'.Directed := by
  intro text htext
  rcases h with h | h
  · rw [h] at htext
    cases htext
  · exact hc text (h ▸ htext)

end Context.Hands

theorem Context.directive_keep (c : Context) (key : Option String) (value : Value) :
    (c.keep key value).directive = c.directive := by
  cases key <;> rfl

theorem published_directive (key : Option String) (value : Value) (c : Context) :
    (published key value c).context.directive = c.directive := by
  rcases published_context key value c with h | ⟨name, h⟩
  · rw [h]
  · rw [h]
    rfl

theorem gather_directive (key : Option String) (c : Context) (ends : List Outcome) :
    (gather key c ends).context.directive = c.directive := by
  unfold gather
  split <;> rfl

namespace Supervisor

variable {id : String} {s : Setup μ} {subs : List (Runnable μ)} {task : String} {c : Context}
  {log : Log μ} {o : Outcome}

theorem Concludes.directive {last summary : Option String}
    (h : Concludes may s task c last summary log o) : o.context.directive = c.directive := by
  cases h with
  | unscored => rfl
  | _ => exact Context.directive_keep _ _ _

theorem Deliberates.directive {left : Nat} {delegations : List Delegation} {parts : List (Turn μ)}
    (h : Deliberates may id s subs task left delegations c parts log o) (hc : c.directive = none) :
    o.context.directive = none := by
  induction h with
  | exhausted h => exact h.directive.trans hc
  | unanswered => exact hc
  | unusable => exact hc
  | finished _ _ _ h => exact h.directive.trans hc
  | unknown => exact hc
  | broken => rfl
  | delegated _ _ _ _ _ ih => exact ih rfl

theorem Delegates.directed {reply request : String} {t : Turn μ}
    (h : Delegates subs task c reply request t) (htask : ¬ Text.isBlankText task) :
    t.context.directive = some request ∧ ¬ Text.isBlankText request := by
  obtain ⟨requested, asked, hplan, rfl, -⟩ := h.plan
  refine ⟨by rw [h.context]; rfl, ?_⟩
  cases asked with
  | none => exact htask
  | some asked => exact Plan.request_of_parse hplan

end Supervisor

namespace Turn

open Supervisor

variable {s t : Turn μ}

theorem Follow.hands {c last : Context} {parts : List (Turn μ)} (h : Follow c parts last)
    (hparts : ∀ t ∈ parts, t.context.Hands t.outcome.context) :
    c.Hands last ∧ ∀ t ∈ parts, c.Hands t.context := by
  induction h with
  | nil => exact ⟨.of_eq rfl, List.forall_mem_nil _⟩
  | @cons c t rest last value hstart _ _ ih =>
    subst hstart
    have ht := hparts t List.mem_cons_self
    obtain ⟨hlast, hrest⟩ := ih fun s hs => hparts s (List.mem_cons_of_mem _ hs)
    exact ⟨ht.trans hlast,
      List.forall_mem_cons.mpr ⟨.of_eq rfl, fun s hs => ht.trans (hrest s hs)⟩⟩

theorem Proper.hands (h : t.Proper may) : t.context.Hands t.outcome.context := by
  induction h with
  | @mk t hlocal _ ih =>
    cases hlocal with
    | replied => exact .of_none (Context.directive_keep _ _ _)
    | unanswered => exact .of_none rfl
    | sequence hparts => exact (hparts.hands ih).1
    | @interrupted id name key c before p rest e hbefore =>
      have hfirst := fun s hs => ih s (List.mem_append_left _ hs)
      exact (hbefore.hands hfirst).1.trans (ih p List.mem_append_cons_self)
    | parallel => exact .of_none (gather_directive _ _ _)
    | unmatched => exact .of_eq rfl
    | @routed id name routes key c condition p o _ hstart hend =>
      have hp : c.Hands p.outcome.context := by
        have hpart := ih p (List.mem_singleton.mpr rfl)
        rw [hstart] at hpart
        exact hpart
      rcases hend with ⟨value, -, rfl⟩ | ⟨e, -, rfl⟩
      · exact hp.trans (.of_eq (published_directive _ _ _))
      · exact hp
    | supervisor h => exact .of_none (h.directive rfl)

/-- The turn is one on what a plan of the other one asks for: on the request of the plan if it has
one, and else on the whole task. -/
def DelegatedBy (s t : Turn μ) : Prop :=
  ∃ (id name : String) (setup : Setup μ) (subs : List (Runnable μ)) (c : Context)
    (reply request : String), t.unit = .supervisor id name setup subs ∧
      Delegates subs (task t.entered) c reply request s

/-- What a part is given is the directive of the whole or none, unless the whole is a supervisor. -/
theorem Proper.hands_part (h : t.Proper may) (hs : s ∈ t.parts)
    (hkind : t.unit.kind ≠ .supervisor) : t.context.Hands s.context := by
  have hparts : ∀ p ∈ t.parts, p.context.Hands p.outcome.context := fun p hp => (h.part hp).hands
  cases h.local with
  | replied => cases hs
  | unanswered => cases hs
  | sequence hfollow => exact (hfollow.hands hparts).2 s hs
  | @interrupted id name key c before p rest e hbefore =>
    have hfollow := hbefore.hands fun q hq => hparts q (List.mem_append_left _ hq)
    rcases List.mem_append.mp hs with hs | hs
    · exact hfollow.2 s hs
    · rw [List.mem_singleton.mp hs]
      exact hfollow.1
  | parallel hstart =>
    rw [hstart s hs]
    exact .of_eq rfl
  | unmatched => cases hs
  | routed _ hstart =>
    rw [List.mem_singleton.mp hs, hstart]
    exact .of_eq rfl
  | supervisor => exact absurd rfl hkind

theorem Proper.delegated_part (h : t.Proper may) (hs : s ∈ t.parts)
    (hkind : t.unit.kind = .supervisor) : s.DelegatedBy t := by
  cases h.local with
  | supervisor hdeliberates =>
    obtain ⟨c, reply, request, hdelegates⟩ := hdeliberates.delegates hs
    exact ⟨_, _, _, _, c, reply, request, rfl, hdelegates⟩
  | _ => cases hkind

theorem DelegatedBy.directive (h : s.DelegatedBy t) (ht : t.context.Directed) :
    ∃ request, s.context.directive = some request ∧ ¬ Text.isBlankText request := by
  obtain ⟨_, _, _, _, _, _, request, -, hdelegates⟩ := h
  have hentered : t.entered.Directed := ht
  exact ⟨request, hdelegates.directed (visible_task hentered)⟩

theorem DelegatedBy.directed (h : s.DelegatedBy t) (ht : t.context.Directed) :
    s.context.Directed := by
  obtain ⟨request, hdirective, hrequest⟩ := h.directive ht
  intro text htext
  rw [hdirective] at htext
  exact Option.some.inj htext ▸ hrequest

theorem Proper.directed (h : t.Proper may) (ht : t.context.Directed) (hs : s.Under t) :
    s.context.Directed := by
  induction hs with
  | refl => exact ht
  | @tail whole part hunder hpart ih =>
    have hwhole := h.under hunder
    by_cases hkind : whole.unit.kind = .supervisor
    · exact (hwhole.delegated_part hpart hkind).directed ih
    · exact (hwhole.hands_part hpart hkind).directed ih

end Turn

/-! ## Calls -/

namespace Supervisor

variable {id name : String} {s : Setup μ} {subs : List (Runnable μ)} {c : Context} {log : Log μ}
  {o : Outcome} {call : μ × Request}

theorem calls_warned (id : String) (left : Nat) (log : Log μ) :
    (warned id left log).calls = log.calls := by
  unfold warned
  split <;> rfl

theorem Concludes.requests {c' : Context} {last summary : Option String}
    (h : Concludes may s (task c) c' last summary log o) (hcall : call ∈ log.calls) :
    (Runnable.supervisor id name s subs).Requests c call.1 call.2 := by
  cases h with
  | scored =>
    rw [List.mem_singleton.mp hcall]
    exact ⟨rfl, .inr ⟨_, _, rfl⟩⟩
  | unscored =>
    rw [List.mem_singleton.mp hcall]
    exact ⟨rfl, .inr ⟨_, _, rfl⟩⟩
  | _ => cases hcall

theorem Deliberates.requests {c' : Context} {left : Nat} {delegations : List Delegation}
    {parts : List (Turn μ)} (h : Deliberates may id s subs (task c) left delegations c' parts log o)
    (hcall : call ∈ log.calls) :
    (Runnable.supervisor id name s subs).Requests c call.1 call.2 ∨
      ∃ p ∈ parts, call ∈ p.log.calls := by
  have hplans : ∀ {request : Request} {delegations : List Delegation},
      request = planningRequest (subs.map Runnable.executable) (task c) delegations →
      (Runnable.supervisor id name s subs).Requests c s.model request :=
    fun hrequest => ⟨rfl, .inl ⟨_, hrequest⟩⟩
  induction h with
  | exhausted h => exact .inl (h.requests hcall)
  | unanswered hrequest =>
    rw [List.mem_singleton.mp hcall]
    exact .inl (hplans hrequest)
  | unusable hrequest =>
    rw [List.mem_singleton.mp hcall]
    exact .inl (hplans hrequest)
  | finished hrequest _ _ h =>
    rcases List.mem_cons.mp hcall with rfl | hcall
    · exact .inl (hplans hrequest)
    · exact .inl (h.requests hcall)
  | unknown hrequest =>
    rw [List.mem_singleton.mp hcall]
    exact .inl (hplans hrequest)
  | broken hrequest =>
    rcases List.mem_cons.mp hcall with rfl | hcall
    · exact .inl (hplans hrequest)
    · exact .inr ⟨_, List.mem_cons_self, hcall⟩
  | @delegated left _ _ _ _ _ t _ rest log _ hrequest _ _ _ _ ih =>
    rcases List.mem_cons.mp hcall with rfl | hcall
    · exact .inl (hplans hrequest)
    · have hsplit : call ∈ (t.log.append (warned id left log)).calls := hcall
      rw [Log.calls_append, List.mem_append, calls_warned] at hsplit
      rcases hsplit with ht | hrest
      · exact .inr ⟨t, List.mem_cons_self, ht⟩
      · refine (ih hrest).imp_right fun hp => ?_
        obtain ⟨p, hp, hcalls⟩ := hp
        exact ⟨p, List.mem_cons_of_mem _ hp, hcalls⟩

end Supervisor

namespace Turn

variable {s t : Turn μ} {call : μ × Request}

theorem calls_log (t : Turn μ) : t.log.calls = t.inside.calls := by
  have hlog : t.log.calls =
      (t.inside.append (.event (.closing t.unit.id t.outcome.value) .nil)).calls := rfl
  rw [hlog, Log.calls_append]
  exact List.append_nil _

theorem mem_calls_of_flatten {parts : List (Turn μ)}
    (h : call ∈ ((parts.map log).map Log.calls).flatten) : ∃ p ∈ parts, call ∈ p.log.calls := by
  obtain ⟨calls, hcalls, hcall⟩ := List.mem_flatten.mp h
  rw [List.map_map] at hcalls
  obtain ⟨p, hp, rfl⟩ := List.mem_map.mp hcalls
  exact ⟨p, hp, hcall⟩

/-- Every request that is made in a turn is made by its unit, or in a turn right below it. -/
theorem Local.mem_calls (h : t.Local may) (hcall : call ∈ t.log.calls) :
    t.unit.Requests t.entered call.1 call.2 ∨ ∃ p ∈ t.parts, call ∈ p.log.calls := by
  rw [calls_log] at hcall
  cases h with
  | replied hrequest =>
    rw [List.mem_singleton.mp hcall]
    exact .inl ⟨rfl, hrequest⟩
  | unanswered hrequest =>
    rw [List.mem_singleton.mp hcall]
    exact .inl ⟨rfl, hrequest⟩
  | sequence =>
    rw [Log.calls_concat] at hcall
    exact .inr (mem_calls_of_flatten hcall)
  | @interrupted id name key c before p rest e =>
    rw [Log.calls_append, Log.calls_concat, List.mem_append] at hcall
    rcases hcall with hcall | hcall
    · obtain ⟨q, hq, hcalls⟩ := mem_calls_of_flatten hcall
      exact .inr ⟨q, List.mem_append_left _ hq, hcalls⟩
    · exact .inr ⟨p, List.mem_append_cons_self, hcall⟩
  | parallel =>
    rw [Log.calls, Log.callsOfAll_eq_flatten, Log.calls, List.append_nil] at hcall
    exact .inr (mem_calls_of_flatten hcall)
  | unmatched => cases hcall
  | @routed id name routes key c condition p o =>
    exact .inr ⟨p, List.mem_singleton.mpr rfl, hcall⟩
  | supervisor h => exact h.requests hcall

theorem Proper.mem_calls (h : t.Proper may) (hcall : call ∈ t.log.calls) :
    ∃ s : Turn μ, s.Under t ∧ s.unit.Requests s.entered call.1 call.2 := by
  induction h with
  | @mk t hlocal _ ih =>
    rcases hlocal.mem_calls hcall with hrequests | ⟨p, hp, hpart⟩
    · exact ⟨t, .refl, hrequests⟩
    · obtain ⟨s, hs, hrequests⟩ := ih p hp hpart
      exact ⟨s, .head hp hs, hrequests⟩

end Turn

/-! ## What is sent -/

theorem Prompt.hasTemplate_ofTemplate (template : Option String) :
    (Prompt.ofTemplate template).hasTemplate ↔
      ∃ text, template = some text ∧ ¬ Text.isBlankText text := by
  unfold Prompt.hasTemplate Prompt.ofTemplate
  rw [Option.isSome_iff_exists]
  refine exists_congr fun text => ?_
  rw [Option.filter_eq_some_iff]
  simp

theorem Runnable.Requests.wellFormed_supervisor {s : Runnable μ} {c : Context} {model : μ}
    {request : Request} (h : s.Requests c model request) (hkind : s.kind = .supervisor) :
    request.WellFormed ∧ request.tools = [] := by
  cases s with
  | supervisor id name setup subs =>
    obtain ⟨-, ⟨delegations, rfl⟩ | ⟨first, second, rfl⟩⟩ := h
    · exact ⟨Supervisor.wellFormed_planningRequest _ _ _, rfl⟩
    · exact ⟨Supervisor.wellFormed_comparison _ _ _, rfl⟩
  | _ => cases hkind

namespace Turn

/-- The turn makes the request, as it is declared for its unit. -/
structure Sends (tools : Registry) (decls : List NodeDecl) (s : Turn μ) (model : μ)
    (request : Request) : Prop where
  requests : s.unit.Requests s.entered model request
  wellFormed : request.WellFormed
  supervisor : s.unit.kind = .supervisor → request.tools = []
  agent : s.unit.kind = .agent → ∃ d ∈ decls, d.id = s.unit.id ∧ d.kind? = some .agent ∧
    request.system = Node.systemMessage d ∧
    request.tools = d.permittedToolIds.filterMap tools.tool? ∧
    (s.context.directive = none ∨
      (∃ template, d.promptTemplate = some template ∧ ¬ Text.isBlankText template) →
        ¬ Prompt.isDefault request.user)

/-- Nothing blank is asked in the turn, or handed down. -/
structure Courteous (tools : Registry) (decls : List NodeDecl) (t : Turn μ) : Prop where
  sent : ∀ call ∈ t.log.calls, ∃ s : Turn μ, s.Under t ∧ s.Sends tools decls call.1 call.2
  directed : ∀ s : Turn μ, s.Under t → s.context.Directed
  delegated : ∀ s : Turn μ, s.Under t → s.unit.kind = .supervisor → ∀ p ∈ s.parts,
    p.DelegatedBy s ∧ ∃ request, p.context.directive = some request ∧ ¬ Text.isBlankText request
  handed : ∀ s : Turn μ, s.Under t → s.unit.kind ≠ .supervisor → ∀ p ∈ s.parts,
    s.context.Hands p.context

variable {provider : Provider μ} {tools : Registry} {config : Config} {nodes : List Node}
  {decls : List NodeDecl} {entryId : String} {s : Turn μ} {d : NodeDecl} {n : Node}

theorem sends_agent (hmade : s.unit.MadeFrom provider tools config nodes d n)
    (hd : d ∈ decls) (hs : s.context.Directed) {id name : String} {a : Executable.Agent μ}
    (hunit : s.unit = .agent id name a) :
    s.Sends tools decls a.model (a.request s.entered) := by
  have hid := hmade.id
  have hkind := hmade.kind
  rw [hunit] at hmade hkind
  obtain ⟨hsystem, htools, hprompt⟩ := hmade.agent
  have hentered : s.entered.Directed := hs
  have hrequests : s.unit.Requests s.entered a.model (a.request s.entered) := by
    rw [hunit]
    exact ⟨rfl, rfl⟩
  refine ⟨hrequests, ⟨?_, fun text htext => ?_⟩, fun hsupervisor => ?_, fun _ => ?_⟩
  · exact Executable.Agent.visible_message hentered
  · exact Node.visible_systemMessage (hsystem.symm.trans htext)
  · rw [hunit] at hsupervisor
    cases hsupervisor
  · refine ⟨d, hd, hid.symm, hkind, hsystem, htools, fun h => ?_⟩
    have hresolved : s.entered.directive = none ∨ a.prompt.hasTemplate := by
      rw [hprompt, Prompt.hasTemplate_ofTemplate]
      exact h
    exact (Executable.Agent.sendable_message hresolved).own

theorem sends (hmade : s.unit.MadeFrom provider tools config nodes d n)
    (hd : d ∈ decls) (hs : s.context.Directed) {model : μ} {request : Request}
    (hrequests : s.unit.Requests s.entered model request) : s.Sends tools decls model request := by
  by_cases hkind : s.unit.kind = .supervisor
  · obtain ⟨hwellFormed, htools⟩ := hrequests.wellFormed_supervisor hkind
    refine ⟨hrequests, hwellFormed, fun _ => htools, fun hagent => ?_⟩
    rw [hkind] at hagent
    cases hagent
  · cases hunit : s.unit with
    | agent id name a =>
      rw [hunit] at hrequests
      obtain ⟨rfl, rfl⟩ := hrequests
      exact sends_agent hmade hd hs hunit
    | supervisor =>
      rw [hunit] at hkind
      exact absurd rfl hkind
    | _ =>
      rw [hunit] at hrequests
      cases hrequests

end Turn

/-! ## Runs -/

variable {provider : Provider μ} {tools : Registry} {config : Config} {entry : String}
  {decls : List NodeDecl} {c : Checked} {e : Entry μ} {input : ValueMap} {t : Turn μ}

theorem Entry.Takes.courteous (ht : e.Takes may input t) (h : Compiled provider tools config c e)
    (hp : Checked.Passed entry decls c) : t.Courteous tools decls := by
  have hstart : t.context.Directed := by
    rw [ht.context]
    exact fun _ htext => nomatch htext
  have hdirected : ∀ s : Turn μ, s.Under t → s.context.Directed :=
    fun s hs => ht.proper.directed hstart hs
  refine ⟨fun call hcall => ?_, hdirected, fun s hs hkind p hpart => ?_,
    fun s hs hkind p hpart => ?_⟩
  · obtain ⟨s, hs, hrequests⟩ := ht.proper.mem_calls hcall
    have hwithin : s.unit.Within e.runnable := ht.unit ▸ ht.proper.within hs
    obtain ⟨d, n, hd, -, hmade⟩ := h.declared_of_within hp hwithin
    exact ⟨s, hs, Turn.sends hmade hd.declared (hdirected s hs) hrequests⟩
  · have hdelegated := (ht.proper.under hs).delegated_part hpart hkind
    exact ⟨hdelegated, hdelegated.directive (hdirected s hs)⟩
  · exact (ht.proper.under hs).hands_part hpart hkind

theorem Entry.calls_around (e : Entry μ) (t : Turn μ) : (e.around t).calls = t.log.calls := by
  have haround : (e.around t).calls =
      (t.log.append (.event (.runCompleted t.outcome.value.isOk) .nil)).calls := rfl
  rw [haround, Log.calls_append]
  exact List.append_nil _

theorem Log.Shows.call_mem_iff {log : Log μ} {w : List (Action μ)} (h : log.Shows w) {model : μ}
    {request : Request} : .call model request ∈ w ↔ (model, request) ∈ log.calls := by
  have hcalls : (w.filterMap Action.call?).Perm log.calls := by
    rw [← Log.filterMap_call_actions]
    exact h.perm.filterMap _
  rw [← hcalls.mem_iff, List.mem_filterMap]
  constructor
  · exact fun hmem => ⟨_, hmem, rfl⟩
  · rintro ⟨action, hmem, hcall⟩
    cases action with
    | call =>
      cases hcall
      exact hmem
    | event => cases hcall

theorem Entry.turn_of_steps_any {actions : List (Action μ)} {thread : Thread μ}
    (h : Steps may (.active (e.process input)) actions thread) :
    ∃ (t : Turn μ) (seen more : List (Action μ)), e.Takes .any input t ∧ t.log.Shows seen ∧
      actions ++ more = e.told t.outcome seen := by
  obtain ⟨more, o, hall⟩ := h.completed Entry.process_live
  obtain ⟨t, seen, ht, rfl, hseen, htold⟩ := Entry.turn_of_steps hall
  exact ⟨t, seen, more, ht, hseen, htold⟩

/-- In every run of a compiled graph, whatever models reply, all that is asked is asked by a turn of
a unit as its declaration says. The message is never blank, and neither is the system message if
there is one. A supervisor gives its model no tools, and an agent gives it the registered ones of
those that it may use, in order. What a supervisor delegates is never blank, however deep it stands,
and no other unit hands down anything but what it was given; an agent that was given nothing, or has
a template, never sends the word `default`. This is so however far a run has come. -/
theorem requests_of_run (provider : Provider μ) (tools : Registry) (config : Config)
    (entry : String) (decls : List NodeDecl) (e : Entry μ)
    (he : (compile provider tools config entry decls).result = .ok e) (input : ValueMap) :
    (∀ (may : Replies μ) (t : Turn μ), e.Takes may input t → t.Courteous tools decls) ∧
    (∀ (may : Replies μ) (actions : List (Action μ)) (thread : Thread μ),
      Steps may (.active (e.process input)) actions thread →
        ∃ (t : Turn μ) (seen more : List (Action μ)), e.Takes .any input t ∧ t.log.Shows seen ∧
          actions ++ more = .event (.runStarted e.entryId) ::
            (seen ++ [.event (.runCompleted t.outcome.value.isOk)]) ∧
          ∀ (model : μ) (request : Request), .call model request ∈ actions →
            ∃ s : Turn μ, s.Under t ∧ s.Sends tools decls model request) ∧
    ∀ (σ : Type) (answer : Responder μ σ) (memory : σ), ∃ t : Turn μ, e.Takes .any input t ∧
      (e.execute answer memory input).log = e.around t ∧
      ∀ call ∈ (e.execute answer memory input).log.calls,
        ∃ s : Turn μ, s.Under t ∧ s.Sends tools decls call.1 call.2 := by
  obtain ⟨c, hc, hcompiled⟩ := compiled_of_compile he
  have hp := Checked.passed hc
  have hcourteous : ∀ {may : Replies μ} {t : Turn μ}, e.Takes may input t →
      t.Courteous tools decls := fun ht => ht.courteous hcompiled hp
  refine ⟨fun may t ht => hcourteous ht, fun may actions thread h => ?_, fun σ answer memory => ?_⟩
  · obtain ⟨t, seen, more, ht, hseen, htold⟩ := Entry.turn_of_steps_any h
    refine ⟨t, seen, more, ht, hseen, htold, fun model request hcall => ?_⟩
    have hmem : .call model request ∈ e.told t.outcome seen :=
      htold ▸ List.mem_append_left more hcall
    have hcall : .call model request ∈ seen := by simpa [Entry.told] using hmem
    exact (hcourteous ht).sent _ (hseen.call_mem_iff.mp hcall)
  · have hproduces := produces_run answer (e.process input) memory
    obtain ⟨t, ht, -, haround⟩ := Entry.turned _ _ hproduces
    have hlog : (e.execute answer memory input).log = e.around t := haround.symm
    refine ⟨t, ht, hlog, fun call hcall => ?_⟩
    rw [hlog, e.calls_around] at hcall
    exact (hcourteous ht).sent call hcall

/-- Two agents make one request each, and both are well formed. -/
theorem requests_of_run_duet :
    let calls := (Duet.entry.execute (fun _ _ memory => (.ok "default", memory)) ()
      Duet.input).log.calls
    calls.length = 2 ∧ ∀ call ∈ calls, call.2.WellFormed := by
  obtain ⟨-, -, hexecuted⟩ :=
    requests_of_run (fun _ => .ok ()) [] {} "entry" Duet.decls _ Duet.compile_decls Duet.input
  obtain ⟨t, -, -, hsent⟩ := hexecuted Unit (fun _ _ memory => (.ok "default", memory)) ()
  refine ⟨rfl, fun call hcall => ?_⟩
  obtain ⟨s, -, hs⟩ := hsent call hcall
  exact hs.wellFormed

end AgentGraph
