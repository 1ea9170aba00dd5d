import AgentGraph.Proofs.Requests

/-! How far a directive reaches.

A directive goes to the unit that stands first, and is gone once that one has succeeded. Only an empty
sequence would pass it on, and no sequence of a compiled graph is empty.

* `Runnable.Filled`: no sequence of a unit is empty.
* `Turn.Proper.spent`: a turn that succeeds leaves no directive behind.
* `Turn.Follow.leads`: of some turns that follow on each other only the first one begins with it.
* `Supervisor.Deliberates.instructs`: each delegation begins with the request of its own plan.
* `Turn.Proper.passes`: where a directive goes, for all kinds of units.
* `directives_of_run`: all of this about whatever can come of a unit of a compiled graph. -/
namespace AgentGraph
open Relation
set_option autoImplicit false

variable {μ σ : Type} {may : Replies μ}

/-! ## Sequences that are not empty -/

/-- No sequence that stands in the unit is empty. -/
def Runnable.Filled (r : Runnable μ) : Prop :=
  ∀ (s : Runnable μ) (id name key : String), s.Within r → s ≠ .sequence id name [] key

theorem Runnable.Filled.within {r s : Runnable μ} (h : r.Filled) (hs : s.Within r) : s.Filled :=
  fun t id name key ht => h t id name key (ht.trans hs)

section Compiled

variable {provider : Provider μ} {tools : Registry} {config : Config} {nodes : List Node}
  {d : NodeDecl} {n : Node} {entry : String} {decls : List NodeDecl} {c : Checked} {e : Entry μ}

theorem Runnable.MadeFrom.steps_ne_nil {id name key : String} {steps : List (Runnable μ)}
    (h : (Runnable.sequence id name steps key).MadeFrom provider tools config nodes d n) :
    steps ≠ [] := by
  have hkind := h.standsFor.kind
  obtain ⟨depth, htree⟩ := h.tree
  obtain ⟨-, -, hrole⟩ := Node.ofDecl_eq_ok h.node
  obtain ⟨id', name', key', role⟩ := n
  cases role with
  | sequence ids =>
    obtain ⟨parts, hparts, hr⟩ := Option.bind_eq_some_iff.mp htree
    obtain ⟨-, -, rfl, -⟩ := Runnable.sequence.inj (Option.some.inj hr)
    cases hrole with
    | sequence hne hids =>
      -- One step for each id, and one id for each sub-agent that is declared.
      have hlength := hids.length_eq.trans (option_mapM_eq_some_iff.mp hparts).length_eq
      intro hnil
      rw [hnil] at hlength
      exact hne (List.length_eq_zero_iff.mp hlength)
  | _ => cases hkind

theorem Compiled.filled (h : Compiled provider tools config c e)
    (hp : Checked.Passed entry decls c) : e.runnable.Filled := by
  rintro s id name key hs rfl
  obtain ⟨d, n, -, -, hmade⟩ := h.declared_of_within hp hs
  exact hmade.steps_ne_nil rfl

end Compiled

/-! ## Directives that are spent -/

namespace Turn

open Supervisor

variable {t : Turn μ} {parts : List (Turn μ)} {c last : Context}

/-- The directive is gone, if the turn succeeds. -/
def Spends (t : Turn μ) : Prop :=
  ∀ value, t.outcome.value = .ok value → t.outcome.context.directive = none

/-- The first of the turns begins with the directive, and all others with none. -/
structure Leads (directive : Option String) (parts : List (Turn μ)) : Prop where
  first : ∀ t ∈ parts.head?, t.context.directive = directive
  others : ∀ t ∈ parts.tail, t.context.directive = none

theorem Leads.of_none (h : Leads none parts) : ∀ t ∈ parts, t.context.directive = none := by
  cases parts with
  | nil => exact List.forall_mem_nil _
  | cons t rest => exact List.forall_mem_cons.mpr ⟨h.first t rfl, h.others⟩

theorem Follow.leads (h : Follow c parts last) (hparts : ∀ t ∈ parts, t.Spends) :
    Leads c.directive parts ∧ (parts ≠ [] → last.directive = none) := by
  induction h with
  | nil => exact ⟨⟨nofun, nofun⟩, fun hne => absurd rfl hne⟩
  | @cons c t rest last value hstart hvalue hrest ih =>
    subst hstart
    have hspent : t.outcome.context.directive = none := hparts t List.mem_cons_self value hvalue
    obtain ⟨hleads, hlast⟩ := ih fun s hs => hparts s (List.mem_cons_of_mem _ hs)
    rw [hspent] at hleads
    refine ⟨⟨fun s hs => ?_, hleads.of_none⟩, fun _ => ?_⟩
    · rw [← Option.some.inj hs]
    · cases rest with
      | nil =>
        cases hrest
        exact hspent
      | cons => exact hlast (List.cons_ne_nil _ _)

theorem Follow.leads_append (h : Follow c parts t.context) (hparts : ∀ t ∈ parts, t.Spends) :
    Leads c.directive (parts ++ [t]) := by
  obtain ⟨hleads, hlast⟩ := h.leads hparts
  cases parts with
  | nil =>
    cases h
    exact ⟨fun s hs => by rw [← Option.some.inj hs], nofun⟩
  | cons first rest =>
    refine ⟨hleads.first, fun s hs => ?_⟩
    rcases List.mem_append.mp hs with hs | hs
    · exact hleads.others s hs
    · rw [List.mem_singleton.mp hs]
      exact hlast (List.cons_ne_nil _ _)

theorem Proper.spends (h : t.Proper may) (hfilled : t.unit.Filled) : t.Spends := by
  induction h with
  | @mk t hlocal hproper ih =>
    have hparts : ∀ s ∈ t.parts, s.Spends := fun s hs =>
      ih s hs (hfilled.within ((Runnable.within_self _).part (hlocal.part_unit hs)))
    cases hlocal with
    | replied => exact fun _ _ => Context.directive_keep _ _ _
    | unanswered => exact fun _ hvalue => nomatch hvalue
    | @sequence id name key c last parts hfollow =>
      refine fun _ _ => (hfollow.leads hparts).2 ?_
      rintro rfl
      exact hfilled _ id name key (Runnable.within_self _) rfl
    | interrupted => exact fun _ hvalue => nomatch hvalue
    | parallel => exact fun _ _ => gather_directive _ _ _
    | unmatched => exact fun _ hvalue => nomatch hvalue
    | @routed id name routes key c condition p o _ _ hend =>
      intro value hvalue
      rcases hend with ⟨direct, hdirect, rfl⟩ | ⟨e, -, rfl⟩
      · exact (published_directive _ _ _).trans (hparts p (List.mem_singleton.mpr rfl) direct hdirect)
      · cases hvalue
    | supervisor h => exact fun _ _ => h.directive rfl

end Turn

/-! ## What supervisors ask for -/

namespace Supervisor

variable {id : String} {s : Setup μ} {subs : List (Runnable μ)} {task : String} {left : Nat}
  {delegations : List Delegation} {c : Context} {parts : List (Turn μ)} {log : Log μ} {o : Outcome}

/-- What is kept of a turn: who it was delegated to, with which directive, and what came of it. -/
structure Records (d : Delegation) (t : Turn μ) : Prop where
  agentId : d.agentId = t.unit.id
  request : t.context.directive = some d.request
  answer : ∃ value, t.outcome.value = .ok value ∧ d.answer = value.text?.getD ""

/-- The turn is delegated on the reply to what has been recorded of the turns before it, and begins with
the request of that plan, or with the whole task. -/
structure Instructed (may : Replies μ) (s : Setup μ) (subs : List (Runnable μ)) (task : String)
    (delegations : List Delegation) (reply requested : String) (asked : Option String)
    (t : Turn μ) : Prop where
  given : may s.model (planningRequest (subs.map Runnable.executable) task delegations) (.ok reply)
  plan : Plan.parse reply = .ok (.delegate requested asked)
  sub : find? (subs.map Runnable.executable) requested = some t.unit.executable
  directive : t.context.directive = some (asked.getD task)

theorem Delegates.instructed {reply request : String} {t : Turn μ}
    (h : Delegates subs task c reply request t)
    (hreply : may s.model (planningRequest (subs.map Runnable.executable) task delegations)
      (.ok reply)) : ∃ requested asked, Instructed may s subs task delegations reply requested asked t ∧
        request = asked.getD task := by
  obtain ⟨requested, asked, hplan, rfl, hsub⟩ := h.plan
  refine ⟨requested, asked, ⟨hreply, hplan, hsub, ?_⟩, rfl⟩
  rw [h.context]
  rfl

theorem Deliberates.instructs
    (h : Deliberates may id s subs task left delegations c parts log o) {before after : List (Turn μ)}
    {t : Turn μ} (hparts : parts = before ++ t :: after) :
    ∃ (earlier : List Delegation) (reply requested : String) (asked : Option String),
      List.Forall₂ Records earlier before ∧
        Instructed may s subs task (delegations ++ earlier) reply requested asked t := by
  induction h generalizing before with
  | @broken left delegations c request reply asked p e hrequest hreply hturn =>
    obtain rfl : before = [] := by
      cases before with
      | nil => rfl
      | cons => simp at hparts
    obtain ⟨rfl, -⟩ := List.cons.inj hparts
    obtain ⟨requested, asked, hinstructed, -⟩ := hturn.instructed (hrequest ▸ hreply)
    exact ⟨[], reply, requested, asked, .nil, by rwa [List.append_nil]⟩
  | @delegated left delegations c request reply asked p value rest log o hrequest hreply hturn hvalue
      _ ih =>
    obtain ⟨requested, asked, hinstructed, rfl⟩ := hturn.instructed (hrequest ▸ hreply)
    cases before with
    | nil =>
      obtain ⟨rfl, -⟩ := List.cons.inj hparts
      exact ⟨[], reply, requested, asked, .nil, by rwa [List.append_nil]⟩
    | cons first before =>
      obtain ⟨rfl, hrest⟩ := List.cons.inj hparts
      obtain ⟨earlier, reply', requested', asked', hearlier, hlater⟩ := ih hrest
      have hrecords : Records ⟨p.unit.id, asked.getD task, value.text?.getD ""⟩ p :=
        ⟨rfl, hinstructed.directive, value, hvalue, rfl⟩
      refine ⟨_ :: earlier, reply', requested', asked', .cons hrecords hearlier, ?_⟩
      rwa [List.append_assoc] at hlater
  | _ => simp at hparts

theorem Deliberates.head_calls
    (h : Deliberates may id s subs task (left + 1) delegations c parts log o) : log.calls.head? =
      some (s.model, planningRequest (subs.map Runnable.executable) task delegations) := by
  cases h with
  | unanswered hrequest | unusable hrequest | finished hrequest | unknown hrequest
  | broken hrequest | delegated hrequest =>
    rw [hrequest]
    rfl

end Supervisor

/-! ## Where a directive goes -/

namespace Executable.Agent

variable {a : Agent μ} {c : Context}

theorem message_of_template (h : a.prompt.hasTemplate) :
    a.message c = a.prompt.message c.scope.state c.ambient := by
  unfold message
  cases c.directive with
  | none => rfl
  | some directive => exact if_pos h

theorem message_of_directive (h : ¬ a.prompt.hasTemplate) {directive : String}
    (hc : c.directive = some directive) : a.message c = directive := by
  unfold message
  rw [hc]
  exact if_neg h

end Executable.Agent

namespace Turn

open Executable Supervisor

variable {t : Turn μ} {id name : String}

/-- An agent takes the directive away, and sends it as it is unless it has a template. -/
structure Addresses (a : Agent μ) (t : Turn μ) (request : Request) : Prop where
  calls : t.log.calls = [(a.model, request)]
  template : a.prompt.hasTemplate →
    request.user = a.prompt.message t.entered.scope.state t.entered.ambient
  directive : ¬ a.prompt.hasTemplate → ∀ d, t.context.directive = some d → request.user = d
  spent : t.outcome.context.directive = none

/-- A supervisor takes the directive as its task and hands down the requests of its plans. -/
structure Supervises (may : Replies μ) (s : Setup μ) (subs : List (Runnable μ)) (t : Turn μ) :
    Prop where
  task : ∀ d, t.context.directive = some d → Supervisor.task t.entered = d
  asks : t.log.calls.head? = some (s.model,
    planningRequest (subs.map Runnable.executable) (Supervisor.task t.entered) [])
  instructs : ∀ (before : List (Turn μ)) (p : Turn μ) (after : List (Turn μ)),
    t.parts = before ++ p :: after →
      ∃ (earlier : List Delegation) (reply requested : String) (asked : Option String),
        List.Forall₂ Records earlier before ∧
          Instructed may s subs (Supervisor.task t.entered) earlier reply requested asked p
  spent : t.outcome.context.directive = none

/-- What becomes of the directive that a turn begins with. -/
structure Passes (may : Replies μ) (t : Turn μ) : Prop where
  spends : t.Spends
  agent : ∀ id name a, t.unit = .agent id name a → ∃ request, t.Addresses a request
  sequence : ∀ id name steps key, t.unit = .sequence id name steps key →
    t.parts ≠ [] ∧ t.parts.map unit <+: steps ∧ Leads t.context.directive t.parts
  conditional : ∀ id name routes key, t.unit = .conditional id name routes key →
    t.parts.map unit =
      ((routes.find? fun route => holds t.entered.scope route.1).map Prod.snd).toList ∧
    ∀ p ∈ t.parts, p.context.directive = t.context.directive
  parallel : ∀ id name branches pool key, t.unit = .parallel id name branches pool key →
    t.parts.map unit = branches ∧ (∀ p ∈ t.parts, p.context.directive = t.context.directive) ∧
    t.outcome.context.directive = none
  supervisor : ∀ id name s subs, t.unit = .supervisor id name s subs → t.Supervises may s subs

theorem Local.addresses {a : Agent μ} (h : t.Local may) (hunit : t.unit = .agent id name a) :
    ∃ request, t.Addresses a request := by
  cases h with
  | replied hrequest =>
    obtain ⟨rfl, rfl, rfl⟩ := Runnable.agent.inj hunit
    refine ⟨_, calls_log _, fun htemplate => ?_, fun htemplate d hd => ?_,
      Context.directive_keep _ _ _⟩
    · rw [hrequest]
      exact Agent.message_of_template htemplate
    · rw [hrequest]
      exact Agent.message_of_directive htemplate hd
  | unanswered hrequest =>
    obtain ⟨rfl, rfl, rfl⟩ := Runnable.agent.inj hunit
    refine ⟨_, calls_log _, fun htemplate => ?_, fun htemplate d hd => ?_, rfl⟩
    · rw [hrequest]
      exact Agent.message_of_template htemplate
    · rw [hrequest]
      exact Agent.message_of_directive htemplate hd
  | _ => cases hunit

theorem Local.leads {steps : List (Runnable μ)} {key : String} (h : t.Local may)
    (hparts : ∀ s ∈ t.parts, s.Spends) (hunit : t.unit = .sequence id name steps key)
    (hne : steps ≠ []) :
    t.parts ≠ [] ∧ t.parts.map unit <+: steps ∧ Leads t.context.directive t.parts := by
  cases h with
  | sequence hfollow =>
    obtain ⟨rfl, rfl, rfl, rfl⟩ := Runnable.sequence.inj hunit
    refine ⟨?_, List.prefix_rfl, (hfollow.leads hparts).1⟩
    rintro rfl
    exact hne rfl
  | @interrupted id name key c before p rest e hbefore =>
    obtain ⟨rfl, rfl, rfl, rfl⟩ := Runnable.sequence.inj hunit
    have hspends : ∀ s ∈ before, s.Spends := fun s hs => hparts s (List.mem_append_left _ hs)
    refine ⟨by simp, ⟨rest, ?_⟩, hbefore.leads_append hspends⟩
    simp
  | _ => cases hunit

theorem Local.chosen {routes : List (Condition × Runnable μ)} {key : Option String}
    (h : t.Local may) (hunit : t.unit = .conditional id name routes key) :
    t.parts.map unit =
      ((routes.find? fun route => holds t.entered.scope route.1).map Prod.snd).toList ∧
    ∀ p ∈ t.parts, p.context.directive = t.context.directive := by
  cases h with
  | unmatched hnone =>
    obtain ⟨rfl, rfl, rfl, rfl⟩ := Runnable.conditional.inj hunit
    refine ⟨?_, List.forall_mem_nil _⟩
    rw [entered, hnone]
    rfl
  | @routed id name routes key c condition p o hroute hstart =>
    obtain ⟨rfl, rfl, rfl, rfl⟩ := Runnable.conditional.inj hunit
    refine ⟨?_, List.forall_mem_singleton.mpr ?_⟩
    · rw [entered, hroute]
      rfl
    · rw [hstart]
      rfl
  | _ => cases hunit

theorem Local.handed {branches : List (Runnable μ)} {pool : Nat} {key : Option String}
    (h : t.Local may) (hunit : t.unit = .parallel id name branches pool key) :
    t.parts.map unit = branches ∧ (∀ p ∈ t.parts, p.context.directive = t.context.directive) ∧
    t.outcome.context.directive = none := by
  cases h with
  | parallel hstart =>
    obtain ⟨rfl, rfl, rfl, rfl, rfl⟩ := Runnable.parallel.inj hunit
    refine ⟨rfl, fun p hp => ?_, gather_directive _ _ _⟩
    rw [hstart p hp]
    rfl
  | _ => cases hunit

theorem Local.supervises {s : Setup μ} {subs : List (Runnable μ)} (h : t.Local may)
    (hunit : t.unit = .supervisor id name s subs) : t.Supervises may s subs := by
  cases h with
  | @supervisor id name s subs c parts log o h =>
    obtain ⟨rfl, rfl, rfl, rfl⟩ := Runnable.supervisor.inj hunit
    have hdirective : o.context.directive = none := h.directive rfl
    refine ⟨fun d hd => ?_, ?_, fun before p after hparts => ?_, hdirective⟩
    · have hentered : (c.entered (.supervisor id name s subs)).directive = some d := hd
      rw [entered, Supervisor.task, hentered, Option.getD_some]
    · rw [calls_log]
      obtain ⟨left, hleft⟩ : ∃ left, max 1 s.maxSteps = left + 1 :=
        Nat.exists_eq_succ_of_ne_zero (Nat.one_le_iff_ne_zero.mp (Nat.le_max_left ..))
      rw [hleft] at h
      exact h.head_calls
    · obtain ⟨earlier, reply, requested, asked, hearlier, hinstructed⟩ := h.instructs hparts
      exact ⟨earlier, reply, requested, asked, hearlier, hinstructed⟩
  | _ => cases hunit

theorem Proper.passes (h : t.Proper may) (hfilled : t.unit.Filled) : t.Passes may := by
  have hlocal := h.local
  have hparts : ∀ s ∈ t.parts, s.Spends := fun s hs =>
    (h.part hs).spends (hfilled.within ((Runnable.within_self _).part (hlocal.part_unit hs)))
  refine ⟨h.spends hfilled, fun _ _ _ => hlocal.addresses, fun id name steps key hunit => ?_,
    fun _ _ _ _ => hlocal.chosen, fun _ _ _ _ _ => hlocal.handed, fun _ _ _ _ => hlocal.supervises⟩
  refine hlocal.leads hparts hunit ?_
  rintro rfl
  exact hfilled t.unit id name key (Runnable.within_self _) hunit

end Turn

/-! ## Runs -/

/-- A directive reaches the front of a unit and nothing after it. Whatever can come of an invocation of a
unit of a compiled graph, on any context, comes of a turn below which every turn does with the directive
it begins with what its kind of unit does; and none is left if the invocation succeeds. -/
theorem directives_of_run (provider : Provider μ) (tools : Registry) (config : Config)
    (entry : String) (decls : List NodeDecl) (e : Entry μ)
    (he : (compile provider tools config entry decls).result = .ok e) (r : Runnable μ)
    (hr : r.Within e.runnable) (c : Context) :
    (∀ (may : Replies μ) (actions : List (Action μ)) (o : Outcome),
      Steps may (.active (r.executable.invoke c)) actions (.ended o) →
        (∀ value, o.value = .ok value → o.context.directive = none) ∧
        ∃ t : Turn μ, t.Proper may ∧ t.unit = r ∧ t.context = c ∧ t.outcome = o ∧
          t.log.Shows actions ∧ ∀ s : Turn μ, s.Under t → s.Passes may) ∧
    ∀ (σ : Type) (answer : Responder μ σ) (memory : σ),
      let run := (r.executable.invoke c).run answer memory
      (∀ value, run.outcome.value = .ok value → run.outcome.context.directive = none) ∧
      ∃ t : Turn μ, t.Proper (.by answer) ∧ t.unit = r ∧ t.context = c ∧ t.outcome = run.outcome ∧
        t.log = run.log ∧ ∀ s : Turn μ, s.Under t → s.Passes (.by answer) := by
  obtain ⟨checked, hchecked, hcompiled⟩ := compiled_of_compile he
  have hfilled := hcompiled.filled (Checked.passed hchecked)
  have hpasses : ∀ {may : Replies μ} {t : Turn μ}, t.Proper may → t.unit = r →
      ∀ s : Turn μ, s.Under t → s.Passes may := by
    rintro may t ht rfl s hs
    exact (ht.under hs).passes (hfilled.within ((ht.within hs).trans hr))
  refine ⟨fun may actions o h => ?_, fun σ answer memory => ?_⟩
  · obtain ⟨log, hproduces, hshows⟩ := produces_of_steps h
    obtain ⟨t, ht, hunit, hcontext, rfl, rfl⟩ := r.turns c log o hproduces
    have hall := hpasses ht hunit
    exact ⟨(hall t .refl).spends, t, ht, hunit, hcontext, rfl, hshows, hall⟩
  · obtain ⟨t, ht, hunit, hcontext, hlog, houtcome⟩ :=
      r.turns c _ _ (produces_run_by answer (r.executable.invoke c) memory)
    have hall := hpasses ht hunit
    exact ⟨houtcome ▸ (hall t .refl).spends, t, ht, hunit, hcontext, houtcome, hlog, hall⟩

/-- Both branches are asked what was handed down, and it is gone afterwards. -/
theorem directives_of_run_duet :
    let c := (Context.ofInput Duet.input).withDirective (some "hum")
    let run := (Duet.entry.runnable.executable.invoke c).run
      (fun _ request memory => (.ok request.user, memory)) ()
    run.outcome.context.directive = none ∧ run.log.calls.map (fun call => call.2.user) = ["hum", "hum"] := by
  intro c run
  obtain ⟨-, hrun⟩ := directives_of_run (fun _ => .ok ()) [] {} "entry" Duet.decls _ Duet.compile_decls
    Duet.entry.runnable (Runnable.within_self _) c
  obtain ⟨hspent, -⟩ := hrun Unit (fun _ request memory => (.ok request.user, memory)) ()
  exact ⟨hspent (.string "") rfl, rfl⟩

end AgentGraph
