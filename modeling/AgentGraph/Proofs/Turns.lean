import AgentGraph.Proofs.Events

/-! The turns of a run.

A turn is one invocation of a unit. It is a tree: what a unit does, it does by turns of its parts.
What a turn has to do with the turns right below it depends on the kind of its unit only, and is
said once, with the contexts that are passed on; what holds of all runs follows from that by
induction.

* `Turn`: an invocation, the turns below it, and its outcome.
* `Turn.Local`: how a turn comes out of those below it.
* `Turn.Proper`: all turns of the tree come out of those below them.
* `Turn.Under`: a turn somewhere in the tree of another one.
* `Runnable.turns`: everything that an invocation can come to is a proper turn.
* `Entry.turned`: so what comes of a run is a proper turn of its entry. -/
namespace AgentGraph
open Relation
set_option autoImplicit false

variable {μ : Type} {may : Replies μ}

/-! ## Turns -/

structure Turn (μ : Type) where
  unit : Runnable μ
  /-- The context that the unit was invoked on. -/
  context : Context
  parts : List (Turn μ)
  /-- What happened between the two events that tell of the turn itself. -/
  inside : Log μ
  outcome : Outcome

namespace Turn

def entered (t : Turn μ) : Context := t.context.entered t.unit

def log (t : Turn μ) : Log μ :=
  .event (.unitStarted t.unit.id t.unit.kind)
    (t.inside.append (.event (.closing t.unit.id t.outcome.value) .nil))

/-- The turns all succeed, and each begins on the context that the one before it left. -/
inductive Follow : Context → List (Turn μ) → Context → Prop
  | nil {c : Context} : Follow c [] c
  | cons {c : Context} {t : Turn μ} {rest : List (Turn μ)} {last : Context} {value : Value}
      (hstart : t.context = c) (hvalue : t.outcome.value = .ok value)
      (hrest : Follow t.outcome.context rest last) : Follow c (t :: rest) last

end Turn

/-! ## How units come to an end without their parts -/

/-- Writes under a key if there is one. -/
def Context.keep (c : Context) (key : Option String) (value : Value) : Context :=
  match key with
  | none => c
  | some key => c.write key value

/-- What a conditional makes of the value of its target. -/
def published (key : Option String) (direct : Value) (c : Context) : Outcome :=
  match key with
  | none => ⟨.ok direct, c⟩
  | some key =>
    let after := if (c.scope.get? key).all Value.isNull then c.write key direct else c
    ⟨.ok (after.scope.output key), after⟩

theorem published_context (key : Option String) (direct : Value) (c : Context) :
    (published key direct c).context = c ∨
      ∃ name, (published key direct c).context = c.write name direct := by
  cases key with
  | none => exact .inl rfl
  | some key =>
    by_cases hfree : (c.scope.get? key).all Value.isNull
    · refine .inr ⟨key, ?_⟩
      simp only [published, if_pos hfree]
    · refine .inl ?_
      simp only [published, if_neg hfree]

namespace Supervisor

variable {id : String} {s : Setup μ} {subs : List (Runnable μ)} {task : String}

/-- What a supervisor makes of the response that it picked. -/
def responded (s : Setup μ) (c : Context) (response : Option String) : Outcome :=
  let after := c.keep (response.map fun _ => s.outputKey) (.string (response.getD ""))
  ⟨.ok (after.scope.output s.outputKey), after⟩

/-- Picking the response: the model is asked only to compare two answers. -/
inductive Concludes (may : Replies μ) (s : Setup μ) (task : String) (c : Context) :
    (last summary : Option String) → Log μ → Outcome → Prop
  | last {last summary : Option String} (hstrategy : s.strategy = .last) :
    Concludes may s task c last summary .nil (responded s c (last.or summary))
  | summary {last summary : Option String} (hstrategy : s.strategy = .summary) :
    Concludes may s task c last summary .nil (responded s c (summary.or last))
  | single {last summary : Option String} (hstrategy : s.strategy = .scored)
      (hone : last = none ∨ summary = none) :
    Concludes may s task c last summary .nil (responded s c (last.or summary))
  | scored {first second verdict : String} (hstrategy : s.strategy = .scored)
      (hreply : may s.model (comparison task first second) (.ok verdict)) :
    Concludes may s task c (some first) (some second)
      (.call s.model (comparison task first second) .nil)
      (responded s c (some (if prefersSecond verdict then second else first)))
  | unscored {first second : String} {e : Failure} (hstrategy : s.strategy = .scored)
      (hreply : may s.model (comparison task first second) (.error e)) :
    Concludes may s task c (some first) (some second)
      (.call s.model (comparison task first second) .nil) ⟨.error e, c⟩

/-- The turn is that of the sub-agent that a plan asks for, on the request of the plan. -/
structure Delegates (subs : List (Runnable μ)) (task : String) (c : Context) (reply : String)
    (request : String) (t : Turn μ) : Prop where
  plan : ∃ requested asked, Plan.parse reply = .ok (.delegate requested asked) ∧
    request = asked.getD task ∧
    find? (subs.map Runnable.executable) requested = some t.unit.executable
  unit : t.unit ∈ subs
  context : t.context = c.withDirective (some request)

def warned (id : String) (stepsLeft : Nat) (log : Log μ) : Log μ :=
  if stepsLeft = 0 then .event (.note id .warning "invocation limit reached") log else log

/-- Taking the steps that are left, by turns of sub-agents. -/
inductive Deliberates (may : Replies μ) (id : String) (s : Setup μ) (subs : List (Runnable μ))
    (task : String) : (stepsLeft : Nat) → List Delegation → Context → List (Turn μ) → Log μ →
    Outcome → Prop
  | exhausted {delegations : List Delegation} {c : Context} {log : Log μ} {o : Outcome}
      (h : Concludes may s task c (lastAnswer? delegations) none log o) :
    Deliberates may id s subs task 0 delegations c [] log o
  | unanswered {left : Nat} {delegations : List Delegation} {c : Context} {request : Request}
      {e : Failure}
      (hrequest : request = planningRequest (subs.map Runnable.executable) task delegations)
      (hreply : may s.model request (.error e)) :
    Deliberates may id s subs task (left + 1) delegations c [] (.call s.model request .nil)
      ⟨.error e, c⟩
  | unusable {left : Nat} {delegations : List Delegation} {c : Context} {request : Request}
      {reply : String} {e : Plan.Error}
      (hrequest : request = planningRequest (subs.map Runnable.executable) task delegations)
      (hreply : may s.model request (.ok reply)) (hplan : Plan.parse reply = .error e) :
    Deliberates may id s subs task (left + 1) delegations c [] (.call s.model request .nil)
      ⟨.error (.unusablePlan id e.message), c⟩
  | finished {left : Nat} {delegations : List Delegation} {c : Context} {request : Request}
      {reply response : String} {log : Log μ} {o : Outcome}
      (hrequest : request = planningRequest (subs.map Runnable.executable) task delegations)
      (hreply : may s.model request (.ok reply)) (hplan : Plan.parse reply = .ok (.finish response))
      (h : Concludes may s task c (lastAnswer? delegations) (kept? response) log o) :
    Deliberates may id s subs task (left + 1) delegations c [] (.call s.model request log) o
  | unknown {left : Nat} {delegations : List Delegation} {c : Context} {request : Request}
      {reply requested : String} {asked : Option String}
      (hrequest : request = planningRequest (subs.map Runnable.executable) task delegations)
      (hreply : may s.model request (.ok reply))
      (hplan : Plan.parse reply = .ok (.delegate requested asked))
      (hnone : find? (subs.map Runnable.executable) requested = none) :
    Deliberates may id s subs task (left + 1) delegations c [] (.call s.model request .nil)
      ⟨.error (.unknownSubAgent id requested), c⟩
  | broken {left : Nat} {delegations : List Delegation} {c : Context} {request : Request}
      {reply asked : String} {t : Turn μ} {e : Failure}
      (hrequest : request = planningRequest (subs.map Runnable.executable) task delegations)
      (hreply : may s.model request (.ok reply)) (h : Delegates subs task c reply asked t)
      (hvalue : t.outcome.value = .error e) :
    Deliberates may id s subs task (left + 1) delegations c [t]
      (.call s.model request (.event (.note id .info ("delegating to " ++ t.unit.id)) t.log))
      ⟨.error e, t.outcome.context.withDirective none⟩
  | delegated {left : Nat} {delegations : List Delegation} {c : Context} {request : Request}
      {reply asked : String} {t : Turn μ} {value : Value} {rest : List (Turn μ)} {log : Log μ}
      {o : Outcome}
      (hrequest : request = planningRequest (subs.map Runnable.executable) task delegations)
      (hreply : may s.model request (.ok reply)) (h : Delegates subs task c reply asked t)
      (hvalue : t.outcome.value = .ok value)
      (hrest : Deliberates may id s subs task left
        (delegations ++ [⟨t.unit.id, asked, value.text?.getD ""⟩])
        (t.outcome.context.withDirective none) rest log o) :
    Deliberates may id s subs task (left + 1) delegations c (t :: rest)
      (.call s.model request (.event (.note id .info ("delegating to " ++ t.unit.id))
        (t.log.append (warned id left log)))) o

theorem Deliberates.delegates {left : Nat} {delegations : List Delegation} {c : Context}
    {parts : List (Turn μ)} {log : Log μ} {o : Outcome}
    (h : Deliberates may id s subs task left delegations c parts log o) {p : Turn μ}
    (hp : p ∈ parts) :
    ∃ (c' : Context) (reply request : String), Delegates subs task c' reply request p := by
  induction h with
  | broken _ _ hturn =>
    rw [List.mem_singleton.mp hp]
    exact ⟨_, _, _, hturn⟩
  | delegated _ _ hturn _ _ ih =>
    rcases List.mem_cons.mp hp with rfl | hp
    · exact ⟨_, _, _, hturn⟩
    · exact ih hp
  | _ => cases hp

end Supervisor

/-! ## How a turn comes out of those below it -/

namespace Turn

open Executable Supervisor

inductive Local (may : Replies μ) : Turn μ → Prop
  | replied {id name : String} {a : Agent μ} {c : Context} {request : Request} {reply : String}
      (hrequest : request = a.request (c.entered (.agent id name a)))
      (hreply : may a.model request (.ok reply)) :
    Local may ⟨.agent id name a, c, [], .call a.model request .nil, ⟨.ok (.string reply),
      ((c.entered (.agent id name a)).withDirective none).keep a.outputKey (.string reply)⟩⟩
  | unanswered {id name : String} {a : Agent μ} {c : Context} {request : Request} {e : Failure}
      (hrequest : request = a.request (c.entered (.agent id name a)))
      (hreply : may a.model request (.error e)) :
    Local may ⟨.agent id name a, c, [], .call a.model request .nil,
      ⟨.error e, (c.entered (.agent id name a)).withDirective none⟩⟩
  | sequence {id name key : String} {c last : Context} {parts : List (Turn μ)}
      (hparts : Follow (c.entered (.sequence id name (parts.map unit) key)) parts last) :
    Local may ⟨.sequence id name (parts.map unit) key, c, parts, .concat (parts.map log),
      ⟨.ok (last.scope.output key), last.write key (last.scope.output key)⟩⟩
  | interrupted {id name key : String} {c : Context} {before : List (Turn μ)} {t : Turn μ}
      {rest : List (Runnable μ)} {e : Failure}
      (hbefore : Follow (c.entered (.sequence id name (before.map unit ++ t.unit :: rest) key))
        before t.context) (hvalue : t.outcome.value = .error e) :
    Local may ⟨.sequence id name (before.map unit ++ t.unit :: rest) key, c, before ++ [t],
      (Log.concat (before.map log)).append t.log, ⟨.error e, t.outcome.context⟩⟩
  | parallel {id name : String} {pool : Nat} {key : Option String} {c : Context}
      {parts : List (Turn μ)} (hparts : ∀ t ∈ parts,
        t.context = (c.entered (.parallel id name (parts.map unit) pool key)).handed) :
    Local may ⟨.parallel id name (parts.map unit) pool key, c, parts,
      .fork (permits pool) (parts.map log) .nil,
      gather key ((c.entered (.parallel id name (parts.map unit) pool key)).withDirective none)
        (parts.map outcome)⟩
  | unmatched {id name : String} {routes : List (Condition × Runnable μ)} {key : Option String}
      {c : Context}
      (hnone : routes.find? (fun route =>
        holds (c.entered (.conditional id name routes key)).scope route.1) = none) :
    Local may ⟨.conditional id name routes key, c, [], .nil,
      ⟨.error (.noBranchMatched id), c.entered (.conditional id name routes key)⟩⟩
  | routed {id name : String} {routes : List (Condition × Runnable μ)} {key : Option String}
      {c : Context} {condition : Condition} {t : Turn μ} {o : Outcome}
      (hroute : routes.find? (fun route =>
        holds (c.entered (.conditional id name routes key)).scope route.1) =
          some (condition, t.unit))
      (hstart : t.context = c.entered (.conditional id name routes key))
      (hend : (∃ value, t.outcome.value = .ok value ∧ o = published key value t.outcome.context) ∨
        ∃ e, t.outcome.value = .error e ∧ o = ⟨.error e, t.outcome.context⟩) :
    Local may ⟨.conditional id name routes key, c, [t],
      .event (.note id .info ("branch " ++ condition.key ++ "=" ++ condition.value ++ " selected"))
        t.log, o⟩
  | supervisor {id name : String} {s : Setup μ} {subs : List (Runnable μ)} {c : Context}
      {parts : List (Turn μ)} {log : Log μ} {o : Outcome}
      (h : Deliberates may id s subs (task (c.entered (.supervisor id name s subs)))
        (max 1 s.maxSteps) [] ((c.entered (.supervisor id name s subs)).withDirective none) parts
        log o) :
    Local may ⟨.supervisor id name s subs, c, parts, log, o⟩

inductive Proper (may : Replies μ) : Turn μ → Prop
  | mk {t : Turn μ} (hlocal : t.Local may) (hparts : ∀ s ∈ t.parts, Proper may s) : Proper may t

/-- It is the other one, or stands somewhere below it. -/
def Under (s t : Turn μ) : Prop := ReflTransGen (fun whole part => part ∈ whole.parts) t s

variable {s t : Turn μ}

theorem Proper.local (h : t.Proper may) : t.Local may := by
  cases h with | mk hlocal _ => exact hlocal

theorem Proper.part (h : t.Proper may) (hs : s ∈ t.parts) : s.Proper may := by
  cases h with | mk _ hparts => exact hparts s hs

theorem Proper.under (h : t.Proper may) (hs : s.Under t) : s.Proper may := by
  induction hs with
  | refl => exact h
  | tail _ hpart ih => exact ih.part hpart

theorem Local.part_unit (h : t.Local may) (hs : s ∈ t.parts) : s.unit ∈ t.unit.parts := by
  cases h with
  | replied => cases hs
  | unanswered => cases hs
  | sequence => exact List.mem_map_of_mem hs
  | interrupted =>
    rcases List.mem_append.mp hs with hs | hs
    · exact List.mem_append_left _ (List.mem_map_of_mem hs)
    · rw [List.mem_singleton.mp hs]
      exact List.mem_append_cons_self
  | parallel => exact List.mem_map_of_mem hs
  | unmatched => cases hs
  | @routed id name routes key c condition p o hroute =>
    rw [List.mem_singleton.mp hs]
    exact List.mem_map_of_mem (List.mem_of_find?_eq_some hroute)
  | supervisor h =>
    obtain ⟨_, _, _, hturn⟩ := h.delegates hs
    exact hturn.unit

theorem Proper.within (h : t.Proper may) (hs : s.Under t) : s.unit.Within t.unit := by
  induction hs with
  | refl => exact t.unit.within_self
  | tail hunder hpart ih => exact ih.part ((h.under hunder).local.part_unit hpart)

end Turn

/-! ## Invocations -/

/-- Whatever an invocation on the context comes to, it is a proper turn. -/
def Runnable.Turns (may : Replies μ) (r : Runnable μ) : Prop :=
  ∀ c, Always may (r.executable.invoke c) fun log o => ∃ t : Turn μ,
    t.Proper may ∧ t.unit = r ∧ t.context = c ∧ t.log = log ∧ t.outcome = o

/-- Some proper turns, of which a turn comes out. -/
def Turn.Made (may : Replies μ) (r : Runnable μ) (c : Context) (log : Log μ) (o : Outcome) : Prop :=
  ∃ parts : List (Turn μ), (∀ t ∈ parts, t.Proper may) ∧ Turn.Local may ⟨r, c, parts, log, o⟩

theorem Runnable.turns_of_act {r : Runnable μ}
    (h : ∀ c, Always may (r.executable.act (c.entered r)) (Turn.Made may r c)) : r.Turns may := by
  intro c
  refine always_report (always_andThen ((h c).imp fun log o hmade => ?_))
  obtain ⟨parts, hparts, hlocal⟩ := hmade
  exact always_report (always_done ⟨⟨r, c, parts, log, o⟩, .mk hlocal hparts, rfl, rfl, rfl, rfl⟩)

namespace Executable

variable {c : Context}

theorem always_inOrder {key : String} {steps : List (Runnable μ)} (h : ∀ r ∈ steps, r.Turns may) :
    Always may (inOrder (publish key) (steps.map Runnable.executable) c) fun log o =>
      (∃ (parts : List (Turn μ)) (last : Context), (∀ t ∈ parts, t.Proper may) ∧
        Turn.Follow c parts last ∧ parts.map Turn.unit = steps ∧
        log = .concat (parts.map Turn.log) ∧
        o = ⟨.ok (last.scope.output key), last.write key (last.scope.output key)⟩) ∨
      ∃ (before : List (Turn μ)) (t : Turn μ) (rest : List (Runnable μ)) (e : Failure),
        (∀ s ∈ before ++ [t], s.Proper may) ∧ Turn.Follow c before t.context ∧
        before.map Turn.unit ++ t.unit :: rest = steps ∧ t.outcome.value = .error e ∧
        log = (Log.concat (before.map Turn.log)).append t.log ∧
        o = ⟨.error e, t.outcome.context⟩ := by
  induction steps generalizing c with
  | nil =>
    refine always_write (always_done (.inl ⟨[], c, ?_, .nil, rfl, rfl, rfl⟩))
    exact List.forall_mem_nil _
  | cons r steps ih =>
    have hr := h r List.mem_cons_self
    have hsteps : ∀ x ∈ steps, x.Turns may := fun x hx => h x (List.mem_cons_of_mem _ hx)
    refine always_onSuccess ((hr c).imp fun log o hturn => ?_)
    obtain ⟨t, ht, rfl, hstart, rfl, rfl⟩ := hturn
    cases hvalue : t.outcome.value with
    | ok value =>
      refine (ih hsteps).imp fun rest o' ho' => ?_
      rcases ho' with ⟨parts, last, hparts, hfollow, rfl, rfl, ho'⟩ |
        ⟨before, u, rest, e, hturns, hfollow, rfl, hfailed, rfl, ho'⟩
      · refine .inl ⟨t :: parts, last, ?_, .cons hstart hvalue hfollow, rfl, rfl, ho'⟩
        exact List.forall_mem_cons.mpr ⟨ht, hparts⟩
      · have hfollow' : Turn.Follow c (t :: before) u.context := .cons hstart hvalue hfollow
        refine .inr ⟨t :: before, u, rest, e, ?_, hfollow', rfl, hfailed, ?_, ho'⟩
        · exact List.forall_mem_cons.mpr ⟨ht, hturns⟩
        · rw [List.map_cons, Log.concat_cons, Log.append_assoc]
    | error e =>
      refine .inr ⟨[], t, steps, e, ?_, hstart ▸ .nil, rfl, hvalue, rfl, rfl⟩
      exact List.forall_mem_singleton.mpr ht

theorem always_publishDirect {key : Option String} {value : Value} :
    Always may (publishDirect key value c) fun log o => log = .nil ∧ o = published key value c := by
  unfold publishDirect published
  split
  · exact always_done ⟨rfl, rfl⟩
  · dsimp only
    split
    · exact always_write (always_done ⟨rfl, rfl⟩)
    · exact always_done ⟨rfl, rfl⟩

theorem always_choose {id name : String} {routes : List (Condition × Runnable μ)}
    {key : Option String} (h : ∀ route ∈ routes, route.2.Turns may) :
    Always may (choose id (routes.map fun route => (route.1, route.2.executable)) key
      (c.entered (.conditional id name routes key)))
      (Turn.Made may (.conditional id name routes key) c) := by
  unfold choose
  rw [List.find?_map]
  cases hfound : routes.find? ((fun route : Condition × Executable μ =>
      holds (c.entered (.conditional id name routes key)).scope route.1) ∘
        fun route => (route.1, route.2.executable)) with
  | none =>
    refine always_done ⟨[], ?_, .unmatched hfound⟩
    exact fun _ ht => nomatch ht
  | some route =>
    obtain ⟨condition, r⟩ := route
    have hr := h _ (List.mem_of_find?_eq_some hfound)
    refine always_report (always_onSuccess ((hr _).imp fun log o hturn => ?_))
    obtain ⟨t, ht, rfl, hstart, rfl, rfl⟩ := hturn
    have hparts : ∀ s ∈ [t], s.Proper may := List.forall_mem_singleton.mpr ht
    cases hvalue : t.outcome.value with
    | ok value =>
      refine always_publishDirect.imp fun rest o ho => ?_
      obtain ⟨rfl, rfl⟩ := ho
      rw [Log.append_nil]
      exact ⟨[t], hparts, .routed hfound hstart (.inl ⟨value, hvalue, rfl⟩)⟩
    | error e => exact ⟨[t], hparts, .routed hfound hstart (.inr ⟨e, hvalue, rfl⟩)⟩

/-- Processes that were run beside each other, each of them a turn of its own unit. -/
theorem turns_of_branches {start : Context} {units : List (Runnable μ)}
    {runs : List (Ran (Process μ) μ)}
    (hstart : runs.map Ran.start = units.map fun r => r.executable.invoke start)
    (hruns : ∀ run ∈ runs, ∀ r ∈ units, run.start = r.executable.invoke start → ∃ t : Turn μ,
      t.Proper may ∧ t.unit = r ∧ t.context = start ∧ t.log = run.log ∧ t.outcome = run.outcome) :
    ∃ parts : List (Turn μ), (∀ t ∈ parts, t.Proper may) ∧ parts.map Turn.unit = units ∧
      (∀ t ∈ parts, t.context = start) ∧ parts.map Turn.log = runs.map Ran.log ∧
      parts.map Turn.outcome = runs.map Ran.outcome := by
  induction units generalizing runs with
  | nil =>
    rw [List.map_nil, List.map_eq_nil_iff] at hstart
    subst hstart
    refine ⟨[], ?_, rfl, ?_, rfl, rfl⟩
    · exact fun _ ht => nomatch ht
    · exact fun _ ht => nomatch ht
  | cons r units ih =>
    rw [List.map_cons, List.map_eq_cons_iff] at hstart
    obtain ⟨run, rest, rfl, hrun, hrest⟩ := hstart
    obtain ⟨t, ht, rfl, hcontext, hlog, houtcome⟩ :=
      hruns run List.mem_cons_self r List.mem_cons_self hrun
    obtain ⟨parts, hparts, rfl, hcontexts, hlogs, houtcomes⟩ := ih hrest fun x hx y hy =>
      hruns x (List.mem_cons_of_mem _ hx) y (List.mem_cons_of_mem _ hy)
    refine ⟨t :: parts, List.forall_mem_cons.mpr ⟨ht, hparts⟩, rfl,
      List.forall_mem_cons.mpr ⟨hcontext, hcontexts⟩, ?_, ?_⟩
    · rw [List.map_cons, List.map_cons, hlog, hlogs]
    · rw [List.map_cons, List.map_cons, houtcome, houtcomes]

theorem always_spread {id name : String} {units : List (Runnable μ)} {pool : Nat}
    {key : Option String} (h : ∀ r ∈ units, r.Turns may) :
    Always may (spread (units.map Runnable.executable) pool key
      (c.entered (.parallel id name units pool key)))
      (Turn.Made may (.parallel id name units pool key) c) := by
  let start := (c.entered (.parallel id name units pool key)).handed
  refine always_fork (R := fun p log o => ∀ r ∈ units, p = r.executable.invoke start → ∃ t : Turn μ,
    t.Proper may ∧ t.unit = r ∧ t.context = start ∧ t.log = log ∧ t.outcome = o) ?_ ?_
  · intro p _ log o hp r hr hstart
    rw [hstart] at hp
    exact h r hr start log o hp
  · intro runs hstart hruns
    rw [List.map_map] at hstart
    obtain ⟨parts, hparts, rfl, hcontexts, hlogs, houtcomes⟩ := turns_of_branches hstart hruns
    refine always_done ?_
    rw [join_eq_gather, ← hlogs, ← houtcomes]
    exact ⟨parts, hparts, .parallel hcontexts⟩

end Executable

namespace Supervisor

open Executable

variable {id : String} {s : Setup μ} {subs : List (Runnable μ)} {task : String} {c : Context}

theorem always_respond {response : Option String} :
    Always may (respond s c response) fun log o => log = .nil ∧ o = responded s c response := by
  cases response with
  | none => exact always_done ⟨rfl, rfl⟩
  | some text => exact always_write (always_done ⟨rfl, rfl⟩)

theorem always_conclude {last summary : Option String} :
    Always may (conclude s task last summary c) (Concludes may s task c last summary) := by
  have hsilent : ∀ {response : Option String},
      Concludes may s task c last summary .nil (responded s c response) →
      Always may (respond s c response) (Concludes may s task c last summary) := by
    intro response h
    refine always_respond.imp fun log o ho => ?_
    obtain ⟨rfl, rfl⟩ := ho
    exact h
  cases hstrategy : s.strategy with
  | last =>
    simp only [conclude, hstrategy]
    exact hsilent (.last hstrategy)
  | summary =>
    simp only [conclude, hstrategy]
    exact hsilent (.summary hstrategy)
  | scored =>
    cases last with
    | none =>
      simp only [conclude, hstrategy]
      exact hsilent (.single hstrategy (.inl rfl))
    | some first =>
      cases summary with
      | none =>
        simp only [conclude, hstrategy]
        exact hsilent (.single hstrategy (.inr rfl))
      | some second =>
        simp only [conclude, hstrategy]
        refine always_consult (fun verdict hreply => ?_) fun e hreply => .unscored hstrategy hreply
        refine always_respond.imp fun log o ho => ?_
        obtain ⟨rfl, rfl⟩ := ho
        exact .scored hstrategy hreply

/-- Proper turns of sub-agents that a plan is carried out by. -/
def Carried (may : Replies μ) (id : String) (s : Setup μ) (subs : List (Runnable μ)) (task : String)
    (left : Nat) (delegations : List Delegation) (c : Context) (log : Log μ) (o : Outcome) : Prop :=
  ∃ parts : List (Turn μ), (∀ t ∈ parts, t.Proper may) ∧
    Deliberates may id s subs task left delegations c parts log o

theorem Carried.alone {left : Nat} {delegations : List Delegation} {log : Log μ} {o : Outcome}
    (h : Deliberates may id s subs task left delegations c [] log o) :
    Carried may id s subs task left delegations c log o :=
  ⟨[], List.forall_mem_nil _, h⟩

theorem always_warnAtLimit {left : Nat} {p : Process μ} {Q : Log μ → Outcome → Prop}
    (h : Always may p fun log o => Q (warned id left log) o) :
    Always may (warnAtLimit id left p) Q := by
  unfold warnAtLimit
  unfold warned at h
  split
  · next hleft =>
    simp only [if_pos hleft] at h
    exact always_report h
  · next hleft =>
    simp only [if_neg hleft] at h
    exact h

theorem always_deliberate (h : ∀ r ∈ subs, r.Turns may) {left : Nat}
    {delegations : List Delegation} :
    Always may (deliberate id s (subs.map Runnable.executable) task left delegations c)
      (Carried may id s subs task left delegations c) := by
  -- On the steps that are left. What has been delegated so far changes what is asked next.
  induction left generalizing delegations c with
  | zero => exact always_conclude.imp fun log o ho => .alone (.exhausted ho)
  | succ left ih =>
    refine always_consult (fun reply hreply => ?_) fun e hreply => .alone (.unanswered rfl hreply)
    split
    · next e hplan => exact always_done (.alone (.unusable rfl hreply hplan))
    · next response hplan =>
      exact always_conclude.imp fun log o ho => .alone (.finished rfl hreply hplan ho)
    · next requested asked hplan =>
      split
      · next hnone => exact always_done (.alone (.unknown rfl hreply hplan hnone))
      · next sub hfound =>
        obtain ⟨r, hr, rfl⟩ := List.mem_map.mp (find?_mem hfound)
        refine always_report (always_andThen ((h r hr _).imp fun log o hturn => ?_))
        obtain ⟨t, ht, rfl, hstart, rfl, rfl⟩ := hturn
        have hdelegates : Delegates subs task c reply (asked.getD task) t :=
          ⟨⟨requested, asked, hplan, rfl, hfound⟩, hr, hstart⟩
        cases hvalue : t.outcome.value with
        | error e =>
          refine always_done ⟨[t], List.forall_mem_singleton.mpr ht, ?_⟩
          rw [Log.append_nil]
          exact .broken rfl hreply hdelegates hvalue
        | ok value =>
          refine always_warnAtLimit (ih.imp fun log o ho => ?_)
          obtain ⟨rest, hrest, ho⟩ := ho
          refine ⟨t :: rest, List.forall_mem_cons.mpr ⟨ht, hrest⟩, ?_⟩
          exact .delegated rfl hreply hdelegates hvalue ho

end Supervisor

/-! ## Runnables -/

theorem Runnable.turns (r : Runnable μ) : r.Turns may := by
  -- On the tree of the unit, so that all turns of its parts are proper.
  induction r with
  | agent id name a =>
    refine turns_of_act fun c => ?_
    refine always_consult (fun reply hreply => ?_) fun e hreply => ?_
    · have hlocal : Turn.Local may ⟨.agent id name a, c, [], _, _⟩ := .replied rfl hreply
      unfold Context.keep at hlocal
      cases hkey : a.outputKey with
      | none =>
        rw [hkey] at hlocal
        exact always_done ⟨[], List.forall_mem_nil _, hlocal⟩
      | some key =>
        rw [hkey] at hlocal
        exact always_write (always_done ⟨[], List.forall_mem_nil _, hlocal⟩)
    · exact ⟨[], List.forall_mem_nil _, .unanswered rfl hreply⟩
  | sequence id name steps key ih =>
    refine turns_of_act fun c => ?_
    rw [executable_sequence]
    refine (Executable.always_inOrder ih).imp fun log o ho => ?_
    rcases ho with ⟨parts, last, hparts, hfollow, rfl, rfl, rfl⟩ |
      ⟨before, t, rest, e, hturns, hfollow, rfl, hvalue, rfl, rfl⟩
    · exact ⟨parts, hparts, .sequence hfollow⟩
    · exact ⟨before ++ [t], hturns, .interrupted hfollow hvalue⟩
  | parallel id name branches pool key ih =>
    refine turns_of_act fun c => ?_
    rw [executable_parallel]
    exact Executable.always_spread ih
  | conditional id name routes key ih =>
    refine turns_of_act fun c => ?_
    rw [executable_conditional]
    exact Executable.always_choose ih
  | supervisor id name s subs ih =>
    refine turns_of_act fun c => ?_
    rw [executable_supervisor]
    refine (Supervisor.always_deliberate ih).imp fun log o ho => ?_
    obtain ⟨parts, hparts, h⟩ := ho
    exact ⟨parts, hparts, .supervisor h⟩

/-! ## Runs -/

namespace Entry

/-- The turn is one of the entry itself, on the input of a run. -/
structure Takes (e : Entry μ) (may : Replies μ) (input : ValueMap) (t : Turn μ) : Prop where
  proper : t.Proper may
  unit : t.unit = e.runnable
  context : t.context = .ofInput input

/-- The log of a run, around that of the turn of its entry. -/
def around (e : Entry μ) (t : Turn μ) : Log μ :=
  .event (.runStarted e.entryId) (t.log.append (.event (.runCompleted t.outcome.value.isOk) .nil))

variable {e : Entry μ} {input : ValueMap}

theorem turned : Always may (e.process input) fun log o => ∃ t : Turn μ,
    e.Takes may input t ∧ t.outcome = o ∧ e.around t = log := by
  refine always_report (always_andThen ((e.runnable.turns _).imp fun log o hturn => ?_))
  obtain ⟨t, ht, hunit, hcontext, rfl, rfl⟩ := hturn
  exact always_report (always_done ⟨t, ⟨ht, hunit, hcontext⟩, rfl, rfl⟩)

theorem turn_of_steps {actions : List (Action μ)} {o : Outcome}
    (h : Steps may (.active (e.process input)) actions (.ended o)) :
    ∃ (t : Turn μ) (seen : List (Action μ)), e.Takes may input t ∧ t.outcome = o ∧
      t.log.Shows seen ∧ actions = e.told o seen := by
  obtain ⟨log, hproduces, hshows⟩ := produces_of_steps h
  obtain ⟨t, ht, rfl, rfl⟩ := turned log o hproduces
  cases hshows with
  | event hshows =>
    obtain ⟨seen, rest, rfl, hseen, hrest⟩ := Log.Shows.of_append hshows
    cases hrest with
    | event hnil => cases hnil with | nil => exact ⟨t, seen, ht, rfl, hseen, rfl⟩

end Entry

end AgentGraph
