import AgentGraph.Proofs.Turns

/-! The trace that a run leaves, and the units that are told to begin.

* `Log.started`: the units that begin, the branches of a fork one after another.
* `Turn.Proper.traced`: a turn that succeeds adds the units to the trace that begin in it.
* `Turn.Proper.trace_parallel`: those of a parallel are the traces of its branches in their order.
* `Turn.Proper.linear`: without a parallel, what is told is told in one order only. -/
namespace AgentGraph
set_option autoImplicit false

variable {μ : Type} {may : Replies μ}

/-! ## Units that begin -/

def Event.started? : Event → Option String
  | .unitStarted nodeId _ => some nodeId
  | .runStarted _ | .runCompleted _ | .unitCompleted _ | .unitFailed _ _ | .note _ _ _ => none

/-- The ids of the units that are told to begin. -/
def startedIn (actions : List (Action μ)) : List String :=
  (actions.filterMap Action.event?).filterMap Event.started?

namespace Log

/-- The ids of the units that begin, the branches of a fork one after another. -/
def started (log : Log μ) : List String := log.events.filterMap Event.started?

theorem started_append (first rest : Log μ) :
    (first.append rest).started = first.started ++ rest.started := by
  rw [started, events_append, List.filterMap_append]
  rfl

theorem started_fork (pool : Nat) (logs : List (Log μ)) (rest : Log μ) :
    (fork pool logs rest).started = (logs.map started).flatten ++ rest.started := by
  rw [started, events, List.filterMap_append]
  have hall : (eventsOfAll logs).filterMap Event.started? = (logs.map started).flatten := by
    induction logs with
    | nil => rfl
    | cons log logs ih => rw [eventsOfAll, List.filterMap_append, ih, List.map_cons,
        List.flatten_cons, started]
  rw [hall, started]

theorem Shows.started_perm {log : Log μ} {w : List (Action μ)} (h : log.Shows w) :
    (startedIn w).Perm log.started := by
  have hevents : (w.filterMap Action.event?).Perm log.events := by
    rw [← filterMap_event_actions]
    exact h.perm.filterMap _
  exact hevents.filterMap _

theorem startedIn_actions (log : Log μ) : startedIn log.actions = log.started := by
  rw [startedIn, filterMap_event_actions, started]

end Log

/-! ## The trace -/

def Context.traced (c : Context) : List String := c.scope.trace.map Invocation.nodeId

namespace Context

@[simp] theorem traced_withDirective (c : Context) (directive : Option String) :
    (c.withDirective directive).traced = c.traced := rfl

@[simp] theorem traced_entered (c : Context) (r : Runnable μ) :
    (c.entered r).traced = c.traced ++ [r.id] := List.map_append

@[simp] theorem traced_keep (c : Context) (key : Option String) (value : Value) :
    (c.keep key value).traced = c.traced := by
  cases key <;> rfl

end Context

theorem trace_merged (s : Scope) (branches : List Scope) :
    (branches.foldl Scope.merge s).trace = s.trace ++ (branches.map Scope.trace).flatten := by
  induction branches generalizing s with
  | nil => exact (List.append_nil _).symm
  | cons branch rest ih =>
    rw [List.foldl_cons, ih, List.map_cons, List.flatten_cons, ← List.append_assoc]
    rfl

/-- If branches are gathered with success, they all succeeded, and their traces are put one after
another. -/
theorem gather_ok {key : Option String} {c : Context} {ends : List Outcome} {value : Value}
    (h : (gather key c ends).value = .ok value) :
    (∀ o ∈ ends, ∃ v, o.value = .ok v) ∧ (gather key c ends).context.scope.trace =
      c.scope.trace ++ (ends.map fun o => o.context.scope.trace).flatten := by
  obtain ⟨hall, -, hscope⟩ := gather_eq_of_ok h
  refine ⟨hall, ?_⟩
  rw [hscope, trace_merged, List.map_map]
  rfl

theorem published_traced (key : Option String) (value : Value) (c : Context) :
    (published key value c).context.traced = c.traced := by
  rcases published_context key value c with h | ⟨name, h⟩
  · rw [h]
  · rw [h]
    rfl

namespace Turn

/-- If the turn succeeds, it has added to the trace what begins in it. -/
def Traces (t : Turn μ) : Prop :=
  ∀ value, t.outcome.value = .ok value →
    t.outcome.context.traced = t.context.traced ++ t.log.started

theorem started_log (t : Turn μ) : t.log.started = t.unit.id :: t.inside.started := by
  have hclosing : (Log.event (.closing t.unit.id t.outcome.value) .nil : Log μ).started = [] := by
    cases t.outcome.value <;> rfl
  have hlog : t.log.started = t.unit.id ::
      (t.inside.append (.event (.closing t.unit.id t.outcome.value) .nil)).started := rfl
  rw [hlog, Log.started_append, hclosing, List.append_nil]

/-- It is enough to look at what the unit added after itself. -/
theorem traces_of_inside {t : Turn μ} (h : ∀ value, t.outcome.value = .ok value →
    t.outcome.context.traced = t.entered.traced ++ t.inside.started) : t.Traces := by
  intro value hvalue
  have hentered : t.entered.traced = t.context.traced ++ [t.unit.id] := Context.traced_entered _ _
  rw [h value hvalue, hentered, started_log, List.append_assoc, List.singleton_append]

theorem Follow.traced {c last : Context} {parts : List (Turn μ)} (h : Follow c parts last)
    (hparts : ∀ t ∈ parts, t.Traces) :
    last.traced = c.traced ++ (Log.concat (parts.map log)).started := by
  induction h with
  | nil => exact (List.append_nil _).symm
  | @cons c t rest last value hstart hvalue _ ih =>
    have ht : t.outcome.context.traced = t.context.traced ++ t.log.started :=
      hparts t List.mem_cons_self value hvalue
    have hrest := ih fun s hs => hparts s (List.mem_cons_of_mem _ hs)
    rw [hrest, ht, hstart, List.map_cons, Log.concat_cons, Log.started_append, List.append_assoc]

end Turn

namespace Supervisor

variable {id : String} {s : Setup μ} {subs : List (Runnable μ)} {task : String} {c : Context}
  {log : Log μ} {o : Outcome}

theorem Concludes.traced {last summary : Option String}
    (h : Concludes may s task c last summary log o) :
    o.context.traced = c.traced ∧ log.started = [] := by
  have hresponded : ∀ response, (responded s c response).context.traced = c.traced :=
    fun response => Context.traced_keep _ _ _
  cases h with
  | last => exact ⟨hresponded _, rfl⟩
  | summary => exact ⟨hresponded _, rfl⟩
  | single => exact ⟨hresponded _, rfl⟩
  | scored => exact ⟨hresponded _, rfl⟩
  | unscored => exact ⟨rfl, rfl⟩

theorem started_warned (id : String) (left : Nat) (log : Log μ) :
    (warned id left log).started = log.started := by
  unfold warned
  split <;> rfl

theorem Deliberates.traced {left : Nat} {delegations : List Delegation} {parts : List (Turn μ)}
    (h : Deliberates may id s subs task left delegations c parts log o)
    (hparts : ∀ t ∈ parts, t.Traces) {value : Value} (hvalue : o.value = .ok value) :
    o.context.traced = c.traced ++ log.started := by
  induction h with
  | exhausted h =>
    obtain ⟨htraced, hstarted⟩ := h.traced
    rw [htraced, hstarted, List.append_nil]
  | unanswered => cases hvalue
  | unusable => cases hvalue
  | @finished _ _ _ request _ _ log _ _ _ _ h =>
    obtain ⟨htraced, hstarted⟩ := h.traced
    have hcall : (Log.call s.model request log).started = log.started := rfl
    rw [htraced, hcall, hstarted, List.append_nil]
  | unknown => cases hvalue
  | broken => cases hvalue
  | @delegated left _ c request _ _ t _ rest log _ _ _ h ht _ ih =>
    have hturn : t.outcome.context.traced = t.context.traced ++ t.log.started :=
      hparts t List.mem_cons_self _ ht
    have hrest := ih (fun u hu => hparts u (List.mem_cons_of_mem _ hu)) hvalue
    have hlog : (Log.call s.model request (.event (.note id .info ("delegating to " ++ t.unit.id))
        (t.log.append (warned id left log)))).started =
          (t.log.append (warned id left log)).started := rfl
    rw [hrest, Context.traced_withDirective, hturn, h.context, Context.traced_withDirective, hlog,
      Log.started_append, started_warned, List.append_assoc]

end Supervisor

namespace Turn

theorem traced_gather {key : Option String} {c : Context} {parts : List (Turn μ)} {value : Value}
    (h : (gather key c (parts.map outcome)).value = .ok value) :
    (gather key c (parts.map outcome)).context.traced =
      c.traced ++ (parts.map fun p => p.outcome.context.traced).flatten := by
  rw [Context.traced, (gather_ok h).2, List.map_append, List.map_flatten, List.map_map,
    List.map_map]
  rfl

theorem Proper.traced {t : Turn μ} (h : t.Proper may) : t.Traces := by
  induction h with
  | @mk t hlocal _ ih =>
    apply traces_of_inside
    intro value hvalue
    cases hlocal with
    | replied => exact (Context.traced_keep _ _ _).trans (List.append_nil _).symm
    | unanswered => cases hvalue
    | sequence hparts => exact hparts.traced ih
    | interrupted => cases hvalue
    | @parallel id name pool key c parts hparts =>
      obtain ⟨hall, -⟩ := gather_ok hvalue
      -- A branch begins on an empty trace, so all that it leaves began in it.
      have hbranches : ∀ p ∈ parts, p.outcome.context.traced = p.log.started := by
        intro p hp
        obtain ⟨v, hv⟩ := hall p.outcome (List.mem_map_of_mem hp)
        have hempty : p.context.traced = [] := by
          rw [hparts p hp]
          rfl
        rw [ih p hp v hv, hempty, List.nil_append]
      have hinside : (Log.fork (Executable.permits pool) (parts.map log) .nil).started =
          (parts.map fun p => p.log.started).flatten := by
        rw [Log.started_fork, List.map_map]
        exact List.append_nil _
      rw [hinside, traced_gather hvalue, List.map_congr_left hbranches]
      rfl
    | unmatched => cases hvalue
    | @routed id name routes key c condition p o _ hstart hend =>
      rcases hend with ⟨v, hv, rfl⟩ | ⟨e, _, rfl⟩
      · have hp : p.outcome.context.traced = p.context.traced ++ p.log.started :=
          ih p (List.mem_singleton.mpr rfl) v hv
        rw [published_traced, hp, hstart]
        rfl
      · cases hvalue
    | supervisor h => exact h.traced ih hvalue

/-- The branches of a parallel begin with empty traces, and if it succeeds, what they leave is put
together in their order. -/
theorem Proper.trace_parallel {t : Turn μ} (h : t.Proper may) {id name : String}
    {units : List (Runnable μ)} {pool : Nat} {key : Option String}
    (hunit : t.unit = .parallel id name units pool key) : t.parts.map unit = units ∧
      (∀ p ∈ t.parts, p.context.scope.trace = []) ∧
      ∀ value, t.outcome.value = .ok value → t.outcome.context.scope.trace =
        t.entered.scope.trace ++ (t.parts.map fun p => p.outcome.context.scope.trace).flatten := by
  cases h.local with
  | parallel hparts =>
    cases hunit
    refine ⟨rfl, fun p hp => ?_, fun value hvalue => ?_⟩
    · rw [hparts p hp]
      rfl
    · have htrace := (gather_ok hvalue).2
      rw [List.map_map] at htrace
      exact htrace
  | _ => cases hunit

end Turn

/-! ## Without a parallel -/

namespace Log

/-- No logs stand beside each other. -/
def Linear : Log μ → Prop
  | .nil => True
  | .event _ rest => rest.Linear
  | .call _ _ rest => rest.Linear
  | .fork _ _ _ => False

theorem linear_append : (first rest : Log μ) → first.Linear → rest.Linear →
    (first.append rest).Linear
  | .nil, _, _, hrest => hrest
  | .event _ first, rest, hfirst, hrest => linear_append first rest hfirst hrest
  | .call _ _ first, rest, hfirst, hrest => linear_append first rest hfirst hrest
  | .fork _ _ _, _, hfirst, _ => hfirst.elim

theorem Linear.append {first rest : Log μ} (hfirst : first.Linear) (hrest : rest.Linear) :
    (first.append rest).Linear :=
  linear_append first rest hfirst hrest

theorem Linear.concat {logs : List (Log μ)} (h : ∀ log ∈ logs, log.Linear) :
    (concat logs).Linear := by
  induction logs with
  | nil => exact True.intro
  | cons log rest ih =>
    exact (h log List.mem_cons_self).append (ih fun x hx => h x (List.mem_cons_of_mem _ hx))

/-- Then there is only one order in which it can be seen. -/
theorem Linear.shows {log : Log μ} (h : log.Linear) {w : List (Action μ)} (hw : log.Shows w) :
    w = log.actions := by
  induction hw with
  | nil => rfl
  | event _ ih => exact congrArg _ (ih h)
  | call _ ih => exact congrArg _ (ih h)
  | fork => cases h

end Log

namespace Supervisor

variable {id : String} {s : Setup μ} {subs : List (Runnable μ)} {task : String} {c : Context}
  {log : Log μ} {o : Outcome}

theorem Concludes.linear {last summary : Option String}
    (h : Concludes may s task c last summary log o) : log.Linear := by
  cases h <;> exact True.intro

theorem linear_warned {left : Nat} (h : log.Linear) : (warned id left log).Linear := by
  unfold warned
  split <;> exact h

theorem Deliberates.linear {left : Nat} {delegations : List Delegation} {parts : List (Turn μ)}
    (h : Deliberates may id s subs task left delegations c parts log o)
    (hparts : ∀ t ∈ parts, t.log.Linear) : log.Linear := by
  induction h with
  | exhausted h => exact h.linear
  | unanswered => exact True.intro
  | unusable => exact True.intro
  | finished _ _ _ h => exact h.linear
  | unknown => exact True.intro
  | broken => exact hparts _ List.mem_cons_self
  | delegated _ _ _ _ _ ih =>
    have hrest := ih fun t ht => hparts t (List.mem_cons_of_mem _ ht)
    exact (hparts _ List.mem_cons_self).append (linear_warned hrest)

theorem mem_events_warned {left : Nat} {e : Event} (h : e ∈ log.events) :
    e ∈ (warned id left log).events := by
  unfold warned
  split
  · exact List.mem_cons_of_mem _ h
  · exact h

theorem Deliberates.events_part {left : Nat} {delegations : List Delegation} {parts : List (Turn μ)}
    (h : Deliberates may id s subs task left delegations c parts log o) {p : Turn μ}
    (hp : p ∈ parts) {e : Event} (he : e ∈ p.log.events) : e ∈ log.events := by
  induction h with
  | broken =>
    rw [List.mem_singleton.mp hp] at he
    exact List.mem_cons_of_mem _ he
  | @delegated _ _ _ _ _ _ t _ _ _ _ _ _ _ _ _ ih =>
    refine List.mem_cons_of_mem _ ?_
    rw [Log.events_append, List.mem_append]
    rcases List.mem_cons.mp hp with rfl | hp
    · exact .inl he
    · exact .inr (mem_events_warned (ih hp))
  | _ => cases hp

end Supervisor

namespace Turn

variable {t : Turn μ}

theorem mem_events_log {e : Event} (h : e ∈ t.inside.events) : e ∈ t.log.events := by
  have hlog : t.log.events = .unitStarted t.unit.id t.unit.kind ::
      (t.inside.append (.event (.closing t.unit.id t.outcome.value) .nil)).events := rfl
  rw [hlog, Log.events_append]
  exact List.mem_cons_of_mem _ (List.mem_append_left _ h)

theorem Local.events_part (h : t.Local may) {p : Turn μ} (hp : p ∈ t.parts) {e : Event}
    (he : e ∈ p.log.events) : e ∈ t.log.events := by
  apply mem_events_log
  cases h with
  | replied => cases hp
  | unanswered => cases hp
  | sequence => exact Log.mem_events_concat.mpr ⟨_, List.mem_map_of_mem hp, he⟩
  | interrupted =>
    rw [Log.events_append, List.mem_append]
    rcases List.mem_append.mp hp with hp | hp
    · exact .inl (Log.mem_events_concat.mpr ⟨_, List.mem_map_of_mem hp, he⟩)
    · exact .inr (List.mem_singleton.mp hp ▸ he)
  | parallel =>
    exact List.mem_append_left _ (Log.mem_eventsOfAll.mpr ⟨_, List.mem_map_of_mem hp, he⟩)
  | unmatched => cases hp
  | routed => exact List.mem_cons_of_mem _ (List.mem_singleton.mp hp ▸ he)
  | supervisor h => exact h.events_part hp he

theorem Local.linear (h : t.Local may) (hkind : t.unit.kind ≠ .parallel)
    (hparts : ∀ p ∈ t.parts, p.log.Linear) : t.log.Linear := by
  have hlogs : ∀ {parts : List (Turn μ)}, (∀ p ∈ parts, p.log.Linear) →
      (Log.concat (parts.map log)).Linear := by
    intro parts hall
    refine Log.Linear.concat fun l hl => ?_
    obtain ⟨p, hp, rfl⟩ := List.mem_map.mp hl
    exact hall p hp
  have hinside : t.inside.Linear := by
    cases h with
    | replied => exact True.intro
    | unanswered => exact True.intro
    | sequence => exact hlogs hparts
    | interrupted =>
      obtain ⟨hbefore, hlast⟩ := List.forall_mem_append.mp hparts
      exact (hlogs hbefore).append (hlast _ List.mem_cons_self)
    | parallel => exact absurd rfl hkind
    | unmatched => exact True.intro
    | routed => exact hparts _ List.mem_cons_self
    | supervisor h => exact h.linear hparts
  exact hinside.append True.intro

/-- If no parallel is told to begin, nothing happened beside anything else. -/
theorem Proper.linear (h : t.Proper may) (hnone : ∀ id, .unitStarted id .parallel ∉ t.log.events) :
    t.log.Linear := by
  induction h with
  | @mk t hlocal _ ih =>
    refine hlocal.linear (fun hkind => ?_) fun p hp => ?_
    · apply hnone t.unit.id
      rw [← hkind]
      exact List.mem_cons_self
    · exact ih p hp fun id hid => hnone id (hlocal.events_part hp hid)

theorem Proper.traced_of_shows (h : t.Proper may) {seen : List (Action μ)}
    (hseen : t.log.Shows seen) (hnone : ∀ id, .event (.unitStarted id .parallel) ∉ seen) :
    startedIn seen = t.log.started := by
  have hlinear := h.linear fun id hid => hnone id (hseen.event_mem_iff.mpr hid)
  rw [hlinear.shows hseen, Log.startedIn_actions]

end Turn

end AgentGraph
