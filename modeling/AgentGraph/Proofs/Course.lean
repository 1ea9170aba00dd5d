import AgentGraph.Proofs.Always
import AgentGraph.Proofs.Units

/-! The course that an invocation takes.

An invocation tells that it begins, does what its kind of unit does, and tells how it ended. What it
does in between is to invoke its parts, wholly, one after another or beside each other, and to ask
its model.

* `Visit`: one invocation, with its failure, if it has one, and everything that happened inside it.
* `Visit.Orderly`: what may happen inside a visit, by the kind of its unit; this also says which
  failures of its parts are its own.
* `Runnable.visited`: every invocation of a runnable is an orderly visit. -/
namespace AgentGraph
set_option autoImplicit false

variable {μ : Type} {may : Replies μ}

/-! ## Logs one after another -/

namespace Log

theorem append_assoc : (first second third : Log μ) →
    (first.append second).append third = first.append (second.append third)
  | .nil, _, _ => rfl
  | .event _ first, second, third => by simp only [append, append_assoc first second third]
  | .call _ _ first, second, third => by simp only [append, append_assoc first second third]
  | .fork _ _ first, second, third => by simp only [append, append_assoc first second third]

def concat (logs : List (Log μ)) : Log μ := logs.foldr append .nil

@[simp] theorem concat_nil : concat ([] : List (Log μ)) = .nil := rfl

@[simp] theorem concat_cons (log : Log μ) (rest : List (Log μ)) :
    concat (log :: rest) = log.append (concat rest) := rfl

end Log

/-! ## Visits -/

/-- The event that closes a unit, by its failure. -/
def Event.ending (nodeId : String) : Option Failure → Event
  | none => .unitCompleted nodeId
  | some e => .unitFailed nodeId e.message

theorem Event.closing_eq (nodeId : String) (o : Outcome) :
    Event.closing nodeId o.value = Event.ending nodeId o.failure? := by
  unfold Outcome.failure?
  cases o.value <;> rfl

/-- One invocation of a unit. -/
structure Visit (μ : Type) where
  unit : Runnable μ
  /-- What the invocation failed with, if it failed. -/
  failure : Option Failure
  inside : Log μ

/-- The invocation tells that it begins and, after everything inside it, how it ended. -/
def Visit.log (v : Visit μ) : Log μ :=
  .event (.unitStarted v.unit.id v.unit.kind)
    (v.inside.append (.event (.ending v.unit.id v.failure) .nil))

namespace Supervisor

/-- The supervisor asks for the next step of a plan. -/
def Plans (subs : List (Executable μ)) (request : Request) : Prop :=
  ∃ task delegations, request = planningRequest subs task delegations

/-- The supervisor asks which of two answers is better. -/
def Compares (request : Request) : Prop :=
  ∃ task first second, request = comparison task first second

/-- One step of a plan: the supervisor asks what to do, and has a sub-agent do it. -/
structure Round (μ : Type) where
  request : Request
  visit : Visit μ

def Round.log (id : String) (s : Setup μ) (r : Round μ) : Log μ :=
  .call s.model r.request
    (.event (.note id .info ("delegating to " ++ r.visit.unit.id)) r.visit.log)

/-- How a plan of at most `limit` steps comes to its end after some rounds: by a sub-agent that
fails, with its limit, or with a reply that asks for no sub-agent. Only in the last case two answers
may be left to compare. -/
inductive Ending (id : String) (s : Setup μ) (subs : List (Executable μ)) (limit : Nat) :
    List (Round μ) → Option Failure → Log μ → Prop
  | failed {before : List (Round μ)} {last : Round μ} {e : Failure}
      (hlength : before.length < limit) (hbefore : ∀ r ∈ before, r.visit.failure = none)
      (hlast : last.visit.failure = some e) : Ending id s subs limit (before ++ [last]) (some e) .nil
  | limited {rounds : List (Round μ)} (hlength : rounds.length = limit)
      (hrounds : ∀ r ∈ rounds, r.visit.failure = none) :
    Ending id s subs limit rounds none
      (.event (.note id .warning "invocation limit reached") .nil)
  | stopped {rounds : List (Round μ)} {request : Request} {f : Option Failure}
      (hlength : rounds.length < limit) (hrounds : ∀ r ∈ rounds, r.visit.failure = none)
      (hplans : Plans subs request) :
    Ending id s subs limit rounds f (.call s.model request .nil)
  | scored {rounds : List (Round μ)} {request verdict : Request} {f : Option Failure}
      (hlength : rounds.length < limit) (hrounds : ∀ r ∈ rounds, r.visit.failure = none)
      (hplans : Plans subs request) (hcompares : Compares verdict) :
    Ending id s subs limit rounds f (.call s.model request (.call s.model verdict .nil))

end Supervisor

open Supervisor in
/-- What happens inside a visit, and what it fails with, is what its kind of unit allows. -/
inductive Visit.Orderly : Visit μ → Prop
  | agent {id name : String} {a : Executable.Agent μ} {f : Option Failure} {request : Request} :
    Orderly ⟨.agent id name a, f, .call a.model request .nil⟩
  /-- A sequence visits all its steps in their order. -/
  | sequence {id name key : String} {visits : List (Visit μ)}
      (hvisits : ∀ v ∈ visits, Orderly v) (hdone : ∀ v ∈ visits, v.failure = none) :
    Orderly ⟨.sequence id name (visits.map Visit.unit) key, none, .concat (visits.map Visit.log)⟩
  /-- The first step that fails is the last one that is visited. -/
  | interrupted {id name key : String} {visits : List (Visit μ)} {last : Visit μ}
      {rest : List (Runnable μ)} {e : Failure} (hvisits : ∀ v ∈ visits, Orderly v)
      (hdone : ∀ v ∈ visits, v.failure = none) (hlast : Orderly last)
      (hfailed : last.failure = some e) :
    Orderly ⟨.sequence id name (visits.map Visit.unit ++ last.unit :: rest) key, some e,
      (Log.concat (visits.map Visit.log)).append last.log⟩
  /-- A parallel visits all its branches beside each other, whatever becomes of them. -/
  | parallel {id name : String} {pool : Nat} {key : Option String} {visits : List (Visit μ)}
      (hvisits : ∀ v ∈ visits, Orderly v) :
    Orderly ⟨.parallel id name (visits.map Visit.unit) pool key, visits.findSome? Visit.failure,
      .fork (Executable.permits pool) (visits.map Visit.log) .nil⟩
  | unmatched {id name : String} {routes : List (Condition × Runnable μ)} {key : Option String} :
    Orderly ⟨.conditional id name routes key, some (.noBranchMatched id), .nil⟩
  | routed {id name : String} {routes : List (Condition × Runnable μ)} {key : Option String}
      {condition : Condition} {target : Visit μ} (hroute : (condition, target.unit) ∈ routes)
      (htarget : Orderly target) :
    Orderly ⟨.conditional id name routes key, target.failure,
      .event (.note id .info ("branch " ++ condition.key ++ "=" ++ condition.value ++ " selected"))
        target.log⟩
  /-- A supervisor visits one of its sub-agents in each round. -/
  | supervisor {id name : String} {s : Setup μ} {subs : List (Runnable μ)}
      {rounds : List (Round μ)} {f : Option Failure} {ending : Log μ}
      (hvisits : ∀ r ∈ rounds, Orderly r.visit) (hsubs : ∀ r ∈ rounds, r.visit.unit ∈ subs)
      (hplans : ∀ r ∈ rounds, Plans (subs.map Runnable.executable) r.request)
      (hending : Ending id s (subs.map Runnable.executable) (max 1 s.maxSteps) rounds f ending) :
    Orderly ⟨.supervisor id name s subs, f,
      (Log.concat (rounds.map (Round.log id s))).append ending⟩

/-! ## How executables visit -/

/-- Whatever the process comes to, it is an orderly visit of the runnable. -/
def Visits (may : Replies μ) (r : Runnable μ) (p : Process μ) : Prop :=
  Always may p fun log o => ∃ v : Visit μ, v.Orderly ∧ v.unit = r ∧ v.failure = o.failure? ∧
    log = v.log

theorem visits_invoke {r : Runnable μ} {c : Context}
    (hact : ∀ c, Always may (r.executable.act c) fun log o => Visit.Orderly ⟨r, o.failure?, log⟩) :
    Visits may r (r.executable.invoke c) := by
  refine always_report (always_andThen ((hact _).imp fun log o horderly => ?_))
  refine always_report (always_done ⟨⟨r, o.failure?, log⟩, horderly, rfl, rfl, ?_⟩)
  rw [Event.closing_eq]
  rfl

namespace Executable

variable {c : Context}

theorem always_publish {key : String} {Q : Log μ → Outcome → Prop}
    (h : ∀ value c, Q .nil ⟨.ok value, c⟩) : Always may (publish key c) Q :=
  always_write (always_done (h _ _))

/-- Steps that are invoked in their order are all visited, or up to the first that fails. -/
theorem visits_inOrder {key : String} {steps : List (Runnable μ)}
    (h : ∀ r ∈ steps, ∀ c, Visits may r (r.executable.invoke c)) :
    Always may (inOrder (publish key) (steps.map Runnable.executable) c) fun log o =>
      (∃ visits : List (Visit μ), (∀ v ∈ visits, v.Orderly) ∧ (∀ v ∈ visits, v.failure = none) ∧
        visits.map Visit.unit = steps ∧ o.failure? = none ∧ log = .concat (visits.map Visit.log)) ∨
      ∃ (visits : List (Visit μ)) (last : Visit μ) (rest : List (Runnable μ)) (e : Failure),
        (∀ v ∈ visits, v.Orderly) ∧ (∀ v ∈ visits, v.failure = none) ∧ last.Orderly ∧
        last.failure = some e ∧ visits.map Visit.unit ++ last.unit :: rest = steps ∧
        o.failure? = some e ∧ log = (Log.concat (visits.map Visit.log)).append last.log := by
  induction steps generalizing c with
  | nil =>
    refine always_publish fun value c => .inl ⟨[], ?_, ?_, rfl, rfl, rfl⟩
    · exact fun _ hv => nomatch hv
    · exact fun _ hv => nomatch hv
  | cons r steps ih =>
    have hr := h r List.mem_cons_self
    have hsteps : ∀ x ∈ steps, ∀ c, Visits may x (x.executable.invoke c) :=
      fun x hx => h x (List.mem_cons_of_mem _ hx)
    refine always_onSuccess ((hr c).imp fun log o hvisit => ?_)
    obtain ⟨v, hv, rfl, hfailure, rfl⟩ := hvisit
    obtain ⟨value, after⟩ := o
    cases value with
    | ok value =>
      refine (ih hsteps).imp fun rest o' ho' => ?_
      rcases ho' with ⟨visits, horderly, hdone, rfl, ho', rfl⟩ |
        ⟨visits, last, rest, e, horderly, hdone, hlast, hfailed, rfl, ho', rfl⟩
      · refine .inl ⟨v :: visits, ?_, ?_, rfl, ho', rfl⟩
        · exact List.forall_mem_cons.mpr ⟨hv, horderly⟩
        · exact List.forall_mem_cons.mpr ⟨hfailure, hdone⟩
      · refine .inr ⟨v :: visits, last, rest, e, ?_, ?_, hlast, hfailed, rfl, ho', ?_⟩
        · exact List.forall_mem_cons.mpr ⟨hv, horderly⟩
        · exact List.forall_mem_cons.mpr ⟨hfailure, hdone⟩
        · rw [List.map_cons, Log.concat_cons, Log.append_assoc]
    | error e =>
      refine .inr ⟨[], v, steps, e, ?_, ?_, hv, hfailure, rfl, rfl, rfl⟩
      · exact fun _ hw => nomatch hw
      · exact fun _ hw => nomatch hw

theorem publishDirect_silent {key : Option String} {value : Value} :
    Always may (publishDirect key value c) fun log o => log = .nil ∧ o.failure? = none := by
  unfold publishDirect
  split
  · exact always_done ⟨rfl, rfl⟩
  · split
    · exact always_write (always_done ⟨rfl, rfl⟩)
    · exact always_done ⟨rfl, rfl⟩

theorem visits_choose {id name : String} {key : Option String}
    {routes : List (Condition × Runnable μ)}
    (h : ∀ route ∈ routes, ∀ c, Visits may route.2 (route.2.executable.invoke c)) :
    Always may (choose id (routes.map fun route => (route.1, route.2.executable)) key c)
      fun log o => Visit.Orderly ⟨.conditional id name routes key, o.failure?, log⟩ := by
  unfold choose
  split
  · exact always_done .unmatched
  · next condition target hfound =>
    have hmem := List.mem_of_find?_eq_some hfound
    obtain ⟨route, hroute, heq⟩ := List.mem_map.mp hmem
    obtain ⟨rfl, rfl⟩ := Prod.mk.inj heq
    refine always_report (always_onSuccess ((h route hroute c).imp fun log o hvisit => ?_))
    obtain ⟨v, hv, hunit, hfailure, rfl⟩ := hvisit
    have hin : (route.1, v.unit) ∈ routes := hunit ▸ hroute
    obtain ⟨value, after⟩ := o
    cases value with
    | ok value =>
      refine publishDirect_silent.imp fun rest o' ho' => ?_
      obtain ⟨rfl, hsuccess⟩ := ho'
      rw [Log.append_nil, hsuccess]
      have hnone : v.failure = none := hfailure
      rw [← hnone]
      exact .routed hin hv
    | error e =>
      have hsome : v.failure = some e := hfailure
      have hgoal : Visit.Orderly (μ := μ) ⟨.conditional id name routes key, v.failure, _⟩ :=
        .routed hin hv
      rw [hsome] at hgoal
      exact hgoal

theorem visits_of_branches {start : Context} {units : List (Runnable μ)}
    {runs : List (Ran (Process μ) μ)}
    (hstart : runs.map Ran.start = units.map fun r => r.executable.invoke start)
    (hruns : ∀ run ∈ runs, ∀ r ∈ units, run.start = r.executable.invoke start →
      ∃ v : Visit μ, v.Orderly ∧ v.unit = r ∧ v.failure = run.outcome.failure? ∧
        run.log = v.log) :
    ∃ visits : List (Visit μ), (∀ v ∈ visits, v.Orderly) ∧ visits.map Visit.unit = units ∧
      visits.findSome? Visit.failure = (runs.map Ran.outcome).findSome? Outcome.failure? ∧
      visits.map Visit.log = runs.map Ran.log := by
  induction units generalizing runs with
  | nil =>
    rw [List.map_nil, List.map_eq_nil_iff] at hstart
    subst hstart
    refine ⟨[], ?_, rfl, rfl, rfl⟩
    exact fun _ hv => nomatch hv
  | cons r units ih =>
    rw [List.map_cons, List.map_eq_cons_iff] at hstart
    obtain ⟨run, rest, rfl, hrun, hrest⟩ := hstart
    obtain ⟨v, hv, rfl, hfailure, hlog⟩ := hruns run List.mem_cons_self r List.mem_cons_self hrun
    obtain ⟨visits, horderly, rfl, hfailures, hlogs⟩ := ih hrest fun x hx y hy =>
      hruns x (List.mem_cons_of_mem _ hx) y (List.mem_cons_of_mem _ hy)
    refine ⟨v :: visits, List.forall_mem_cons.mpr ⟨hv, horderly⟩, rfl, ?_, ?_⟩
    · rw [List.map_cons, List.findSome?_cons, List.findSome?_cons, hfailure, hfailures]
    · rw [List.map_cons, List.map_cons, hlog, hlogs]

theorem failure?_gather (key : Option String) (c : Context) (ends : List Outcome) :
    (gather key c ends).failure? = ends.findSome? Outcome.failure? := by
  unfold gather
  cases ends.findSome? Outcome.failure? <;> rfl

theorem visits_spread {id name : String} {units : List (Runnable μ)} {pool : Nat}
    {key : Option String} (h : ∀ r ∈ units, ∀ c, Visits may r (r.executable.invoke c)) :
    Always may (spread (units.map Runnable.executable) pool key c) fun log o =>
      Visit.Orderly ⟨.parallel id name units pool key, o.failure?, log⟩ := by
  let start := c.fork.withDirective c.directive
  refine always_fork (R := fun p log o => ∀ r ∈ units, p = r.executable.invoke start →
    ∃ v : Visit μ, v.Orderly ∧ v.unit = r ∧ v.failure = o.failure? ∧ log = v.log) ?_ ?_
  · intro p _ log o hp r hr hstart
    rw [hstart] at hp
    exact h r hr start log o hp
  · intro runs hstart hruns
    rw [List.map_map] at hstart
    obtain ⟨visits, horderly, rfl, hfirst, hlogs⟩ := visits_of_branches hstart hruns
    refine always_done ?_
    rw [join_eq_gather, failure?_gather, ← hfirst, ← hlogs]
    exact .parallel horderly

end Executable

namespace Supervisor

open Executable

variable {c : Context} {s : Setup μ} {task : String} {subs : List (Runnable μ)}

theorem respond_silent {response : Option String} :
    Always may (respond s c response) fun log o => log = .nil ∧ o.failure? = none := by
  cases response with
  | none => exact always_done ⟨rfl, rfl⟩
  | some text => exact always_write (always_done ⟨rfl, rfl⟩)

/-- The model is asked to compare two answers only if there are two. -/
theorem conclude_shows {last summary : Option String} :
    Always may (conclude s task last summary c) fun log o =>
      (log = .nil ∧ o.failure? = none) ∨
      summary.isSome ∧ ∃ verdict, Compares verdict ∧ log = .call s.model verdict .nil := by
  unfold conclude
  split
  · exact respond_silent.imp fun _ _ h => .inl h
  · exact respond_silent.imp fun _ _ h => .inl h
  · next first second _ =>
    have hcompares : Compares (comparison task first second) := ⟨_, _, _, rfl⟩
    refine always_consult (fun verdict _ => ?_) fun e _ => .inr ⟨rfl, _, hcompares, rfl⟩
    exact respond_silent.imp fun log o ho => .inr ⟨rfl, _, hcompares, by rw [ho.1]⟩
  · exact respond_silent.imp fun _ _ h => .inl h

/-- What a plan of at most `limit` steps came to: some rounds, and how it ended after them. -/
def Deliberated (id : String) (s : Setup μ) (subs : List (Runnable μ)) (limit : Nat)
    (f : Option Failure) (log : Log μ) : Prop :=
  ∃ (rounds : List (Round μ)) (ending : Log μ), (∀ r ∈ rounds, r.visit.Orderly) ∧
    (∀ r ∈ rounds, r.visit.unit ∈ subs) ∧
    (∀ r ∈ rounds, Plans (subs.map Runnable.executable) r.request) ∧
    Ending id s (subs.map Runnable.executable) limit rounds f ending ∧
    log = (Log.concat (rounds.map (Round.log id s))).append ending

section Deliberated
variable {id : String} {limit : Nat} {f : Option Failure} {ending : Log μ}

theorem Deliberated.of_ending
    (h : Ending id s (subs.map Runnable.executable) limit [] f ending) :
    Deliberated id s subs limit f ending := by
  refine ⟨[], ending, ?_, ?_, ?_, h, rfl⟩
  · exact fun _ hr => nomatch hr
  · exact fun _ hr => nomatch hr
  · exact fun _ hr => nomatch hr

theorem Deliberated.of_reply {request : Request}
    (hplans : Plans (subs.map Runnable.executable) request) :
    Deliberated id s subs (limit + 1) f (.call s.model request .nil) :=
  .of_ending (.stopped (Nat.zero_lt_succ limit) (fun _ hr => nomatch hr) hplans)

theorem Deliberated.of_failure {r : Round μ} {e : Failure} (horderly : r.visit.Orderly)
    (hsub : r.visit.unit ∈ subs) (hplans : Plans (subs.map Runnable.executable) r.request)
    (hfailed : r.visit.failure = some e) :
    Deliberated id s subs (limit + 1) (some e) (r.log id s) := by
  have hending : Ending id s (subs.map Runnable.executable) (limit + 1) ([] ++ [r]) (some e) .nil :=
    .failed (Nat.zero_lt_succ limit) (fun _ hx => nomatch hx) hfailed
  refine ⟨[r], .nil, ?_, ?_, ?_, hending, ?_⟩
  · exact List.forall_mem_singleton.mpr horderly
  · exact List.forall_mem_singleton.mpr hsub
  · exact List.forall_mem_singleton.mpr hplans
  · rw [Log.append_nil, List.map_singleton, Log.concat_cons, Log.concat_nil, Log.append_nil]

/-- A round before the others takes one step. -/
theorem Ending.cons {rounds : List (Round μ)} {executables : List (Executable μ)} {r : Round μ}
    (hdone : r.visit.failure = none) (h : Ending id s executables limit rounds f ending) :
    Ending id s executables (limit + 1) (r :: rounds) f ending := by
  cases h with
  | @failed before last e hlength hbefore hlast =>
    have hall : ∀ x ∈ r :: before, x.visit.failure = none :=
      List.forall_mem_cons.mpr ⟨hdone, hbefore⟩
    exact Ending.failed (Nat.succ_lt_succ hlength) hall hlast
  | limited hlength hrounds =>
    exact .limited (congrArg Nat.succ hlength) (List.forall_mem_cons.mpr ⟨hdone, hrounds⟩)
  | stopped hlength hrounds hplans =>
    have hall : ∀ x ∈ r :: rounds, x.visit.failure = none :=
      List.forall_mem_cons.mpr ⟨hdone, hrounds⟩
    exact .stopped (Nat.succ_lt_succ hlength) hall hplans
  | scored hlength hrounds hplans hcompares =>
    have hall : ∀ x ∈ r :: rounds, x.visit.failure = none :=
      List.forall_mem_cons.mpr ⟨hdone, hrounds⟩
    exact .scored (Nat.succ_lt_succ hlength) hall hplans hcompares

theorem Deliberated.cons {r : Round μ} {log : Log μ} (horderly : r.visit.Orderly)
    (hsub : r.visit.unit ∈ subs) (hplans : Plans (subs.map Runnable.executable) r.request)
    (hdone : r.visit.failure = none) (h : Deliberated id s subs limit f log) :
    Deliberated id s subs (limit + 1) f ((r.log id s).append log) := by
  obtain ⟨rounds, ending, hvisits, hsubs, hrequests, hending, rfl⟩ := h
  refine ⟨r :: rounds, ending, ?_, ?_, ?_, hending.cons hdone, ?_⟩
  · exact List.forall_mem_cons.mpr ⟨horderly, hvisits⟩
  · exact List.forall_mem_cons.mpr ⟨hsub, hsubs⟩
  · exact List.forall_mem_cons.mpr ⟨hplans, hrequests⟩
  · rw [List.map_cons, Log.concat_cons, Log.append_assoc]

end Deliberated

/-- A plan of at most `left` more steps. The induction is on these: a round leaves one step less, and
with none left the warning is all that is told. -/
theorem visits_deliberate {id : String} (h : ∀ r ∈ subs, ∀ c, Visits may r (r.executable.invoke c))
    {left : Nat} {delegations : List Delegation} :
    Always may (warnAtLimit id left
        (deliberate id s (subs.map Runnable.executable) task left delegations c))
      fun log o => Deliberated id s subs left o.failure? log := by
  induction left generalizing delegations c with
  | zero =>
    rw [warnAtLimit, if_pos rfl]
    refine always_report (conclude_shows.imp fun log o ho => ?_)
    rcases ho with ⟨rfl, hdone⟩ | ⟨hsummary, -⟩
    · rw [hdone]
      exact .of_ending (.limited rfl fun _ hr => nomatch hr)
    · cases hsummary
  | succ left ih =>
    have hplans : Plans (subs.map Runnable.executable)
        (planningRequest (subs.map Runnable.executable) task delegations) := ⟨_, _, rfl⟩
    rw [warnAtLimit, if_neg left.succ_ne_zero]
    refine always_consult (fun reply _ => ?_) fun e _ => .of_reply hplans
    split
    · exact always_done (.of_reply hplans)
    · refine conclude_shows.imp fun log o ho => ?_
      rcases ho with ⟨rfl, -⟩ | ⟨-, verdict, hcompares, rfl⟩
      · exact .of_reply hplans
      · have hrounds : ∀ r ∈ ([] : List (Round μ)), r.visit.failure = none := fun _ hr => nomatch hr
        exact .of_ending (.scored left.succ_pos hrounds hplans hcompares)
    · split
      · exact always_done (.of_reply hplans)
      · next sub hfound =>
        obtain ⟨r, hr, rfl⟩ := List.mem_map.mp (find?_mem hfound)
        refine always_report (always_andThen ((h r hr _).imp fun log o hvisit => ?_))
        obtain ⟨v, hv, rfl, hfailure, rfl⟩ := hvisit
        obtain ⟨value, after⟩ := o
        let round : Round μ :=
          ⟨planningRequest (subs.map Runnable.executable) task delegations, v⟩
        -- A sub-agent that fails ends the plan; otherwise the rest of it has one step less.
        cases value with
        | ok value =>
          exact ih.imp fun rest o' ho' => ho'.cons (r := round) hv hr hplans hfailure
        | error e =>
          refine always_done ?_
          rw [Log.append_nil]
          exact .of_failure (r := round) hv hr hplans hfailure

end Supervisor

/-! ## Runnables -/

theorem Runnable.orderly (r : Runnable μ) : ∀ c, Always may (r.executable.act c) fun log o =>
    Visit.Orderly ⟨r, o.failure?, log⟩ := by
  induction r with
  | agent id name a =>
    intro c
    refine always_consult (fun reply _ => ?_) fun e _ => .agent
    cases a.outputKey with
    | none => exact always_done .agent
    | some key => exact always_write (always_done .agent)
  | sequence id name steps key ih =>
    rw [executable_sequence]
    intro c
    refine (Executable.visits_inOrder fun r hr c => visits_invoke (ih r hr)).imp fun log o ho => ?_
    rcases ho with ⟨visits, horderly, hdone, rfl, ho, rfl⟩ |
      ⟨visits, last, rest, e, horderly, hdone, hlast, hfailed, rfl, ho, rfl⟩
    · rw [ho]
      exact .sequence horderly hdone
    · rw [ho]
      exact .interrupted horderly hdone hlast hfailed
  | parallel id name branches pool key ih =>
    rw [executable_parallel]
    intro c
    exact Executable.visits_spread fun r hr c => visits_invoke (ih r hr)
  | conditional id name routes key ih =>
    rw [executable_conditional]
    intro c
    exact Executable.visits_choose fun route hroute c => visits_invoke (ih route hroute)
  | supervisor id name setup subs ih =>
    rw [executable_supervisor]
    intro c
    have hsteps : max 1 setup.maxSteps ≠ 0 := by
      have hone := Nat.le_max_left 1 setup.maxSteps
      omega
    have hact : Always may (Supervisor.warnAtLimit id (max 1 setup.maxSteps)
        (Supervisor.act id setup (subs.map executable) c))
        fun log o => Supervisor.Deliberated id setup subs (max 1 setup.maxSteps) o.failure? log :=
      Supervisor.visits_deliberate fun r hr c => visits_invoke (ih r hr)
    rw [Supervisor.warnAtLimit, if_neg hsteps] at hact
    refine hact.imp fun log o ho => ?_
    obtain ⟨rounds, ending, hvisits, hsubs, hplans, hending, rfl⟩ := ho
    exact .supervisor hvisits hsubs hplans hending

theorem Runnable.visited (r : Runnable μ) (c : Context) : Visits may r (r.executable.invoke c) :=
  visits_invoke r.orderly

end AgentGraph
