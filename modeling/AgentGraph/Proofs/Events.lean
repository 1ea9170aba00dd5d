import AgentGraph.Proofs.Balance
import AgentGraph.Proofs.Nodes
import AgentGraph.Proofs.States
import Mathlib.Data.List.TFAE

/-! What is told about a run.

* `Visit.Orderly.forall_events`: what there is to tell of a visit; failures only if it fails itself.
* `Entry.visited`: a run is an orderly visit of its entry.
* `Entry.failed_tfae`: the ways to tell whether a run fails.
* `events_of_run`: all of this about whole runs. -/
namespace AgentGraph
set_option autoImplicit false

variable {μ : Type} {may : Replies μ}

/-! ## Events of logs -/

namespace Log

theorem events_append : (first rest : Log μ) → (first.append rest).events =
    first.events ++ rest.events
  | .nil, _ => rfl
  | .event e first, rest => by rw [append, events, events, events_append, List.cons_append]
  | .call _ _ first, rest => by rw [append, events, events, events_append]
  | .fork _ _ first, rest => by rw [append, events, events, events_append, List.append_assoc]

theorem mem_eventsOfAll {e : Event} {logs : List (Log μ)} :
    e ∈ eventsOfAll logs ↔ ∃ log ∈ logs, e ∈ log.events := by
  induction logs with
  | nil => simp [eventsOfAll]
  | cons log rest ih => simp [eventsOfAll, ih]

theorem mem_events_concat {e : Event} {logs : List (Log μ)} :
    e ∈ (concat logs).events ↔ ∃ log ∈ logs, e ∈ log.events := by
  induction logs with
  | nil => simp [events]
  | cons log rest ih => simp [events_append, ih]

end Log

/-! ## Events of visits -/

namespace Visit

theorem mem_events_log {v : Visit μ} {e : Event} : e ∈ v.log.events ↔
    e = .unitStarted v.unit.id v.unit.kind ∨ e ∈ v.inside.events ∨
      e = .ending v.unit.id v.failure := by
  simp [log, Log.events, Log.events_append]

/-- What a visit tells: that units begin, what they note, that they end, and of failures only if the
visit fails. -/
theorem Orderly.forall_events {P : Event → Prop} (hstarted : ∀ id kind, P (.unitStarted id kind))
    (hcompleted : ∀ id, P (.unitCompleted id))
    (hnote : ∀ id severity message, P (.note id severity message)) {v : Visit μ} (h : v.Orderly)
    (hfailed : v.failure = none ∨ ∀ id message, P (.unitFailed id message)) :
    ∀ e ∈ v.log.events, P e := by
  -- What is inside decides, for the visit itself only tells that it begins and how it ended.
  have hlog : ∀ v : Visit μ, (v.failure = none ∨ ∀ id message, P (.unitFailed id message)) →
      (∀ e ∈ v.inside.events, P e) → ∀ e ∈ v.log.events, P e := by
    intro v hv hinside e he
    rcases mem_events_log.mp he with rfl | he | rfl
    · exact hstarted _ _
    · exact hinside e he
    · cases hfailure : v.failure with
      | none => exact hcompleted _
      | some f =>
        rcases hv with hv | hv
        · rw [hv] at hfailure
          cases hfailure
        · exact hv _ _
  apply hlog v hfailed
  induction h with
  | agent =>
    intro e he
    cases he
  | sequence _ hdone ih =>
    intro e he
    obtain ⟨log, hlogs, he⟩ := Log.mem_events_concat.mp he
    obtain ⟨v, hv, rfl⟩ := List.mem_map.mp hlogs
    exact hlog v (.inl (hdone v hv)) (ih v hv (.inl (hdone v hv))) e he
  | interrupted _ hdone _ _ ih ihlast =>
    have hany := hfailed.resolve_left (Option.some_ne_none _)
    intro e he
    rw [Log.events_append] at he
    rcases List.mem_append.mp he with he | he
    · obtain ⟨log, hlogs, he⟩ := Log.mem_events_concat.mp he
      obtain ⟨v, hv, rfl⟩ := List.mem_map.mp hlogs
      exact hlog v (.inr hany) (ih v hv (.inr hany)) e he
    · exact hlog _ (.inr hany) (ihlast (.inr hany)) e he
  | parallel _ ih =>
    intro e he
    rw [Log.events, Log.events, List.append_nil] at he
    obtain ⟨log, hlogs, he⟩ := Log.mem_eventsOfAll.mp he
    obtain ⟨v, hv, rfl⟩ := List.mem_map.mp hlogs
    have hv' : v.failure = none ∨ ∀ id message, P (.unitFailed id message) :=
      hfailed.imp_left fun hnone => List.findSome?_eq_none_iff.mp hnone v hv
    exact hlog v hv' (ih v hv hv') e he
  | unmatched =>
    intro e he
    cases he
  | @routed _ _ _ _ _ target _ _ ih =>
    intro e he
    rcases List.mem_cons.mp he with rfl | he
    · exact hnote _ _ _
    · exact hlog target hfailed (ih hfailed) e he
  | supervisor _ _ _ hending ih =>
    intro e he
    rw [Log.events_append] at he
    rcases List.mem_append.mp he with hround | hlast
    · obtain ⟨log, hlogs, hround⟩ := Log.mem_events_concat.mp hround
      obtain ⟨r, hr, rfl⟩ := List.mem_map.mp hlogs
      rcases List.mem_cons.mp hround with rfl | hvisit
      · exact hnote _ _ _
      · have hr' : r.visit.failure = none ∨ ∀ id message, P (.unitFailed id message) := by
          cases hending with
          | failed => exact .inr (hfailed.resolve_left (Option.some_ne_none _))
          | limited _ hrounds => exact .inl (hrounds r hr)
          | stopped _ hrounds => exact .inl (hrounds r hr)
          | scored _ hrounds => exact .inl (hrounds r hr)
        exact hlog _ hr' (ih r hr hr') e hvisit
    · clear he
      cases hending with
      | failed => cases hlast
      | limited =>
        rw [List.mem_singleton.mp hlast]
        exact hnote _ _ _
      | stopped => cases hlast
      | scored => cases hlast

end Visit

/-! ## Runs -/

/-- The event is about a whole run, not about one of its units. -/
def Event.ofRun : Event → Bool
  | .runStarted _ | .runCompleted _ => true
  | .unitStarted _ _ | .unitCompleted _ | .unitFailed _ _ | .note _ _ _ => false

def Event.ofFailure : Event → Bool
  | .unitFailed _ _ => true
  | .runStarted _ | .runCompleted _ | .unitStarted _ _ | .unitCompleted _ | .note _ _ _ => false

theorem Log.Shows.event_mem_iff {log : Log μ} {w : List (Action μ)} (h : log.Shows w) {e : Event} :
    .event e ∈ w ↔ e ∈ log.events := by
  have hevents : (w.filterMap Action.event?).Perm log.events := by
    rw [← Log.filterMap_event_actions]
    exact h.perm.filterMap _
  rw [← hevents.mem_iff, List.mem_filterMap]
  constructor
  · intro hmem
    exact ⟨_, hmem, rfl⟩
  · rintro ⟨a, ha, he⟩
    cases a with
    | event e' => exact Option.some.inj he ▸ ha
    | call model request => cases he

theorem Visit.Orderly.ofRun_eq_false {v : Visit μ} (h : v.Orderly) :
    ∀ e ∈ v.log.events, e.ofRun = false :=
  h.forall_events (fun _ _ => rfl) (fun _ => rfl) (fun _ _ _ => rfl) (.inr fun _ _ => rfl)

/-- A failure is told of if and only if the visit itself fails. -/
theorem Visit.Orderly.failure_isSome_iff {v : Visit μ} (h : v.Orderly) :
    v.failure.isSome ↔ ∃ id message, .unitFailed id message ∈ v.log.events := by
  constructor
  · intro hsome
    obtain ⟨f, hf⟩ := Option.isSome_iff_exists.mp hsome
    refine ⟨v.unit.id, f.message, mem_events_log.mpr (.inr (.inr ?_))⟩
    rw [hf]
    rfl
  · rintro ⟨id, message, hmem⟩
    by_contra hnone
    have hquiet := h.forall_events (P := fun e => e.ofFailure = false) (fun _ _ => rfl)
      (fun _ => rfl) (fun _ _ _ => rfl) (.inl (Option.not_isSome_iff_eq_none.mp hnone))
    cases hquiet _ hmem

theorem Outcome.isOk_eq (o : Outcome) : o.value.isOk = !o.failure?.isSome := by
  unfold Outcome.failure?
  cases o.value <;> rfl

namespace Entry

variable (e : Entry μ) (input : ValueMap)

/-- A run is an orderly visit of the entry, between the two events of the run. -/
theorem visited : Always may (e.process input) fun log o => ∃ v : Visit μ, v.Orderly ∧
    v.unit = e.runnable ∧ v.failure = o.failure? ∧ log = .event (.runStarted e.entryId)
      (v.log.append (.event (.runCompleted o.value.isOk) .nil)) := by
  refine always_report (always_andThen ((e.runnable.visited _).imp fun log o hvisit => ?_))
  obtain ⟨v, hv, hunit, hfailure, rfl⟩ := hvisit
  exact always_report (always_done ⟨v, hv, hunit, hfailure, rfl⟩)

/-- What is seen of a run, around what is seen of the visit of its entry. -/
def told (o : Outcome) (seen : List (Action μ)) : List (Action μ) :=
  .event (.runStarted e.entryId) :: (seen ++ [.event (.runCompleted o.value.isOk)])

variable {e input} {actions seen : List (Action μ)} {o : Outcome}

theorem visit_of_steps (h : Steps may (.active (e.process input)) actions (.ended o)) :
    ∃ (v : Visit μ) (seen : List (Action μ)), v.Orderly ∧ v.unit = e.runnable ∧
      v.failure = o.failure? ∧ v.log.Shows seen ∧ actions = e.told o seen := by
  obtain ⟨log, hproduces, hshows⟩ := produces_of_steps h
  obtain ⟨v, hv, hunit, hfailure, rfl⟩ := e.visited input log o hproduces
  cases hshows with
  | event hshows =>
    obtain ⟨seen, rest, rfl, hseen, hrest⟩ := Log.Shows.of_append hshows
    cases hrest with
    | event hnil => cases hnil with | nil => exact ⟨v, seen, hv, hunit, hfailure, hseen, rfl⟩

theorem mem_told_iff {event : Event} : .event event ∈ e.told o seen ↔
    event = .runStarted e.entryId ∨ .event event ∈ seen ∨
      event = .runCompleted o.value.isOk := by
  simp [told]

theorem balanced_told (h : Balanced seen) : Balanced (e.told o seen) := by
  have hends : Balanced ([.event (.runCompleted o.value.isOk)] : List (Action μ)) :=
    Balanced.nil.cons fun _ => rfl
  exact (h.append hends).cons fun _ => rfl

theorem report_isError_iff : (∃ f, e.report input o = .error f) ↔ o.failure?.isSome := by
  unfold Entry.report Outcome.failure?
  cases o.value with
  | ok value => simp [Except.map]
  | error f => simp [Except.map]

/-! ## Failures -/

section Failures
variable {v : Visit μ} (hseen : v.log.Shows seen) (hv : v.Orderly)
include hseen

theorem closing_failed_iff :
    (∃ message, seen.getLast? = some (.event (.unitFailed v.unit.id message))) ↔
      v.failure.isSome := by
  obtain ⟨inside, -, rfl⟩ := Visit.shows_log hseen
  rw [← List.cons_append, List.getLast?_concat]
  cases v.failure with
  | none => simp [Event.ending]
  | some f => simp [Event.ending]

include hv

theorem ofRun_eq_false_of_seen : ∀ event, .event event ∈ seen → event.ofRun = false :=
  fun event hevent => hv.ofRun_eq_false event (hseen.event_mem_iff.mp hevent)

theorem completed_false_iff :
    .event (.runCompleted false) ∈ e.told o seen ↔ o.failure?.isSome := by
  have hquiet := ofRun_eq_false_of_seen hseen hv
  rw [mem_told_iff, Outcome.isOk_eq]
  constructor
  · rintro (h | h | h)
    · cases h
    · cases hquiet _ h
    · simpa using h
  · intro h
    simp [h]

theorem failed_mem_told_iff :
    (∃ id message, .event (.unitFailed id message) ∈ e.told o seen) ↔ v.failure.isSome := by
  have hmem : ∀ id message, .event (.unitFailed id message) ∈ e.told o seen ↔
      .unitFailed id message ∈ v.log.events := by
    intro id message
    rw [mem_told_iff, ← hseen.event_mem_iff]
    simp
  simp only [hmem]
  exact hv.failure_isSome_iff.symm

/-- Whether a run fails can be told in four ways, which are all the same. -/
theorem failed_tfae (hunit : v.unit = e.runnable) (hfailure : v.failure = o.failure?) :
    [∃ f, e.report input o = .error f,
      .event (.runCompleted false) ∈ e.told o seen,
      ∃ message, seen.getLast? = some (.event (.unitFailed e.runnable.id message)),
      ∃ id message, .event (.unitFailed id message) ∈ e.told o seen].TFAE := by
  have hclosing := closing_failed_iff hseen
  have hany := failed_mem_told_iff (e := e) (o := o) hseen hv
  rw [hfailure] at hclosing hany
  rw [hunit] at hclosing
  rw [report_isError_iff, completed_false_iff hseen hv, hclosing, hany]
  exact List.tfae_of_forall o.failure?.isSome _ (by simp)

end Failures

end Entry

/-- However branches move and whatever models reply, a run is told of in this way: that it begins,
then what there is to tell of one orderly visit of the entry, then that it is completed. Of every
visit, also of those inside it and of the branches of parallels, it is first told that it begins and
last how it ended; in between, at no point more invocations of a node have ended than begun, and in
the end as many. The run fails if and only if it is said to, if and only if the entry is said to, if
and only if any unit is said to. And every run comes to an end if all models reply. -/
theorem events_of_run (e : Entry μ) (input : ValueMap) (may : Replies μ) :
    (∀ (actions : List (Action μ)) (o : Outcome),
      Steps may (.active (e.process input)) actions (.ended o) →
      ∃ (v : Visit μ) (seen : List (Action μ)), v.Orderly ∧ v.unit = e.runnable ∧
        v.log.Shows seen ∧ actions =
          .event (.runStarted e.entryId) :: (seen ++ [.event (.runCompleted o.value.isOk)]) ∧
        (∀ event, .event event ∈ seen → event.ofRun = false) ∧
        Balanced actions ∧
        [∃ f, e.report input o = .error f,
          .event (.runCompleted false) ∈ actions,
          ∃ message, seen.getLast? = some (.event (.unitFailed e.runnable.id message)),
          ∃ id message, .event (.unitFailed id message) ∈ actions].TFAE) ∧
    (∀ v : Visit μ, v.Orderly → ∀ w, v.log.Shows w → ∃ inside, v.inside.Shows inside ∧
      w = .event (.unitStarted v.unit.id v.unit.kind) ::
        (inside ++ [.event (.ending v.unit.id v.failure)]) ∧ Balanced inside) ∧
    ((∀ model request, ∃ reply, may model request reply) →
      ∃ actions o, Steps may (.active (e.process input)) actions (.ended o)) := by
  refine ⟨?_, ?_, ?_⟩
  · intro actions o h
    obtain ⟨v, seen, hv, hunit, hfailure, hseen, rfl⟩ := Entry.visit_of_steps h
    have hquiet := Entry.ofRun_eq_false_of_seen hseen hv
    have hbalanced : Balanced (e.told o seen) := Entry.balanced_told (hv.balanced seen hseen)
    exact ⟨v, seen, hv, hunit, hseen, rfl, hquiet, hbalanced,
      Entry.failed_tfae hseen hv hunit hfailure⟩
  · intro v hv w hw
    obtain ⟨inside, hinside, rfl⟩ := Visit.shows_log hw
    exact ⟨inside, hinside, rfl, hv.inside_balanced inside hinside⟩
  · intro hmay
    obtain ⟨actions, o, h⟩ := Entry.process_live.able hmay
    exact ⟨actions, o, h⟩

/-- A run of two agents beside each other. -/
theorem events_of_run_duet : ∃ actions o,
    Steps .any (.active (Duet.entry.process Duet.input)) actions (.ended o) ∧ Balanced actions := by
  obtain ⟨hevents, -, hends⟩ := events_of_run Duet.entry Duet.input .any
  obtain ⟨actions, o, h⟩ := hends fun _ _ => ⟨.ok "", trivial⟩
  obtain ⟨v, seen, -, -, -, -, -, hbalanced, -⟩ := hevents actions o h
  exact ⟨actions, o, h, hbalanced⟩

end AgentGraph
