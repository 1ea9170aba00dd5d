import AgentGraph.Proofs.Effect
import AgentGraph.Proofs.Reached
import AgentGraph.Proofs.Trace

/-! The nodes that a run is reported to have executed.

* `Entry.firstOccurrences_eq_eraseDups`: what it means that repetitions are left out.
* `Entry.Lists`: a report that lists the ids of a trace, each once, and the names that go with them.
* `Turn.Gathered`: a parallel that puts the traces of its branches together in their order.
* `Turn.Recorded`: a trace that goes with what is seen of a run.
* `executed_of_run`: every run that succeeds leaves such a trace and is reported so. -/
namespace AgentGraph
open Relation
set_option autoImplicit false

variable {μ σ : Type} {may : Replies μ} {provider : Provider μ} {tools : Registry} {config : Config}
  {entry : String} {decls : List NodeDecl} {c : Checked} {e : Entry μ}

/-! ## Leaving out repetitions -/

namespace Entry

theorem firstOccurrences_eq (seen ids : List String) :
    firstOccurrences seen ids = (ids.filter fun id => id ∉ seen).eraseDups := by
  induction ids generalizing seen with
  | nil => rfl
  | cons id rest ih =>
    unfold firstOccurrences
    by_cases hseen : id ∈ seen
    · rw [if_pos hseen, ih, List.filter_cons_of_neg (by simpa using hseen)]
    · rw [if_neg hseen, ih, List.filter_cons_of_pos (by simpa using hseen), List.eraseDups_cons,
        List.filter_filter]
      have hsame : ∀ x, decide (x ∉ id :: seen) = (!x == id && decide (x ∉ seen)) := by
        intro x
        by_cases hx : x = id <;> simp [hx]
      simp only [hsame]

theorem firstOccurrences_eq_eraseDups (ids : List String) :
    firstOccurrences [] ids = ids.eraseDups := by
  have hall : ids.filter (fun id => id ∉ []) = ids := List.filter_eq_self.mpr fun _ _ => by simp
  rw [firstOccurrences_eq, hall]

theorem firstOccurrences_nodup (seen ids : List String) : (firstOccurrences seen ids).Nodup := by
  induction ids generalizing seen with
  | nil => exact List.nodup_nil
  | cons id rest ih =>
    unfold firstOccurrences
    split
    · exact ih seen
    · refine List.nodup_cons.mpr ⟨fun hid => ?_, ih _⟩
      exact (mem_firstOccurrences.mp hid).2 List.mem_cons_self

/-- The report lists the ids of the trace, each where it comes first, and the names that are
declared for them; all of these nodes may be run, and the entry is the first of them. -/
structure Lists (e : Entry μ) (decls : List NodeDecl) (trace : List Invocation) (report : Report) :
    Prop where
  ids : report.executedIds = (trace.map Invocation.nodeId).eraseDups
  distinct : report.executedIds.Nodup
  first : report.executedIds.head? = some e.entryId
  declared : ∃ ds : List NodeDecl, report.executedIds = ds.map NodeDecl.id ∧
    report.executedNames = ds.map NodeDecl.shownName ∧ ∀ d ∈ ds, d.Reached decls e.entryId

theorem executedIds_eq {trace : List Invocation}
    (h : ∀ i ∈ trace, ∃ n, e.node? i.nodeId = some n) :
    e.executedIds trace = (trace.map Invocation.nodeId).eraseDups := by
  -- The node is found by the id, so it does not matter what names there are.
  have hfound : ∀ i ∈ trace, (e.nodeOf? i).map Node.id = some i.nodeId := by
    intro i hi
    obtain ⟨n, hn⟩ := h i hi
    rw [nodeOf?, hn]
    exact congrArg some (findNode?_mem hn).2
  have hids : trace.filterMap (fun i => (e.nodeOf? i).map Node.id) =
      trace.map Invocation.nodeId := by
    rw [List.filterMap_congr hfound]
    exact congrFun List.filterMap_eq_map trace
  rw [executedIds, hids, firstOccurrences_eq_eraseDups]

end Entry

/-- The units in a trace are all among those of the entry. -/
def Entry.Units (e : Entry μ) (trace : List Invocation) : Prop :=
  ∀ i ∈ trace, ∃ s : Runnable μ, s.Within e.runnable ∧ i = ⟨s.id, s.name⟩

namespace Compiled

variable {trace : List Invocation}

theorem lists (h : Compiled provider tools config c e) (hp : Checked.Passed entry decls c)
    (hunits : e.Units trace) (hfirst : ∃ rest, trace.map Invocation.nodeId = e.entryId :: rest)
    {report : Report} (hids : report.executedIds = e.executedIds trace)
    (hnames : report.executedNames = report.executedIds.map e.nameOf) :
    e.Lists decls trace report := by
  have hfound : ∀ i ∈ trace, ∃ n, e.node? i.nodeId = some n := by
    intro i hi
    obtain ⟨s, hs, rfl⟩ := hunits i hi
    obtain ⟨n, hn, -⟩ := h.node_of_within hs
    exact ⟨n, hn⟩
  have heq := e.executedIds_eq hfound
  refine ⟨hids.trans heq, ?_, ?_, ?_⟩
  · rw [hids]
    exact Entry.firstOccurrences_nodup _ _
  · obtain ⟨rest, hrest⟩ := hfirst
    rw [hids, heq, hrest, List.eraseDups_cons]
    rfl
  · have hdeclared : ∀ id ∈ report.executedIds, ∃ d : NodeDecl, d.id = id ∧
        d.shownName = e.nameOf id ∧ d.Reached decls e.entryId := by
      intro id hid
      rw [hids, heq, List.mem_eraseDups] at hid
      obtain ⟨i, hi, rfl⟩ := List.mem_map.mp hid
      obtain ⟨s, hs, rfl⟩ := hunits i hi
      obtain ⟨d, n, hd, hn, hmade⟩ := h.declared_of_within hp hs
      refine ⟨d, hmade.id.symm, ?_, hd⟩
      rw [Entry.nameOf, hn]
      exact hmade.name.symm
    obtain ⟨ds, hds⟩ := exists_forall₂ hdeclared
    have hids' : List.Forall₂ Eq report.executedIds (ds.map NodeDecl.id) :=
      List.forall₂_map_right_iff.mpr (hds.imp fun _ _ h => h.1.symm)
    have hnames' : List.Forall₂ Eq (report.executedIds.map e.nameOf) (ds.map NodeDecl.shownName) :=
      List.forall₂_map_left_iff.mpr
        (List.forall₂_map_right_iff.mpr (hds.imp fun _ _ h => h.2.1.symm))
    rw [List.forall₂_eq_eq_eq] at hids' hnames'
    refine ⟨ds, hids', hnames.trans hnames', fun d hd => ?_⟩
    obtain ⟨id, -, -, -, hreached⟩ := forall₂_mem_right hds hd
    exact hreached

end Compiled

/-! ## Traces of runs -/

namespace Turn

/-- The branches of a parallel are what is declared for it, in that order. They begin with empty
traces, and if all of them succeed, what they leave is put in this order behind what was there. -/
structure Gathered (decls : List NodeDecl) (t : Turn μ) : Prop where
  branches : ∃ d ∈ decls, d.id = t.unit.id ∧
    List.Forall₂ (fun raw id => Text.visible? raw = some id) d.subAgentIds
      (t.parts.map fun p => p.unit.id)
  fresh : ∀ p ∈ t.parts, p.context.scope.trace = []
  joined : ∀ value, t.outcome.value = .ok value → t.outcome.context.scope.trace =
    t.entered.scope.trace ++ (t.parts.map fun p => p.outcome.context.scope.trace).flatten

/-- What is in the trace is what is told to begin, and in the same order unless a parallel begins;
the branches of a parallel are there one after another. -/
structure Recorded (decls : List NodeDecl) (t : Turn μ) (seen : List (Action μ)) : Prop where
  shows : t.log.Shows seen
  started : t.outcome.context.traced = t.log.started
  perm : t.outcome.context.traced.Perm (startedIn seen)
  inOrder : (∀ id, .event (.unitStarted id .parallel) ∉ seen) →
    t.outcome.context.traced = startedIn seen
  parallels : ∀ s : Turn μ, s.Under t → s.unit.kind = .parallel → s.Gathered decls

end Turn

namespace Entry

variable {input : ValueMap} {o : Outcome} {report : Report}

theorem names_of_report (h : e.report input o = .ok report) :
    (∃ value, o.value = .ok value) ∧ report.executedNames = report.executedIds.map e.nameOf := by
  unfold Entry.report at h
  cases hvalue : o.value with
  | error f =>
    rw [hvalue] at h
    cases h
  | ok value =>
    rw [hvalue] at h
    obtain rfl := Except.ok.inj h
    exact ⟨⟨value, rfl⟩, rfl⟩

theorem Takes.gathered {t : Turn μ} (ht : e.Takes may input t)
    (h : Compiled provider tools config c e) (hp : Checked.Passed entry decls c) {s : Turn μ}
    (hs : s.Under t) (hkind : s.unit.kind = .parallel) : s.Gathered decls := by
  have hwithin : s.unit.Within e.runnable := ht.unit ▸ ht.proper.within hs
  obtain ⟨d, n, hd, -, hmade⟩ := h.declared_of_within hp hwithin
  cases hunit : s.unit with
  | parallel id name units pool key =>
    obtain ⟨hparts, hfresh, hjoined⟩ := (ht.proper.under hs).trace_parallel hunit
    have hids : s.parts.map (fun p => p.unit.id) = units.map Runnable.id := by
      rw [← hparts, List.map_map]
      rfl
    refine ⟨⟨d, hd.declared, hmade.id.symm, ?_⟩, hfresh, hjoined⟩
    rw [hids]
    rw [hunit] at hmade
    exact hmade.branches
  | _ =>
    rw [hunit] at hkind
    cases hkind

theorem Takes.recorded {t : Turn μ} (ht : e.Takes may input t)
    (h : Compiled provider tools config c e) (hp : Checked.Passed entry decls c) {value : Value}
    (hvalue : t.outcome.value = .ok value) {seen : List (Action μ)} (hseen : t.log.Shows seen) :
    t.Recorded decls seen := by
  have htraced : t.outcome.context.traced = t.log.started := by
    rw [ht.proper.traced value hvalue, ht.context]
    rfl
  refine ⟨hseen, htraced, ?_, fun hnone => ?_, fun s hs hkind => ht.gathered h hp hs hkind⟩
  · rw [htraced]
    exact hseen.started_perm.symm
  · rw [htraced, ht.proper.traced_of_shows hseen hnone]

theorem Takes.traced_eq_cons {t : Turn μ} (ht : e.Takes may input t)
    (h : Compiled provider tools config c e) {value : Value}
    (hvalue : t.outcome.value = .ok value) :
    t.outcome.context.traced = e.entryId :: t.inside.started := by
  have hid : t.unit.id = e.entryId := ht.unit ▸ h.entryId_eq
  rw [ht.proper.traced value hvalue, ht.context, Turn.started_log, hid]
  rfl

end Entry

theorem Entry.started_around (e : Entry μ) (t : Turn μ) : (e.around t).started = t.log.started := by
  have haround : (e.around t).started =
      (t.log.append (.event (.runCompleted t.outcome.value.isOk) .nil)).started := rfl
  rw [haround, Log.started_append]
  exact List.append_nil _

theorem Entry.units_of_produces {input : ValueMap} {log : Log μ} {o : Outcome}
    (h : Produces may (e.process input) log o) : e.Units o.context.scope.trace := by
  obtain ⟨added, hgrowth⟩ := e.grown input log o h
  have htrace : o.context.scope.trace = added := hgrowth.trace
  rw [htrace]
  exact hgrowth.units

theorem Compiled.lists_of_takes (h : Compiled provider tools config c e)
    (hp : Checked.Passed entry decls c) {input : ValueMap} {t : Turn μ} (ht : e.Takes may input t)
    (hunits : e.Units t.outcome.context.scope.trace) {report : Report}
    (hreport : e.report input t.outcome = .ok report) :
    e.Lists decls t.outcome.context.scope.trace report := by
  obtain ⟨⟨value, hvalue⟩, hnames⟩ := Entry.names_of_report hreport
  obtain ⟨-, hids⟩ := Entry.report_eq_ok hreport
  exact h.lists hp hunits ⟨_, ht.traced_eq_cons h hvalue⟩ hids hnames

/-- However branches move and whatever models reply, a run that succeeds is reported with the ids in
its trace, each where it comes first, and with the names that are declared for them. All of these
nodes are reached from the entry by way of sub-agents and branches, and the entry is the first of
them. The trace has an entry for every unit that is told to begin: in the same order if no parallel
begins, and else with the traces of the branches of a parallel after one another. When branches are
run one after another, the two are in the same order anyway. -/
theorem executed_of_run (provider : Provider μ) (tools : Registry) (config : Config)
    (entry : String) (decls : List NodeDecl) (e : Entry μ)
    (he : (compile provider tools config entry decls).result = .ok e) (input : ValueMap) :
    e.entryId = Text.trim entry ∧
    (∀ (may : Replies μ) (actions : List (Action μ)) (o : Outcome) (report : Report),
      Steps may (.active (e.process input)) actions (.ended o) → e.report input o = .ok report →
        e.Lists decls o.context.scope.trace report ∧
        ∃ (t : Turn μ) (seen : List (Action μ)), e.Takes may input t ∧ t.outcome = o ∧
          actions = .event (.runStarted e.entryId) ::
            (seen ++ [.event (.runCompleted o.value.isOk)]) ∧ t.Recorded decls seen) ∧
    ∀ (σ : Type) (answer : Responder μ σ) (memory : σ) (report : Report),
      (e.execute answer memory input).result = .ok report →
        let o := ((e.process input).run answer memory).outcome
        e.Lists decls o.context.scope.trace report ∧
          o.context.traced = (e.execute answer memory input).log.started := by
  obtain ⟨c, hc, hcompiled⟩ := compiled_of_compile he
  have hp := Checked.passed hc
  have hentry : e.entryId = Text.trim entry := hcompiled.entryId.trans hp.entryId
  refine ⟨hentry, fun may actions o report h hreport => ?_,
    fun σ answer memory report hresult => ?_⟩
  · obtain ⟨log, hproduces, -⟩ := produces_of_steps h
    obtain ⟨t, seen, ht, rfl, hseen, rfl⟩ := Entry.turn_of_steps h
    obtain ⟨⟨value, hvalue⟩, -⟩ := Entry.names_of_report hreport
    have hunits := Entry.units_of_produces hproduces
    exact ⟨hcompiled.lists_of_takes hp ht hunits hreport, t, seen, ht, rfl, rfl,
      ht.recorded hcompiled hp hvalue hseen⟩
  · have hproduces := produces_run answer (e.process input) memory
    have hreport := Entry.report_of_execute hresult
    obtain ⟨t, ht, houtcome, haround⟩ := Entry.turned _ _ hproduces
    have hunits := Entry.units_of_produces hproduces
    rw [← houtcome] at hreport hunits ⊢
    obtain ⟨⟨value, hvalue⟩, -⟩ := Entry.names_of_report hreport
    have hlog : (e.execute answer memory input).log = e.around t := haround.symm
    refine ⟨hcompiled.lists_of_takes hp ht hunits hreport, ?_⟩
    rw [hlog, e.started_around, ht.proper.traced value hvalue, ht.context]
    rfl

/-- Both agents come after the parallel that they are branches of. -/
theorem executed_of_run_duet : ∃ report,
    (Duet.entry.execute (fun _ _ memory => (.ok "la", memory)) () Duet.input).result = .ok report ∧
      Duet.entry.Lists Duet.decls ((Duet.entry.process Duet.input).run
        (fun _ _ memory => (.ok "la", memory)) ()).outcome.context.scope.trace report ∧
      report.executedIds = ["entry", "first", "second"] := by
  obtain ⟨-, -, hexecuted⟩ :=
    executed_of_run (fun _ => .ok ()) [] {} "entry" Duet.decls _ Duet.compile_decls Duet.input
  obtain ⟨hlists, -⟩ := hexecuted Unit (fun _ _ memory => (.ok "la", memory)) () _ rfl
  exact ⟨_, rfl, hlists, rfl⟩

end AgentGraph
