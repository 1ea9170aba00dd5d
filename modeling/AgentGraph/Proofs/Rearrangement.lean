import AgentGraph.Execute
import AgentGraph.Proofs.Growth
import AgentGraph.Proofs.Nodes
import Mathlib.Data.List.Perm.Basic

/-! Rearranging the declarations of a graph.

* `Acceptable.perm`: whether a graph passes does not depend on the order of its declarations.
* `Compiled.unfolds`: what a graph is compiled to is the tree of its entry.
* `Entry.Alike`: entries that cannot be told apart by running them.
* `compile_alike`: whatever the order, the entries are alike.
* `compile_unfolds_perm`: all of this together. -/
namespace AgentGraph
open Relation
set_option autoImplicit false

variable {μ : Type} {provider : Provider μ} {tools : Registry} {config : Config} {entry : String}
  {decls decls' : List NodeDecl} {nodes nodes' : List Node}

/-! ## Declarations and nodes in another order -/

theorem Acceptable.perm (hperm : decls.Perm decls') (h : Acceptable entry decls) :
    Acceptable entry decls' where
  entry := by
    obtain ⟨d, hd, hentry⟩ := h.entry
    exact ⟨d, hperm.mem_iff.mp hd, hentry⟩
  complete d hd := h.complete d (hperm.mem_iff.mpr hd)
  distinct := (hperm.map NodeDecl.id).nodup_iff.mp h.distinct
  resolved d hd field id hrefers := by
    obtain ⟨t, ht, hresolved⟩ := h.resolved d (hperm.mem_iff.mpr hd) field id hrefers
    exact ⟨t, hperm.mem_iff.mp ht, hresolved⟩
  acyclic id hcycle := by
    refine h.acyclic id (TransGen.mono ?_ _ _ hcycle)
    rintro x y ⟨d, hd, hrefers⟩
    exact ⟨d, hperm.mem_iff.mpr hd, hrefers⟩

theorem Makes.perm (h : Makes decls nodes) (h' : Makes decls' nodes') (hperm : decls.Perm decls') :
    nodes.Perm nodes' := by
  -- A declaration makes only one node, so the nodes that go with `decls` are `nodes`.
  obtain ⟨nodes₁, h₁, hperm₁⟩ := List.perm_comp_forall₂ hperm h'
  have hok : decls.mapM Node.ofDecl = .ok nodes := mapM_eq_ok_iff.mpr h
  have hok₁ : decls.mapM Node.ofDecl = .ok nodes₁ := mapM_eq_ok_iff.mpr h₁
  rw [hok, Except.ok.injEq] at hok₁
  exact hok₁ ▸ hperm₁

/-- Looking up an id does not depend on the order, since no two nodes have the same id. -/
theorem findNode?_perm (hnodup : (nodes.map Node.id).Nodup) (hperm : nodes.Perm nodes') :
    findNode? nodes = findNode? nodes' := by
  have hnodup' : (nodes'.map Node.id).Nodup := (hperm.map Node.id).nodup_iff.mp hnodup
  funext id
  refine Option.ext fun n => ?_
  rw [findNode?_eq_some_iff hnodup, findNode?_eq_some_iff hnodup', hperm.mem_iff]

/-! ## Trees -/

theorem modelOf?_congr (hfind : findNode? nodes = findNode? nodes') :
    modelOf? provider nodes = modelOf? provider nodes' := by
  funext id
  rw [modelOf?, modelOf?, hfind]

theorem unfolded?_congr (hfind : findNode? nodes = findNode? nodes') :
    unfolded? provider tools config nodes = unfolded? provider tools config nodes' := by
  funext depth
  induction depth with
  | zero => rfl
  | succ depth ih =>
    funext id
    rw [unfolded?, unfolded?, ih, hfind, modelOf?_congr hfind]

/-! ## Compiled graphs -/

namespace Compiled

variable {c : Checked} {e : Entry μ}

/-- What a graph is compiled to is the tree that its entry unfolds to. -/
theorem unfolds (h : Compiled provider tools config c e) :
    (∃ tree, Unfolding provider tools config e.nodes tree) ∧
    ∀ tree, Unfolding provider tools config e.nodes tree → tree e.entryId = some e.runnable := by
  rw [h.nodes, h.entryId]
  exact ⟨⟨_, unfolding_of_depth h.trees⟩, fun tree htree => htree.of_unfolded? h.runnable⟩

/-- Everything in the trace of a run is found by its id. -/
theorem node?_of_trace (h : Compiled provider tools config c e) {may : Replies μ} {input : ValueMap}
    {log : Log μ} {o : Outcome} (hp : Produces may (e.process input) log o) :
    ∀ i ∈ o.context.scope.trace, ∃ n, e.node? i.nodeId = some n := by
  obtain ⟨added, hgrowth⟩ := e.grown input log o hp
  have htrace : o.context.scope.trace = added := hgrowth.trace
  intro i hi
  obtain ⟨s, hs, rfl⟩ := hgrowth.units i (htrace ▸ hi)
  obtain ⟨n, hn, -⟩ := h.node_of_within hs
  exact ⟨n, hn⟩

end Compiled

/-! ## Entries that cannot be told apart -/

namespace Entry

/-- They have the same tree and the same entry, and look up ids in the same way. -/
structure Alike (e e' : Entry μ) : Prop where
  entryId : e.entryId = e'.entryId
  runnable : e.runnable = e'.runnable
  lookup : e.node? = e'.node?

variable {e e' : Entry μ}

theorem Alike.process (h : e.Alike e') (input : ValueMap) :
    e.process input = e'.process input := by
  rw [Entry.process, Entry.process, h.runnable, h.entryId]

theorem Alike.executedIds (h : e.Alike e') {trace : List Invocation}
    (htrace : ∀ i ∈ trace, ∃ n, e.node? i.nodeId = some n) :
    e.executedIds trace = e'.executedIds trace := by
  rw [Entry.executedIds, Entry.executedIds]
  congr 1
  refine List.filterMap_congr fun i hi => ?_
  obtain ⟨n, hn⟩ := htrace i hi
  have hn' : e'.node? i.nodeId = some n := h.lookup ▸ hn
  rw [nodeOf?, nodeOf?, hn, hn']
  rfl

/-- A report looks up names only where ids are not found. -/
theorem Alike.report (h : e.Alike e') {o : Outcome}
    (htrace : ∀ i ∈ o.context.scope.trace, ∃ n, e.node? i.nodeId = some n) (input : ValueMap) :
    e.report input o = e'.report input o := by
  have hkind : e.kind = e'.kind := by rw [kind, kind, h.runnable]
  have hkey : e.outputKey? = e'.outputKey? := by
    rw [outputKey?, outputKey?, h.lookup, h.entryId, hkind]
  have htext : e.text = e'.text := by
    funext direct state
    have hkept : e.keptText? state = e'.keptText? state := by rw [keptText?, keptText?, hkey]
    simp only [text, hkept, hkind, h.entryId]
  have hname : e.nameOf = e'.nameOf := by
    funext id
    rw [nameOf, nameOf, h.lookup]
  have hids : e.executedIds o.context.scope.trace = e'.executedIds o.context.scope.trace :=
    h.executedIds htrace
  simp only [Entry.report, htext, hname, hids]

end Entry

/-! ## Compiling in another order -/

section Compiling
variable {e e' : Entry μ}

theorem compile_unfolds (he : (compile provider tools config entry decls).result = .ok e) :
    decls.mapM Node.ofDecl = .ok e.nodes ∧ e.entryId = Text.trim entry ∧
      (∃ tree, Unfolding provider tools config e.nodes tree) ∧
      ∀ tree, Unfolding provider tools config e.nodes tree → tree e.entryId = some e.runnable := by
  obtain ⟨c, hc, hcompiled⟩ := compiled_of_compile he
  have hp := Checked.passed hc
  refine ⟨?_, by rw [hcompiled.entryId, hp.entryId], hcompiled.unfolds⟩
  rw [hcompiled.nodes]
  exact mapM_eq_ok_iff.mpr hp.makes

theorem compile_isOk_perm (hperm : decls.Perm decls')
    (h : ∃ e, (compile provider tools config entry decls).result = .ok e) :
    ∃ e, (compile provider tools config entry decls').result = .ok e := by
  rw [compile_isOk_iff] at h ⊢
  obtain ⟨haccept, hgranted⟩ := h
  exact ⟨haccept.perm hperm, fun d hd => hgranted d (hperm.mem_iff.mpr hd)⟩

theorem compile_alike (hperm : decls.Perm decls')
    (he : (compile provider tools config entry decls).result = .ok e)
    (he' : (compile provider tools config entry decls').result = .ok e') : e.Alike e' := by
  obtain ⟨c, hc, hcompiled⟩ := compiled_of_compile he
  obtain ⟨c', hc', hcompiled'⟩ := compiled_of_compile he'
  have hp := Checked.passed hc
  have hp' := Checked.passed hc'
  have hnodes : c.nodes.Perm c'.nodes := hp.makes.perm hp'.makes hperm
  have hfind : findNode? c.nodes = findNode? c'.nodes := findNode?_perm hp.wellFormed.nodup hnodes
  have hid : c.entryId = c'.entryId := hp.entryId.trans hp'.entryId.symm
  refine ⟨by rw [hcompiled.entryId, hcompiled'.entryId, hid], ?_, ?_⟩
  · have hrunnable := hcompiled.runnable
    rw [unfolded?_congr hfind, hid, hnodes.length_eq, hcompiled'.runnable] at hrunnable
    exact (Option.some.inj hrunnable).symm
  · funext id
    rw [Entry.node?, Entry.node?, hcompiled.nodes, hcompiled'.nodes, hfind]

/-- Whatever comes of a run, the same is reported about it. -/
theorem compile_report_perm (hperm : decls.Perm decls')
    (he : (compile provider tools config entry decls).result = .ok e)
    (he' : (compile provider tools config entry decls').result = .ok e') {may : Replies μ}
    {input : ValueMap} {log : Log μ} {o : Outcome} (hp : Produces may (e.process input) log o) :
    e.report input o = e'.report input o := by
  obtain ⟨c, -, hcompiled⟩ := compiled_of_compile he
  exact (compile_alike hperm he he').report (hcompiled.node?_of_trace hp) input

end Compiling

/-- What is compiled is the tree that the entry unfolds to. So the order of the declarations does
not matter: not for whether they can be compiled, not for what they are compiled to, and not for
what comes of any run and is reported about it. -/
theorem compile_unfolds_perm (provider : Provider μ) (tools : Registry) (config : Config)
    (entry : String) (decls : List NodeDecl) :
    (∀ e, (compile provider tools config entry decls).result = .ok e →
      decls.mapM Node.ofDecl = .ok e.nodes ∧ e.entryId = Text.trim entry ∧
      (∃ tree, Unfolding provider tools config e.nodes tree) ∧
      ∀ tree, Unfolding provider tools config e.nodes tree → tree e.entryId = some e.runnable) ∧
    ∀ decls', decls.Perm decls' →
      ((∃ e, (compile provider tools config entry decls).result = .ok e) ↔
        ∃ e', (compile provider tools config entry decls').result = .ok e') ∧
      ∀ e e', (compile provider tools config entry decls).result = .ok e →
        (compile provider tools config entry decls').result = .ok e' →
        e.runnable = e'.runnable ∧
        ∀ input, e.process input = e'.process input ∧
          (∀ (may : Replies μ) (actions : List (Action μ)) (o : Outcome),
            Steps may (.active (e.process input)) actions (.ended o) →
              e.report input o = e'.report input o) ∧
          ∀ (σ : Type) (answer : Responder μ σ) (memory : σ),
            e.execute answer memory input = e'.execute answer memory input := by
  refine ⟨fun e he => compile_unfolds he, fun decls' hperm => ⟨?_, fun e e' he he' => ?_⟩⟩
  · exact ⟨compile_isOk_perm hperm, compile_isOk_perm hperm.symm⟩
  · have halike : e.Alike e' := compile_alike hperm he he'
    refine ⟨halike.runnable, fun input => ⟨halike.process input, ?_, ?_⟩⟩
    · intro may actions o hsteps
      obtain ⟨log, hproduces, -⟩ := produces_of_steps hsteps
      exact compile_report_perm hperm he he' hproduces
    · intro σ answer memory
      have hran := compile_report_perm hperm he he' (produces_run answer (e.process input) memory)
      rw [halike.process] at hran
      rw [Entry.execute, Entry.execute, halike.process, hran]

end AgentGraph
