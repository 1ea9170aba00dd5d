import AgentGraph.Proofs.Compiled

/-! The node that is named when a graph has a cycle.

* `Digraph.order_error_loop`: if some vertex depends on itself directly, the one that is reported does.
* `Checked.cyclic_of_ofDecls`: a graph that is rejected for a cycle has passed all other checks.
* `cycle_of_compile`: the node that is named can be reached from itself, and it refers to itself if any
  node does. -/
namespace AgentGraph
open Relation
set_option autoImplicit false

/-! ## Loops -/

namespace Digraph

variable {α : Type} {g : Digraph α} {x y : α} [DecidableEq α]

/-- A search that comes to its end has discovered every vertex, and none of them leads to itself. -/
theorem order_error_loop (hg : g.Joined) (h : g.order = .error x) (hy : g.Edge y y) : g.Edge x x := by
  unfold Digraph.order at h
  split at h
  · next hself =>
    rw [Except.error.injEq] at h
    subst h
    exact searchAll_error _ _ hself
  · next t ht =>
    obtain ⟨hsound, hmem⟩ := closed_of_searchAll hg ht
    have hclosed : y ∈ t.closed := (hmem y).mpr (hg y y hy).1
    exact absurd hy (hsound.discovered_irrefl y (hsound.closed_discovered y hclosed))

end Digraph

/-! ## Graphs that are rejected for a cycle -/

section Rejected
variable {μ : Type} {entry id : String} {decls : List NodeDecl} {nodes : List Node}

namespace Checked

theorem entry_error_ne {e : CompileError} (h : Checked.entry entry decls = .error e) :
    e ≠ .cyclicDependency id := by
  unfold Checked.entry at h
  dsimp only at h
  rintro rfl
  split at h
  · cases h
  · split at h
    · cases h
    · split at h <;> cases h

theorem cyclic_of_ofNodes {entryId : String} (h : ofNodes entryId nodes = .error (.cyclicDependency id)) :
    (dependencyGraph nodes).Joined ∧ (dependencyGraph nodes).order = .error id := by
  unfold ofNodes at h
  split at h
  · cases h
  · split at h
    · next e he =>
      obtain rfl := Except.error.inj h
      obtain ⟨n, -, dep, -, hdep⟩ := referencesError?_eq_some he
      rcases referenceError?_eq_some hdep with ⟨-, h⟩ | h <;> cases h
    · next href =>
      split at h
      · next x horder =>
        obtain rfl := CompileError.cyclicDependency.inj (Except.error.inj h)
        exact ⟨joined_of_referencesError? href, horder⟩
      · cases h

theorem cyclic_of_ofDecls (h : ofDecls entry decls = .error (.cyclicDependency id)) :
    ∃ nodes, Makes decls nodes ∧ (dependencyGraph nodes).Joined ∧
      (dependencyGraph nodes).order = .error id := by
  unfold ofDecls at h
  split at h
  · next e he => exact absurd (Except.error.inj h) (entry_error_ne he)
  · split at h
    · next e he =>
      obtain rfl := Except.error.inj h
      obtain ⟨d, -, hd⟩ := mapM_eq_error he
      rcases Node.ofDecl_eq_error hd with ⟨-, h⟩ | ⟨field, h⟩ <;> cases h
    · next nodes hnodes => exact ⟨nodes, mapM_eq_ok_iff.mp hnodes, cyclic_of_ofNodes h⟩

end Checked

/-- Compiling a graph that passed the checks names no cycle. -/
theorem ofDecls_of_compile_cyclic {provider : Provider μ} {tools : Registry} {config : Config}
    (h : (compile provider tools config entry decls).result = .error (.cyclicDependency id)) :
    Checked.ofDecls entry decls = .error (.cyclicDependency id) := by
  cases hc : Checked.ofDecls entry decls with
  | error e =>
    rw [compile_of_rejected hc] at h
    rw [Except.error.inj h]
  | ok c =>
    have hcompiled : (∃ e, (compile provider tools config entry decls).result = .ok e ∧
        Compiled provider tools config c e) ∨ _ := compile_of_checked hc
    rcases hcompiled with ⟨e, he, -⟩ | ⟨n, -, b, e, -, -, he⟩ <;>
    · rw [he] at h
      cases h

end Rejected

/-- The node that is named lies on a cycle: it is reached from itself through models, sub-agents, routers
and targets of branches. Where a node refers to itself, the node that is named is one that does. -/
theorem cycle_of_compile {μ : Type} (provider : Provider μ) (tools : Registry) (config : Config)
    (entry : String) (decls : List NodeDecl) (id : String)
    (h : (compile provider tools config entry decls).result = .error (.cyclicDependency id)) :
    TransGen (RefersTo decls) id id ∧ ((∃ x, RefersTo decls x x) → RefersTo decls id id) := by
  obtain ⟨nodes, hmakes, hjoined, horder⟩ := Checked.cyclic_of_ofDecls (ofDecls_of_compile_cyclic h)
  refine ⟨?_, ?_⟩
  · have hcycle := Digraph.order_error hjoined horder
    rwa [hmakes.edge_eq, transGen_swap] at hcycle
  · rintro ⟨x, hx⟩
    exact hmakes.edge_iff.mp (Digraph.order_error_loop hjoined horder (hmakes.edge_iff.mpr hx))

/-! ## A graph with several cycles -/

namespace Canon

/-- Nothing is wrong with the entry and what it refers to; beside it, two nodes refer to each other, and
a third one to itself. -/
def decls : List NodeDecl :=
  [.sequence "entry" ["soloist"], .agent "soloist" "model", .llm "model" "address" "name",
    .sequence "leader" ["follower"], .sequence "follower" ["leader"],
    .conditional "canon" "soloist" [⟨"voice", "second", "canon"⟩, ⟨"voice", "third", "leader"⟩]]

def nodes : List Node :=
  [⟨"entry", "entry", none, .sequence ["soloist"]⟩, ⟨"soloist", "soloist", none, .agent "model" none none []⟩,
    ⟨"model", "model", none, .llm (some "address") (some "name") none none⟩,
    ⟨"leader", "leader", none, .sequence ["follower"]⟩, ⟨"follower", "follower", none, .sequence ["leader"]⟩,
    ⟨"canon", "canon", none,
      .conditional (some "soloist") [(⟨"voice", "second"⟩, "canon"), (⟨"voice", "third"⟩, "leader")]⟩]

theorem order_nodes : (dependencyGraph nodes).order = .error "canon" := by
  have hgraph : dependencyGraph nodes =
      ⟨["entry", "soloist", "model", "leader", "follower", "canon"],
        [("soloist", "entry"), ("model", "soloist"), ("follower", "leader"), ("leader", "follower"),
          ("soloist", "canon"), ("canon", "canon"), ("leader", "canon")]⟩ := rfl
  rw [hgraph]
  simp [Digraph.order, Digraph.searchAll, Digraph.search, Digraph.next, Digraph.Search.open,
    Digraph.Search.close]

theorem compile_decls : (compile (fun _ => .ok ()) [] {} "entry" decls).result =
    .error (.cyclicDependency "canon") := by
  have hnodes : Checked.ofDecls "entry" decls = Checked.ofNodes "entry" nodes := rfl
  have hids : duplicate? [] (nodes.map Node.id) = none := rfl
  have hreferences : referencesError? nodes = none := rfl
  have hchecked : Checked.ofDecls "entry" decls = .error (.cyclicDependency "canon") := by
    rw [hnodes, Checked.ofNodes, hids, hreferences]
    dsimp only
    rw [order_nodes]
  exact compile_of_rejected hchecked

theorem refers_canon : RefersTo decls "canon" "canon" :=
  ⟨_, List.mem_of_getLast? rfl, rfl, .branches, .conditional, rfl, rfl, "canon", by decide, by decide⟩

end Canon

/-- Of the three nodes on cycles, the one that refers to itself is named. -/
theorem cycle_of_compile_canon :
    (compile (fun _ => .ok ()) [] {} "entry" Canon.decls).result = .error (.cyclicDependency "canon") ∧
      TransGen (RefersTo Canon.decls) "canon" "canon" ∧ RefersTo Canon.decls "canon" "canon" := by
  obtain ⟨hcycle, hself⟩ :=
    cycle_of_compile (fun _ => .ok ()) [] {} "entry" Canon.decls "canon" Canon.compile_decls
  exact ⟨Canon.compile_decls, hcycle, hself ⟨"canon", Canon.refers_canon⟩⟩

end AgentGraph
