import AgentGraph.Proofs.Nodes

/-! The declarations that the units of a compiled graph come from.

* `LeadsTo`: from which declarations a run goes on to which others.
* `NodeDecl.Reached`: a declaration of a node that a run may come to.
* `Compiled.declared_of_within`: every unit of a compiled graph is made from such a declaration. -/
namespace AgentGraph
open Relation
set_option autoImplicit false

variable {μ : Type} {provider : Provider μ} {tools : Registry} {config : Config} {entry : String}
  {decls : List NodeDecl} {c : Checked} {e : Entry μ}

/-! ## Nodes that are reached -/

/-- The node declared as `x` names `y` as a sub-agent, or as the target of a branch. -/
def LeadsTo (decls : List NodeDecl) (x y : String) : Prop :=
  ∃ d ∈ decls, d.id = x ∧ (d.Refers .subAgentIds y ∨ d.Refers .branches y)

theorem Makes.leadsTo {nodes : List Node} (h : Makes decls nodes) {x y : String}
    (hands : HandsOver nodes x y) : LeadsTo decls x y := by
  obtain ⟨n, hn, rfl, dep, hdep, hfield, rfl⟩ := hands
  obtain ⟨d, hd, ht⟩ := h.decl hn
  have hrefers := ((ht.dependencies dep).mp hdep).2
  refine ⟨d, hd, ht.id.symm, hfield.imp (fun h => ?_) fun h => ?_⟩
  · rwa [h] at hrefers
  · rwa [h] at hrefers

/-- A declaration of a node that a run may come to. -/
structure NodeDecl.Reached (d : NodeDecl) (decls : List NodeDecl) (entryId : String) : Prop where
  declared : d ∈ decls
  kind : ∃ kind, d.kind? = some kind ∧ kind ≠ .llm
  reached : ReflTransGen (LeadsTo decls) entryId d.id

theorem Runnable.StandsFor.kind_ne_llm {s : Runnable μ} {n : Node} (h : s.StandsFor config n) :
    n.kind ≠ .llm := by
  rw [← h.kind]
  cases s <;> exact nofun

/-! ## Units -/

/-- The unit is made from the declaration, by way of a node. -/
structure Runnable.MadeFrom (provider : Provider μ) (tools : Registry) (config : Config)
    (nodes : List Node) (s : Runnable μ) (d : NodeDecl) (n : Node) : Prop where
  node : Node.ofDecl d = .ok n
  tree : ∃ depth, treeOf? tools config (modelOf? provider nodes)
    (unfolded? provider tools config nodes depth) n = some s

namespace Runnable.MadeFrom

variable {nodes : List Node} {s : Runnable μ} {d : NodeDecl} {n : Node}

theorem standsFor (h : s.MadeFrom provider tools config nodes d n) : s.StandsFor config n := by
  obtain ⟨depth, htree⟩ := h.tree
  exact standsFor_of_treeOf? htree

theorem id (h : s.MadeFrom provider tools config nodes d n) : s.id = d.id :=
  h.standsFor.id.trans (Node.typed_of_ofDecl h.node).id

theorem kind (h : s.MadeFrom provider tools config nodes d n) : d.kind? = some s.kind := by
  rw [h.standsFor.kind]
  exact (Node.typed_of_ofDecl h.node).kind

theorem name (h : s.MadeFrom provider tools config nodes d n) : n.name = d.shownName := by
  have hkind := (Node.typed_of_ofDecl h.node).kind
  have hnode := h.node
  unfold Node.ofDecl at hnode
  split at hnode
  · cases hnode
  · next hllm =>
    rw [hllm] at hkind
    exact absurd (Option.some.inj hkind).symm h.standsFor.kind_ne_llm
  · obtain ⟨role, -, rfl⟩ := bind_pure_eq_ok_iff.mp hnode
    rfl

/-- The branches of a parallel are what is declared for it, in that order. -/
theorem branches {id name : String} {units : List (Runnable μ)} {pool : Nat} {key : Option String}
    (h : (Runnable.parallel id name units pool key).MadeFrom provider tools config nodes d n) :
    List.Forall₂ (fun raw id => Text.visible? raw = some id) d.subAgentIds
      (units.map Runnable.id) := by
  have hkind := h.standsFor.kind
  obtain ⟨depth, htree⟩ := h.tree
  obtain ⟨-, -, hrole⟩ := Node.ofDecl_eq_ok h.node
  obtain ⟨id', name', key', role⟩ := n
  cases role with
  | parallel ids poolSize =>
    obtain ⟨branches, hbranches, hr⟩ := Option.bind_eq_some_iff.mp htree
    obtain ⟨-, -, rfl, -, -⟩ := Runnable.parallel.inj (Option.some.inj hr)
    have hparts := option_mapM_eq_some_iff.mp hbranches
    have hids : List.Forall₂ Eq ids (branches.map Runnable.id) :=
      List.forall₂_map_right_iff.mpr (hparts.imp fun _ _ hpart => (unfolded?_id hpart).symm)
    rw [List.forall₂_eq_eq_eq] at hids
    cases hrole with | parallel _ hraw => rwa [← hids]
  | _ => cases hkind

theorem agent {id name : String} {a : Executable.Agent μ}
    (h : (Runnable.agent id name a).MadeFrom provider tools config nodes d n) :
    a.systemMessage = Node.systemMessage d ∧ a.tools = d.permittedToolIds.filterMap tools.tool? ∧
      a.prompt = .ofTemplate d.promptTemplate := by
  have hkind := h.standsFor.kind
  obtain ⟨depth, htree⟩ := h.tree
  obtain ⟨-, -, hrole⟩ := Node.ofDecl_eq_ok h.node
  obtain ⟨id', name', key', role⟩ := n
  cases role with
  | agent llmId systemMessage template toolIds =>
    obtain ⟨model, -, hr⟩ := Option.bind_eq_some_iff.mp htree
    obtain ⟨-, -, rfl⟩ := Runnable.agent.inj (Option.some.inj hr)
    cases hrole with
    | agent _ =>
      refine ⟨rfl, rfl, ?_⟩
      rw [Prompt.ofTemplate, Prompt.ofTemplate, Option.filter_filter]
      simp only [Bool.and_self]
  | _ => cases hkind

end Runnable.MadeFrom

/-! ## Compiled graphs -/

theorem Compiled.declared_of_within (h : Compiled provider tools config c e)
    (hp : Checked.Passed entry decls c) {s : Runnable μ} (hs : s.Within e.runnable) :
    ∃ (d : NodeDecl) (n : Node), d.Reached decls e.entryId ∧ e.node? s.id = some n ∧
      s.MadeFrom provider tools config c.nodes d n := by
  obtain ⟨n, depth, hn, htree, hreach⟩ := h.tree_of_within hs
  have hmem : n ∈ c.nodes := by
    rw [Entry.node?, h.nodes] at hn
    exact (findNode?_mem hn).1
  obtain ⟨d, hd, hnode⟩ := forall₂_mem_right hp.makes hmem
  have hmade : s.MadeFrom provider tools config c.nodes d n := ⟨hnode, depth, htree⟩
  have hkind := (Node.typed_of_ofDecl hnode).kind
  refine ⟨d, n, ⟨hd, ⟨n.kind, hkind, hmade.standsFor.kind_ne_llm⟩, ?_⟩, hn, hmade⟩
  rw [← hmade.id]
  exact ReflTransGen.mono (fun _ _ => hp.makes.leadsTo) _ _ hreach

end AgentGraph
