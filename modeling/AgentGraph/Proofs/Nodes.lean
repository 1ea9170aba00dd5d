import AgentGraph.Proofs.Compiled
import AgentGraph.Proofs.Units

/-! The units of a compiled graph and the nodes that they stand for.

A node stands in the tree of the entry once for each node that names it. All of these units are made
from the one node in the same way.

* `Runnable.StandsFor`: what a unit has from its node.
* `HandsOver`: from which nodes a run goes on to which others.
* `Compiled.tree_of_within`: every unit of a compiled graph is the tree of a node that is reached so.
* `Duet`: a small graph, which is compiled. -/
namespace AgentGraph
open Relation
set_option autoImplicit false

variable {μ : Type} {provider : Provider μ} {tools : Registry} {config : Config}
  {nodes : List Node}

/-- The key that the node writes under itself: the one it declares, else the one of its kind. What a
parallel node declares it only reads. -/
def Node.writes? (n : Node) : Option String :=
  match n.role with
  | .parallel _ _ => none
  | _ => n.outputKey.or (defaultOutputKey? n.kind)

/-- The node names another one as a sub-agent, or as the target of a branch. -/
def Node.HandsTo (n : Node) (id : String) : Prop :=
  ∃ dep ∈ n.dependencies, (dep.field = .subAgentIds ∨ dep.field = .branches) ∧ dep.id = id

def HandsOver (nodes : List Node) (x y : String) : Prop := ∃ n ∈ nodes, n.id = x ∧ n.HandsTo y

/-- The unit is made from the node. -/
structure Runnable.StandsFor (config : Config) (r : Runnable μ) (n : Node) : Prop where
  id : r.id = n.id
  name : r.name = n.name
  kind : r.kind = n.kind
  key : r.key? = n.writes?
  pool : ∀ id name branches pool key, r = .parallel id name branches pool key →
    ∃ ids poolSize, n.role = .parallel ids poolSize ∧ pool = poolSize.getD config.poolSize
  limit : ∀ id name setup subs, r = .supervisor id name setup subs →
    setup.maxSteps = config.supervisorSteps

section Trees
variable {model? : String → Option μ} {part? : String → Option (Runnable μ)} {n : Node}
  {r : Runnable μ}

theorem part_of_mapM {ids : List String} {rs : List (Runnable μ)}
    (h : ids.mapM part? = some rs) : ∀ s ∈ rs, ∃ id ∈ ids, part? id = some s := by
  intro s hs
  obtain ⟨id, hmem, hid⟩ := forall₂_mem_right (option_mapM_eq_some_iff.mp h) hs
  exact ⟨id, hmem, hid⟩

theorem parts_of_treeOf? (h : treeOf? tools config model? part? n = some r) :
    ∀ s ∈ r.parts, ∃ id, n.HandsTo id ∧ part? id = some s := by
  have hsubs : ∀ {ids : List String} {rs : List (Runnable μ)}, ids.mapM part? = some rs →
      (∀ id ∈ ids, ⟨.subAgentIds, id, .executable⟩ ∈ n.dependencies) →
      ∀ s ∈ rs, ∃ id, n.HandsTo id ∧ part? id = some s := by
    intro ids rs hrs hids s hs
    obtain ⟨id, hid, hpart⟩ := part_of_mapM hrs s hs
    exact ⟨id, ⟨_, hids id hid, .inl rfl, rfl⟩, hpart⟩
  have hdep : ∀ {ids : List String}, ∀ id ∈ ids,
      ⟨.subAgentIds, id, .executable⟩ ∈ Node.subAgentDependencies ids :=
    fun id hid => Node.mem_subAgentDependencies.mpr ⟨rfl, rfl, hid⟩
  obtain ⟨id, name, key, role⟩ := n
  cases role with
  | llm => cases h
  | agent llmId systemMessage template toolIds =>
    obtain ⟨model, -, hr⟩ := Option.bind_eq_some_iff.mp h
    obtain rfl := Option.some.inj hr
    exact fun s hs => nomatch hs
  | sequence ids =>
    obtain ⟨steps, hsteps, hr⟩ := Option.bind_eq_some_iff.mp h
    obtain rfl := Option.some.inj hr
    exact hsubs hsteps hdep
  | parallel ids poolSize =>
    obtain ⟨branches, hbranches, hr⟩ := Option.bind_eq_some_iff.mp h
    obtain rfl := Option.some.inj hr
    exact hsubs hbranches hdep
  | conditional router branches =>
    obtain ⟨routes, hroutes, hr⟩ := Option.bind_eq_some_iff.mp h
    obtain rfl := Option.some.inj hr
    intro s hs
    obtain ⟨route, hroute, rfl⟩ := List.mem_map.mp hs
    obtain ⟨b, hmem, hb⟩ := forall₂_mem_right (option_mapM_eq_some_iff.mp hroutes) hroute
    obtain ⟨part, hpart, hb⟩ := Option.bind_eq_some_iff.mp hb
    obtain rfl := Option.some.inj hb
    exact ⟨b.2, ⟨_, List.mem_append_right _ (List.mem_map_of_mem hmem), .inr rfl, rfl⟩, hpart⟩
  | supervisor llmId ids strategy =>
    obtain ⟨model, -, hr⟩ := Option.bind_eq_some_iff.mp h
    obtain ⟨subs, hsubs', hr⟩ := Option.bind_eq_some_iff.mp hr
    obtain rfl := Option.some.inj hr
    exact hsubs hsubs' fun id hid => List.mem_cons_of_mem _ (hdep id hid)

theorem standsFor_of_treeOf? (h : treeOf? tools config model? part? n = some r) :
    r.StandsFor config n := by
  obtain ⟨id, name, outputKey, role⟩ := n
  cases role with
  | llm => cases h
  | agent llmId systemMessage template toolIds =>
    obtain ⟨model, -, hr⟩ := Option.bind_eq_some_iff.mp h
    obtain rfl := Option.some.inj hr
    refine ⟨rfl, rfl, rfl, (Option.or_none).symm, ?_, ?_⟩ <;> exact fun _ _ _ _ => by simp
  | sequence ids =>
    obtain ⟨steps, -, hr⟩ := Option.bind_eq_some_iff.mp h
    obtain rfl := Option.some.inj hr
    refine ⟨rfl, rfl, rfl, ?_, ?_, ?_⟩
    · cases outputKey <;> rfl
    · exact fun _ _ _ _ => by simp
    · exact fun _ _ _ _ => by simp
  | parallel ids poolSize =>
    obtain ⟨branches, -, hr⟩ := Option.bind_eq_some_iff.mp h
    obtain rfl := Option.some.inj hr
    refine ⟨rfl, rfl, rfl, rfl, ?_, ?_⟩
    · rintro _ _ _ _ _ ⟨⟩
      exact ⟨ids, poolSize, rfl, rfl⟩
    · exact fun _ _ _ _ => by simp
  | conditional router branches =>
    obtain ⟨routes, -, hr⟩ := Option.bind_eq_some_iff.mp h
    obtain rfl := Option.some.inj hr
    refine ⟨rfl, rfl, rfl, (Option.or_none).symm, ?_, ?_⟩ <;> exact fun _ _ _ _ => by simp
  | supervisor llmId ids strategy =>
    obtain ⟨model, -, hr⟩ := Option.bind_eq_some_iff.mp h
    obtain ⟨subs, -, hr⟩ := Option.bind_eq_some_iff.mp hr
    obtain rfl := Option.some.inj hr
    refine ⟨rfl, rfl, rfl, ?_, ?_, ?_⟩
    · cases outputKey <;> rfl
    · exact fun _ _ _ _ => by simp
    · rintro _ _ _ _ ⟨⟩
      rfl

end Trees

theorem unfolded?_id {depth : Nat} {id : String} {r : Runnable μ}
    (h : unfolded? provider tools config nodes depth id = some r) : r.id = id := by
  cases depth with
  | zero => cases h
  | succ depth =>
    obtain ⟨n, hn, hr⟩ := Option.bind_eq_some_iff.mp h
    exact (standsFor_of_treeOf? hr).id.trans (findNode?_mem hn).2

/-- Every unit within the tree of a node is the tree of a node itself, which one comes to by going
on from what is handed to. -/
theorem unfolded?_within {depth : Nat} {id : String} {r s : Runnable μ}
    (h : unfolded? provider tools config nodes depth id = some r) (hs : s.Within r) :
    ∃ (n : Node) (depth' : Nat), findNode? nodes s.id = some n ∧
      treeOf? tools config (modelOf? provider nodes) (unfolded? provider tools config nodes depth') n =
        some s ∧ ReflTransGen (HandsOver nodes) id s.id := by
  induction depth generalizing id r with
  | zero => cases h
  | succ depth ih =>
    obtain ⟨n, hn, hr⟩ := Option.bind_eq_some_iff.mp h
    obtain ⟨hmem, hid⟩ := findNode?_mem hn
    rcases ReflTransGen.cases_head hs with rfl | ⟨part, hpart, hs⟩
    · have hsame : r.id = id := unfolded?_id h
      exact ⟨n, depth, hsame ▸ hn, hr, hsame ▸ .refl⟩
    · obtain ⟨id', hands, hid'⟩ := parts_of_treeOf? hr part hpart
      obtain ⟨m, depth', hm, htree, hreach⟩ := ih hid' hs
      exact ⟨m, depth', hm, htree, .head ⟨n, hmem, hid, hands⟩ hreach⟩

namespace Compiled

variable {c : Checked} {e : Entry μ} {s : Runnable μ}

theorem tree_of_within (h : Compiled provider tools config c e) (hs : s.Within e.runnable) :
    ∃ (n : Node) (depth : Nat), e.node? s.id = some n ∧
      treeOf? tools config (modelOf? provider c.nodes) (unfolded? provider tools config c.nodes depth)
        n = some s ∧ ReflTransGen (HandsOver c.nodes) e.entryId s.id := by
  obtain ⟨n, depth, hn, htree, hreach⟩ := unfolded?_within h.runnable hs
  exact ⟨n, depth, by rw [Entry.node?, h.nodes, hn], htree, h.entryId ▸ hreach⟩

theorem entryId_eq (h : Compiled provider tools config c e) : e.runnable.id = e.entryId :=
  (unfolded?_id h.runnable).trans h.entryId.symm

theorem node_of_within (h : Compiled provider tools config c e) (hs : s.Within e.runnable) :
    ∃ n, e.node? s.id = some n ∧ s.StandsFor config n := by
  obtain ⟨n, depth, hn, htree, -⟩ := h.tree_of_within hs
  exact ⟨n, hn, standsFor_of_treeOf? htree⟩

end Compiled

/-! ## A compiled graph -/

namespace Duet

/-- Two agents that keep their answers and are to ask the model one at a time. -/
def decls : List NodeDecl :=
  [.llm "model" "address" "name",
    { NodeDecl.agent "first" "model" with outputKey := "melody" },
    { NodeDecl.agent "second" "model" with outputKey := "harmony" },
    { NodeDecl.parallel "entry" ["first", "second"] with threadPoolSize := some 1 }]

def checked : Checked where
  entryId := "entry"
  nodes := [⟨"model", "model", none, .llm (some "address") (some "name") none none⟩,
    ⟨"first", "first", some "melody", .agent "model" none none []⟩,
    ⟨"second", "second", some "harmony", .agent "model" none none []⟩,
    ⟨"entry", "entry", none, .parallel ["first", "second"] (some 1)⟩]
  order := ["model", "second", "first", "entry"]

def agent (id key : String) : Runnable Unit := .agent id id
  { model := (), systemMessage := none, prompt := .ofTemplate none, outputKey := some key,
    tools := [] }

def entry : Entry Unit where
  runnable := .parallel "entry" "entry" [agent "first" "melody", agent "second" "harmony"] 1 none
  entryId := checked.entryId
  nodes := checked.nodes
  buildOrder := checked.order

def input : ValueMap := [("request", .string "sing")]

theorem order_checked : (dependencyGraph checked.nodes).order = .ok checked.order := by
  have hgraph : dependencyGraph checked.nodes =
      ⟨["model", "first", "second", "entry"], [("model", "first"), ("model", "second"),
        ("first", "entry"), ("second", "entry")]⟩ := rfl
  rw [hgraph]
  simp [checked, Digraph.order, Digraph.searchAll, Digraph.search, Digraph.next,
    Digraph.previous, Digraph.Search.open, Digraph.Search.close, Digraph.misplaced?]

theorem compile_decls : (compile (fun _ => .ok ()) [] {} "entry" decls).result = .ok entry := by
  have hchecked : Checked.ofDecls "entry" decls = .ok checked := by
    have hnodes : Checked.ofDecls "entry" decls = Checked.ofNodes "entry" checked.nodes := rfl
    have hids : duplicate? [] (checked.nodes.map Node.id) = none := rfl
    have hreferences : referencesError? checked.nodes = none := rfl
    rw [hnodes, Checked.ofNodes, hids, hreferences]
    dsimp only
    rw [order_checked]
    rfl
  rw [compile, hchecked]
  rfl

end Duet

end AgentGraph
