import AgentGraph.Proofs.Checked

/-! What a graph is compiled to.

A node that can be run unfolds to a tree: each of its parts is unfolded in turn, as often as it is
named. Compiling goes the other way, from the parts to the whole, and keeps what it has built.

* `Unfolding`: the trees of all nodes, each made of the trees of its parts.
* `unfolded?`: the tree that the node with an id unfolds to, from the top down.
* `Compile.Sound`: what has been built stands under the ids of its nodes, and is their trees.
* `Compile.buildAll_sound`: building in order keeps that, and only fails when a model is refused. -/
namespace AgentGraph
set_option autoImplicit false

variable {μ : Type} (provider : Provider μ) (tools : Registry) (config : Config)
  (nodes : List Node)

/-! ## Unfolding -/

/-- The model that is bound for the node with this id. -/
def modelOf? (id : String) : Option μ := do
  let n ← findNode? nodes id
  match n.role with
  | .llm baseUrl modelName temperature maxTokens =>
    (provider ⟨n.id, baseUrl, modelName, temperature, maxTokens⟩).toOption
  | _ => none

/-- The tree of a node, given the models and the parts it names. -/
def treeOf? (model? : String → Option μ) (part? : String → Option (Runnable μ)) (n : Node) :
    Option (Runnable μ) :=
  match n.role with
  | .llm _ _ _ _ => none
  | .agent llmId systemMessage template toolIds => do
    let model ← model? llmId
    return .agent n.id n.name
      { model, systemMessage, prompt := .ofTemplate template, outputKey := n.outputKey,
        tools := toolIds.filterMap tools.tool? }
  | .sequence ids => do
    return .sequence n.id n.name (← ids.mapM part?) (n.outputKey.getD "result")
  | .parallel ids poolSize => do
    return .parallel n.id n.name (← ids.mapM part?) (poolSize.getD config.poolSize) n.outputKey
  | .conditional _ branches => do
    let routes ← branches.mapM fun b => do return (b.1, ← part? b.2)
    return .conditional n.id n.name routes n.outputKey
  | .supervisor llmId ids strategy => do
    let model ← model? llmId
    let subs ← ids.mapM part?
    return .supervisor n.id n.name
      { model, outputKey := n.outputKey.getD "response", strategy,
        maxSteps := config.supervisorSteps } subs

/-- The tree that the node with this id unfolds to, if it is at most so deep. -/
def unfolded? : (depth : Nat) → (id : String) → Option (Runnable μ)
  | 0, _ => none
  | depth + 1, id =>
    (findNode? nodes id).bind
      (treeOf? tools config (modelOf? provider nodes) (unfolded? depth))

section Options
variable {α β γ : Type}

theorem option_mapM_eq_some_iff {f : α → Option β} {xs : List α} {ys : List β} :
    xs.mapM f = some ys ↔ List.Forall₂ (fun x y => f x = some y) xs ys := by
  induction xs generalizing ys with
  | nil =>
    rw [List.mapM_nil, List.forall₂_nil_left_iff]
    exact ⟨fun h => (Option.some.inj h).symm, fun h => h ▸ rfl⟩
  | cons x xs ih =>
    rw [List.mapM_cons, Option.bind_eq_bind, Option.bind_eq_some_iff, List.forall₂_cons_left_iff]
    refine exists_congr fun y => ?_
    rw [Option.bind_eq_bind, Option.bind_eq_some_iff]
    constructor
    · rintro ⟨hx, zs, hxs, hys⟩
      exact ⟨zs, hx, ih.mp hxs, (Option.some.inj hys).symm⟩
    · rintro ⟨zs, hx, hxs, rfl⟩
      exact ⟨hx, zs, ih.mpr hxs, rfl⟩

/-- Two traversals that agree at every member agree on the whole. -/
theorem mapM_both {ε : Type} {f : α → Except ε β} {g : α → Option β} {xs : List α}
    (h : ∀ x ∈ xs, ∃ y, f x = .ok y ∧ g x = some y) :
    ∃ ys, xs.mapM f = .ok ys ∧ xs.mapM g = some ys := by
  obtain ⟨ys, hys⟩ := exists_forall₂ h
  exact ⟨ys, mapM_eq_ok_iff.mpr (hys.imp fun _ _ h => h.1),
    option_mapM_eq_some_iff.mpr (hys.imp fun _ _ h => h.2)⟩

theorem option_mapM_imp {f g : α → Option β} (h : ∀ x y, f x = some y → g x = some y)
    {xs : List α} {ys : List β} (hxs : xs.mapM f = some ys) : xs.mapM g = some ys :=
  option_mapM_eq_some_iff.mpr ((option_mapM_eq_some_iff.mp hxs).imp h)

end Options

variable {tools config} {model? : String → Option μ} {part? : String → Option (Runnable μ)}

theorem treeOf?_imp {whole? : String → Option (Runnable μ)}
    (h : ∀ id r, part? id = some r → whole? id = some r) {n : Node} {r : Runnable μ}
    (hr : treeOf? tools config model? part? n = some r) :
    treeOf? tools config model? whole? n = some r := by
  unfold treeOf? at hr ⊢
  split at hr
  · cases hr
  · exact hr
  · obtain ⟨steps, hsteps, hr⟩ := Option.bind_eq_some_iff.mp hr
    exact Option.bind_eq_some_iff.mpr ⟨steps, option_mapM_imp h hsteps, hr⟩
  · obtain ⟨branches, hbranches, hr⟩ := Option.bind_eq_some_iff.mp hr
    exact Option.bind_eq_some_iff.mpr ⟨branches, option_mapM_imp h hbranches, hr⟩
  · obtain ⟨routes, hroutes, hr⟩ := Option.bind_eq_some_iff.mp hr
    refine Option.bind_eq_some_iff.mpr ⟨routes, option_mapM_imp (fun b c hb => ?_) hroutes, hr⟩
    obtain ⟨part, hpart, hc⟩ := Option.bind_eq_some_iff.mp hb
    exact Option.bind_eq_some_iff.mpr ⟨part, h b.2 part hpart, hc⟩
  · obtain ⟨model, hmodel, hr⟩ := Option.bind_eq_some_iff.mp hr
    obtain ⟨subs, hsubs, hr⟩ := Option.bind_eq_some_iff.mp hr
    exact Option.bind_eq_some_iff.mpr
      ⟨model, hmodel, Option.bind_eq_some_iff.mpr ⟨subs, option_mapM_imp h hsubs, hr⟩⟩

variable {provider nodes}

/-- A deeper look finds the same tree. -/
theorem unfolded?_succ {depth : Nat} {id : String} {r : Runnable μ}
    (h : unfolded? provider tools config nodes depth id = some r) :
    unfolded? provider tools config nodes (depth + 1) id = some r := by
  induction depth generalizing id r with
  | zero => cases h
  | succ depth ih =>
    obtain ⟨n, hn, hr⟩ := Option.bind_eq_some_iff.mp h
    exact Option.bind_eq_some_iff.mpr ⟨n, hn, treeOf?_imp (fun _ _ => ih) hr⟩

/-- A function that gives, for every id, the tree that its node unfolds to. -/
def Unfolding (provider : Provider μ) (tools : Registry) (config : Config) (nodes : List Node)
    (tree : String → Option (Runnable μ)) : Prop :=
  ∀ id, tree id = (findNode? nodes id).bind
    (treeOf? tools config (modelOf? provider nodes) tree)

theorem Unfolding.of_unfolded? {tree : String → Option (Runnable μ)}
    (htree : Unfolding provider tools config nodes tree) {depth : Nat} {id : String}
    {r : Runnable μ} (h : unfolded? provider tools config nodes depth id = some r) :
    tree id = some r := by
  induction depth generalizing id r with
  | zero => cases h
  | succ depth ih =>
    obtain ⟨n, hn, hr⟩ := Option.bind_eq_some_iff.mp h
    rw [htree id, hn, Option.bind_some]
    exact treeOf?_imp (fun _ _ => ih) hr

theorem treeOf?_eq_none {n : Node} (h : n.kind = .llm) :
    treeOf? tools config model? part? n = none := by
  obtain ⟨id, name, key, role⟩ := n
  cases role with
  | llm => rfl
  | _ => cases h

theorem unfolded?_eq_none {depth : Nat} {id : String}
    (h : ∀ n, findNode? nodes id = some n → n.kind = .llm) :
    unfolded? provider tools config nodes depth id = none := by
  cases depth with
  | zero => rfl
  | succ depth => exact Option.bind_eq_none_iff.mpr fun n hn => treeOf?_eq_none (h n hn)

/-- A depth that is enough for every node that can be run gives them all. -/
theorem unfolding_of_depth {depth : Nat} (h : ∀ n ∈ nodes, n.kind ≠ .llm →
      ∃ r, unfolded? provider tools config nodes depth n.id = some r) :
    Unfolding provider tools config nodes (unfolded? provider tools config nodes depth) := by
  intro id
  have hnext : (findNode? nodes id).bind (treeOf? tools config (modelOf? provider nodes)
      (unfolded? provider tools config nodes depth)) =
        unfolded? provider tools config nodes (depth + 1) id := rfl
  rw [hnext]
  by_cases hkind : ∀ n, findNode? nodes id = some n → n.kind = .llm
  · rw [unfolded?_eq_none hkind, unfolded?_eq_none hkind]
  · push Not at hkind
    obtain ⟨n, hn, hkind⟩ := hkind
    obtain ⟨hmem, rfl⟩ := findNode?_mem hn
    obtain ⟨r, hr⟩ := h n hmem hkind
    rw [hr, unfolded?_succ hr]

/-! ## Building one node -/

namespace Compile

variable {built : Built μ} {done : List Node} {n : Node}

/-- What has been built stands under the ids of its nodes, and is what these unfold to. -/
structure Sound (provider : Provider μ) (tools : Registry) (config : Config)
    (nodes done : List Node) (built : Built μ) : Prop where
  models : ∀ n ∈ done, n.kind = .llm →
    ∃ m, modelOf? provider nodes n.id = some m ∧ Fields.get? built.models n.id = some m
  runnables : ∀ n ∈ done, n.kind ≠ .llm → ∃ r,
    unfolded? provider tools config nodes done.length n.id = some r ∧
      Fields.get? built.runnables n.id = some r

/-- Everything that a node refers to is among those that are done. -/
def Ready (done : List Node) (n : Node) : Prop :=
  ∀ dep ∈ n.dependencies, ∃ t ∈ done, t.id = dep.id ∧ dep.target.accepts t.kind

theorem model_eq_ok {id : String} {m : μ} (h : Fields.get? built.models id = some m) :
    model built n id = .ok m := by
  rw [model, h]

theorem runnable_eq_ok {id : String} {r : Runnable μ}
    (h : Fields.get? built.runnables id = some r) : runnable built n id = .ok r := by
  rw [runnable, h]

theorem Sound.model (hs : Sound provider tools config nodes done built) (hready : Ready done n)
    {field : RefField} (id : String) (hdep : ⟨field, id, .model⟩ ∈ n.dependencies) :
    ∃ m, Compile.model built n id = .ok m ∧ modelOf? provider nodes id = some m := by
  obtain ⟨t, ht, rfl, haccepts⟩ := hready _ hdep
  obtain ⟨m, hm, hget⟩ := hs.models t ht (by simpa [Target.accepts] using haccepts)
  exact ⟨m, model_eq_ok hget, hm⟩

theorem Sound.part (hs : Sound provider tools config nodes done built) (hready : Ready done n)
    {field : RefField} (id : String) (hdep : ⟨field, id, .executable⟩ ∈ n.dependencies) :
    ∃ r, Compile.runnable built n id = .ok r ∧
      unfolded? provider tools config nodes done.length id = some r := by
  obtain ⟨t, ht, rfl, haccepts⟩ := hready _ hdep
  have hkind : t.kind ≠ .llm := by
    intro h
    rw [h] at haccepts
    cases haccepts
  obtain ⟨r, hr, hget⟩ := hs.runnables t ht hkind
  exact ⟨r, runnable_eq_ok hget, hr⟩

/-- The parts that a node names as its sub-agents. -/
theorem Sound.subs (hs : Sound provider tools config nodes done built) (hready : Ready done n)
    (ids : List String) (hids : ∀ id ∈ ids, ⟨.subAgentIds, id, .executable⟩ ∈ n.dependencies) :
    ∃ rs, ids.mapM (Compile.runnable built n) = .ok rs ∧
      ids.mapM (unfolded? provider tools config nodes done.length) = some rs :=
  mapM_both fun id hid => hs.part hready id (hids id hid)

theorem bindingOf?_isSome (h : n.kind = .llm) : ∃ b, bindingOf? n = some b := by
  obtain ⟨id, name, key, role⟩ := n
  cases role with
  | llm => exact ⟨_, rfl⟩
  | _ => cases h

theorem bindingOf?_eq_none (h : n.kind ≠ .llm) : bindingOf? n = none := by
  obtain ⟨id, name, key, role⟩ := n
  cases role with
  | llm => exact absurd rfl h
  | _ => rfl

theorem modelOf?_eq (hn : findNode? nodes n.id = some n) {b : Binding}
    (hb : bindingOf? n = some b) : modelOf? provider nodes n.id = (provider b).toOption := by
  rw [modelOf?, hn, Option.bind_eq_bind, Option.bind_some]
  obtain ⟨id, name, key, role⟩ := n
  cases role with
  | llm => exact congrArg (fun b => (provider b).toOption) (Option.some.inj hb)
  | _ => cases hb

theorem outputKey_eq_getD {key : String} (h : defaultOutputKey? n.kind = some key) :
    outputKey n = n.outputKey.getD key := by
  rw [outputKey, h]
  cases n.outputKey <;> rfl

/-- A node whose parts are built can be built, to what it unfolds to. -/
theorem assemble_ok (hs : Sound provider tools config nodes done built) (hready : Ready done n)
    (hn : findNode? nodes n.id = some n) (hkind : n.kind ≠ .llm) :
    ∃ r, assemble tools config built n = .ok r ∧
      unfolded? provider tools config nodes (done.length + 1) n.id = some r := by
  rw [unfolded?, hn, Option.bind_some]
  have hsub : ∀ {ids : List String}, ∀ id ∈ ids,
      ⟨.subAgentIds, id, .executable⟩ ∈ Node.subAgentDependencies ids :=
    fun id hid => Node.mem_subAgentDependencies.mpr ⟨rfl, rfl, hid⟩
  obtain ⟨id, name, key, role⟩ := n
  cases role with
  | llm => exact absurd rfl hkind
  | agent llmId systemMessage template toolIds =>
    obtain ⟨m, hm, hmodel⟩ := hs.model hready llmId List.mem_cons_self
    exact ⟨_, bind_eq_ok_iff.mpr ⟨m, hm, rfl⟩, Option.bind_eq_some_iff.mpr ⟨m, hmodel, rfl⟩⟩
  | sequence ids =>
    obtain ⟨rs, hrs, hparts⟩ := hs.subs hready ids hsub
    refine ⟨_, bind_eq_ok_iff.mpr ⟨rs, hrs, rfl⟩, Option.bind_eq_some_iff.mpr ⟨rs, hparts, ?_⟩⟩
    rw [outputKey_eq_getD rfl]
    rfl
  | parallel ids poolSize =>
    obtain ⟨rs, hrs, hparts⟩ := hs.subs hready ids hsub
    exact ⟨_, bind_eq_ok_iff.mpr ⟨rs, hrs, rfl⟩, Option.bind_eq_some_iff.mpr ⟨rs, hparts, rfl⟩⟩
  | conditional router branches =>
    have hroute : ∀ b ∈ branches, ∃ route : Condition × Runnable μ,
        (do return (b.1, ← Compile.runnable built ⟨id, name, key, .conditional router branches⟩ b.2) :
          Except CompileError (Condition × Runnable μ)) = .ok route ∧
        (do return (b.1, ← unfolded? provider tools config nodes done.length b.2) :
          Option (Condition × Runnable μ)) = some route := by
      intro b hb
      obtain ⟨r, hr, hpart⟩ := hs.part hready b.2
        (List.mem_append_right _ (List.mem_map_of_mem hb))
      exact ⟨(b.1, r), bind_eq_ok_iff.mpr ⟨r, hr, rfl⟩, Option.bind_eq_some_iff.mpr ⟨r, hpart, rfl⟩⟩
    obtain ⟨routes, hroutes, hparts⟩ := mapM_both hroute
    exact ⟨_, bind_eq_ok_iff.mpr ⟨routes, hroutes, rfl⟩,
      Option.bind_eq_some_iff.mpr ⟨routes, hparts, rfl⟩⟩
  | supervisor llmId ids strategy =>
    obtain ⟨m, hm, hmodel⟩ := hs.model hready llmId List.mem_cons_self
    obtain ⟨rs, hrs, hparts⟩ := hs.subs hready ids
      fun id hid => List.mem_cons_of_mem _ (hsub id hid)
    refine ⟨_, bind_eq_ok_iff.mpr ⟨m, hm, bind_eq_ok_iff.mpr ⟨rs, hrs, rfl⟩⟩,
      Option.bind_eq_some_iff.mpr ⟨m, hmodel, Option.bind_eq_some_iff.mpr ⟨rs, hparts, ?_⟩⟩⟩
    rw [outputKey_eq_getD rfl]
    rfl

/-! ## Building all -/

theorem get?_cons {α : Type} {k id : String} {v : α} {fs : Fields α} :
    Fields.get? ((k, v) :: fs) id = if k = id then some v else Fields.get? fs id := rfl

theorem mem_of_ne {t : Node} (ht : t ∈ done ++ [n]) (hne : t ≠ n) : t ∈ done := by
  rcases List.mem_append.mp ht with h | h
  · exact h
  · exact absurd (List.mem_singleton.mp h) hne

/-- What is built for one more node. -/
theorem Sound.extend_model (hs : Sound provider tools config nodes done built)
    (hkind : n.kind = .llm) {m : μ} (hm : modelOf? provider nodes n.id = some m) :
    Sound provider tools config nodes (done ++ [n])
      { built with models := (n.id, m) :: built.models } where
  models t ht htkind := by
    by_cases hid : n.id = t.id
    · exact ⟨m, hid ▸ hm, by rw [get?_cons, if_pos hid]⟩
    · have ht' : t ∈ done := mem_of_ne ht fun h => hid (congrArg Node.id h.symm)
      obtain ⟨m', hm', hget⟩ := hs.models t ht' htkind
      exact ⟨m', hm', by rw [get?_cons, if_neg hid, hget]⟩
  runnables t ht htkind := by
    have ht' : t ∈ done := mem_of_ne ht fun h => htkind (h ▸ hkind)
    obtain ⟨r, hr, hget⟩ := hs.runnables t ht' htkind
    rw [List.length_append, List.length_singleton]
    exact ⟨r, unfolded?_succ hr, hget⟩

theorem Sound.extend_runnable (hs : Sound provider tools config nodes done built)
    (hkind : n.kind ≠ .llm) {r : Runnable μ}
    (hr : unfolded? provider tools config nodes (done.length + 1) n.id = some r) :
    Sound provider tools config nodes (done ++ [n])
      { built with runnables := (n.id, r) :: built.runnables } where
  models t ht htkind := by
    have ht' : t ∈ done := mem_of_ne ht fun h => hkind (h ▸ htkind)
    exact hs.models t ht' htkind
  runnables t ht htkind := by
    rw [List.length_append, List.length_singleton]
    by_cases hid : n.id = t.id
    · exact ⟨r, hid ▸ hr, by rw [get?_cons, if_pos hid]⟩
    · have ht' : t ∈ done := mem_of_ne ht fun h => hid (congrArg Node.id h.symm)
      obtain ⟨r', hr', hget⟩ := hs.runnables t ht' htkind
      exact ⟨r', unfolded?_succ hr', by rw [get?_cons, if_neg hid, hget]⟩

theorem build_llm {b : Binding} (hb : bindingOf? n = some b) :
    build provider tools config built n =
      match provider b with
      | .ok m => .ok { built with models := (n.id, m) :: built.models }
      | .error e => .error (.modelBinding n.id e.message) := by
  cases hp : provider b with
  | ok m => simp only [build, hb, hp]
  | error e => simp only [build, hb, hp]

theorem build_node (hb : bindingOf? n = none) {r : Runnable μ}
    (hr : assemble tools config built n = .ok r) :
    build provider tools config built n =
      .ok { built with runnables := (n.id, r) :: built.runnables } := by
  rw [build, hb, hr]

/-- One step of building can only fail when a model is refused. -/
theorem build_sound (hs : Sound provider tools config nodes done built) (hready : Ready done n)
    (hn : findNode? nodes n.id = some n) :
    (∃ built', build provider tools config built n = .ok built' ∧
      Sound provider tools config nodes (done ++ [n]) built') ∨
    ∃ b e, bindingOf? n = some b ∧ provider b = .error e ∧
      build provider tools config built n = .error (.modelBinding n.id e.message) := by
  by_cases hkind : n.kind = .llm
  · obtain ⟨b, hb⟩ := bindingOf?_isSome hkind
    have hmodel : modelOf? provider nodes n.id = (provider b).toOption := modelOf?_eq hn hb
    rw [build_llm hb]
    cases hp : provider b with
    | error e => exact .inr ⟨b, e, hb, hp, rfl⟩
    | ok m => exact .inl ⟨_, rfl, hs.extend_model hkind (by rw [hmodel, hp]; rfl)⟩
  · obtain ⟨r, hr, hunfolded⟩ := assemble_ok hs hready hn hkind
    exact .inl ⟨_, build_node (bindingOf?_eq_none hkind) hr, hs.extend_runnable hkind hunfolded⟩

/-- What a list of nodes asks of an order: each node is looked up by its id, and comes after the
nodes it refers to. -/
def Ordered (nodes order : List Node) : Prop :=
  ∀ done n rest, order = done ++ n :: rest → findNode? nodes n.id = some n ∧ Ready done n

theorem buildAll_sound {order : List Node} (horder : Ordered nodes order) {todo : List Node}
    (hsplit : order = done ++ todo) (hs : Sound provider tools config nodes done built) :
    (∃ built', (buildAll provider tools config built todo).result = .ok built' ∧
      Sound provider tools config nodes order built') ∨
    ∃ n ∈ todo, ∃ b e, bindingOf? n = some b ∧ provider b = .error e ∧
      (buildAll provider tools config built todo).result =
        .error (.modelBinding n.id e.message) := by
  -- `order` stays the whole list; what moves from `todo` to `done` has been built soundly.
  induction todo generalizing done built with
  | nil =>
    rw [List.append_nil] at hsplit
    exact .inl ⟨built, rfl, hsplit ▸ hs⟩
  | cons n todo ih =>
    obtain ⟨hn, hready⟩ := horder done n todo hsplit
    rcases build_sound hs hready hn with ⟨built', hbuild, hs'⟩ | ⟨b, e, hb, hp, hbuild⟩
    · have hsplit' : order = (done ++ [n]) ++ todo := by
        rw [hsplit, List.append_assoc, List.singleton_append]
      have hresult : (buildAll provider tools config built (n :: todo)).result =
          (buildAll provider tools config built' todo).result := by
        simp only [buildAll, hbuild]
      rw [hresult]
      refine (ih hsplit' hs').imp_right ?_
      rintro ⟨m, hm, h⟩
      exact ⟨m, List.mem_cons_of_mem _ hm, h⟩
    · refine .inr ⟨n, List.mem_cons_self, b, e, hb, hp, ?_⟩
      simp only [buildAll, hbuild]

theorem ordered_inOrder {c : Checked} (h : WellFormed c.nodes)
    (horder : (dependencyGraph c.nodes).order = .ok c.order) : Ordered c.nodes c.inOrder := by
  intro done n rest hsplit
  have hn : n ∈ c.nodes := (Checked.mem_inOrder h horder).mp (by simp [hsplit])
  exact ⟨(findNode?_eq_some_iff h.nodup).mpr ⟨hn, rfl⟩,
    fun dep hdep => Checked.inOrder_split h horder hsplit hdep⟩

end Compile

end AgentGraph
