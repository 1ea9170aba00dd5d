import AgentGraph.Execute
import AgentGraph.Proofs.Nodes
import AgentGraph.Proofs.Trimmed
import Mathlib.Data.List.Perm.Basic

/-! Building in order, and what is asked for on the way.

* `buildOrder_of_compile`: a graph is built in an order in which every node comes after all that it
  refers to.
* `Wanted`: the models that a graph wants, in the order its nodes are built in.
* `Asks`: models are asked for one after another, up to the first that is refused.
* `Compile.buildAll_congr`: nothing of a provider matters but its answers.
* `effects_gated`: nothing at all happens unless the checks have passed. -/
namespace AgentGraph
set_option autoImplicit false

variable {μ : Type} {provider : Provider μ} {tools : Registry} {config : Config} {entry : String}
  {decls : List NodeDecl} {nodes : List Node} {c : Checked}

/-! ## The order of building -/

namespace Checked.Passed

theorem order_perm (h : Passed entry decls c) : c.order.Perm (decls.map NodeDecl.id) := by
  rw [← h.makes.map_id]
  exact Checked.order_perm h.wellFormed h.order

theorem order_nodup (h : Passed entry decls c) : c.order.Nodup :=
  h.order_perm.nodup_iff.mpr h.acceptable.distinct

theorem idxOf_lt (h : Passed entry decls c) {d : NodeDecl} (hd : d ∈ decls) {field : RefField}
    {id : String} (hrefers : d.Refers field id) :
    id ∈ c.order ∧ c.order.idxOf id < c.order.idxOf d.id := by
  have hmem : ∀ t ∈ decls, t.id ∈ c.order :=
    fun t ht => h.order_perm.mem_iff.mpr (List.mem_map_of_mem ht)
  have hrespects := (Digraph.order_ok h.wellFormed.joined h.order).2.2
  have hedge : (dependencyGraph c.nodes).Edge id d.id :=
    h.makes.edge_iff.mpr ⟨d, hd, rfl, field, hrefers⟩
  obtain ⟨t, ht, rfl, -⟩ := h.acceptable.resolved d hd field id hrefers
  exact ⟨hmem t ht, hrespects.idxOf_lt (hmem d hd) hedge⟩

end Checked.Passed

/-- A compiled graph has its nodes in the order of their declarations, and it was built in an order
in which each of them stands once, strictly after everything that it refers to. -/
theorem buildOrder_of_compile (provider : Provider μ) (tools : Registry) (config : Config)
    (entry : String) (decls : List NodeDecl) (e : Entry μ)
    (he : (compile provider tools config entry decls).result = .ok e) :
    decls.mapM Node.ofDecl = .ok e.nodes ∧ e.nodes.map Node.id = decls.map NodeDecl.id ∧
    e.buildOrder.Perm (decls.map NodeDecl.id) ∧ e.buildOrder.Nodup ∧
    ∀ d ∈ decls, ∀ (field : RefField) (id : String), d.Refers field id →
      id ∈ e.buildOrder ∧ e.buildOrder.idxOf id < e.buildOrder.idxOf d.id := by
  obtain ⟨c, hc, hcompiled⟩ := compiled_of_compile he
  have hp := Checked.passed hc
  rw [hcompiled.nodes, hcompiled.buildOrder]
  refine ⟨mapM_eq_ok_iff.mpr hp.makes, hp.makes.map_id, hp.order_perm, hp.order_nodup, ?_⟩
  intro d hd field id hrefers
  exact hp.idxOf_lt hd hrefers

/-- The model comes before both agents, and these before the parallel that is declared last. -/
theorem buildOrder_duet : Duet.entry.buildOrder.Perm ["model", "first", "second", "entry"] ∧
    Duet.entry.buildOrder = ["model", "second", "first", "entry"] := by
  obtain ⟨-, -, hperm, -⟩ :=
    buildOrder_of_compile (fun _ => .ok ()) [] {} "entry" Duet.decls Duet.entry Duet.compile_decls
  exact ⟨hperm, rfl⟩

/-! ## Wanted models -/

def NodeDecl.binding? (d : NodeDecl) : Option Binding :=
  if d.kind? = some .llm then some d.binding else none

/-- The models that a graph wants when its nodes are built in this order. -/
def wanted (decls : List NodeDecl) (order : List String) : List Binding :=
  order.filterMap fun id => (decls.find? fun d => d.id == id).bind NodeDecl.binding?

namespace NodeDecl

theorem binding?_eq_some_iff {d : NodeDecl} {b : Binding} :
    d.binding? = some b ↔ d.kind? = some .llm ∧ d.binding = b := by
  unfold binding?
  split <;> simp_all

theorem sublist_bindings (decls : List NodeDecl) :
    ((decls.filterMap binding?).map Binding.nodeId).Sublist (decls.map NodeDecl.id) := by
  induction decls with
  | nil => exact List.Sublist.refl _
  | cons d rest ih =>
    cases hb : d.binding? with
    | none =>
      rw [List.filterMap_cons_none hb]
      exact ih.cons d.id
    | some b =>
      obtain ⟨-, rfl⟩ := binding?_eq_some_iff.mp hb
      rw [List.filterMap_cons_some hb]
      exact ih.cons_cons d.id

theorem binding_trimmed {d : NodeDecl} {t : String}
    (h : d.binding.baseUrl = some t ∨ d.binding.modelName = some t) :
    ¬ Text.isBlankText t ∧ Text.trim t = t := by
  rcases h with h | h
  · exact Node.shown_trimmed h
  · exact Node.shown_trimmed h

end NodeDecl

theorem Node.Typed.binding? {d : NodeDecl} {n : Node} (h : Node.Typed d n) :
    Compile.bindingOf? n = d.binding? := by
  rw [h.binding, NodeDecl.binding?, h.kind]
  simp

namespace Makes

theorem bindings (h : Makes decls nodes) :
    nodes.filterMap Compile.bindingOf? = decls.filterMap NodeDecl.binding? := by
  induction h with
  | nil => rfl
  | cons hd _ ih =>
    have hhead := (Node.typed_of_ofDecl hd).binding?
    rw [List.filterMap_cons, List.filterMap_cons, hhead, ih]

theorem find_binding (h : Makes decls nodes) (id : String) :
    (findNode? nodes id).bind Compile.bindingOf? =
      (decls.find? fun d => d.id == id).bind NodeDecl.binding? := by
  induction h with
  | nil => rfl
  | @cons d n _ _ hd _ ih =>
    have ht := Node.typed_of_ofDecl hd
    rw [findNode?] at ih ⊢
    rw [List.find?_cons, List.find?_cons, ht.id]
    cases d.id == id with
    | true => exact ht.binding?
    | false => exact ih

end Makes

namespace Checked.Passed

theorem wanted_eq (h : Passed entry decls c) :
    c.inOrder.filterMap Compile.bindingOf? = wanted decls c.order := by
  rw [inOrder, List.filterMap_filterMap, wanted]
  exact List.filterMap_congr fun id _ => h.makes.find_binding id

theorem wanted_perm (h : Passed entry decls c) :
    (wanted decls c.order).Perm (decls.filterMap NodeDecl.binding?) := by
  have hids : (c.inOrder.map Node.id).Nodup := by
    rw [Checked.map_id_inOrder h.wellFormed h.order]
    exact h.order_nodup
  have hperm : c.inOrder.Perm c.nodes :=
    (List.perm_ext_iff_of_nodup hids.of_map h.wellFormed.nodup.of_map).mpr
      fun n => Checked.mem_inOrder h.wellFormed h.order
  rw [← h.wanted_eq, ← h.makes.bindings]
  exact hperm.filterMap _

theorem wanted_nodup (h : Passed entry decls c) :
    ((wanted decls c.order).map Binding.nodeId).Nodup := by
  have hids : ((decls.filterMap NodeDecl.binding?).map Binding.nodeId).Nodup :=
    h.acceptable.distinct.sublist (NodeDecl.sublist_bindings decls)
  have hperm := h.wanted_perm.map Binding.nodeId
  exact hperm.nodup_iff.mpr hids

end Checked.Passed

/-! ## Asking -/

/-- Models are asked for one after another. All of them are granted; or one is refused, and it is
the last one that is asked for. -/
inductive Asks {α : Type} (provider : Provider μ) (wanted : List Binding)
    (p : Compile.Progress α) : Prop
  | granted (hgranted : ∀ b ∈ wanted, ∃ m, provider b = .ok m) (hbindings : p.bindings = wanted)
      (hresult : ∃ x, p.result = .ok x)
  | refused {before after : List Binding} {b : Binding} {f : Failure}
      (hwanted : wanted = before ++ b :: after) (hgranted : ∀ x ∈ before, ∃ m, provider x = .ok m)
      (hrefused : provider b = .error f) (hbindings : p.bindings = before ++ [b])
      (hresult : p.result = .error (.modelBinding b.nodeId f.message))

namespace Asks

variable {α β : Type} {p : Compile.Progress α} {wanted : List Binding}

theorem subset (h : Asks provider wanted p) : p.bindings ⊆ wanted := by
  cases h with
  | granted _ hbindings _ => exact hbindings ▸ List.Subset.refl _
  | @refused before after b f hwanted _ _ hbindings _ =>
    have hsplit : before ++ b :: after = (before ++ [b]) ++ after := List.append_cons before b after
    rw [hwanted, hbindings, hsplit]
    exact List.subset_append_left _ _

theorem cons (h : Asks provider wanted p) {b : Binding} {m : μ} (hb : provider b = .ok m) :
    Asks provider (b :: wanted) (⟨b :: p.bindings, p.result⟩ : Compile.Progress α) := by
  have hgranted : ∃ m, provider b = .ok m := ⟨m, hb⟩
  cases h with
  | granted hrest hbindings hresult =>
    exact .granted (List.forall_mem_cons.mpr ⟨hgranted, hrest⟩) (congrArg _ hbindings) hresult
  | @refused before after b' f hwanted hbefore hrefused hbindings hresult =>
    have hsplit : b :: wanted = (b :: before) ++ b' :: after := congrArg _ hwanted
    have hall : ∀ x ∈ b :: before, ∃ m, provider x = .ok m :=
      List.forall_mem_cons.mpr ⟨hgranted, hbefore⟩
    exact .refused hsplit hall hrefused (congrArg _ hbindings) hresult

theorem finish (h : Asks provider wanted p) {k : α → Except CompileError β}
    (hk : ∀ x, p.result = .ok x → ∃ y, k x = .ok y) :
    Asks provider wanted (⟨p.bindings, p.result.bind k⟩ : Compile.Progress β) := by
  cases h with
  | granted hgranted hbindings hresult =>
    obtain ⟨x, hx⟩ := hresult
    obtain ⟨y, hy⟩ := hk x hx
    refine .granted hgranted hbindings ⟨y, ?_⟩
    rw [hx]
    exact hy
  | refused hwanted hgranted hrefused hbindings hresult =>
    refine .refused hwanted hgranted hrefused hbindings ?_
    rw [hresult]
    rfl

end Asks

namespace Compile

variable {built : Built μ} {done todo order : List Node} {n : Node}

theorem nodeId_of_bindingOf? {b : Binding} (h : bindingOf? n = some b) : b.nodeId = n.id := by
  obtain ⟨id, name, key, role⟩ := n
  cases role with
  | llm => exact congrArg Binding.nodeId (Option.some.inj h).symm
  | _ => cases h

theorem granted_of_build {b : Binding} (hb : bindingOf? n = some b) {built' : Built μ}
    (h : build provider tools config built n = .ok built') : ∃ m, provider b = .ok m := by
  rw [build_llm hb] at h
  cases hp : provider b with
  | ok m => exact ⟨m, rfl⟩
  | error e =>
    rw [hp] at h
    cases h

theorem buildAll_ok {built' : Built μ} (h : build provider tools config built n = .ok built') :
    buildAll provider tools config built (n :: todo) =
      ⟨(bindingOf? n).toList ++ (buildAll provider tools config built' todo).bindings,
        (buildAll provider tools config built' todo).result⟩ := by
  simp only [buildAll, h]

theorem buildAll_error {e : CompileError} (h : build provider tools config built n = .error e) :
    buildAll provider tools config built (n :: todo) = ⟨(bindingOf? n).toList, .error e⟩ := by
  simp only [buildAll, h]

theorem buildAll_asks (horder : Ordered nodes order) (hsplit : order = done ++ todo)
    (hs : Sound provider tools config nodes done built) :
    Asks provider (todo.filterMap bindingOf?) (buildAll provider tools config built todo) := by
  induction todo generalizing done built with
  | nil =>
    exact .granted (List.forall_mem_nil _) rfl ⟨built, rfl⟩
  | cons n todo ih =>
    obtain ⟨hn, hready⟩ := horder done n todo hsplit
    rcases build_sound hs hready hn with ⟨built', hbuild, hs'⟩ | ⟨b, f, hb, hp, hbuild⟩
    · have hsplit' : order = (done ++ [n]) ++ todo := by
        rw [hsplit, List.append_assoc, List.singleton_append]
      have hrest := ih hsplit' hs'
      rw [buildAll_ok hbuild]
      cases hb : bindingOf? n with
      | none =>
        rw [List.filterMap_cons_none hb]
        exact hrest
      | some b =>
        obtain ⟨m, hm⟩ := granted_of_build hb hbuild
        rw [List.filterMap_cons_some hb]
        exact hrest.cons hm
    · rw [buildAll_error hbuild, hb, List.filterMap_cons_some hb]
      have hsplit : b :: todo.filterMap bindingOf? = [] ++ b :: todo.filterMap bindingOf? := rfl
      refine .refused hsplit (List.forall_mem_nil _) hp rfl ?_
      rw [nodeId_of_bindingOf? hb]

/-- Nothing of a provider matters but what it makes of the models that it is asked for. -/
theorem buildAll_congr {provider' : Provider μ}
    (h : ∀ b ∈ (buildAll provider tools config built todo).bindings, provider' b = provider b) :
    buildAll provider' tools config built todo = buildAll provider tools config built todo := by
  induction todo generalizing built with
  | nil => rfl
  | cons n todo ih =>
    have hasked : ∀ b, bindingOf? n = some b → provider' b = provider b := by
      intro b hb
      apply h
      cases hbuild : build provider tools config built n with
      | ok built' =>
        rw [buildAll_ok hbuild, hb]
        exact List.mem_cons_self
      | error e =>
        rw [buildAll_error hbuild, hb]
        exact List.mem_cons_self
    have hsame : build provider' tools config built n = build provider tools config built n := by
      cases hb : bindingOf? n with
      | some b => rw [build_llm hb, build_llm hb, hasked b hb]
      | none => simp only [build, hb]
    cases hbuild : build provider tools config built n with
    | ok built' =>
      rw [buildAll_ok hbuild] at h ⊢
      have hrest := ih fun b hb => h b (List.mem_append_right _ hb)
      rw [buildAll_ok (hsame.trans hbuild), hrest]
    | error e => rw [buildAll_error hbuild, buildAll_error (hsame.trans hbuild)]

end Compile

/-! ## Compiling -/

theorem bindings_of_rejected {e : CompileError} (h : Checked.ofDecls entry decls = .error e) :
    (compile provider tools config entry decls).bindings = [] := by
  simp only [compile, h]

theorem compile_asks (h : Checked.ofDecls entry decls = .ok c) :
    Asks provider (wanted decls c.order) (compile provider tools config entry decls) := by
  have hp := Checked.passed h
  have hordered := Compile.ordered_inOrder hp.wellFormed hp.order
  have hstart : Compile.Sound provider tools config c.nodes [] {} := Compile.sound_start
  have hasks := Compile.buildAll_asks hordered (List.nil_append _).symm hstart
  rw [hp.wanted_eq] at hasks
  simp only [compile, h]
  refine hasks.finish fun built hbuilt => ?_
  rcases Compile.buildAll_sound hordered (List.nil_append _).symm hstart with
    ⟨built', hbuilt', hs⟩ | ⟨_, _, _, _, _, _, hrefused⟩
  · rw [hbuilt] at hbuilt'
    obtain rfl := Except.ok.inj hbuilt'
    obtain ⟨e, he, -⟩ := Compile.finish_ok hp hs
    exact ⟨e, he⟩
  · rw [hbuilt] at hrefused
    cases hrefused

theorem compile_congr {provider' : Provider μ}
    (h : ∀ b ∈ (compile provider tools config entry decls).bindings, provider' b = provider b) :
    compile provider' tools config entry decls = compile provider tools config entry decls := by
  cases hc : Checked.ofDecls entry decls with
  | error e => simp only [compile, hc]
  | ok c =>
    simp only [compile, hc] at h
    have hsame : Compile.buildAll provider' tools config {} c.inOrder =
        Compile.buildAll provider tools config {} c.inOrder := Compile.buildAll_congr h
    simp only [compile, hc, hsame]

theorem compile_bindings_trimmed {b : Binding}
    (hb : b ∈ (compile provider tools config entry decls).bindings) {t : String}
    (ht : b.baseUrl = some t ∨ b.modelName = some t) : ¬ Text.isBlankText t ∧ Text.trim t = t := by
  cases hc : Checked.ofDecls entry decls with
  | error e =>
    rw [bindings_of_rejected hc] at hb
    cases hb
  | ok c =>
    have hwanted := (compile_asks hc).subset hb
    have hdeclared := (Checked.passed hc).wanted_perm.mem_iff.mp hwanted
    obtain ⟨d, -, hd⟩ := List.mem_filterMap.mp hdeclared
    obtain ⟨-, rfl⟩ := NodeDecl.binding?_eq_some_iff.mp hd
    exact NodeDecl.binding_trimmed ht

/-! ## Running -/

namespace Graph

variable {σ : Type} {g : Graph} {answer : Responder μ σ} {memory : σ} {input : ValueMap}

theorem execute_invalid (h : problems g.entry g.nodes ≠ []) :
    g.execute provider tools config answer memory input =
      ⟨.error (.invalid (problems g.entry g.nodes)), [], .nil, memory⟩ := by
  unfold execute
  split
  · next hnone => exact absurd hnone h
  · rfl

theorem execute_uncompiled (h : problems g.entry g.nodes = []) {e : CompileError}
    (he : (compile provider tools config g.entry g.nodes).result = .error e) :
    g.execute provider tools config answer memory input = ⟨.error (.compile e),
      (compile provider tools config g.entry g.nodes).bindings, .nil, memory⟩ := by
  simp only [execute, h, he]

theorem execute_compiled (h : problems g.entry g.nodes = []) {e : Entry μ}
    (he : (compile provider tools config g.entry g.nodes).result = .ok e) :
    g.execute provider tools config answer memory input = { e.execute answer memory input with
      bindings := (compile provider tools config g.entry g.nodes).bindings } := by
  simp only [execute, h, he]

end Graph

/-- Nothing happens unless the checks allow it. Compiling asks for models only if the graph is
acceptable, and then for those that are declared, each of them once and in the order of building, up
to the first that is refused; this one is named as the reason. Texts that describe a model are
trimmed and never blank. Since no model is asked for twice, it does not matter what a provider
remembers, and what it would have said of others makes no difference. A run asks for models only if
validation finds nothing, and unless the graph is compiled then, it calls no model and reports no
event. -/
theorem effects_gated (provider : Provider μ) (tools : Registry) (config : Config) :
    (∀ (entry : String) (decls : List NodeDecl),
      let p := compile provider tools config entry decls
      (p.bindings ≠ [] → Acceptable entry decls) ∧
      (∀ c, Checked.ofDecls entry decls = .ok c → Asks provider (wanted decls c.order) p ∧
        (wanted decls c.order).Perm (decls.filterMap NodeDecl.binding?) ∧
        ((wanted decls c.order).map Binding.nodeId).Nodup ∧
        ∀ e, p.result = .ok e → e.buildOrder = c.order) ∧
      (∀ b ∈ p.bindings, ∀ t, b.baseUrl = some t ∨ b.modelName = some t →
        ¬ Text.isBlankText t ∧ Text.trim t = t) ∧
      ∀ provider' : Provider μ, (∀ b ∈ p.bindings, provider' b = provider b) →
        compile provider' tools config entry decls = p) ∧
    ∀ (g : Graph) (σ : Type) (answer : Responder μ σ) (memory : σ) (input : ValueMap),
      let p := compile provider tools config g.entry g.nodes
      let x := g.execute provider tools config answer memory input
      (problems g.entry g.nodes ≠ [] →
        x = ⟨.error (.invalid (problems g.entry g.nodes)), [], .nil, memory⟩) ∧
      (problems g.entry g.nodes = [] → x.bindings = p.bindings ∧
        ∀ e, p.result = .error e → x = ⟨.error (.compile e), p.bindings, .nil, memory⟩) := by
  refine ⟨fun entry decls => ⟨fun hne => ?_, fun c hc => ?_, ?_, ?_⟩, ?_⟩
  · cases hc : Checked.ofDecls entry decls with
    | error e => exact absurd (bindings_of_rejected hc) hne
    | ok c => exact (Checked.passed hc).acceptable
  · have hp := Checked.passed hc
    refine ⟨compile_asks hc, hp.wanted_perm, hp.wanted_nodup, fun e he => ?_⟩
    obtain ⟨c', hc', hcompiled⟩ := compiled_of_compile he
    rw [hc] at hc'
    obtain rfl := Except.ok.inj hc'
    exact hcompiled.buildOrder
  · exact fun b hb t ht => compile_bindings_trimmed hb ht
  · exact fun provider' h => compile_congr h
  · intro g σ answer memory input
    refine ⟨fun hfound => Graph.execute_invalid hfound, fun hnone => ⟨?_, fun e he => ?_⟩⟩
    · cases hresult : (compile provider tools config g.entry g.nodes).result with
      | ok e => rw [Graph.execute_compiled hnone hresult]
      | error e => rw [Graph.execute_uncompiled hnone hresult]
    · exact Graph.execute_uncompiled hnone he

end AgentGraph
