import AgentGraph.Proofs.Acceptance
import AgentGraph.Proofs.Unfolding

/-! What compiling comes to.

* `Compiled`: what is known of the entry that a graph which passed is compiled to.
* `compile_of_checked`: such a graph is compiled, or one of its models is refused.
* `compile_isOk_iff_acceptable`: exactly the acceptable graphs whose models are all granted are
  compiled, and nothing is ever missing from what was built. -/
namespace AgentGraph
set_option autoImplicit false

variable {μ : Type} {provider : Provider μ} {tools : Registry} {config : Config} {entry : String}
  {decls : List NodeDecl} {c : Checked}

/-! ## Graphs that passed the checks -/

/-- What a graph that passed is compiled to if all models are granted. -/
structure Compiled (provider : Provider μ) (tools : Registry) (config : Config) (c : Checked)
    (e : Entry μ) : Prop where
  entryId : e.entryId = c.entryId
  nodes : e.nodes = c.nodes
  buildOrder : e.buildOrder = c.order
  granted : ∀ n ∈ c.nodes, ∀ b, Compile.bindingOf? n = some b → ∃ m, provider b = .ok m
  trees : ∀ n ∈ c.nodes, n.kind ≠ .llm →
    ∃ r, unfolded? provider tools config c.nodes c.nodes.length n.id = some r
  runnable : unfolded? provider tools config c.nodes c.nodes.length c.entryId = some e.runnable

namespace Compile

theorem sound_start {nodes : List Node} : Sound provider tools config nodes [] {} where
  models _ hn := nomatch hn
  runnables _ hn := nomatch hn

/-- A model that stands for a node was granted. -/
theorem granted_of_modelOf? {nodes : List Node} {n : Node} (hn : findNode? nodes n.id = some n)
    {b : Binding} (hb : bindingOf? n = some b) {m : μ}
    (hm : modelOf? provider nodes n.id = some m) : provider b = .ok m := by
  rw [modelOf?_eq hn hb] at hm
  cases hp : provider b with
  | error e =>
    rw [hp] at hm
    cases hm
  | ok m' =>
    rw [hp] at hm
    rw [Option.some.inj hm]

/-- Once everything is built, all models have been granted. -/
theorem Sound.granted (hp : Checked.Passed entry decls c) {built : Built μ}
    (hs : Sound provider tools config c.nodes c.inOrder built) {n : Node} (hn : n ∈ c.nodes)
    {b : Binding} (hb : bindingOf? n = some b) : ∃ m, provider b = .ok m := by
  have hkind : n.kind = .llm := by
    by_contra h
    rw [bindingOf?_eq_none h] at hb
    cases hb
  obtain ⟨m, hm, -⟩ := hs.models n ((Checked.mem_inOrder hp.wellFormed hp.order).mpr hn) hkind
  have hfind : findNode? c.nodes n.id = some n :=
    (findNode?_eq_some_iff hp.wellFormed.nodup).mpr ⟨hn, rfl⟩
  exact ⟨m, granted_of_modelOf? hfind hb hm⟩

/-- Once everything is built, the entry is among it. -/
theorem finish_ok (hp : Checked.Passed entry decls c) {built : Built μ}
    (hs : Sound provider tools config c.nodes c.inOrder built) :
    ∃ e, finish c built = .ok e ∧ Compiled provider tools config c e := by
  obtain ⟨n, hn, hid, hentry⟩ := hp.entryNode
  have hkind : n.kind ≠ .llm := by
    intro h
    rw [h] at hentry
    cases hentry
  have hmem {t : Node} : t ∈ c.inOrder ↔ t ∈ c.nodes := Checked.mem_inOrder hp.wellFormed hp.order
  have hlength := Checked.length_inOrder hp.wellFormed hp.order
  obtain ⟨r, hr, hget⟩ := hs.runnables n (hmem.mpr hn) hkind
  rw [hid, hlength] at hr
  rw [hid] at hget
  refine ⟨⟨r, c.entryId, c.nodes, c.order⟩, by rw [finish, hget], rfl, rfl, rfl, ?_, ?_, hr⟩
  · exact fun t ht b hb => hs.granted hp ht hb
  · intro t ht htkind
    obtain ⟨r, hr, -⟩ := hs.runnables t (hmem.mpr ht) htkind
    rw [hlength] at hr
    exact ⟨r, hr⟩

end Compile

/-- A graph that passed is compiled, or one of its models is refused. -/
theorem compile_of_checked (h : Checked.ofDecls entry decls = .ok c) :
    (∃ e, (compile provider tools config entry decls).result = .ok e ∧
      Compiled provider tools config c e) ∨
    ∃ n ∈ c.nodes, ∃ b e, Compile.bindingOf? n = some b ∧ provider b = .error e ∧
      (compile provider tools config entry decls).result =
        .error (.modelBinding n.id e.message) := by
  have hp := Checked.passed h
  have hresult : (compile provider tools config entry decls).result =
      (Compile.buildAll provider tools config {} c.inOrder).result.bind (Compile.finish c) := by
    simp only [compile, h]
  rw [hresult]
  have hordered : Compile.Ordered c.nodes c.inOrder :=
    Compile.ordered_inOrder hp.wellFormed hp.order
  have hstart : Compile.Sound provider tools config c.nodes [] {} := Compile.sound_start
  rcases Compile.buildAll_sound hordered (List.nil_append _).symm hstart with
    ⟨built, hbuilt, hs⟩ | ⟨n, hn, b, e, hb, he, hbuilt⟩
  · obtain ⟨e, he, hcompiled⟩ := Compile.finish_ok hp hs
    rw [hbuilt]
    exact .inl ⟨e, he, hcompiled⟩
  · rw [hbuilt]
    have hmem : n ∈ c.nodes := (Checked.mem_inOrder hp.wellFormed hp.order).mp hn
    exact .inr ⟨n, hmem, b, e, hb, he, rfl⟩

theorem compile_of_rejected {e : CompileError} (h : Checked.ofDecls entry decls = .error e) :
    (compile provider tools config entry decls).result = .error e := by
  simp only [compile, h]

theorem compiled_of_compile {e : Entry μ}
    (h : (compile provider tools config entry decls).result = .ok e) :
    ∃ c, Checked.ofDecls entry decls = .ok c ∧ Compiled provider tools config c e := by
  cases hc : Checked.ofDecls entry decls with
  | error e' =>
    rw [compile_of_rejected hc] at h
    cases h
  | ok c =>
    rcases compile_of_checked hc with ⟨e', he', hcompiled⟩ | ⟨_, _, _, _, _, _, he'⟩
    · rw [he'] at h
      exact ⟨c, rfl, Except.ok.inj h ▸ hcompiled⟩
    · rw [he'] at h
      cases h

/-- Every error is one of the checks, or the refusal of a model. -/
theorem compile_error {e : CompileError}
    (h : (compile provider tools config entry decls).result = .error e) :
    Rejects entry decls e ∨ ∃ id message, e = .modelBinding id message := by
  cases hc : Checked.ofDecls entry decls with
  | error e' =>
    rw [compile_of_rejected hc] at h
    exact .inl (Except.error.inj h ▸ Checked.ofDecls_error hc)
  | ok c =>
    rcases compile_of_checked hc with ⟨_, he', _⟩ | ⟨n, _, _, f, _, _, he'⟩
    · rw [he'] at h
      cases h
    · rw [he'] at h
      exact .inr ⟨n.id, f.message, (Except.error.inj h).symm⟩

/-! ## Which graphs can be compiled -/

/-- A model is granted to a node if and only if it is granted to its declaration. -/
theorem Makes.granted_iff {nodes : List Node} (h : Makes decls nodes) :
    (∀ n ∈ nodes, ∀ b, Compile.bindingOf? n = some b → ∃ m, provider b = .ok m) ↔
      ∀ d ∈ decls, d.kind? = some .llm → ∃ m, provider d.binding = .ok m := by
  constructor
  · intro hgranted d hd hkind
    obtain ⟨n, hn, ht⟩ := h.node hd
    have hllm : n.kind = .llm := Option.some.inj (ht.kind.symm.trans hkind)
    exact hgranted n hn d.binding (by rw [ht.binding, if_pos hllm])
  · intro hgranted n hn b hb
    obtain ⟨d, hd, ht⟩ := h.decl hn
    by_cases hllm : n.kind = .llm
    · rw [ht.binding, if_pos hllm, Option.some.injEq] at hb
      exact hb ▸ hgranted d hd (ht.kind.trans (congrArg some hllm))
    · rw [ht.binding, if_neg hllm] at hb
      cases hb

theorem compile_isOk_iff : (∃ e, (compile provider tools config entry decls).result = .ok e) ↔
    Acceptable entry decls ∧
      ∀ d ∈ decls, d.kind? = some .llm → ∃ m, provider d.binding = .ok m := by
  constructor
  · rintro ⟨e, he⟩
    obtain ⟨c, hc, hcompiled⟩ := compiled_of_compile he
    have hp := Checked.passed hc
    exact ⟨hp.acceptable, hp.makes.granted_iff.mp hcompiled.granted⟩
  · rintro ⟨haccept, hgranted⟩
    obtain ⟨c, hc⟩ := Checked.ofDecls_isOk_iff.mpr haccept
    have hp := Checked.passed hc
    rcases compile_of_checked hc with ⟨e, he, _⟩ | ⟨n, hn, b, f, hb, hrefused, _⟩
    · exact ⟨e, he⟩
    · obtain ⟨m, hm⟩ := hp.makes.granted_iff.mpr hgranted n hn b hb
      rw [hm] at hrefused
      cases hrefused

/-- Exactly the acceptable graphs whose models are all granted can be compiled, and nothing that a
node refers to is ever missing from what was built before it. -/
theorem compile_isOk_iff_acceptable (provider : Provider μ) (tools : Registry) (config : Config)
    (entry : String) (decls : List NodeDecl) :
    ((∃ e, (compile provider tools config entry decls).result = .ok e) ↔
      Acceptable entry decls ∧
        ∀ d ∈ decls, d.kind? = some .llm → ∃ m, provider d.binding = .ok m) ∧
    ∀ id, (compile provider tools config entry decls).result ≠ .error (.notBuilt id) := by
  refine ⟨compile_isOk_iff, fun id h => ?_⟩
  rcases compile_error h with hrejects | ⟨_, _, he⟩
  · cases hrejects
  · cases he

end AgentGraph
