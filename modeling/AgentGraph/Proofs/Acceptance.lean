import AgentGraph.Proofs.Unfolding

/-! Which graphs pass the checks.

* `Acceptable`: what a graph must be like, said of its declarations alone.
* `ofDecls_isOk_iff`: exactly the acceptable graphs pass.
* `Rejects`: the errors of the checks, each with the reason for it.
* `ofDecls_error`: what does not pass is rejected for the reason that is given. -/
namespace AgentGraph
open Relation
set_option autoImplicit false

variable {entry : String} {decls : List NodeDecl} {nodes : List Node}

/-- Some node declared as `x` refers to `y`. -/
def RefersTo (decls : List NodeDecl) (x y : String) : Prop :=
  ∃ d ∈ decls, d.id = x ∧ ∃ field, d.Refers field y

structure Acceptable (entry : String) (decls : List NodeDecl) : Prop where
  entry : ∃ d ∈ decls, d.id = Text.trim entry ∧
    (d.kind? = some .sequence ∨ d.kind? = some .parallel ∨ d.kind? = some .supervisor)
  complete : ∀ d ∈ decls, ∃ kind, d.kind? = some kind ∧ d.Complete kind
  distinct : (decls.map NodeDecl.id).Nodup
  /-- Models are referred to as models, and all other nodes as nodes that can be run. -/
  resolved : ∀ d ∈ decls, ∀ field id, d.Refers field id →
    ∃ t ∈ decls, t.id = id ∧ ∃ kind, t.kind? = some kind ∧ (field = .llmId ↔ kind = .llm)
  acyclic : ∀ id, ¬ TransGen (RefersTo decls) id id

/-! ## Declarations and nodes side by side -/

/-- The nodes that the declarations make. -/
abbrev Makes (decls : List NodeDecl) (nodes : List Node) : Prop :=
  List.Forall₂ (fun d n => Node.ofDecl d = .ok n) decls nodes

theorem Makes.map_id (h : Makes decls nodes) : nodes.map Node.id = decls.map NodeDecl.id := by
  induction h with
  | nil => rfl
  | cons hd _ ih => rw [List.map_cons, List.map_cons, ih, (Node.typed_of_ofDecl hd).id]

theorem Makes.node (h : Makes decls nodes) {d : NodeDecl} (hd : d ∈ decls) :
    ∃ n ∈ nodes, Node.Typed d n := by
  obtain ⟨n, hn, hok⟩ := forall₂_mem_left h hd
  exact ⟨n, hn, Node.typed_of_ofDecl hok⟩

theorem Makes.decl (h : Makes decls nodes) {n : Node} (hn : n ∈ nodes) :
    ∃ d ∈ decls, Node.Typed d n := by
  obtain ⟨d, hd, hok⟩ := forall₂_mem_right h hn
  exact ⟨d, hd, Node.typed_of_ofDecl hok⟩

theorem accepts_target_iff {field : RefField} {kind : NodeKind} :
    field.target.accepts kind ↔ (field = .llmId ↔ kind = .llm) := by
  cases field <;> cases kind <;> decide

theorem isEntry_iff {kind : NodeKind} :
    kind.isEntry ↔ kind = .sequence ∨ kind = .parallel ∨ kind = .supervisor := by
  cases kind <;> decide

theorem Makes.edge_iff (h : Makes decls nodes) {x y : String} :
    (dependencyGraph nodes).Edge y x ↔ RefersTo decls x y := by
  rw [AgentGraph.edge_iff]
  constructor
  · rintro ⟨n, hn, rfl, dep, hdep, rfl⟩
    obtain ⟨d, hd, ht⟩ := h.decl hn
    exact ⟨d, hd, ht.id.symm, dep.field, ((ht.dependencies dep).mp hdep).2⟩
  · rintro ⟨d, hd, rfl, field, hrefers⟩
    obtain ⟨n, hn, ht⟩ := h.node hd
    exact ⟨n, hn, ht.id, ⟨field, y, field.target⟩, (ht.dependencies _).mpr ⟨rfl, hrefers⟩, rfl⟩

theorem Makes.edge_eq (h : Makes decls nodes) :
    (dependencyGraph nodes).Edge = Function.swap (RefersTo decls) := by
  funext y x
  exact propext h.edge_iff

theorem Makes.acyclic_iff (h : Makes decls nodes) :
    (dependencyGraph nodes).Acyclic ↔ ∀ id, ¬ TransGen (RefersTo decls) id id := by
  simp only [Digraph.Acyclic, h.edge_eq, transGen_swap]

theorem Makes.resolved_iff (h : Makes decls nodes) :
    (∀ n ∈ nodes, ∀ dep ∈ n.dependencies,
      ∃ t ∈ nodes, t.id = dep.id ∧ dep.target.accepts t.kind) ↔
    ∀ d ∈ decls, ∀ field id, d.Refers field id →
      ∃ t ∈ decls, t.id = id ∧ ∃ kind, t.kind? = some kind ∧ (field = .llmId ↔ kind = .llm) := by
  constructor
  · intro hres d hd field id hrefers
    obtain ⟨n, hn, ht⟩ := h.node hd
    obtain ⟨m, hm, hid, haccepts⟩ :=
      hres n hn ⟨field, id, field.target⟩ ((ht.dependencies _).mpr ⟨rfl, hrefers⟩)
    obtain ⟨t, ht, htm⟩ := h.decl hm
    exact ⟨t, ht, htm.id ▸ hid, m.kind, htm.kind, accepts_target_iff.mp haccepts⟩
  · intro hres n hn dep hdep
    obtain ⟨d, hd, ht⟩ := h.decl hn
    obtain ⟨htarget, hrefers⟩ := (ht.dependencies dep).mp hdep
    obtain ⟨t, htmem, hid, kind, hkind, hiff⟩ := hres d hd dep.field dep.id hrefers
    obtain ⟨m, hm, htm⟩ := h.node htmem
    have hsame : kind = m.kind := Option.some.inj (hkind.symm.trans htm.kind)
    exact ⟨m, hm, htm.id.trans hid, htarget ▸ accepts_target_iff.mpr (hsame ▸ hiff)⟩

theorem Makes.wellFormed_iff (h : Makes decls nodes) : WellFormed nodes ↔
    (decls.map NodeDecl.id).Nodup ∧
    (∀ d ∈ decls, ∀ field id, d.Refers field id →
      ∃ t ∈ decls, t.id = id ∧ ∃ kind, t.kind? = some kind ∧ (field = .llmId ↔ kind = .llm)) ∧
    ∀ id, ¬ TransGen (RefersTo decls) id id := by
  rw [← h.map_id, ← h.resolved_iff, ← h.acyclic_iff]
  exact ⟨fun hw => ⟨hw.nodup, hw.resolved, hw.acyclic⟩, fun ⟨h1, h2, h3⟩ => ⟨h1, h2, h3⟩⟩

/-! ## The checks -/

namespace Checked

theorem entry_eq_ok_iff {id : String} : Checked.entry entry decls = .ok id ↔
    id = Text.trim entry ∧ ∃ d, decls.find? (fun d => d.id == Text.trim entry) = some d ∧
      ∀ kind, d.kind? = some kind → kind.isEntry := by
  unfold Checked.entry
  dsimp only
  split
  · next h => simp [h]
  · next d hd =>
    rw [hd]
    simp only [Option.some.injEq, exists_eq_left']
    split
    · next hkind =>
      rw [hkind, Except.ok.injEq]
      exact ⟨fun h => ⟨h.symm, by simp⟩, fun h => h.1.symm⟩
    · next kind hkind =>
      rw [hkind]
      simp only [Option.some.injEq, forall_eq']
      split
      · next hentry =>
        rw [Except.ok.injEq]
        exact ⟨fun h => ⟨h.symm, hentry⟩, fun h => h.1.symm⟩
      · next hentry => exact ⟨fun h => (nomatch h), fun h => absurd h.2 hentry⟩

theorem ofDecls_eq_ok_iff {c : Checked} : ofDecls entry decls = .ok c ↔
    ∃ id nodes, Checked.entry entry decls = .ok id ∧ Makes decls nodes ∧
      ofNodes id nodes = .ok c := by
  unfold ofDecls
  simp only [Makes, ← mapM_eq_ok_iff]
  cases Checked.entry entry decls with
  | error e => simp
  | ok id => cases decls.mapM Node.ofDecl <;> simp

/-- What is known of a graph that passed. -/
structure Passed (entry : String) (decls : List NodeDecl) (c : Checked) : Prop where
  entryId : c.entryId = Text.trim entry
  makes : Makes decls c.nodes
  wellFormed : WellFormed c.nodes
  order : (dependencyGraph c.nodes).order = .ok c.order
  entryNode : ∃ n ∈ c.nodes, n.id = c.entryId ∧ n.kind.isEntry

theorem passed {c : Checked} (h : ofDecls entry decls = .ok c) : Passed entry decls c := by
  obtain ⟨id, nodes, hentry, hmakes, hnodes⟩ := ofDecls_eq_ok_iff.mp h
  obtain ⟨rfl, d, hd, hkind⟩ := entry_eq_ok_iff.mp hentry
  obtain ⟨hid, rfl, hw, horder⟩ := ofNodes_ok hnodes
  have hdid : d.id = Text.trim entry := by simpa using List.find?_some hd
  obtain ⟨n, hn, ht⟩ := hmakes.node (List.mem_of_find?_eq_some hd)
  exact ⟨hid, hmakes, hw, horder, n, hn, by rw [ht.id, hdid, hid], hkind _ ht.kind⟩

theorem Passed.acceptable {c : Checked} (h : Passed entry decls c) : Acceptable entry decls := by
  obtain ⟨hdistinct, hresolved, hacyclic⟩ := h.makes.wellFormed_iff.mp h.wellFormed
  refine ⟨?_, fun d hd => ?_, hdistinct, hresolved, hacyclic⟩
  · obtain ⟨n, hn, hid, hentry⟩ := h.entryNode
    obtain ⟨d, hd, ht⟩ := h.makes.decl hn
    refine ⟨d, hd, by rw [← ht.id, hid, h.entryId], ?_⟩
    rw [ht.kind]
    simpa using isEntry_iff.mp hentry
  · obtain ⟨n, -, ht⟩ := h.makes.node hd
    exact ⟨n.kind, ht.kind, ht.complete⟩

/-- Of the nodes with one id there is at most one. -/
theorem find?_eq_some (hdistinct : (decls.map NodeDecl.id).Nodup) {d : NodeDecl} (hd : d ∈ decls) :
    decls.find? (fun t => t.id == d.id) = some d := by
  cases hfound : decls.find? (fun t => t.id == d.id) with
  | none => exact absurd (List.find?_eq_none.mp hfound d hd) (by simp)
  | some t =>
    have ht : t ∈ decls := List.mem_of_find?_eq_some hfound
    have hid : t.id = d.id := by simpa using List.find?_some hfound
    rw [List.inj_on_of_nodup_map hdistinct ht hd hid]

theorem ofDecls_isOk_iff : (∃ c, ofDecls entry decls = .ok c) ↔ Acceptable entry decls := by
  refine ⟨fun ⟨c, h⟩ => (passed h).acceptable, fun h => ?_⟩
  obtain ⟨d, hd, hid, hkind⟩ := h.entry
  have hentry : Checked.entry entry decls = .ok (Text.trim entry) := by
    refine entry_eq_ok_iff.mpr ⟨rfl, d, hid ▸ find?_eq_some h.distinct hd, fun kind hk => ?_⟩
    rw [hk] at hkind
    simpa [isEntry_iff] using hkind
  have hmakes : ∃ nodes, Makes decls nodes :=
    exists_forall₂ fun d hd => Node.ofDecl_isOk_iff.mpr (h.complete d hd)
  obtain ⟨nodes, hmakes⟩ := hmakes
  have hwell : WellFormed nodes :=
    hmakes.wellFormed_iff.mpr ⟨h.distinct, h.resolved, h.acyclic⟩
  obtain ⟨c, hc⟩ : ∃ c, ofNodes (Text.trim entry) nodes = .ok c := ofNodes_isOk_iff.mpr hwell
  exact ⟨c, ofDecls_eq_ok_iff.mpr ⟨_, _, hentry, hmakes, hc⟩⟩

/-! ## The errors of the checks -/

end Checked

/-- The errors that keep a graph from passing, each with what is wrong with the graph then. -/
inductive Rejects (entry : String) (decls : List NodeDecl) : CompileError → Prop
  | entryNotFound (hnone : ∀ d ∈ decls, d.id ≠ Text.trim entry) :
    Rejects entry decls (.entryNotFound (Text.trim entry))
  | invalidEntryType {d : NodeDecl} {kind : NodeKind}
      (hfound : decls.find? (fun d => d.id == Text.trim entry) = some d)
      (hkind : d.kind? = some kind) (hentry : ¬ kind.isEntry) :
    Rejects entry decls (.invalidEntryType (Text.trim entry) kind.name)
  | unknownNodeType {d : NodeDecl} (hd : d ∈ decls) (hkind : d.kind? = none) :
    Rejects entry decls (.unknownNodeType d.id d.typeName)
  | missingField {d : NodeDecl} (hd : d ∈ decls) (field : RefField) :
    Rejects entry decls (.missingField d.id field.name)
  | duplicateNodeId (id : String) (hdistinct : ¬ (decls.map NodeDecl.id).Nodup) :
    Rejects entry decls (.duplicateNodeId id)
  | unresolvedReference {d : NodeDecl} {field : RefField} {id : String} (hd : d ∈ decls)
      (hrefers : d.Refers field id) (hnone : ∀ t ∈ decls, t.id ≠ id) :
    Rejects entry decls (.unresolvedReference d.id field.name id)
  | wrongReferenceKind {d : NodeDecl} {field : RefField} {id : String} (hd : d ∈ decls)
      (hrefers : d.Refers field id) :
    Rejects entry decls (.wrongReferenceKind d.id field.name id field.target.describe)
  | cyclicDependency {id : String} (hcycle : TransGen (RefersTo decls) id id) :
    Rejects entry decls (.cyclicDependency id)

namespace Checked

theorem entry_error {e : CompileError} (h : Checked.entry entry decls = .error e) :
    Rejects entry decls e := by
  unfold Checked.entry at h
  dsimp only at h
  split at h
  · next hfound =>
    obtain rfl := Except.error.inj h
    exact .entryNotFound fun d hd => by simpa using List.find?_eq_none.mp hfound d hd
  · next d hfound =>
    split at h
    · cases h
    · next kind hkind =>
      split at h
      · cases h
      · next hentry =>
        obtain rfl := Except.error.inj h
        exact .invalidEntryType hfound hkind hentry

theorem referenceError_rejects (hmakes : Makes decls nodes) {n : Node} (hn : n ∈ nodes)
    {dep : Node.Dependency} (hdep : dep ∈ n.dependencies) {e : CompileError}
    (h : referenceError? nodes n dep = some e) : Rejects entry decls e := by
  obtain ⟨d, hd, ht⟩ := hmakes.decl hn
  obtain ⟨htarget, hrefers⟩ := (ht.dependencies dep).mp hdep
  rcases referenceError?_eq_some h with ⟨hnone, rfl⟩ | rfl
  · rw [ht.id]
    refine .unresolvedReference hd hrefers fun t htmem hid => ?_
    obtain ⟨m, hm, htm⟩ := hmakes.node htmem
    exact hnone m hm (htm.id.trans hid)
  · rw [ht.id, htarget]
    exact .wrongReferenceKind hd hrefers

theorem ofNodes_rejects (hmakes : Makes decls nodes) {id : String} {e : CompileError}
    (h : ofNodes id nodes = .error e) : Rejects entry decls e := by
  rcases ofNodes_error h with ⟨x, hdistinct, rfl⟩ | ⟨n, hn, dep, hdep, he⟩ | ⟨x, hcycle, rfl⟩
  · exact .duplicateNodeId x (hmakes.map_id ▸ hdistinct)
  · exact referenceError_rejects hmakes hn hdep he
  · rw [hmakes.edge_eq, transGen_swap] at hcycle
    exact .cyclicDependency hcycle

theorem ofDecls_error {e : CompileError} (h : ofDecls entry decls = .error e) :
    Rejects entry decls e := by
  unfold ofDecls at h
  split at h
  · next he =>
    obtain rfl := Except.error.inj h
    exact entry_error he
  · split at h
    · next he =>
      obtain rfl := Except.error.inj h
      obtain ⟨d, hd, hnode⟩ := mapM_eq_error he
      rcases Node.ofDecl_eq_error hnode with ⟨hkind, rfl⟩ | ⟨field, rfl⟩
      · exact .unknownNodeType hd hkind
      · exact .missingField hd field
    · next nodes hnodes => exact ofNodes_rejects (mapM_eq_ok_iff.mp hnodes) h

end Checked

end AgentGraph
