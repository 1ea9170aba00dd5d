import AgentGraph.Compile
import AgentGraph.Graph.Problem
import AgentGraph.Proofs.Trimmed
import Mathlib.Data.List.Forall2

/-! Declarations and the nodes they make.

* `Complete`: a declaration has what its kind needs.
* `Refers`: a declaration names another node in a field that its kind uses.
* `ofDecl_isOk_iff`: a declaration makes a node exactly if it is complete for a known kind.
* `Typed`: what the node has in common with its declaration. -/
namespace AgentGraph
set_option autoImplicit false

/-! ## Traversals that may fail -/

section Traversal
variable {α β ε : Type} {R : α → β → Prop} {f : α → Except ε β} {xs : List α} {ys : List β}

theorem forall₂_mem_left (h : List.Forall₂ R xs ys) {x : α} (hx : x ∈ xs) : ∃ y ∈ ys, R x y := by
  induction h with
  | nil => cases hx
  | cons hxy _ ih =>
    rcases List.mem_cons.mp hx with rfl | hx
    · exact ⟨_, List.mem_cons_self, hxy⟩
    · obtain ⟨y, hy, hR⟩ := ih hx
      exact ⟨y, List.mem_cons_of_mem _ hy, hR⟩

theorem forall₂_mem_right (h : List.Forall₂ R xs ys) {y : β} (hy : y ∈ ys) : ∃ x ∈ xs, R x y :=
  forall₂_mem_left (R := fun y x => R x y) h.flip hy

/-- The images of both lists under a view in which they agree. -/
theorem exists_mem_right_iff {γ : Type} {f : α → Option γ} {g : β → γ}
    (h : List.Forall₂ (fun x y => f x = some (g y)) xs ys) {z : γ} :
    (∃ y ∈ ys, g y = z) ↔ ∃ x ∈ xs, f x = some z := by
  constructor
  · rintro ⟨y, hy, rfl⟩
    exact forall₂_mem_right h hy
  · rintro ⟨x, hx, hz⟩
    obtain ⟨y, hy, hxy⟩ := forall₂_mem_left h hx
    rw [hz, Option.some.injEq] at hxy
    exact ⟨y, hy, hxy.symm⟩

theorem exists_forall₂ (h : ∀ x ∈ xs, ∃ y, R x y) : ∃ ys, List.Forall₂ R xs ys := by
  induction xs with
  | nil => exact ⟨[], .nil⟩
  | cons x xs ih =>
    obtain ⟨y, hy⟩ := h x List.mem_cons_self
    obtain ⟨ys, hys⟩ := ih fun x hx => h x (List.mem_cons_of_mem _ hx)
    exact ⟨y :: ys, .cons hy hys⟩

theorem bind_eq_ok_iff {p : Except ε α} {k : α → Except ε β} {y : β} :
    p >>= k = .ok y ↔ ∃ x, p = .ok x ∧ k x = .ok y := by
  cases p <;> simp [bind, Except.bind]

theorem bind_eq_error_iff {p : Except ε α} {k : α → Except ε β} {e : ε} :
    p >>= k = .error e ↔ p = .error e ∨ ∃ x, p = .ok x ∧ k x = .error e := by
  cases p <;> simp [bind, Except.bind]

/-- Going on from a step that may fail to one that cannot. -/
theorem bind_pure_eq_ok_iff {p : Except ε α} {k : α → β} {y : β} :
    (do return k (← p) : Except ε β) = .ok y ↔ ∃ x, p = .ok x ∧ k x = y := by
  rw [bind_eq_ok_iff]
  exact exists_congr fun x => and_congr_right fun _ => ⟨Except.ok.inj, congrArg Except.ok⟩

theorem bind_pure_eq_error_iff {p : Except ε α} {k : α → β} {e : ε} :
    (do return k (← p) : Except ε β) = .error e ↔ p = .error e := by
  cases p <;> simp [bind, Except.bind, pure, Except.pure]

theorem mapM_eq_ok_iff : xs.mapM f = .ok ys ↔ List.Forall₂ (fun x y => f x = .ok y) xs ys := by
  induction xs generalizing ys with
  | nil =>
    rw [List.mapM_nil, List.forall₂_nil_left_iff]
    exact ⟨fun h => (Except.ok.inj h).symm, fun h => h ▸ rfl⟩
  | cons x xs ih =>
    rw [List.mapM_cons, bind_eq_ok_iff, List.forall₂_cons_left_iff]
    refine exists_congr fun y => ?_
    rw [bind_pure_eq_ok_iff]
    constructor
    · rintro ⟨hx, zs, hxs, rfl⟩
      exact ⟨zs, hx, ih.mp hxs, rfl⟩
    · rintro ⟨zs, hx, hxs, rfl⟩
      exact ⟨hx, zs, ih.mpr hxs, rfl⟩

/-- A traversal that fails does so at some member. -/
theorem mapM_eq_error {e : ε} (h : xs.mapM f = .error e) : ∃ x ∈ xs, f x = .error e := by
  induction xs with
  | nil => cases h
  | cons x xs ih =>
    rw [List.mapM_cons] at h
    cases hx : f x with
    | error e' =>
      rw [hx] at h
      obtain rfl := Except.error.inj h
      exact ⟨x, List.mem_cons_self, hx⟩
    | ok y =>
      rw [hx] at h
      cases hxs : xs.mapM f with
      | error e' =>
        rw [hxs] at h
        obtain ⟨z, hz, hf⟩ := ih (hxs.trans h)
        exact ⟨z, List.mem_cons_of_mem _ hz, hf⟩
      | ok zs =>
        rw [hxs] at h
        cases h

end Traversal

/-! ## What a declaration needs and names -/

/-- The kinds of nodes that use a field. -/
def RefField.usedBy : RefField → NodeKind → Bool
  | .llmId, .agent | .llmId, .supervisor => true
  | .subAgentIds, .sequence | .subAgentIds, .parallel | .subAgentIds, .supervisor => true
  | .routerAgentId, .conditional | .branches, .conditional => true
  | _, _ => false

/-- What a field must lead to. -/
def RefField.target : RefField → Target
  | .llmId => .model
  | _ => .executable

namespace NodeDecl

/-- The declaration has what a node of this kind needs. -/
structure Complete (d : NodeDecl) (kind : NodeKind) : Prop where
  llm : RefField.llmId.usedBy kind → ∃ id, d.llmId = some id ∧ ¬ Text.isBlankText id
  subAgents : RefField.subAgentIds.usedBy kind →
    d.subAgentIds ≠ [] ∧ ∀ id ∈ d.subAgentIds, ¬ Text.isBlankText id
  branches : RefField.branches.usedBy kind →
    d.branches ≠ [] ∧ ∀ b ∈ d.branches, ¬ Text.isBlankText b.agentId

/-- The declaration names `id` in a field. Blanks around the name do not count, and a blank name
is none. -/
def Names (d : NodeDecl) (field : RefField) (id : String) : Prop :=
  ∃ raw, (field, raw) ∈ d.references ∧ Text.visible? raw = some id

/-- The declaration names `id` in a field that its kind uses. -/
def Refers (d : NodeDecl) (field : RefField) (id : String) : Prop :=
  ∃ kind, d.kind? = some kind ∧ field.usedBy kind ∧ d.Names field id

/-- The model that the declaration of a model asks for. -/
def binding (d : NodeDecl) : Binding :=
  ⟨d.id, Node.shown d.baseUrl, Node.shown d.modelName, d.temperature, d.maxTokens⟩

variable {d : NodeDecl}

theorem names_llmId {id : String} : d.Names .llmId id ↔ Node.shown d.llmId = some id := by
  simp [Names, references, Node.shown, Option.bind_eq_some_iff]

theorem names_subAgentIds {id : String} :
    d.Names .subAgentIds id ↔ ∃ raw ∈ d.subAgentIds, Text.visible? raw = some id := by
  simp [Names, references]

theorem names_routerAgentId {id : String} :
    d.Names .routerAgentId id ↔ Node.shown d.routerAgentId = some id := by
  simp [Names, references, Node.shown, Option.bind_eq_some_iff]

theorem names_branches {id : String} :
    d.Names .branches id ↔ ∃ b ∈ d.branches, Text.visible? b.agentId = some id := by
  simp [Names, references]

theorem refers_iff {kind : NodeKind} (hkind : d.kind? = some kind) {field : RefField}
    {id : String} : d.Refers field id ↔ field.usedBy kind ∧ d.Names field id := by
  simp [Refers, hkind]

end NodeDecl

/-! ## Roles -/

namespace Node

/-- The roles that a declaration can make. -/
inductive Role.From (d : NodeDecl) : Role → Prop
  | llm : From d (.llm (shown d.baseUrl) (shown d.modelName) d.temperature d.maxTokens)
  | agent {llmId : String} (hllm : shown d.llmId = some llmId) :
    From d (.agent llmId (systemMessage d) (d.promptTemplate.filter fun t => !Text.isBlankText t)
      d.permittedToolIds)
  | sequence {ids : List String} (hne : d.subAgentIds ≠ [])
      (hids : List.Forall₂ (fun raw id => Text.visible? raw = some id) d.subAgentIds ids) :
    From d (.sequence ids)
  | parallel {ids : List String} (hne : d.subAgentIds ≠ [])
      (hids : List.Forall₂ (fun raw id => Text.visible? raw = some id) d.subAgentIds ids) :
    From d (.parallel ids (d.threadPoolSize.filter (0 < ·)))
  | conditional {branches : List (Condition × String)} (hne : d.branches ≠ [])
      (hbranches : List.Forall₂ (fun b c => c.1 = ⟨b.conditionKey, b.value⟩ ∧
        Text.visible? b.agentId = some c.2) d.branches branches) :
    From d (.conditional (shown d.routerAgentId) branches)
  | supervisor {llmId : String} {ids : List String} (hllm : shown d.llmId = some llmId)
      (hne : d.subAgentIds ≠ [])
      (hids : List.Forall₂ (fun raw id => Text.visible? raw = some id) d.subAgentIds ids) :
    From d (.supervisor llmId ids (strategy d))

variable {d : NodeDecl}

theorem demand_eq_ok_iff {text : Option String} {field : RefField} {s : String} :
    demand d text field = .ok s ↔ shown text = some s := by
  unfold demand
  split <;> simp_all

theorem demandIds_eq_ok_iff {ids : List String} : demandIds d = .ok ids ↔
    d.subAgentIds ≠ [] ∧
      List.Forall₂ (fun raw id => Text.visible? raw = some id) d.subAgentIds ids := by
  unfold demandIds
  split
  · next h => simp [List.isEmpty_iff.mp h]
  · next h =>
    rw [mapM_eq_ok_iff]
    simp only [demand_eq_ok_iff, shown, Option.bind_some]
    exact ⟨fun hids => ⟨fun hnil => h (List.isEmpty_iff.mpr hnil), hids⟩, And.right⟩

theorem demandBranches_eq_ok_iff {branches : List (Condition × String)} :
    demandBranches d = .ok branches ↔ d.branches ≠ [] ∧
      List.Forall₂ (fun b c => c.1 = ⟨b.conditionKey, b.value⟩ ∧
        Text.visible? b.agentId = some c.2) d.branches branches := by
  unfold demandBranches
  split
  · next h => simp [List.isEmpty_iff.mp h]
  · next h =>
    rw [mapM_eq_ok_iff]
    have hstep : ∀ (b : BranchDecl) (c : Condition × String),
        (do return (⟨b.conditionKey, b.value⟩, ← demand d (some b.agentId) .branches) :
            Except CompileError (Condition × String)) = .ok c ↔
          c.1 = ⟨b.conditionKey, b.value⟩ ∧ Text.visible? b.agentId = some c.2 := by
      intro b c
      rw [bind_pure_eq_ok_iff]
      simp only [demand_eq_ok_iff, shown, Option.bind_some]
      constructor
      · rintro ⟨id, hid, rfl⟩
        exact ⟨rfl, hid⟩
      · rintro ⟨hc, hid⟩
        exact ⟨c.2, hid, Prod.ext hc.symm rfl⟩
    simp only [hstep]
    exact ⟨fun hids => ⟨fun hnil => h (List.isEmpty_iff.mpr hnil), hids⟩, And.right⟩

theorem Role.ofDecl_eq_ok_iff {kind : NodeKind} {role : Role} :
    Role.ofDecl d kind = .ok role ↔ Role.From d role ∧ role.kind = kind := by
  constructor
  · intro h
    cases kind with
    | llm =>
      cases h
      exact ⟨.llm, rfl⟩
    | agent =>
      obtain ⟨llmId, hllm, rfl⟩ := bind_pure_eq_ok_iff.mp h
      exact ⟨.agent (demand_eq_ok_iff.mp hllm), rfl⟩
    | sequence =>
      obtain ⟨ids, hids, rfl⟩ := bind_pure_eq_ok_iff.mp h
      obtain ⟨hne, hids⟩ := demandIds_eq_ok_iff.mp hids
      exact ⟨.sequence hne hids, rfl⟩
    | parallel =>
      obtain ⟨ids, hids, rfl⟩ := bind_pure_eq_ok_iff.mp h
      obtain ⟨hne, hids⟩ := demandIds_eq_ok_iff.mp hids
      exact ⟨.parallel hne hids, rfl⟩
    | conditional =>
      obtain ⟨branches, hbranches, rfl⟩ := bind_pure_eq_ok_iff.mp h
      obtain ⟨hne, hbranches⟩ := demandBranches_eq_ok_iff.mp hbranches
      exact ⟨.conditional hne hbranches, rfl⟩
    | supervisor =>
      obtain ⟨llmId, hllm, h⟩ := bind_eq_ok_iff.mp h
      obtain ⟨ids, hids, rfl⟩ := bind_pure_eq_ok_iff.mp h
      obtain ⟨hne, hids⟩ := demandIds_eq_ok_iff.mp hids
      exact ⟨.supervisor (demand_eq_ok_iff.mp hllm) hne hids, rfl⟩
  · rintro ⟨h, rfl⟩
    cases h with
    | llm => rfl
    | agent hllm => exact bind_pure_eq_ok_iff.mpr ⟨_, demand_eq_ok_iff.mpr hllm, rfl⟩
    | sequence hne hids =>
      exact bind_pure_eq_ok_iff.mpr ⟨_, demandIds_eq_ok_iff.mpr ⟨hne, hids⟩, rfl⟩
    | parallel hne hids =>
      exact bind_pure_eq_ok_iff.mpr ⟨_, demandIds_eq_ok_iff.mpr ⟨hne, hids⟩, rfl⟩
    | conditional hne hbranches =>
      exact bind_pure_eq_ok_iff.mpr ⟨_, demandBranches_eq_ok_iff.mpr ⟨hne, hbranches⟩, rfl⟩
    | supervisor hllm hne hids =>
      exact bind_eq_ok_iff.mpr ⟨_, demand_eq_ok_iff.mpr hllm,
        bind_pure_eq_ok_iff.mpr ⟨_, demandIds_eq_ok_iff.mpr ⟨hne, hids⟩, rfl⟩⟩

/-! ## What the role of a node has in common with its declaration -/

variable {role : Role}

theorem Role.From.complete (h : Role.From d role) : d.Complete role.kind := by
  have hllm : ∀ {id : String}, shown d.llmId = some id →
      ∃ raw, d.llmId = some raw ∧ ¬ Text.isBlankText raw := by
    intro id hid
    obtain ⟨raw, hraw, hvisible⟩ := Option.bind_eq_some_iff.mp hid
    exact ⟨raw, hraw, (Text.visible?_eq_some_iff.mp hvisible).1⟩
  have hsubs : ∀ {ids : List String},
      List.Forall₂ (fun raw id => Text.visible? raw = some id) d.subAgentIds ids →
      ∀ raw ∈ d.subAgentIds, ¬ Text.isBlankText raw := by
    intro ids hids raw hraw
    obtain ⟨id, -, hid⟩ := forall₂_mem_left hids hraw
    exact (Text.visible?_eq_some_iff.mp hid).1
  cases h with
  | llm => exact ⟨nofun, nofun, nofun⟩
  | agent h => exact ⟨fun _ => hllm h, nofun, nofun⟩
  | sequence hne hids => exact ⟨nofun, fun _ => ⟨hne, hsubs hids⟩, nofun⟩
  | parallel hne hids => exact ⟨nofun, fun _ => ⟨hne, hsubs hids⟩, nofun⟩
  | conditional hne hbranches =>
    refine ⟨nofun, nofun, fun _ => ⟨hne, fun b hb => ?_⟩⟩
    obtain ⟨c, -, -, hc⟩ := forall₂_mem_left hbranches hb
    exact (Text.visible?_eq_some_iff.mp hc).1
  | supervisor h hne hids => exact ⟨fun _ => hllm h, fun _ => ⟨hne, hsubs hids⟩, nofun⟩

theorem exists_role {kind : NodeKind} (h : d.Complete kind) :
    ∃ role, Role.From d role ∧ role.kind = kind := by
  have hllm : RefField.llmId.usedBy kind → ∃ id, shown d.llmId = some id := by
    intro hused
    obtain ⟨raw, hraw, hblank⟩ := h.llm hused
    exact ⟨_, by rw [shown, hraw, Option.bind_some, Text.visible?_isSome hblank]⟩
  have hsubs : RefField.subAgentIds.usedBy kind → d.subAgentIds ≠ [] ∧
      ∃ ids, List.Forall₂ (fun raw id => Text.visible? raw = some id) d.subAgentIds ids := by
    intro hused
    obtain ⟨hne, hall⟩ := h.subAgents hused
    exact ⟨hne, exists_forall₂ fun raw hraw => ⟨_, Text.visible?_isSome (hall raw hraw)⟩⟩
  cases kind with
  | llm => exact ⟨_, .llm, rfl⟩
  | agent =>
    obtain ⟨id, hid⟩ := hllm rfl
    exact ⟨_, .agent hid, rfl⟩
  | sequence =>
    obtain ⟨hne, ids, hids⟩ := hsubs rfl
    exact ⟨_, .sequence hne hids, rfl⟩
  | parallel =>
    obtain ⟨hne, ids, hids⟩ := hsubs rfl
    exact ⟨_, .parallel hne hids, rfl⟩
  | conditional =>
    obtain ⟨hne, hall⟩ := h.branches rfl
    obtain ⟨branches, hbranches⟩ : ∃ branches : List (Condition × String),
        List.Forall₂ (fun b c => c.1 = ⟨b.conditionKey, b.value⟩ ∧
          Text.visible? b.agentId = some c.2) d.branches branches :=
      exists_forall₂ fun b hb => ⟨(⟨b.conditionKey, b.value⟩, _), rfl,
        Text.visible?_isSome (hall b hb)⟩
    exact ⟨_, .conditional hne hbranches, rfl⟩
  | supervisor =>
    obtain ⟨id, hid⟩ := hllm rfl
    obtain ⟨hne, ids, hids⟩ := hsubs rfl
    exact ⟨_, .supervisor hid hne hids, rfl⟩

theorem mem_subAgentDependencies {ids : List String} {dep : Dependency} :
    dep ∈ subAgentDependencies ids ↔
      dep.field = .subAgentIds ∧ dep.target = .executable ∧ dep.id ∈ ids := by
  obtain ⟨field, id, target⟩ := dep
  simp only [subAgentDependencies, List.mem_map, Dependency.mk.injEq]
  constructor
  · rintro ⟨_, hid, rfl, rfl, rfl⟩
    exact ⟨rfl, rfl, hid⟩
  · rintro ⟨rfl, rfl, hid⟩
    exact ⟨id, hid, rfl, rfl, rfl⟩

/-- The dependencies of a node are what its declaration names in the fields of its kind. -/
theorem Role.From.mem_dependencies (h : Role.From d role) {dep : Dependency} :
    dep ∈ role.dependencies ↔
      dep.target = dep.field.target ∧ dep.field.usedBy role.kind ∧ d.Names dep.field dep.id := by
  have hsubs : ∀ {ids : List String},
      List.Forall₂ (fun raw id => Text.visible? raw = some id) d.subAgentIds ids →
      ∀ {id : String}, id ∈ ids ↔ d.Names .subAgentIds id := by
    intro ids hids id
    rw [NodeDecl.names_subAgentIds, ← exists_mem_right_iff (g := fun id => id) hids]
    simp
  obtain ⟨field, id, target⟩ := dep
  cases h with
  | llm => cases field <;> simp [Role.dependencies, Role.kind, RefField.usedBy]
  | agent hllm =>
    cases field <;> simp [Role.dependencies, Role.kind, RefField.usedBy, RefField.target,
      NodeDecl.names_llmId, hllm, and_comm, eq_comm]
  | sequence hne hids =>
    rw [Role.dependencies, mem_subAgentDependencies]
    cases field <;> simp [Role.kind, RefField.usedBy, RefField.target, hsubs hids]
  | parallel hne hids =>
    rw [Role.dependencies, mem_subAgentDependencies]
    cases field <;> simp [Role.kind, RefField.usedBy, RefField.target, hsubs hids]
  | @conditional branches hne hbranches =>
    have htargets : (∃ c ∈ branches, c.2 = id) ↔ d.Names .branches id := by
      rw [NodeDecl.names_branches]
      exact exists_mem_right_iff (hbranches.imp fun b c h => h.2)
    cases field <;> simp [Role.dependencies, Role.kind, RefField.usedBy, RefField.target,
      NodeDecl.names_routerAgentId, ← htargets, and_comm, eq_comm]
  | supervisor hllm hne hids =>
    rw [Role.dependencies, List.mem_cons, mem_subAgentDependencies]
    cases field <;> simp [Role.kind, RefField.usedBy, RefField.target, NodeDecl.names_llmId, hllm,
      hsubs hids, and_comm, eq_comm]

/-! ## Nodes -/

/-- What a node has in common with its declaration. -/
structure Typed (d : NodeDecl) (n : Node) : Prop where
  id : n.id = d.id
  kind : d.kind? = some n.kind
  complete : d.Complete n.kind
  dependencies : ∀ dep : Dependency, dep ∈ n.dependencies ↔
    dep.target = dep.field.target ∧ d.Refers dep.field dep.id
  binding : Compile.bindingOf? n = if n.kind = .llm then some d.binding else none

theorem Role.From.binding {n : Node} (h : Role.From d n.role) (hid : n.id = d.id) :
    Compile.bindingOf? n = if n.kind = .llm then some d.binding else none := by
  obtain ⟨id, name, key, role⟩ := n
  obtain rfl : id = d.id := hid
  cases h <;> simp [Compile.bindingOf?, Node.kind, Role.kind, NodeDecl.binding]

theorem ofDecl_eq_ok {n : Node} (h : ofDecl d = .ok n) :
    n.id = d.id ∧ d.kind? = some n.kind ∧ Role.From d n.role := by
  unfold ofDecl at h
  split at h
  · cases h
  · next hkind =>
    obtain ⟨role, hrole, rfl⟩ := bind_pure_eq_ok_iff.mp h
    obtain ⟨hfrom, hk⟩ := Role.ofDecl_eq_ok_iff.mp hrole
    exact ⟨rfl, by rw [hkind, ← hk]; rfl, hfrom⟩
  · next kind _ hkind =>
    obtain ⟨role, hrole, rfl⟩ := bind_pure_eq_ok_iff.mp h
    obtain ⟨hfrom, hk⟩ := Role.ofDecl_eq_ok_iff.mp hrole
    exact ⟨rfl, by rw [hkind, ← hk]; rfl, hfrom⟩

theorem typed_of_ofDecl {n : Node} (h : ofDecl d = .ok n) : Typed d n := by
  obtain ⟨hid, hkind, hfrom⟩ := ofDecl_eq_ok h
  refine ⟨hid, hkind, hfrom.complete, fun dep => ?_, hfrom.binding hid⟩
  rw [NodeDecl.refers_iff hkind]
  exact hfrom.mem_dependencies

theorem ofDecl_isOk_iff :
    (∃ n, ofDecl d = .ok n) ↔ ∃ kind, d.kind? = some kind ∧ d.Complete kind := by
  constructor
  · rintro ⟨n, h⟩
    exact ⟨n.kind, (typed_of_ofDecl h).kind, (typed_of_ofDecl h).complete⟩
  · rintro ⟨kind, hkind, hcomplete⟩
    obtain ⟨role, hrole⟩ := exists_role hcomplete
    have hok := Role.ofDecl_eq_ok_iff.mpr hrole
    unfold ofDecl
    rw [hkind]
    cases kind <;> exact ⟨_, bind_pure_eq_ok_iff.mpr ⟨role, hok, rfl⟩⟩

/-! ## Declarations that make no node -/

theorem demand_eq_error {text : Option String} {field : RefField} {e : CompileError}
    (h : demand d text field = .error e) : e = .missingField d.id field.name := by
  unfold demand at h
  split at h
  · cases h
  · exact (Except.error.inj h).symm

theorem demandIds_eq_error {e : CompileError} (h : demandIds d = .error e) :
    ∃ field : RefField, e = .missingField d.id field.name := by
  unfold demandIds at h
  split at h
  · exact ⟨_, (Except.error.inj h).symm⟩
  · obtain ⟨id, -, hid⟩ := mapM_eq_error h
    exact ⟨_, demand_eq_error hid⟩

theorem demandBranches_eq_error {e : CompileError} (h : demandBranches d = .error e) :
    ∃ field : RefField, e = .missingField d.id field.name := by
  unfold demandBranches at h
  split at h
  · exact ⟨_, (Except.error.inj h).symm⟩
  · obtain ⟨b, -, hb⟩ := mapM_eq_error h
    exact ⟨_, demand_eq_error (bind_pure_eq_error_iff.mp hb)⟩

theorem Role.ofDecl_eq_error {kind : NodeKind} {e : CompileError}
    (h : Role.ofDecl d kind = .error e) :
    ∃ field : RefField, e = .missingField d.id field.name := by
  cases kind with
  | llm => cases h
  | agent => exact ⟨_, demand_eq_error (bind_pure_eq_error_iff.mp h)⟩
  | sequence => exact demandIds_eq_error (bind_pure_eq_error_iff.mp h)
  | parallel => exact demandIds_eq_error (bind_pure_eq_error_iff.mp h)
  | conditional => exact demandBranches_eq_error (bind_pure_eq_error_iff.mp h)
  | supervisor =>
    rcases bind_eq_error_iff.mp h with h | ⟨llmId, -, h⟩
    · exact ⟨_, demand_eq_error h⟩
    · exact demandIds_eq_error (bind_pure_eq_error_iff.mp h)

theorem ofDecl_eq_error {e : CompileError} (h : ofDecl d = .error e) :
    d.kind? = none ∧ e = .unknownNodeType d.id d.typeName ∨
      ∃ field : RefField, e = .missingField d.id field.name := by
  unfold ofDecl at h
  split at h
  · next hkind => exact .inl ⟨hkind, (Except.error.inj h).symm⟩
  · exact .inr (Role.ofDecl_eq_error (bind_pure_eq_error_iff.mp h))
  · exact .inr (Role.ofDecl_eq_error (bind_pure_eq_error_iff.mp h))

end Node

end AgentGraph
