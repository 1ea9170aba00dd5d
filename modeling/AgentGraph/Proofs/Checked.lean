import AgentGraph.Proofs.Declared
import AgentGraph.Proofs.Order
import Mathlib.Data.List.Nodup

/-! Lists of nodes that pass the checks.

* `WellFormed`: ids are distinct, references lead to nodes of the right kind, and no node refers to
  itself, not even through others.
* `ofNodes_isOk_iff`: exactly the well-formed lists of nodes pass.
* `ofNodes_error`: what is wrong with the others.
* `inOrder_split`: in the order that is found, every node comes after the nodes it refers to. -/
namespace AgentGraph
open Relation
set_option autoImplicit false

variable {nodes : List Node}

/-! ## Distinct ids -/

theorem duplicate?_eq_none_iff {earlier ids : List String} :
    duplicate? earlier ids = none ↔ ids.Nodup ∧ ∀ id ∈ ids, id ∉ earlier := by
  induction ids generalizing earlier with
  | nil => simp [duplicate?]
  | cons id ids ih =>
    rw [duplicate?, List.nodup_cons]
    split
    · next h => simp [h]
    · next h =>
      rw [ih]
      constructor
      · rintro ⟨hnodup, hnew⟩
        refine ⟨⟨fun hid => hnew id hid List.mem_cons_self, hnodup⟩, fun x hx => ?_⟩
        rcases List.mem_cons.mp hx with rfl | hx
        · exact h
        · exact fun hearlier => hnew x hx (List.mem_cons_of_mem _ hearlier)
      · rintro ⟨⟨hid, hnodup⟩, hnew⟩
        refine ⟨hnodup, fun x hx hmem => ?_⟩
        rcases List.mem_cons.mp hmem with rfl | hmem
        · exact hid hx
        · exact hnew x (List.mem_cons_of_mem _ hx) hmem

theorem findNode?_eq_none_iff {id : String} :
    findNode? nodes id = none ↔ ∀ n ∈ nodes, n.id ≠ id := by
  simp [findNode?]

theorem findNode?_mem {id : String} {n : Node} (h : findNode? nodes id = some n) :
    n ∈ nodes ∧ n.id = id :=
  ⟨List.mem_of_find?_eq_some h, by simpa using List.find?_some h⟩

theorem eq_of_id_eq (hnodup : (nodes.map Node.id).Nodup) {m n : Node} (hm : m ∈ nodes)
    (hn : n ∈ nodes) (h : m.id = n.id) : m = n :=
  List.inj_on_of_nodup_map hnodup hm hn h

theorem findNode?_eq_some_iff (hnodup : (nodes.map Node.id).Nodup) {id : String} {n : Node} :
    findNode? nodes id = some n ↔ n ∈ nodes ∧ n.id = id := by
  refine ⟨findNode?_mem, fun ⟨hn, hid⟩ => ?_⟩
  cases h : findNode? nodes id with
  | none => exact absurd hid (findNode?_eq_none_iff.mp h n hn)
  | some m =>
    obtain ⟨hm, hmid⟩ := findNode?_mem h
    rw [eq_of_id_eq hnodup hm hn (hmid.trans hid.symm)]

/-! ## References -/

theorem referenceError?_eq_none_iff {n : Node} {dep : Node.Dependency} :
    referenceError? nodes n dep = none ↔
      ∃ t, findNode? nodes dep.id = some t ∧ dep.target.accepts t.kind := by
  unfold referenceError?
  split
  · next h => simp [h]
  · next t h => simp [h]

theorem referenceError?_eq_some {n : Node} {dep : Node.Dependency} {e : CompileError}
    (h : referenceError? nodes n dep = some e) :
    (∀ m ∈ nodes, m.id ≠ dep.id) ∧ e = .unresolvedReference n.id dep.field.name dep.id ∨
      e = .wrongReferenceKind n.id dep.field.name dep.id dep.target.describe := by
  unfold referenceError? at h
  split at h
  · next hnone =>
    rw [Option.some.injEq] at h
    exact .inl ⟨findNode?_eq_none_iff.mp hnone, h.symm⟩
  · next t _ =>
    split at h
    · cases h
    · rw [Option.some.injEq] at h
      exact .inr h.symm

theorem referencesError?_eq_none_iff : referencesError? nodes = none ↔
    ∀ n ∈ nodes, ∀ dep ∈ n.dependencies,
      ∃ t, findNode? nodes dep.id = some t ∧ dep.target.accepts t.kind := by
  simp only [referencesError?, List.findSome?_eq_none_iff, referenceError?_eq_none_iff]

theorem referencesError?_eq_some {e : CompileError} (h : referencesError? nodes = some e) :
    ∃ n ∈ nodes, ∃ dep ∈ n.dependencies, referenceError? nodes n dep = some e := by
  obtain ⟨n, hn, hdep⟩ := List.exists_of_findSome?_eq_some h
  obtain ⟨dep, hmem, he⟩ := List.exists_of_findSome?_eq_some hdep
  exact ⟨n, hn, dep, hmem, he⟩

theorem resolved_of_referencesError? (h : referencesError? nodes = none) :
    ∀ n ∈ nodes, ∀ dep ∈ n.dependencies,
      ∃ t ∈ nodes, t.id = dep.id ∧ dep.target.accepts t.kind := by
  intro n hn dep hdep
  obtain ⟨t, ht, haccepts⟩ := referencesError?_eq_none_iff.mp h n hn dep hdep
  exact ⟨t, (findNode?_mem ht).1, (findNode?_mem ht).2, haccepts⟩

theorem edge_iff {x y : String} : (dependencyGraph nodes).Edge x y ↔
    ∃ n ∈ nodes, n.id = y ∧ ∃ dep ∈ n.dependencies, dep.id = x := by
  simp only [Digraph.Edge, dependencyGraph, List.mem_flatMap, List.mem_map, Prod.mk.injEq]
  constructor
  · rintro ⟨n, hn, dep, hdep, rfl, rfl⟩
    exact ⟨n, hn, rfl, dep, hdep, rfl⟩
  · rintro ⟨n, hn, rfl, dep, hdep, rfl⟩
    exact ⟨n, hn, dep, hdep, rfl, rfl⟩

/-! ## Well-formed lists of nodes -/

structure WellFormed (nodes : List Node) : Prop where
  nodup : (nodes.map Node.id).Nodup
  resolved : ∀ n ∈ nodes, ∀ dep ∈ n.dependencies,
    ∃ t ∈ nodes, t.id = dep.id ∧ dep.target.accepts t.kind
  acyclic : (dependencyGraph nodes).Acyclic

theorem joined_of_resolved (h : ∀ n ∈ nodes, ∀ dep ∈ n.dependencies, ∃ t ∈ nodes, t.id = dep.id) :
    (dependencyGraph nodes).Joined := by
  intro x y hxy
  obtain ⟨n, hn, rfl, dep, hdep, rfl⟩ := edge_iff.mp hxy
  obtain ⟨t, ht, hid⟩ := h n hn dep hdep
  exact ⟨List.mem_map.mpr ⟨t, ht, hid⟩, List.mem_map_of_mem hn⟩

theorem joined_of_referencesError? (h : referencesError? nodes = none) :
    (dependencyGraph nodes).Joined :=
  joined_of_resolved fun n hn dep hdep =>
    let ⟨t, ht, hid, _⟩ := resolved_of_referencesError? h n hn dep hdep
    ⟨t, ht, hid⟩

theorem WellFormed.joined (h : WellFormed nodes) : (dependencyGraph nodes).Joined :=
  joined_of_resolved fun n hn dep hdep =>
    let ⟨t, ht, hid, _⟩ := h.resolved n hn dep hdep
    ⟨t, ht, hid⟩

namespace Checked

variable {id : String} {c : Checked}

/-- What is known of a list of nodes that passed. -/
theorem ofNodes_ok (h : ofNodes id nodes = .ok c) : c.entryId = id ∧ c.nodes = nodes ∧
    WellFormed nodes ∧ (dependencyGraph nodes).order = .ok c.order := by
  unfold ofNodes at h
  split at h
  · cases h
  · next hdup =>
    split at h
    · cases h
    · next href =>
      split at h
      · cases h
      · next order horder =>
        rw [Except.ok.injEq] at h
        subst h
        have hnodup := (duplicate?_eq_none_iff.mp hdup).1
        have hacyclic := Digraph.acyclic_of_order (joined_of_referencesError? href) horder
        exact ⟨rfl, rfl, ⟨hnodup, resolved_of_referencesError? href, hacyclic⟩, horder⟩

theorem ofNodes_isOk_iff : (∃ c, ofNodes id nodes = .ok c) ↔ WellFormed nodes := by
  constructor
  · rintro ⟨c, h⟩
    exact (ofNodes_ok h).2.2.1
  · intro h
    have hdup : duplicate? [] (nodes.map Node.id) = none :=
      duplicate?_eq_none_iff.mpr ⟨h.nodup, by simp⟩
    have href : referencesError? nodes = none := by
      refine referencesError?_eq_none_iff.mpr fun n hn dep hdep => ?_
      obtain ⟨t, ht, hid, haccepts⟩ := h.resolved n hn dep hdep
      exact ⟨t, (findNode?_eq_some_iff h.nodup).mpr ⟨ht, hid⟩, haccepts⟩
    obtain ⟨order, horder⟩ := (Digraph.order_isOk_iff h.joined).mpr h.acyclic
    exact ⟨⟨id, nodes, order⟩, by simp only [ofNodes, hdup, href, horder]⟩

/-- What is wrong with a list of nodes that did not pass. -/
theorem ofNodes_error {e : CompileError} (h : ofNodes id nodes = .error e) :
    (∃ x, ¬ (nodes.map Node.id).Nodup ∧ e = .duplicateNodeId x) ∨
    (∃ n ∈ nodes, ∃ dep ∈ n.dependencies, referenceError? nodes n dep = some e) ∨
    ∃ x, TransGen (dependencyGraph nodes).Edge x x ∧ e = .cyclicDependency x := by
  unfold ofNodes at h
  split at h
  · next x hdup =>
    obtain rfl := Except.error.inj h
    refine .inl ⟨x, fun hnodup => ?_, rfl⟩
    have hnone : duplicate? [] (nodes.map Node.id) = none :=
      duplicate?_eq_none_iff.mpr ⟨hnodup, by simp⟩
    rw [hnone] at hdup
    cases hdup
  · split at h
    · next href =>
      obtain rfl := Except.error.inj h
      exact .inr (.inl (referencesError?_eq_some href))
    · next href =>
      split at h
      · next x horder =>
        obtain rfl := Except.error.inj h
        exact .inr (.inr ⟨x, Digraph.order_error (joined_of_referencesError? href) horder, rfl⟩)
      · cases h

/-! ## The order of building -/

theorem order_perm (h : WellFormed nodes) {order : List String}
    (horder : (dependencyGraph nodes).order = .ok order) : order.Perm (nodes.map Node.id) := by
  obtain ⟨hnodup, hmem, -⟩ := Digraph.order_ok h.joined horder
  exact (List.perm_ext_iff_of_nodup hnodup h.nodup).mpr hmem

/-- Looking up ids that are all there gives the nodes of these ids. -/
theorem map_id_lookup {ids : List String} (h : ∀ id ∈ ids, ∃ n ∈ nodes, n.id = id) :
    (ids.filterMap (findNode? nodes)).map Node.id = ids := by
  induction ids with
  | nil => rfl
  | cons id ids ih =>
    obtain ⟨n, hn, hid⟩ := h id List.mem_cons_self
    cases hfound : findNode? nodes id with
    | none => exact absurd hid (findNode?_eq_none_iff.mp hfound n hn)
    | some m =>
      rw [List.filterMap_cons_some hfound, List.map_cons, (findNode?_mem hfound).2,
        ih fun x hx => h x (List.mem_cons_of_mem _ hx)]

theorem map_id_inOrder (h : WellFormed c.nodes)
    (horder : (dependencyGraph c.nodes).order = .ok c.order) :
    c.inOrder.map Node.id = c.order := by
  refine map_id_lookup fun id hid => ?_
  obtain ⟨n, hn, rfl⟩ := List.mem_map.mp ((order_perm h horder).mem_iff.mp hid)
  exact ⟨n, hn, rfl⟩

theorem mem_inOrder (h : WellFormed c.nodes)
    (horder : (dependencyGraph c.nodes).order = .ok c.order) {n : Node} :
    n ∈ c.inOrder ↔ n ∈ c.nodes := by
  simp only [inOrder, List.mem_filterMap, findNode?_eq_some_iff h.nodup]
  constructor
  · rintro ⟨_, _, hn, _⟩
    exact hn
  · intro hn
    exact ⟨n.id, (order_perm h horder).mem_iff.mpr (List.mem_map_of_mem hn), hn, rfl⟩

theorem length_inOrder (h : WellFormed c.nodes)
    (horder : (dependencyGraph c.nodes).order = .ok c.order) :
    c.inOrder.length = c.nodes.length := by
  rw [← List.length_map Node.id, map_id_inOrder h horder, (order_perm h horder).length_eq,
    List.length_map]

/-- Every node comes after the nodes it refers to. -/
theorem inOrder_split (h : WellFormed c.nodes)
    (horder : (dependencyGraph c.nodes).order = .ok c.order) {done rest : List Node} {n : Node}
    (hsplit : c.inOrder = done ++ n :: rest) {dep : Node.Dependency} (hdep : dep ∈ n.dependencies) :
    ∃ t ∈ done, t.id = dep.id ∧ dep.target.accepts t.kind := by
  have hn : n ∈ c.nodes := (mem_inOrder h horder).mp (by simp [hsplit])
  obtain ⟨t, ht, hid, haccepts⟩ := h.resolved n hn dep hdep
  have hids : c.order = done.map Node.id ++ n.id :: rest.map Node.id := by
    rw [← map_id_inOrder h horder, hsplit, List.map_append, List.map_cons]
  have hbefore : dep.id ∈ done.map Node.id :=
    (Digraph.order_ok h.joined horder).2.2 _ _ _ hids _ (edge_iff.mpr ⟨n, hn, rfl, dep, hdep, rfl⟩)
  obtain ⟨t', ht', hid'⟩ := List.mem_map.mp hbefore
  have hsame : t' = t := eq_of_id_eq h.nodup ((mem_inOrder h horder).mp (by simp [hsplit, ht'])) ht
    (hid'.trans hid.symm)
  exact ⟨t', ht', hid', hsame ▸ haccepts⟩

end Checked

end AgentGraph
