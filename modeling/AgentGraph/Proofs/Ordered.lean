import AgentGraph.Fields
import Mathlib.Data.List.Sort
import Mathlib.Data.String.Basic

/-! Entries in the order of their names.

* `Fields.Ordered.get?_eq_some_iff`: what is looked up in ordered entries is what stands in them.
* `Fields.Ordered.ext`: so what can be looked up in them is all that they are.
* `Fields.Ordered.extend_of_covers`: entries that hold all names of others can be put over them as if
  these were not there.
* `Fields.get?_ofList`: of several entries with one name the last one is kept. -/
namespace AgentGraph.Fields
set_option autoImplicit false

variable {α β : Type} {fs gs : Fields α}

theorem get?_append (fs gs : Fields α) (name : String) :
    get? (fs ++ gs) name = (get? fs name).or (get? gs name) := by
  induction fs with
  | nil => rfl
  | cons e rest ih =>
    rw [List.cons_append, get?, get?]
    split
    · rfl
    · exact ih

theorem mem_insert {name : String} {value : α} {e : String × α}
    (h : e ∈ fs.insert name value) : e = (name, value) ∨ e ∈ fs := by
  induction fs with
  | nil => exact .inl (List.mem_singleton.mp h)
  | cons d rest ih =>
    obtain ⟨k, v⟩ := d
    unfold insert at h
    split at h
    · rcases List.mem_cons.mp h with h | h
      · exact .inl h
      · exact .inr (List.mem_cons_of_mem _ h)
    · split at h
      · exact List.mem_cons.mp h
      · rcases List.mem_cons.mp h with rfl | h
        · exact .inr List.mem_cons_self
        · rcases ih h with h | h
          · exact .inl h
          · exact .inr (List.mem_cons_of_mem _ h)

theorem mem_of_get? {name : String} {value : α} (h : fs.get? name = some value) : (name, value) ∈ fs := by
  induction fs with
  | nil => cases h
  | cons e rest ih =>
    obtain ⟨k, v⟩ := e
    rw [get?] at h
    split at h
    · next heq =>
      rw [heq, Option.some.inj h]
      exact List.mem_cons_self
    · exact List.mem_cons_of_mem _ (ih h)

namespace Ordered

theorem insert (h : Ordered fs) (name : String) (value : α) : Ordered (fs.insert name value) := by
  induction fs with
  | nil => exact List.pairwise_singleton _ _
  | cons d rest ih =>
    obtain ⟨k, v⟩ := d
    obtain ⟨hfirst, hrest⟩ := List.pairwise_cons.mp h
    unfold Fields.insert
    split
    · next heq =>
      subst heq
      exact List.pairwise_cons.mpr ⟨hfirst, hrest⟩
    · next hne =>
      split
      · next hlt =>
        refine List.pairwise_cons.mpr ⟨fun e he => ?_, h⟩
        rcases List.mem_cons.mp he with rfl | he
        · exact hlt
        · exact lt_trans hlt (hfirst e he)
      · next hle =>
        have hgt : k < name := lt_of_le_of_ne (not_lt.mp hle) (Ne.symm hne)
        refine List.pairwise_cons.mpr ⟨fun e he => ?_, ih hrest⟩
        rcases mem_insert he with rfl | he
        · exact hgt
        · exact hfirst e he

theorem get?_eq_some_iff (h : Ordered fs) {name : String} {value : α} :
    fs.get? name = some value ↔ (name, value) ∈ fs := by
  induction fs with
  | nil => simp
  | cons d rest ih =>
    obtain ⟨k, v⟩ := d
    obtain ⟨hfirst, hrest⟩ := List.pairwise_cons.mp h
    unfold get?
    split
    · next heq =>
      subst heq
      constructor
      · rintro ⟨⟩
        exact List.mem_cons_self
      · intro hmem
        rcases List.mem_cons.mp hmem with heq | hmem
        · rw [(Prod.mk.inj heq).2]
        · exact absurd (hfirst _ hmem) (lt_irrefl k)
    · next hne =>
      rw [ih hrest]
      constructor
      · exact List.mem_cons_of_mem _
      · intro hmem
        rcases List.mem_cons.mp hmem with heq | hmem
        · exact absurd (Prod.mk.inj heq).1.symm hne
        · exact hmem

theorem ext (hfs : Ordered fs) (hgs : Ordered gs) (h : ∀ name, fs.get? name = gs.get? name) :
    fs = gs := by
  have hirrefl : Std.Irrefl fun a b : String × α => a.1 < b.1 := ⟨fun a => lt_irrefl a.1⟩
  have hasymm : Std.Antisymm fun a b : String × α => a.1 < b.1 :=
    ⟨fun a b hab hba => absurd hba (lt_asymm hab)⟩
  refine List.Pairwise.eq_of_mem_iff hfs hgs fun e => ?_
  rw [← hfs.get?_eq_some_iff, ← hgs.get?_eq_some_iff, h]

end Ordered

/-- Of entries that are put over others the ones that come last are found. -/
theorem get?_extend (hgs : Ordered gs) (name : String) :
    (extend fs gs).get? name = (gs.get? name).or (fs.get? name) := by
  induction gs generalizing fs with
  | nil => rfl
  | cons d rest ih =>
    obtain ⟨k, v⟩ := d
    obtain ⟨hfirst, hrest⟩ := List.pairwise_cons.mp hgs
    have hextend : (extend fs ((k, v) :: rest)).get? name =
        (get? rest name).or ((fs.insert k v).get? name) := ih hrest
    rw [hextend, get?_insert, get?]
    by_cases hk : k = name
    · subst hk
      cases hget : get? rest k with
      | none => simp
      | some value =>
        have hmem := (Ordered.get?_eq_some_iff hrest).mp hget
        exact absurd (hfirst _ hmem) (lt_irrefl k)
    · simp [hk]

theorem Ordered.extend (hfs : Ordered fs) (gs : Fields α) : Ordered (fs.extend gs) := by
  induction gs generalizing fs with
  | nil => exact hfs
  | cons d rest ih => exact ih (hfs.insert d.1 d.2)

theorem Ordered.extend_of_covers (hfs : Ordered fs) (hgs : Ordered gs)
    (h : ∀ name, (fs.get? name).isSome → (gs.get? name).isSome) : fs.extend gs = gs := by
  refine (hfs.extend gs).ext hgs fun name => ?_
  rw [get?_extend hgs]
  cases hg : gs.get? name with
  | some value => rfl
  | none =>
    cases hf : fs.get? name with
    | none => rfl
    | some value =>
      have hsome := h name (by rw [hf]; rfl)
      rw [hg] at hsome
      cases hsome

/-! ## Entries in the order they come -/

/-- Of entries that are put over others one by one the last one with the name is found. -/
theorem get?_extend_reverse (fs gs : Fields α) (name : String) :
    (fs.extend gs).get? name = (get? gs.reverse name).or (fs.get? name) := by
  induction gs generalizing fs with
  | nil => rfl
  | cons e rest ih =>
    have hrest : (fs.extend (e :: rest)).get? name =
        (get? rest.reverse name).or ((fs.insert e.1 e.2).get? name) := ih _
    rw [hrest, List.reverse_cons, get?_append, get?_insert, Option.or_assoc]
    by_cases hname : e.1 = name
    · simp [get?, hname]
    · simp [get?, hname]

theorem get?_ofList (entries : List (String × α)) (name : String) :
    (ofList entries).get? name = get? entries.reverse name := by
  have h := get?_extend_reverse [] entries name
  rwa [get?_nil, Option.or_none] at h

theorem ordered_nil : Ordered ([] : Fields α) := List.Pairwise.nil

theorem ordered_ofList (entries : List (String × α)) : Ordered (ofList entries) :=
  ordered_nil.extend entries

theorem Ordered.ofList_eq (h : Ordered gs) : ofList gs = gs :=
  ordered_nil.extend_of_covers h fun _ hsome => nomatch hsome

/-! ## The same names with other values -/

/-- The entries with `f` made of every value. -/
def mapValues (f : α → β) (fs : Fields α) : Fields β := fs.map fun e => (e.1, f e.2)

section MapValues

variable (f : α → β)

theorem get?_mapValues (fs : Fields α) (name : String) :
    (fs.mapValues f).get? name = (fs.get? name).map f := by
  induction fs with
  | nil => rfl
  | cons e rest ih =>
    have hcons : mapValues f (e :: rest) = (e.1, f e.2) :: mapValues f rest := rfl
    rw [hcons, get?, get?, ih]
    by_cases hname : e.1 = name
    · simp [hname]
    · simp [hname]

theorem mapValues_insert (fs : Fields α) (name : String) (value : α) :
    (fs.insert name value).mapValues f = (fs.mapValues f).insert name (f value) := by
  induction fs with
  | nil => rfl
  | cons e rest ih =>
    simp only [mapValues, List.map_cons, insert] at ih ⊢
    split
    · rfl
    · split
      · rfl
      · rw [List.map_cons, ih]

theorem mapValues_extend (fs gs : Fields α) :
    (fs.extend gs).mapValues f = (fs.mapValues f).extend (gs.mapValues f) := by
  induction gs generalizing fs with
  | nil => rfl
  | cons e rest ih =>
    have hrest := ih (fs.insert e.1 e.2)
    rw [mapValues_insert] at hrest
    exact hrest

theorem Ordered.mapValues (h : Ordered fs) : Ordered (fs.mapValues f) := List.pairwise_map.mpr h

end MapValues

end AgentGraph.Fields
