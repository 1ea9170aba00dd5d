import AgentGraph.Proofs.Ordered
import AgentGraph.Proofs.States

/-! What a run makes of the context that it begins on.

A run adds to the trace, and it changes what stands under the keys of the units that it adds to it.
Nothing else changes, nothing is ever taken away, and the input that the run began with stays as it
was. A branch of a parallel begins with an empty trace, and only what it has written itself comes back
from it; so what is said of the keys is said of the written names, too.

* `Growth`: what has been added to a trace, and what may have changed on account of it.
* `Runnable.frame_grows`: growth is respected by everything that goes on within a runnable.
* `Entry.grown`: a run makes its context grow. -/
namespace AgentGraph
set_option autoImplicit false

variable {μ : Type} {may : Replies μ}

/-! ## Merging -/

/-- Only what a branch has written comes back from it. -/
theorem Scope.get?_merge (s branch : Scope) (name : String) : (s.merge branch).get? name =
    if name ∈ branch.written ∧ (branch.get? name).isSome then branch.get? name
    else s.get? name := by
  have hfold : ∀ (names : Names) (state : ValueMap),
      Fields.get? (names.foldl branch.take state) name =
        if name ∈ names ∧ (branch.get? name).isSome then branch.get? name
        else Fields.get? state name := by
    intro names
    induction names with
    | nil => simp
    | cons first rest ih =>
      intro state
      rw [List.foldl_cons, ih, get?_take]
      by_cases hfirst : first = name
      · subst hfirst
        cases hget : branch.get? first <;> simp
      · simp [hfirst, Ne.symm hfirst]
  exact hfold branch.written s.state

theorem Scope.ordered_merge {s : Scope} (h : Fields.Ordered s.state) (branch : Scope) :
    Fields.Ordered (s.merge branch).state := by
  have hfold : ∀ (names : Names) (state : ValueMap), Fields.Ordered state →
      Fields.Ordered (names.foldl branch.take state) := by
    intro names
    induction names with
    | nil => exact fun _ hstate => hstate
    | cons first rest ih =>
      intro state hstate
      refine ih _ ?_
      unfold Scope.take
      split
      · exact hstate.insert _ _
      · exact hstate
  exact hfold branch.written s.state h

/-! ## Growth -/

/-- The key is one that a unit writes under which stands within the runnable and in the trace. -/
def Runnable.Writes (r : Runnable μ) (trace : List Invocation) (name : String) : Prop :=
  ∃ s : Runnable μ, s.Within r ∧ s.key? = some name ∧ ⟨s.id, s.name⟩ ∈ trace

namespace Runnable.Writes

variable {r : Runnable μ} {trace : List Invocation} {name : String}

theorem mono {trace' : List Invocation} (h : r.Writes trace name) (hsub : trace ⊆ trace') :
    r.Writes trace' name := by
  obtain ⟨s, hs, hkey, hmem⟩ := h
  exact ⟨s, hs, hkey, hsub hmem⟩

theorem before (h : r.Writes trace name) (more : List Invocation) : r.Writes (trace ++ more) name :=
  h.mono (List.subset_append_left trace more)

theorem after (h : r.Writes trace name) (earlier : List Invocation) :
    r.Writes (earlier ++ trace) name :=
  h.mono (List.subset_append_right earlier trace)

end Runnable.Writes

/-- The second context is what has become of the first one after some more units within the runnable
have been at work on it. -/
structure Growth (r : Runnable μ) (added : List Invocation) (c c' : Context) : Prop where
  ambient : c'.ambient = c.ambient
  trace : c'.scope.trace = c.scope.trace ++ added
  units : ∀ i ∈ added, ∃ s : Runnable μ, s.Within r ∧ i = ⟨s.id, s.name⟩
  kept : ∀ name, (c.scope.get? name).isSome → (c'.scope.get? name).isSome
  changed : ∀ name, c'.scope.get? name = c.scope.get? name ∨ r.Writes added name
  written : ∀ name ∈ c'.scope.written, name ∈ c.scope.written ∨ r.Writes added name
  ordered : Fields.Ordered c.scope.state → Fields.Ordered c'.scope.state

namespace Growth

variable {r : Runnable μ} {added more : List Invocation} {c c' c'' : Context}

theorem of_scope_eq (hscope : c'.scope = c.scope) (hambient : c'.ambient = c.ambient) :
    Growth r [] c c' where
  ambient := hambient
  trace := by rw [hscope, List.append_nil]
  units _ hi := nomatch hi
  kept name := by rw [hscope]; exact id
  changed name := by rw [hscope]; exact .inl rfl
  written name := by rw [hscope]; exact .inl
  ordered := by rw [hscope]; exact id

theorem trans (h : Growth r added c c') (h' : Growth r more c' c'') :
    Growth r (added ++ more) c c'' where
  ambient := h'.ambient.trans h.ambient
  trace := by rw [h'.trace, h.trace, List.append_assoc]
  units := List.forall_mem_append.mpr ⟨h.units, h'.units⟩
  kept name hname := h'.kept name (h.kept name hname)
  changed name := by
    rcases h'.changed name with heq | hwrites
    · rcases h.changed name with heq' | hwrites
      · exact .inl (heq.trans heq')
      · exact .inr (hwrites.before _)
    · exact .inr (hwrites.after _)
  written name hname := by
    rcases h'.written name hname with hname | hwrites
    · rcases h.written name hname with hname | hwrites
      · exact .inl hname
      · exact .inr (hwrites.before _)
    · exact .inr (hwrites.after _)
  ordered hc := h'.ordered (h.ordered hc)

theorem record {s : Runnable μ} (hs : s.Within r) (c : Context) :
    Growth r [⟨s.id, s.name⟩] c (c.entered s) where
  ambient := rfl
  trace := rfl
  units _ hi := ⟨s, hs, List.mem_singleton.mp hi⟩
  kept _ hname := hname
  changed _ := .inl rfl
  written _ hname := .inl hname
  ordered hc := hc

/-- A unit that has been added may write under its key. -/
theorem write {s : Runnable μ} {key : String} (hs : s.Within r) (hkey : s.key? = some key)
    (h : Growth r added c c') (hadded : ⟨s.id, s.name⟩ ∈ added) (value : Value) :
    Growth r added c (c'.write key value) where
  ambient := h.ambient
  trace := h.trace
  units := h.units
  kept name hname := by
    have hget : (c'.write key value).scope.get? name = _ := Scope.get?_write c'.scope key name value
    rw [hget]
    split
    · rfl
    · exact h.kept name hname
  changed name := by
    have hget : (c'.write key value).scope.get? name = _ := Scope.get?_write c'.scope key name value
    rw [hget]
    split
    · next heq => exact .inr ⟨s, hs, heq ▸ hkey, hadded⟩
    · exact h.changed name
  written name hname := by
    rcases (Names.mem_insert _ _ _).mp hname with rfl | hname
    · exact .inr ⟨s, hs, hkey, hadded⟩
    · exact h.written name hname
  ordered hc := (h.ordered hc).insert key value

/-- A branch that grew from the context brings back what it has written and its trace. -/
theorem merge {branch : Context} (h : Growth r added c c') (hbranch : Growth r more c.handed branch) :
    Growth r (added ++ more) c (c'.withScope (c'.scope.merge branch.scope)) where
  ambient := h.ambient
  trace := by
    have htrace : branch.scope.trace = more := hbranch.trace
    have hmerged : (c'.withScope (c'.scope.merge branch.scope)).scope.trace =
        c'.scope.trace ++ branch.scope.trace := rfl
    rw [hmerged, htrace, h.trace, List.append_assoc]
  units := List.forall_mem_append.mpr ⟨h.units, hbranch.units⟩
  kept name hname := by
    have hget : (c'.withScope (c'.scope.merge branch.scope)).scope.get? name = _ :=
      Scope.get?_merge c'.scope branch.scope name
    rw [hget]
    split
    · next hsome => exact hsome.2
    · exact h.kept name hname
  changed name := by
    have hget : (c'.withScope (c'.scope.merge branch.scope)).scope.get? name = _ :=
      Scope.get?_merge c'.scope branch.scope name
    rw [hget]
    split
    · next hmem =>
      rcases hbranch.written name hmem.1 with hold | hwrites
      · cases hold
      · exact .inr (hwrites.after _)
    · rcases h.changed name with heq | hwrites
      · exact .inl heq
      · exact .inr (hwrites.before _)
  written name hname := by
    rcases (Names.mem_union _ _ _).mp hname with hname | hname
    · rcases h.written name hname with hname | hwrites
      · exact .inl hname
      · exact .inr (hwrites.before _)
    · rcases hbranch.written name hname with hold | hwrites
      · cases hold
      · exact .inr (hwrites.after _)
  ordered hc := Scope.ordered_merge (h.ordered hc) branch.scope

end Growth

/-- The context has grown by some units at work. -/
def Runnable.Grows (r : Runnable μ) (c c' : Context) : Prop := ∃ added, Growth r added c c'

theorem Runnable.frame_grows (r : Runnable μ) : Frame r r.Grows where
  refl c := ⟨[], .of_scope_eq rfl rfl⟩
  trans := by
    rintro c c' c'' ⟨added, h⟩ ⟨more, h'⟩
    exact ⟨added ++ more, h.trans h'⟩
  directive c directive := ⟨[], .of_scope_eq rfl rfl⟩
  record s hs c := ⟨_, .record hs c⟩
  write := by
    rintro s key hs hkey c c' value ⟨added, h⟩
    exact ⟨_, ((Growth.record hs c).trans h).write hs hkey List.mem_cons_self value⟩
  merge := by
    rintro c c' branch ⟨added, h⟩ ⟨more, hbranch⟩
    exact ⟨added ++ more, h.merge hbranch⟩

theorem Entry.grown (e : Entry μ) (input : ValueMap) : Always may (e.process input) fun _ o =>
    e.runnable.Grows (.ofInput input) o.context := by
  have hserves : (Thread.active (e.process input)).Serves e.runnable.Grows e.runnable
      (e.runnable.Grows (.ofInput input)) := Entry.serves e.runnable.frame_grows
  cases hserves with | active h => exact h.always e.runnable.frame_grows

end AgentGraph
