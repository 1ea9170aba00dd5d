import AgentGraph.Run.Runnable
import Mathlib.Data.List.MinMax
import Mathlib.Logic.Relation
import Mathlib.Order.Nat

/-! Units: what holds of all runnables, by induction over their trees.

* `Runnable.induction`: what holds of a runnable if it holds of all its parts holds of all.
* `Runnable.Within`: a runnable stands somewhere in another one.
* `Runnable.tally`: a number of a runnable, made of those of its parts.
* `gather`: what a parallel node makes of the ends of its branches.
* `gather_eq_of_ok`: what this is if all of them succeeded. -/
namespace AgentGraph
open Relation
set_option autoImplicit false

variable {μ : Type}

/-! ## Induction -/

namespace Runnable

/-- A property that passes from the parts of a runnable to the whole holds of every runnable. -/
@[elab_as_elim, induction_eliminator]
theorem induction {motive : Runnable μ → Prop}
    (agent : ∀ id name a, motive (.agent id name a))
    (sequence : ∀ id name steps key, (∀ r ∈ steps, motive r) →
      motive (.sequence id name steps key))
    (parallel : ∀ id name branches pool key, (∀ r ∈ branches, motive r) →
      motive (.parallel id name branches pool key))
    (conditional : ∀ id name routes key, (∀ route ∈ routes, motive route.2) →
      motive (.conditional id name routes key))
    (supervisor : ∀ id name setup subs, (∀ r ∈ subs, motive r) →
      motive (.supervisor id name setup subs)) (r : Runnable μ) : motive r := by
  refine @Runnable.rec μ motive (fun rs => ∀ r ∈ rs, motive r)
    (fun routes => ∀ route ∈ routes, motive route.2) (fun route => motive route.2)
    agent sequence parallel conditional supervisor ?_ ?_ ?_ ?_ ?_ r
  · exact fun r hr => nomatch hr
  · exact fun _ _ hr hrest => List.forall_mem_cons.mpr ⟨hr, hrest⟩
  · exact fun route hroute => nomatch hroute
  · exact fun _ _ hroute hrest => List.forall_mem_cons.mpr ⟨hroute, hrest⟩
  · exact fun _ _ hr => hr

end Runnable

/-! ## Parts -/

namespace Runnable

/-- The runnables that a runnable is made of. -/
def parts : Runnable μ → List (Runnable μ)
  | .agent _ _ _ => []
  | .sequence _ _ steps _ => steps
  | .parallel _ _ branches _ _ => branches
  | .conditional _ _ routes _ => routes.map Prod.snd
  | .supervisor _ _ _ subs => subs

/-- The key that a runnable itself writes under. -/
def key? : Runnable μ → Option String
  | .agent _ _ a => a.outputKey
  | .sequence _ _ _ key => some key
  | .parallel _ _ _ _ _ => none
  | .conditional _ _ _ key => key
  | .supervisor _ _ setup _ => some setup.outputKey

/-- It is the other one, or stands somewhere in it. -/
def Within (s r : Runnable μ) : Prop := ReflTransGen (fun whole part => part ∈ whole.parts) r s

theorem within_self (r : Runnable μ) : r.Within r := .refl

theorem Within.of_part {s t r : Runnable μ} (h : s.Within t) (ht : t ∈ r.parts) : s.Within r :=
  .head ht h

theorem Within.part {s t r : Runnable μ} (h : t.Within r) (hs : s ∈ t.parts) : s.Within r :=
  .tail h hs

theorem Within.trans {s t r : Runnable μ} (h : s.Within t) (ht : t.Within r) : s.Within r :=
  ReflTransGen.trans ht h

/-- A part of what stands in a runnable stands in one of its parts. -/
theorem Within.below {s t r : Runnable μ} (h : t.Within r) (hs : s ∈ t.parts) :
    ∃ part ∈ r.parts, s.Within part := by
  rcases ReflTransGen.cases_head h with rfl | ⟨part, hpart, ht⟩
  · exact ⟨s, hs, s.within_self⟩
  · exact ⟨part, hpart, .tail ht hs⟩

/-- A property that a runnable has if everything that stands in its parts has it. -/
theorem within_induction {P : Runnable μ → Prop}
    (h : ∀ r, (∀ part ∈ r.parts, ∀ s : Runnable μ, s.Within part → P s) → P r) (r : Runnable μ) :
    P r := by
  have hall : ∀ s : Runnable μ, s.Within r → P s := by
    have hstep : ∀ r : Runnable μ, (∀ part ∈ r.parts, ∀ s : Runnable μ, s.Within part → P s) →
        ∀ s : Runnable μ, s.Within r → P s := by
      intro r hparts s hs
      rcases ReflTransGen.cases_head hs with rfl | ⟨part, hpart, hs⟩
      · exact h r hparts
      · exact hparts part hpart s hs
    induction r with
    | agent => exact hstep _ fun _ hpart => nomatch hpart
    | sequence _ _ _ _ ih => exact hstep _ ih
    | parallel _ _ _ _ _ ih => exact hstep _ ih
    | conditional _ _ _ _ ih =>
      refine hstep _ fun part hpart => ?_
      obtain ⟨route, hroute, rfl⟩ := List.mem_map.mp hpart
      exact ih route hroute
    | supervisor _ _ _ _ ih => exact hstep _ ih
  exact hall r r.within_self

end Runnable

/-! ## Numbers of a tree -/

/-- How a number of a runnable is made of those of its parts. -/
structure Tally where
  agent : Nat
  sequence : List Nat → Nat
  parallel : (pool : Nat) → List Nat → Nat
  conditional : List Nat → Nat
  supervisor : (maxSteps : Nat) → List Nat → Nat

namespace Runnable

mutual

def tally (m : Tally) : Runnable μ → Nat
  | .agent _ _ _ => m.agent
  | .sequence _ _ steps _ => m.sequence (tallies m steps)
  | .parallel _ _ branches pool _ => m.parallel pool (tallies m branches)
  | .conditional _ _ routes _ => m.conditional (routeTallies m routes)
  | .supervisor _ _ setup subs => m.supervisor setup.maxSteps (tallies m subs)

def tallies (m : Tally) : List (Runnable μ) → List Nat
  | [] => []
  | r :: rest => tally m r :: tallies m rest

def routeTallies (m : Tally) : List (Condition × Runnable μ) → List Nat
  | [] => []
  | (_, r) :: rest => tally m r :: routeTallies m rest

end

theorem tallies_eq_map (m : Tally) (rs : List (Runnable μ)) : tallies m rs = rs.map (tally m) := by
  induction rs with
  | nil => rfl
  | cons r rest ih => rw [tallies, ih, List.map_cons]

theorem routeTallies_eq_map (m : Tally) (routes : List (Condition × Runnable μ)) :
    routeTallies m routes = routes.map fun route => tally m route.2 := by
  induction routes with
  | nil => rfl
  | cons route rest ih =>
    obtain ⟨condition, r⟩ := route
    rw [routeTallies, ih, List.map_cons]

end Runnable

/-- The greatest of some numbers, or zero. -/
def greatest (xs : List Nat) : Nat := xs.foldr max 0

theorem le_greatest {x : Nat} {xs : List Nat} (h : x ∈ xs) : x ≤ greatest xs :=
  List.le_max_of_le h le_rfl

theorem Supervisor.find?_mem {subs : List (Executable μ)} {requested : String} {sub : Executable μ}
    (h : find? subs requested = some sub) : sub ∈ subs := by
  rcases Option.or_eq_some_iff.mp h with h | ⟨-, h⟩
  · exact List.mem_of_find?_eq_some h
  · exact List.mem_of_find?_eq_some h

/-! ## What a parallel node comes to -/

def Outcome.failure? (o : Outcome) : Option Failure :=
  match o.value with
  | .ok _ => none
  | .error e => some e

theorem Outcome.failure?_eq_some_iff {o : Outcome} {e : Failure} :
    o.failure? = some e ↔ o.value = .error e := by
  unfold failure?
  cases o.value <;> simp

theorem Outcome.failure?_eq_none_iff {o : Outcome} :
    o.failure? = none ↔ ∃ value, o.value = .ok value := by
  unfold failure?
  cases o.value <;> simp

/-- The first failure in the order of the branches; without one, the context with the scopes of all
branches merged into its own in that order. -/
def gather (key : Option String) (c : Context) (ends : List Outcome) : Outcome :=
  match ends.findSome? Outcome.failure? with
  | some e => ⟨.error e, c⟩
  | none =>
    let merged := (ends.map fun o => o.context.scope).foldl Scope.merge c.scope
    ⟨.ok (Executable.joined key merged), c.withScope merged⟩

/-- Branches are gathered with success only if all of them succeeded, and then they are merged. -/
theorem gather_eq_of_ok {key : Option String} {c : Context} {ends : List Outcome} {direct : Value}
    (h : (gather key c ends).value = .ok direct) :
    (∀ o ∈ ends, ∃ value, o.value = .ok value) ∧
      direct = Executable.joined key ((ends.map fun o => o.context.scope).foldl Scope.merge c.scope) ∧
      (gather key c ends).context.scope =
        (ends.map fun o => o.context.scope).foldl Scope.merge c.scope := by
  unfold gather at h ⊢
  cases hfirst : ends.findSome? Outcome.failure? with
  | some e =>
    rw [hfirst] at h
    cases h
  | none =>
    rw [hfirst] at h
    refine ⟨fun o ho => ?_, (Except.ok.inj h).symm, rfl⟩
    exact Outcome.failure?_eq_none_iff.mp (List.findSome?_eq_none_iff.mp hfirst o ho)

theorem scopes_eq (ends : List Outcome) : Executable.scopes ends =
    match ends.findSome? Outcome.failure? with
    | some e => .error e
    | none => .ok (ends.map fun o => o.context.scope) := by
  induction ends with
  | nil => rfl
  | cons o rest ih =>
    obtain ⟨value, context⟩ := o
    have hcons : Executable.scopes (⟨value, context⟩ :: rest) =
        (value.map fun _ => context.scope).bind fun s =>
          (Executable.scopes rest).bind fun ss => .ok (s :: ss) := by
      rw [Executable.scopes, List.mapM_cons]
      rfl
    rw [hcons, ih, List.findSome?_cons]
    cases value with
    | error e => rfl
    | ok v =>
      dsimp only [Outcome.failure?]
      cases rest.findSome? Outcome.failure? <;> rfl

theorem join_eq_gather (key : Option String) (c : Context) (ends : List Outcome) :
    Executable.join key c ends = gather key c ends := by
  rw [Executable.join, scopes_eq, gather]
  cases ends.findSome? Outcome.failure? <;> rfl

end AgentGraph
