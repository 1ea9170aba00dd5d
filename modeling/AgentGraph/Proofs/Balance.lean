import AgentGraph.Proofs.Course
import Mathlib.Algebra.BigOperators.Group.List.Basic
import Mathlib.Algebra.Order.BigOperators.Group.List
import Mathlib.Algebra.Order.Ring.Int

/-! Beginnings and ends of invocations, counted.

The rows of branches are woven into each other, so what is seen of a run is no nest of brackets. Each
row still is one, and the counts add up.

* `unclosed`: how many invocations of a node have begun and not ended.
* `Balanced`: at no point more invocations of a node have ended than begun, and in the end as many.
* `Balanced.woven`: rows that are balanced are so together, however they are woven.
* `Visit.Orderly.inside_balanced`: however it is seen, an orderly visit is balanced inside. -/
namespace AgentGraph
set_option autoImplicit false

variable {μ : Type}

/-- One more invocation of the node is open after the action, or one less. -/
def Action.delta (id : String) : Action μ → Int
  | .event (.unitStarted nodeId _) => if nodeId = id then 1 else 0
  | .event (.unitCompleted nodeId) => if nodeId = id then -1 else 0
  | .event (.unitFailed nodeId _) => if nodeId = id then -1 else 0
  | _ => 0

/-- How many invocations of the node have begun and not ended. -/
def unclosed (id : String) (w : List (Action μ)) : Int := (w.map (Action.delta id)).sum

@[simp] theorem unclosed_nil (id : String) : unclosed id ([] : List (Action μ)) = 0 := rfl

@[simp] theorem unclosed_cons (id : String) (a : Action μ) (w : List (Action μ)) :
    unclosed id (a :: w) = a.delta id + unclosed id w := by
  simp [unclosed]

@[simp] theorem unclosed_append (id : String) (v w : List (Action μ)) :
    unclosed id (v ++ w) = unclosed id v + unclosed id w := by
  simp [unclosed]

theorem unclosed_flatten (id : String) (rows : List (List (Action μ))) :
    unclosed id rows.flatten = (rows.map (unclosed id)).sum := by
  induction rows with
  | nil => rfl
  | cons row rest ih => rw [List.flatten_cons, unclosed_append, ih, List.map_cons, List.sum_cons]

theorem unclosed_perm {id : String} {v w : List (Action μ)} (h : v.Perm w) :
    unclosed id v = unclosed id w :=
  (h.map _).sum_eq

theorem delta_ending (id nodeId : String) (f : Option Failure) :
    (Action.event (.ending nodeId f) : Action μ).delta id = if nodeId = id then -1 else 0 := by
  cases f <;> rfl

/-- Never has an invocation ended that has not begun, and in the end all of them have. -/
structure Balanced (w : List (Action μ)) : Prop where
  ahead : ∀ id before after, w = before ++ after → 0 ≤ unclosed id before
  settled : ∀ id, unclosed id w = 0

namespace Balanced

variable {v w : List (Action μ)}

/-- What is still to come closes at least what it opens. -/
theorem behind (h : Balanced w) {id : String} {before after : List (Action μ)}
    (heq : w = before ++ after) : unclosed id after ≤ 0 := by
  have hbefore := h.ahead id before after heq
  have hall := h.settled id
  rw [heq, unclosed_append] at hall
  omega

theorem nil : Balanced ([] : List (Action μ)) where
  ahead id before after h := by
    rw [(List.append_eq_nil_iff.mp h.symm).1]
    simp
  settled _ := rfl

theorem cons {a : Action μ} (ha : ∀ id, a.delta id = 0) (h : Balanced w) :
    Balanced (a :: w) where
  ahead id before after heq := by
    cases before with
    | nil => simp
    | cons x before =>
      obtain ⟨rfl, htail⟩ := List.cons_eq_cons.mp heq
      have hbefore := h.ahead id before after htail
      rw [unclosed_cons, ha id]
      omega
  settled id := by rw [unclosed_cons, ha id, h.settled id, add_zero]

theorem append (hv : Balanced v) (hw : Balanced w) : Balanced (v ++ w) where
  ahead id before after heq := by
    rcases List.append_eq_append_iff.mp heq with ⟨middle, rfl, hrest⟩ | ⟨middle, hrest, -⟩
    · have hmiddle := hw.ahead id middle after hrest
      rw [unclosed_append, hv.settled id]
      omega
    · exact hv.ahead id before middle hrest
  settled id := by rw [unclosed_append, hv.settled id, hw.settled id, add_zero]

theorem enclose (h : Balanced w) (nodeId : String) (kind : NodeKind) (f : Option Failure) :
    Balanced (.event (.unitStarted nodeId kind) :: (w ++ [.event (.ending nodeId f)])) where
  ahead id before after heq := by
    cases before with
    | nil => simp
    | cons x before =>
      obtain ⟨rfl, htail⟩ := List.cons_eq_cons.mp heq
      rw [unclosed_cons, Action.delta]
      rcases List.append_eq_append_iff.mp htail with ⟨middle, rfl, hrest⟩ | ⟨middle, hrest, -⟩
      · have hmiddle : unclosed id ([.event (.ending nodeId f)] : List (Action μ)) =
            unclosed id middle + unclosed id after := by rw [hrest, unclosed_append]
        have hinside := h.settled id
        rcases List.append_eq_singleton_iff.mp hrest.symm with ⟨rfl, -⟩ | ⟨rfl, -⟩
        · rw [List.append_nil, hinside]
          split <;> omega
        · rw [unclosed_append, hinside, unclosed_cons, delta_ending, unclosed_nil]
          split <;> omega
      · have hinside := h.ahead id before middle hrest
        split <;> omega
  settled id := by
    rw [unclosed_cons, unclosed_append, h.settled id, unclosed_cons, delta_ending, unclosed_nil,
      Action.delta]
    split <;> omega

theorem behind_woven {id : String} {rows : List (List (Action μ))} (h : Woven rows w)
    (hrows : ∀ row ∈ rows, ∀ before after, row = before ++ after → unclosed id after ≤ 0) :
    ∀ before after, w = before ++ after → unclosed id after ≤ 0 := by
  have hwhole : ∀ {rows : List (List (Action μ))} {w : List (Action μ)}, Woven rows w →
      (∀ row ∈ rows, ∀ before after, row = before ++ after → unclosed id after ≤ 0) →
      unclosed id w ≤ 0 := by
    intro rows w h hrows
    have hsum := List.sum_le_card_nsmul (rows.map (unclosed id)) 0 fun n hn => by
      obtain ⟨row, hrow, rfl⟩ := List.mem_map.mp hn
      exact hrows row hrow [] row rfl
    rw [unclosed_perm h.perm, unclosed_flatten]
    simpa using hsum
  -- A step of the weaving takes the front off one row, so the induction is on what is still to come.
  induction h with
  | done h =>
    intro before after heq
    rw [(List.append_eq_nil_iff.mp heq.symm).2]
    simp
  | @next left right x row whole h ih =>
    intro before after heq
    cases before with
    | nil =>
      rw [List.nil_append] at heq
      rw [← heq]
      exact hwhole (.next h) hrows
    | cons y before =>
      obtain ⟨-, htail⟩ := List.cons_eq_cons.mp heq
      refine ih (forall_mem_replace hrows ?_) before after htail
      intro front rest hrow
      refine hrows (x :: row) List.mem_append_cons_self (x :: front) rest ?_
      rw [hrow, List.cons_append]

theorem woven {rows : List (List (Action μ))} (h : Woven rows w)
    (hrows : ∀ row ∈ rows, Balanced row) : Balanced w := by
  have hsettled : ∀ id, unclosed id w = 0 := by
    intro id
    rw [unclosed_perm h.perm, unclosed_flatten]
    apply List.sum_eq_zero
    intro n hn
    obtain ⟨row, hrow, rfl⟩ := List.mem_map.mp hn
    exact (hrows row hrow).settled id
  refine ⟨fun id before after heq => ?_, hsettled⟩
  have hafter : unclosed id after ≤ 0 :=
    behind_woven h (fun row hrow _ _ hsplit => (hrows row hrow).behind hsplit) before after heq
  have hall := hsettled id
  rw [heq, unclosed_append] at hall
  omega

end Balanced

/-! ## Logs -/

namespace Log

/-- Whatever the log is seen as, it is balanced. -/
def AlwaysBalanced (log : Log μ) : Prop := ∀ w, log.Shows w → Balanced w

theorem alwaysBalanced_nil : (.nil : Log μ).AlwaysBalanced := by
  intro w h
  cases h with | nil => exact .nil

theorem AlwaysBalanced.append {first rest : Log μ} (hfirst : first.AlwaysBalanced)
    (hrest : rest.AlwaysBalanced) : (first.append rest).AlwaysBalanced := by
  intro w h
  obtain ⟨u, v, rfl, hu, hv⟩ := Shows.of_append h
  exact (hfirst u hu).append (hrest v hv)

theorem AlwaysBalanced.concat {logs : List (Log μ)} (h : ∀ log ∈ logs, log.AlwaysBalanced) :
    (concat logs).AlwaysBalanced := by
  induction logs with
  | nil => exact alwaysBalanced_nil
  | cons log rest ih =>
    have hrest := ih fun x hx => h x (List.mem_cons_of_mem _ hx)
    exact (h log List.mem_cons_self).append hrest

theorem AlwaysBalanced.call {rest : Log μ} (h : rest.AlwaysBalanced) (model : μ)
    (request : Request) : (Log.call model request rest).AlwaysBalanced := by
  intro w hw
  cases hw with | call hrest => exact (h _ hrest).cons fun _ => rfl

theorem AlwaysBalanced.note {rest : Log μ} (h : rest.AlwaysBalanced) (nodeId message : String)
    (severity : Severity) : (Log.event (.note nodeId severity message) rest).AlwaysBalanced := by
  intro w hw
  cases hw with | event hrest => exact (h _ hrest).cons fun _ => rfl

theorem AlwaysBalanced.fork {logs : List (Log μ)} (h : ∀ log ∈ logs, log.AlwaysBalanced)
    (pool : Nat) : (Log.fork pool logs .nil).AlwaysBalanced := by
  intro u hu
  obtain ⟨branches, v, w, rfl, hbranches, hwoven, hrest, rfl⟩ := shows_fork_iff.mp hu
  have hrows : ∀ row ∈ branches.map Prod.snd, Balanced row := by
    intro row hrow
    obtain ⟨b, hb, rfl⟩ := List.mem_map.mp hrow
    exact h b.1 (List.mem_map_of_mem hb) b.2 (hbranches b hb)
  exact (Balanced.woven hwoven hrows).append (alwaysBalanced_nil w hrest)

end Log

/-! ## Visits -/

namespace Visit

theorem shows_log {v : Visit μ} {w : List (Action μ)} (h : v.log.Shows w) :
    ∃ seen, v.inside.Shows seen ∧ w = .event (.unitStarted v.unit.id v.unit.kind) ::
      (seen ++ [.event (.ending v.unit.id v.failure)]) := by
  cases h with
  | event h =>
    obtain ⟨seen, rest, rfl, hseen, hrest⟩ := Log.Shows.of_append h
    cases hrest with
    | event hnil => cases hnil with | nil => exact ⟨seen, hseen, rfl⟩

theorem alwaysBalanced_log {v : Visit μ} (h : v.inside.AlwaysBalanced) : v.log.AlwaysBalanced := by
  intro w hw
  obtain ⟨seen, hseen, rfl⟩ := shows_log hw
  exact (h seen hseen).enclose _ _ _

/-- However the branches of its parallels are woven, what is inside a visit is balanced. -/
theorem Orderly.inside_balanced {v : Visit μ} (h : v.Orderly) : v.inside.AlwaysBalanced := by
  induction h with
  | agent => exact Log.alwaysBalanced_nil.call _ _
  | sequence _ _ ih =>
    apply Log.AlwaysBalanced.concat
    intro log hlog
    obtain ⟨v, hv, rfl⟩ := List.mem_map.mp hlog
    exact alwaysBalanced_log (ih v hv)
  | interrupted _ _ _ _ ih ihlast =>
    refine Log.AlwaysBalanced.append (.concat fun log hlog => ?_) (alwaysBalanced_log ihlast)
    obtain ⟨v, hv, rfl⟩ := List.mem_map.mp hlog
    exact alwaysBalanced_log (ih v hv)
  | parallel _ ih =>
    refine .fork (fun log hlog => ?_) _
    obtain ⟨v, hv, rfl⟩ := List.mem_map.mp hlog
    exact alwaysBalanced_log (ih v hv)
  | unmatched => exact Log.alwaysBalanced_nil
  | routed _ _ ih => exact (alwaysBalanced_log ih).note _ _ _
  | supervisor _ _ _ hending ih =>
    refine Log.AlwaysBalanced.append (.concat fun log hlog => ?_) ?_
    · obtain ⟨r, hr, rfl⟩ := List.mem_map.mp hlog
      exact ((alwaysBalanced_log (ih r hr)).note _ _ _).call _ _
    · cases hending with
      | failed => exact Log.alwaysBalanced_nil
      | limited => exact Log.alwaysBalanced_nil.note _ _ _
      | stopped => exact Log.alwaysBalanced_nil.call _ _
      | scored => exact (Log.alwaysBalanced_nil.call _ _).call _ _

theorem Orderly.balanced {v : Visit μ} (h : v.Orderly) : v.log.AlwaysBalanced :=
  alwaysBalanced_log h.inside_balanced

end Visit

end AgentGraph
