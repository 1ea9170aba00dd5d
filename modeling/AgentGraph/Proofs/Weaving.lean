import AgentGraph.Proofs.Schedule
import Mathlib.Data.List.Perm.Basic

/-! What can be seen of a log from outside.

A log keeps the branches of a fork beside each other. From outside one sees a single row of actions,
in which the rows of the branches are woven into each other in some way; each of them keeps its own
order, and nothing of them is seen before the fork or after it.

* `Woven`: rows woven into one.
* `Log.Shows`: a row of actions that a log may be seen as.
* `Log.Offers`: a log may begin with some actions and go on as another one. -/
namespace AgentGraph
set_option autoImplicit false

variable {μ : Type}

/-! ## What a log shows -/

namespace Action

def event? : Action μ → Option Event
  | .event e => some e
  | .call _ _ => none

def call? : Action μ → Option (μ × Request)
  | .event _ => none
  | .call model request => some (model, request)

end Action

namespace Log

mutual

/-- Everything that is seen, the branches of a fork one after another. -/
def actions : Log μ → List (Action μ)
  | .nil => []
  | .event e rest => .event e :: actions rest
  | .call model request rest => .call model request :: actions rest
  | .fork _ branches rest => actionsOfAll branches ++ actions rest

def actionsOfAll : List (Log μ) → List (Action μ)
  | [] => []
  | log :: rest => actions log ++ actionsOfAll rest

end

mutual

theorem filterMap_event_actions : (log : Log μ) → log.actions.filterMap Action.event? = log.events
  | .nil => rfl
  | .event e rest => by
    simp only [actions, events, List.filterMap_cons, Action.event?, filterMap_event_actions rest]
  | .call _ _ rest => by
    rw [actions, events, List.filterMap_cons_none rfl, filterMap_event_actions rest]
  | .fork _ branches rest => by
    rw [actions, events, List.filterMap_append, filterMap_event_actionsOfAll branches,
      filterMap_event_actions rest]

theorem filterMap_event_actionsOfAll :
    (logs : List (Log μ)) → (actionsOfAll logs).filterMap Action.event? = eventsOfAll logs
  | [] => rfl
  | log :: rest => by
    rw [actionsOfAll, eventsOfAll, List.filterMap_append, filterMap_event_actions log,
      filterMap_event_actionsOfAll rest]

end

mutual

theorem filterMap_call_actions : (log : Log μ) → log.actions.filterMap Action.call? = log.calls
  | .nil => rfl
  | .event _ rest => by
    rw [actions, calls, List.filterMap_cons_none rfl, filterMap_call_actions rest]
  | .call _ _ rest => by
    simp only [actions, calls, List.filterMap_cons, Action.call?, filterMap_call_actions rest]
  | .fork _ branches rest => by
    rw [actions, calls, List.filterMap_append, filterMap_call_actionsOfAll branches,
      filterMap_call_actions rest]

theorem filterMap_call_actionsOfAll :
    (logs : List (Log μ)) → (actionsOfAll logs).filterMap Action.call? = callsOfAll logs
  | [] => rfl
  | log :: rest => by
    rw [actionsOfAll, callsOfAll, List.filterMap_append, filterMap_call_actions log,
      filterMap_call_actionsOfAll rest]

end

theorem actionsOfAll_eq_flatten (logs : List (Log μ)) :
    actionsOfAll logs = (logs.map actions).flatten := by
  induction logs with
  | nil => rfl
  | cons log rest ih => rw [actionsOfAll, ih, List.map_cons, List.flatten_cons]

/-- The log of what follows, after this one. -/
def append : Log μ → Log μ → Log μ
  | .nil, more => more
  | .event e rest, more => .event e (rest.append more)
  | .call model request rest, more => .call model request (rest.append more)
  | .fork pool branches rest, more => .fork pool branches (rest.append more)

theorem append_nil : (log : Log μ) → log.append .nil = log
  | .nil => rfl
  | .event _ rest => by rw [append, append_nil rest]
  | .call _ _ rest => by rw [append, append_nil rest]
  | .fork _ _ rest => by rw [append, append_nil rest]

end Log

/-! ## Weaving -/

/-- The rows are woven into one: its head is the head of any row that has one, and so on. -/
inductive Woven {α : Type} : List (List α) → List α → Prop
  | done {rows : List (List α)} (h : ∀ row ∈ rows, row = []) : Woven rows []
  | next {before after : List (List α)} {x : α} {row whole : List α}
      (h : Woven (before ++ row :: after) whole) :
    Woven (before ++ (x :: row) :: after) (x :: whole)

namespace Woven

variable {α : Type} {rows : List (List α)} {whole : List α}

theorem perm (h : Woven rows whole) : whole.Perm rows.flatten := by
  induction h with
  | done h =>
    rw [List.flatten_eq_nil_iff.mpr h]
  | next _ ih =>
    rw [List.flatten_append, List.flatten_cons] at ih ⊢
    rw [List.cons_append]
    exact (ih.cons _).trans List.perm_middle.symm

/-- A row that grows at its front may show its new front first. -/
theorem extend {before after : List (List α)} {row : List α} (front : List α)
    (h : Woven (before ++ row :: after) whole) :
    Woven (before ++ (front ++ row) :: after) (front ++ whole) := by
  induction front with
  | nil => exact h
  | cons x front ih => exact .next ih

/-- A row that grows at its end may show its new end last. -/
theorem grow {before after : List (List α)} {row : List α} (back : List α)
    (h : Woven (before ++ row :: after) whole) :
    Woven (before ++ (row ++ back) :: after) (whole ++ back) := by
  generalize hrows : before ++ row :: after = rows at h
  induction h generalizing before row after with
  | done h =>
    subst hrows
    have hempty : Woven (before ++ row :: after) [] := .done h
    have hrow : row = [] := h row List.mem_append_cons_self
    have hback := hempty.extend back
    rw [hrow, List.append_nil] at hback
    rwa [hrow]
  | @next left right x front whole h ih =>
    -- The row that shows its head is the one that grows, or it stands before it or after it.
    rcases List.append_eq_append_iff.mp hrows with ⟨middle, rfl, hright⟩ | ⟨middle, rfl, hright⟩
    · cases middle with
      | nil =>
        obtain ⟨rfl, rfl⟩ := List.cons_eq_cons.mp hright
        rw [List.append_nil] at ih
        exact .next (ih rfl)
      | cons y middle =>
        obtain ⟨rfl, rfl⟩ := List.cons_eq_cons.mp hright
        have hgrown : Woven ((before ++ (row ++ back) :: middle) ++ front :: right)
            (whole ++ back) := by
          rw [List.append_assoc, List.cons_append]
          refine ih ?_
          rw [List.append_assoc, List.cons_append]
        have hnext := Woven.next (x := x) hgrown
        rwa [List.append_assoc, List.cons_append] at hnext
    · cases middle with
      | nil =>
        obtain ⟨rfl, rfl⟩ := List.cons_eq_cons.mp hright
        rw [List.append_nil]
        exact .next (ih rfl)
      | cons y middle =>
        obtain ⟨rfl, rfl⟩ := List.cons_eq_cons.mp hright
        have hgrown : Woven (left ++ front :: (middle ++ (row ++ back) :: after))
            (whole ++ back) := by
          have hassoc := @ih (left ++ front :: middle) after row (by simp)
          rwa [List.append_assoc, List.cons_append] at hassoc
        have hnext := Woven.next (x := x) hgrown
        rw [List.append_assoc, List.cons_append]
        exact hnext

end Woven

/-! ## Showing -/

namespace Log

/-- The log may be seen as this row of actions. -/
inductive Shows : Log μ → List (Action μ) → Prop
  | nil : Shows .nil []
  | event {e : Event} {rest : Log μ} {w : List (Action μ)} (h : Shows rest w) :
    Shows (.event e rest) (.event e :: w)
  | call {model : μ} {request : Request} {rest : Log μ} {w : List (Action μ)} (h : Shows rest w) :
    Shows (.call model request rest) (.call model request :: w)
  | fork {pool : Nat} {branches : List (Log μ × List (Action μ))} {rest : Log μ}
      {v w : List (Action μ)} (hbranches : ∀ b ∈ branches, Shows b.1 b.2)
      (hwoven : Woven (branches.map Prod.snd) v) (h : Shows rest w) :
    Shows (.fork pool (branches.map Prod.fst) rest) (v ++ w)

theorem shows_fork_iff {pool : Nat} {logs : List (Log μ)} {rest : Log μ} {u : List (Action μ)} :
    (Log.fork pool logs rest).Shows u ↔
      ∃ (branches : List (Log μ × List (Action μ))) (v w : List (Action μ)),
        branches.map Prod.fst = logs ∧ (∀ b ∈ branches, b.1.Shows b.2) ∧
        Woven (branches.map Prod.snd) v ∧ rest.Shows w ∧ u = v ++ w := by
  constructor
  · intro h
    cases h with
    | fork hbranches hwoven h => exact ⟨_, _, _, rfl, hbranches, hwoven, h, rfl⟩
  · rintro ⟨branches, v, w, rfl, hbranches, hwoven, h, rfl⟩
    exact .fork hbranches hwoven h

theorem Shows.perm {log : Log μ} {w : List (Action μ)} (h : log.Shows w) : w.Perm log.actions := by
  induction h with
  | nil => exact .refl _
  | event _ ih => exact ih.cons _
  | call _ ih => exact ih.cons _
  | @fork pool branches rest v w _ hwoven _ hbranches ih =>
    have hrows : (branches.map Prod.snd).flatten.Perm
        ((branches.map Prod.fst).map actions).flatten := by
      rw [List.map_map, ← List.flatMap_def, ← List.flatMap_def]
      exact List.Perm.flatMap_left _ hbranches
    rw [actions, actionsOfAll_eq_flatten]
    exact (hwoven.perm.trans hrows).append ih

theorem Shows.of_append : {first rest : Log μ} → {w : List (Action μ)} →
    (first.append rest).Shows w → ∃ u v, w = u ++ v ∧ first.Shows u ∧ rest.Shows v
  | .nil, _, w, h => ⟨[], w, rfl, .nil, h⟩
  | .event e first, _, _, h => by
    cases h with
    | event h =>
      obtain ⟨u, v, rfl, hu, hv⟩ := Shows.of_append h
      exact ⟨_, v, rfl, .event hu, hv⟩
  | .call model request first, _, _, h => by
    cases h with
    | call h =>
      obtain ⟨u, v, rfl, hu, hv⟩ := Shows.of_append h
      exact ⟨_, v, rfl, .call hu, hv⟩
  | .fork pool logs first, _, _, h => by
    obtain ⟨branches, v, w, rfl, hbranches, hwoven, hrest, rfl⟩ := shows_fork_iff.mp h
    obtain ⟨u, v', rfl, hu, hv'⟩ := Shows.of_append hrest
    exact ⟨v ++ u, v', (List.append_assoc ..).symm, .fork hbranches hwoven hu, hv'⟩

/-- The log may show these actions first, and then whatever the other one shows. -/
def Offers (log : Log μ) (first : List (Action μ)) (rest : Log μ) : Prop :=
  ∀ w, rest.Shows w → log.Shows (first ++ w)

theorem offers_refl (log : Log μ) : log.Offers [] log := fun _ h => h

theorem Offers.branch {log log' : Log μ} {first : List (Action μ)} (h : log'.Offers first log)
    (pool : Nat) (left right : List (Log μ)) (rest : Log μ) :
    (Log.fork pool (left ++ log' :: right) rest).Offers first
      (.fork pool (left ++ log :: right) rest) := by
  intro u hu
  obtain ⟨branches, v, w, hlogs, hbranches, hwoven, hrest, rfl⟩ := shows_fork_iff.mp hu
  obtain ⟨before, others, rfl, rfl, hothers⟩ := List.map_eq_append_iff.mp hlogs
  obtain ⟨b, after, rfl, rfl, rfl⟩ := List.map_eq_cons_iff.mp hothers
  have hb : log'.Shows (first ++ b.2) := h b.2 (hbranches b List.mem_append_cons_self)
  rw [List.map_append, List.map_cons] at hwoven
  refine shows_fork_iff.mpr ⟨before ++ (log', first ++ b.2) :: after, first ++ v, w, ?_, ?_, ?_,
    hrest, (List.append_assoc ..).symm⟩
  · rw [List.map_append, List.map_cons]
  · exact forall_mem_replace hbranches hb
  · rw [List.map_append, List.map_cons]
    exact hwoven.extend first

/-- A fork whose branches show nothing shows what comes after it. -/
theorem offers_of_silent {α : Type} (pool : Nat) (xs : List α) (rest : Log μ) :
    (Log.fork pool (xs.map fun _ => .nil) rest).Offers [] rest := by
  intro w hw
  let branches : List (Log μ × List (Action μ)) := xs.map fun _ => (.nil, [])
  have hlogs : branches.map Prod.fst = xs.map fun _ => .nil := List.map_map
  have hsilent : ∀ b ∈ branches, b = (.nil, []) := by
    intro b hb
    obtain ⟨_, -, rfl⟩ := List.mem_map.mp hb
    rfl
  refine shows_fork_iff.mpr ⟨branches, [], w, hlogs, fun b hb => ?_, .done fun row hrow => ?_, hw,
    rfl⟩
  · rw [hsilent b hb]
    exact .nil
  · obtain ⟨b, hb, rfl⟩ := List.mem_map.mp hrow
    rw [hsilent b hb]

end Log

end AgentGraph
