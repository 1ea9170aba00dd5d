/-! Topological order of a directed graph.

The graph is a list of vertices and a list of edges, each in the order they were added. A
depth-first search with an explicit stack walks the edges forward, the newest edge of a vertex
first; read backwards, the order in which vertices are closed is the result. A vertex with an edge
to itself is reported at once. Any other cycle shows in the result: some vertex has a predecessor
that does not stand before it. -/
namespace AgentGraph

set_option autoImplicit false

structure Digraph (α : Type) where
  vertices : List α
  /-- Pairs of a vertex and one that depends on it. -/
  edges : List (α × α)

namespace Digraph

variable {α : Type} [DecidableEq α]

/-- The vertices that depend on `x`, by the newest edge first. -/
def next (g : Digraph α) (x : α) : List α :=
  (g.edges.filter fun e => e.1 = x).reverse.map Prod.snd

/-- The vertices that `x` depends on, by the oldest edge first. -/
def previous (g : Digraph α) (x : α) : List α :=
  (g.edges.filter fun e => e.2 = x).map Prod.fst

/-! ## Depth-first search -/

structure Search (α : Type) where
  /-- The top first. -/
  stack : List α
  discovered : List α
  /-- The last closed first. -/
  closed : List α

/-- The vertices that are not discovered yet. -/
def unseen (g : Digraph α) (s : Search α) : List α :=
  g.vertices.filter fun x => x ∉ s.discovered

/-- Opening a vertex puts its undiscovered dependents on the stack, the last one on top. -/
def Search.open (s : Search α) (x : α) (dependents : List α) : Search α :=
  let discovered := x :: s.discovered
  { s with
    stack := (dependents.filter fun y => y ∉ discovered).reverse ++ s.stack
    discovered }

/-- Closing the top of the stack; a vertex is closed once. -/
def Search.close (s : Search α) (x : α) (rest : List α) : Search α :=
  { s with stack := rest, closed := if x ∈ s.closed then s.closed else x :: s.closed }

theorem length_filter_cons_le (xs seen : List α) (x : α) :
    (xs.filter fun y => y ∉ x :: seen).length ≤ (xs.filter fun y => y ∉ seen).length := by
  have hsub : (xs.filter fun y => y ∉ x :: seen) =
      (xs.filter fun y => y ∉ seen).filter fun y => y ≠ x := by
    rw [List.filter_filter]
    congr 1
    funext y
    simp [List.mem_cons]
  rw [hsub]
  exact List.length_filter_le ..

theorem length_filter_cons_lt {xs seen : List α} {x : α} (hx : x ∈ xs) (hs : x ∉ seen) :
    (xs.filter fun y => y ∉ x :: seen).length < (xs.filter fun y => y ∉ seen).length := by
  induction xs with
  | nil => cases hx
  | cons v vs ih =>
    by_cases hv : v = x
    · subst hv
      have le := length_filter_cons_le vs seen v
      rw [List.filter_cons_of_neg (by simp), List.filter_cons_of_pos (by simp [hs])]
      exact Nat.lt_succ_of_le le
    · have hmem : x ∈ vs := by
        rcases List.mem_cons.mp hx with h | h
        · exact absurd h.symm hv
        · exact h
      have lt := ih hmem
      by_cases hd : v ∈ seen
      · rw [List.filter_cons_of_neg (by simp [hd]), List.filter_cons_of_neg (by simp [hd])]
        exact lt
      · rw [List.filter_cons_of_pos (by simp [hd, hv]), List.filter_cons_of_pos (by simp [hd])]
        exact Nat.succ_lt_succ lt

theorem unseen_open_lt (g : Digraph α) (s : Search α) (x : α) (dependents : List α)
    (hx : x ∈ g.vertices) (hs : x ∉ s.discovered) :
    (g.unseen (s.open x dependents)).length < (g.unseen s).length :=
  length_filter_cons_lt hx hs

/-- Empties the stack; a vertex that leads to itself ends the search. -/
def search (g : Digraph α) (s : Search α) : Except α (Search α) :=
  match _ : s.stack with
  | [] => .ok s
  | x :: rest =>
    if _ : x ∈ g.vertices ∧ x ∉ s.discovered then
      if x ∈ g.next x then .error x else g.search (s.open x (g.next x))
    else g.search (s.close x rest)
termination_by ((g.unseen s).length, s.stack.length)
decreasing_by
  · have new : x ∈ g.vertices ∧ x ∉ s.discovered := by assumption
    exact Prod.Lex.left _ _ (unseen_open_lt g s x _ new.1 new.2)
  · have top : s.stack = x :: rest := by assumption
    have same : (g.unseen (s.close x rest)).length = (g.unseen s).length := rfl
    rw [same]
    apply Prod.Lex.right
    simp [Search.close, top]

/-- Searches from every vertex that is not discovered yet. -/
def searchAll (g : Digraph α) (s : Search α) : List α → Except α (Search α)
  | [] => .ok s
  | x :: rest =>
    if x ∈ s.discovered then g.searchAll s rest
    else
      match g.search { s with stack := [x] } with
      | .error y => .error y
      | .ok s => g.searchAll s rest

/-! ## Topological order -/

/-- The first vertex that some vertex of the list depends on without standing before it. -/
def misplaced? (g : Digraph α) (before : List α) : List α → Option α
  | [] => none
  | x :: rest =>
    match (g.previous x).find? fun y => y ∉ x :: before with
    | some y => some y
    | none => g.misplaced? (x :: before) rest

/-- The vertices, each after all that it depends on, or a vertex on a cycle. -/
def order (g : Digraph α) : Except α (List α) :=
  match g.searchAll ⟨[], [], []⟩ g.vertices with
  | .error x => .error x
  | .ok s =>
    match g.misplaced? [] s.closed with
    | some x => .error x
    | none => .ok s.closed

end Digraph

end AgentGraph
