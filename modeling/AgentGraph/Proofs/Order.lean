import AgentGraph.Graph.Order
import Mathlib.Data.List.Basic
import Mathlib.Logic.Relation

/-! What the search for a topological order finds.

* `Search.Sound`: what every state of the search keeps. A vertex that is discovered and not closed
  is open; all that lies on the stack above it can be reached from it, and each of its dependents
  is closed, or lies above it, or leads back to it.
* `order_ok`: an order that is found lists every vertex once, after all that it depends on.
* `order_error`: a vertex that is reported instead lies on a cycle.
* `order_isOk_iff`: so an order is found exactly if there is no cycle. -/
namespace AgentGraph.Digraph
open Relation
set_option autoImplicit false

variable {α : Type} {g : Digraph α} {s : Search α} {x y : α} {rest : List α}

/-- `y` depends on `x`. -/
def Edge (g : Digraph α) (x y : α) : Prop := (x, y) ∈ g.edges

/-- Edges join vertices. -/
def Joined (g : Digraph α) : Prop := ∀ x y, g.Edge x y → x ∈ g.vertices ∧ y ∈ g.vertices

/-- No vertex depends on itself, not even through others. -/
def Acyclic (g : Digraph α) : Prop := ∀ x, ¬ TransGen g.Edge x x

/-! ## The invariant of the search -/

/-- What a state of the search keeps at an open vertex `x` of its stack: `above` lies above it. -/
structure Search.OpenAt (g : Digraph α) (s : Search α) (above : List α) (x : α) : Prop where
  reach : ∀ y ∈ above, ReflTransGen g.Edge x y
  dependents : ∀ y, g.Edge x y → y ∈ s.closed ∨ y ∈ above ∨ ReflTransGen g.Edge y x

structure Search.Sound (g : Digraph α) (s : Search α) : Prop where
  stack_mem : ∀ x ∈ s.stack, x ∈ g.vertices
  discovered_mem : ∀ x ∈ s.discovered, x ∈ g.vertices
  discovered_irrefl : ∀ x ∈ s.discovered, ¬ g.Edge x x
  closed_discovered : ∀ x ∈ s.closed, x ∈ s.discovered
  closed_nodup : s.closed.Nodup
  covered : ∀ x ∈ s.discovered, x ∈ s.closed ∨ x ∈ s.stack
  openAt : ∀ above x below, s.stack = above ++ x :: below → x ∉ above → x ∈ s.discovered →
    x ∉ s.closed → s.OpenAt g above x
  closed_order : ∀ later x earlier, s.closed = later ++ x :: earlier →
    ∀ y, g.Edge x y → y ∈ earlier ∨ ReflTransGen g.Edge y x

theorem Search.sound_start : Search.Sound g (⟨[], [], []⟩ : Search α) where
  stack_mem := by simp
  discovered_mem := by simp
  discovered_irrefl := by simp
  closed_discovered := by simp
  closed_nodup := List.nodup_nil
  covered := by simp
  openAt := by simp
  closed_order := by simp

/-- A search that is at rest may go on from a vertex that is not discovered. -/
theorem Search.Sound.restart (hs : s.Sound g) (hrest : s.stack = []) (hx : x ∈ g.vertices)
    (hnew : x ∉ s.discovered) : Search.Sound g { s with stack := [x] } where
  stack_mem := by simpa using hx
  discovered_mem := hs.discovered_mem
  discovered_irrefl := hs.discovered_irrefl
  closed_discovered := hs.closed_discovered
  closed_nodup := hs.closed_nodup
  covered y hy := by
    have h := hs.covered y hy
    rw [hrest] at h
    exact .inl (h.resolve_right (by simp))
  openAt above y below hsplit _ hy _ := by
    have hmem : y ∈ [x] := by
      rw [show [x] = above ++ y :: below from hsplit]
      simp
    rw [List.mem_singleton] at hmem
    exact absurd (hmem ▸ hy) hnew
  closed_order := hs.closed_order

/-! ## Opening a vertex -/

/-- A list split at a member that does not occur in its front part. -/
theorem split_behind {front above below : List α} {w : α}
    (h : front ++ x :: rest = above ++ w :: below) (hw : w ∉ front) :
    w = x ∧ above = front ∨ ∃ mid, above = front ++ x :: mid ∧ rest = mid ++ w :: below := by
  rcases List.append_eq_append_iff.mp h with ⟨mid, habove, htail⟩ | ⟨mid, hfront, htail⟩
  · cases mid with
    | nil =>
      rw [List.nil_append, List.cons.injEq] at htail
      exact .inl ⟨htail.1.symm, by rw [habove, List.append_nil]⟩
    | cons v mid =>
      rw [List.cons_append, List.cons.injEq] at htail
      exact .inr ⟨mid, htail.1 ▸ habove, htail.2⟩
  · cases mid with
    | nil =>
      rw [List.nil_append, List.cons.injEq] at htail
      exact .inl ⟨htail.1, by rw [hfront, List.append_nil]⟩
    | cons v mid =>
      rw [List.cons_append, List.cons.injEq] at htail
      rw [hfront, htail.1] at hw
      simp at hw

variable [DecidableEq α]

theorem mem_next : y ∈ g.next x ↔ g.Edge x y := by
  simp [next, Edge]

theorem mem_previous : x ∈ g.previous y ↔ g.Edge x y := by
  simp [previous, Edge]

/-- What opening a vertex puts on the stack. -/
def pushed (g : Digraph α) (s : Search α) (x : α) : List α :=
  ((g.next x).filter fun y => y ∉ x :: s.discovered).reverse

theorem mem_pushed : y ∈ g.pushed s x ↔ g.Edge x y ∧ y ≠ x ∧ y ∉ s.discovered := by
  simp [pushed, mem_next, not_or]

/-- The vertex that was opened. A dependent that is open lies below it, and so leads to it. -/
theorem Search.Sound.openAt_top (hs : s.Sound g) (htop : s.stack = x :: rest)
    (hirrefl : ¬ g.Edge x x) : (s.open x (g.next x)).OpenAt g (g.pushed s x) x where
  reach y hy := .single (mem_pushed.mp hy).1
  dependents y hy := by
    have hyx : y ≠ x := fun h => hirrefl (h ▸ hy)
    by_cases hd : y ∈ s.discovered
    · by_cases hc : y ∈ s.closed
      · exact .inl hc
      · have hstack := (hs.covered y hd).resolve_left hc
        obtain ⟨above, below, hsplit, habove⟩ := List.eq_append_cons_of_mem hstack
        have hopen := hs.openAt above y below hsplit habove hd hc
        have hx : x ∈ above := by
          rw [htop] at hsplit
          cases above with
          | nil => exact absurd (List.cons.inj hsplit).1.symm hyx
          | cons v above => exact (List.cons.inj hsplit).1 ▸ List.mem_cons_self
        exact .inr (.inr (hopen.reach x hx))
    · exact .inr (.inl (mem_pushed.mpr ⟨hy, hyx, hd⟩))

/-- A vertex that was open before: what is pushed comes from it through the top. -/
theorem Search.OpenAt.push {w : α} {mid : List α} (h : s.OpenAt g (x :: mid) w) :
    (s.open x (g.next x)).OpenAt g (g.pushed s x ++ x :: mid) w where
  reach y hy := by
    rcases List.mem_append.mp hy with hp | hm
    · exact (h.reach x List.mem_cons_self).tail (mem_pushed.mp hp).1
    · exact h.reach y hm
  dependents y hy := by
    rcases h.dependents y hy with hc | ho | hr
    · exact .inl hc
    · exact .inr (.inl (List.mem_append_right _ ho))
    · exact .inr (.inr hr)

theorem Search.Sound.open (hs : s.Sound g) (hg : g.Joined) (htop : s.stack = x :: rest)
    (hirrefl : ¬ g.Edge x x) : (s.open x (g.next x)).Sound g where
  stack_mem y hy := by
    rcases List.mem_append.mp hy with h | h
    · exact (hg x y (mem_pushed.mp h).1).2
    · exact hs.stack_mem y h
  discovered_mem y hy := by
    rcases List.mem_cons.mp hy with rfl | h
    · exact hs.stack_mem y (by simp [htop])
    · exact hs.discovered_mem y h
  discovered_irrefl y hy := by
    rcases List.mem_cons.mp hy with rfl | h
    · exact hirrefl
    · exact hs.discovered_irrefl y h
  closed_discovered y hy := List.mem_cons_of_mem _ (hs.closed_discovered y hy)
  closed_nodup := hs.closed_nodup
  covered y hy := by
    rcases List.mem_cons.mp hy with rfl | h
    · exact .inr (List.mem_append_right _ (by simp [htop]))
    · exact (hs.covered y h).imp_right (List.mem_append_right _)
  openAt above w below hsplit habove hw hopen := by
    have hstack : g.pushed s x ++ x :: rest = above ++ w :: below := by
      rw [← htop]
      exact hsplit
    have hpushed : w ∉ g.pushed s x := by
      intro h
      obtain ⟨-, hne, hnew⟩ := mem_pushed.mp h
      exact (List.mem_cons.mp hw).elim hne hnew
    rcases split_behind hstack hpushed with ⟨rfl, rfl⟩ | ⟨mid, rfl, htail⟩
    · exact hs.openAt_top htop hirrefl
    · have hnot : w ∉ x :: mid := fun h => habove (List.mem_append_right _ h)
      have hold : w ∈ s.discovered :=
        (List.mem_cons.mp hw).resolve_left fun h => hnot (h ▸ List.mem_cons_self)
      exact (hs.openAt (x :: mid) w below (by rw [htop, htail, List.cons_append]) hnot hold
        hopen).push
  closed_order := hs.closed_order

/-! ## Closing a vertex -/

theorem Search.mem_close {w : α} : w ∈ (s.close x rest).closed ↔ w = x ∨ w ∈ s.closed := by
  unfold Search.close
  split
  · next h => exact ⟨.inr, fun hw => hw.elim (fun e => e ▸ h) id⟩
  · exact List.mem_cons

/-- When an open vertex is on top, its dependents are closed, but for those that lead back. -/
theorem Search.Sound.close_order (hs : s.Sound g) (htop : s.stack = x :: rest)
    (hx : x ∈ s.discovered) : ∀ later z earlier, (s.close x rest).closed = later ++ z :: earlier →
      ∀ y, g.Edge z y → y ∈ earlier ∨ ReflTransGen g.Edge y z := by
  intro later z earlier hsplit
  by_cases hc : x ∈ s.closed
  · rw [show (s.close x rest).closed = s.closed from if_pos hc] at hsplit
    exact hs.closed_order later z earlier hsplit
  · rw [show (s.close x rest).closed = x :: s.closed from if_neg hc] at hsplit
    cases later with
    | nil =>
      obtain ⟨rfl, rfl⟩ := List.cons.inj hsplit
      intro y hy
      have hopen := hs.openAt [] x rest htop (by simp) hx hc
      rcases hopen.dependents y hy with h | h | h
      · exact .inl h
      · simp at h
      · exact .inr h
    | cons v later => exact hs.closed_order later z earlier (List.cons.inj hsplit).2

theorem Search.Sound.close (hs : s.Sound g) (htop : s.stack = x :: rest)
    (hx : x ∈ s.discovered) : (s.close x rest).Sound g where
  stack_mem y hy := hs.stack_mem y (by rw [htop]; exact List.mem_cons_of_mem _ hy)
  discovered_mem := hs.discovered_mem
  discovered_irrefl := hs.discovered_irrefl
  closed_discovered y hy := (mem_close.mp hy).elim (fun h => h ▸ hx) (hs.closed_discovered y)
  closed_nodup := by
    unfold Search.close
    split
    · exact hs.closed_nodup
    · next h => exact List.nodup_cons.mpr ⟨h, hs.closed_nodup⟩
  covered y hy := by
    rcases hs.covered y hy with h | h
    · exact .inl (mem_close.mpr (.inr h))
    · rw [htop] at h
      rcases List.mem_cons.mp h with rfl | h
      · exact .inl (mem_close.mpr (.inl rfl))
      · exact .inr h
  openAt above w below hsplit habove hw hopen := by
    have hwx : w ∉ x :: above := by
      intro h
      rcases List.mem_cons.mp h with rfl | h
      · exact hopen (mem_close.mpr (.inl rfl))
      · exact habove h
    have hrest : rest = above ++ w :: below := hsplit
    have old := hs.openAt (x :: above) w below (by rw [htop, hrest, List.cons_append]) hwx hw
      fun h => hopen (mem_close.mpr (.inr h))
    refine ⟨fun y hy => old.reach y (List.mem_cons_of_mem _ hy), fun y hy => ?_⟩
    rcases old.dependents y hy with h | h | h
    · exact .inl (mem_close.mpr (.inr h))
    · rcases List.mem_cons.mp h with rfl | h
      · exact .inl (mem_close.mpr (.inl rfl))
      · exact .inr (.inl h)
    · exact .inr (.inr h)
  closed_order := hs.close_order htop hx

/-! ## Whole searches -/

/-- A search that ends has discovered all that was on its stack. -/
theorem search_ok (hg : g.Joined) (s : Search α) (hs : s.Sound g) {t : Search α}
    (h : g.search s = .ok t) : t.Sound g ∧ t.stack = [] ∧
      (∀ x ∈ s.discovered, x ∈ t.discovered) ∧ ∀ x ∈ s.stack, x ∈ t.discovered := by
  fun_induction Digraph.search g s with
  | case1 s hstack =>
    rw [Except.ok.injEq] at h
    subst h
    exact ⟨hs, hstack, fun _ hx => hx, by simp [hstack]⟩
  | case2 s x rest htop hnew hself => cases h
  | case3 s x rest htop hnew hself ih =>
    have hirrefl : ¬ g.Edge x x := fun he => hself (mem_next.mpr he)
    obtain ⟨ht, hrest, hdisc, hstack⟩ := ih (hs.open hg htop hirrefl) h
    exact ⟨ht, hrest, fun y hy => hdisc y (List.mem_cons_of_mem _ hy),
      fun y hy => hstack y (List.mem_append_right _ hy)⟩
  | case4 s x rest htop hold ih =>
    have hx : x ∈ s.discovered := by
      by_contra hd
      exact hold ⟨hs.stack_mem x (by simp [htop]), hd⟩
    obtain ⟨ht, hrest, hdisc, hstack⟩ := ih (hs.close htop hx) h
    refine ⟨ht, hrest, hdisc, fun y hy => ?_⟩
    rw [htop] at hy
    rcases List.mem_cons.mp hy with rfl | hy
    · exact hdisc y hx
    · exact hstack y hy

theorem search_error (s : Search α) (h : g.search s = .error x) : g.Edge x x := by
  fun_induction Digraph.search g s with
  | case1 => cases h
  | case2 s y rest htop hnew hself =>
    rw [Except.error.injEq] at h
    subst h
    exact mem_next.mp hself
  | case3 s y rest htop hnew hself ih => exact ih h
  | case4 s y rest htop hold ih => exact ih h

theorem searchAll_ok (hg : g.Joined) (xs : List α) (hxs : ∀ x ∈ xs, x ∈ g.vertices) (s : Search α)
    (hs : s.Sound g) (hrest : s.stack = []) {t : Search α} (h : g.searchAll s xs = .ok t) :
    t.Sound g ∧ t.stack = [] ∧ (∀ x ∈ s.discovered, x ∈ t.discovered) ∧
      ∀ x ∈ xs, x ∈ t.discovered := by
  induction xs generalizing s with
  | nil =>
    rw [searchAll, Except.ok.injEq] at h
    subst h
    exact ⟨hs, hrest, fun _ hx => hx, by simp⟩
  | cons x xs ih =>
    have hin := fun y hy => hxs y (List.mem_cons_of_mem _ hy)
    rw [searchAll] at h
    split at h
    · next hx =>
      obtain ⟨ht, hend, hdisc, hall⟩ := ih hin s hs hrest h
      refine ⟨ht, hend, hdisc, fun y hy => ?_⟩
      rcases List.mem_cons.mp hy with rfl | hy
      · exact hdisc y hx
      · exact hall y hy
    · next hx =>
      split at h
      · cases h
      · next u hu =>
        have hstart := hs.restart hrest (hxs x List.mem_cons_self) hx
        obtain ⟨hu', hurest, hudisc, hustack⟩ := search_ok hg _ hstart hu
        obtain ⟨ht, hend, hdisc, hall⟩ := ih hin u hu' hurest h
        refine ⟨ht, hend, fun y hy => hdisc y (hudisc y hy), fun y hy => ?_⟩
        rcases List.mem_cons.mp hy with rfl | hy
        · exact hdisc y (hustack y (by simp))
        · exact hall y hy

theorem searchAll_error (xs : List α) (s : Search α) (h : g.searchAll s xs = .error x) :
    g.Edge x x := by
  induction xs generalizing s with
  | nil => cases h
  | cons y xs ih =>
    rw [searchAll] at h
    split at h
    · exact ih s h
    · split at h
      · next hu =>
        rw [Except.error.injEq] at h
        subst h
        exact search_error _ hu
      · next u hu => exact ih u h

/-! ## The order -/

theorem misplaced?_eq_none {before xs : List α} (h : g.misplaced? before xs = none) :
    ∀ pre x post, xs = pre ++ x :: post → ∀ y, g.Edge y x → y ∈ before ∨ y ∈ pre ∨ y = x := by
  induction xs generalizing before with
  | nil => simp
  | cons z xs ih =>
    rw [misplaced?] at h
    split at h
    · cases h
    · next hnone =>
      intro pre x post hsplit y hy
      cases pre with
      | nil =>
        obtain ⟨rfl, rfl⟩ := List.cons.inj hsplit
        have hin := List.find?_eq_none.mp hnone y (mem_previous.mpr hy)
        have hmem : y ∈ z :: before := by simpa only [decide_eq_true_eq, not_not] using hin
        exact (List.mem_cons.mp hmem).elim (fun e => .inr (.inr e)) .inl
      | cons v pre =>
        obtain ⟨rfl, htail⟩ := List.cons.inj hsplit
        rcases ih h pre x post htail y hy with hb | hp | he
        · rcases List.mem_cons.mp hb with rfl | hb
          · exact .inr (.inl List.mem_cons_self)
          · exact .inl hb
        · exact .inr (.inl (List.mem_cons_of_mem _ hp))
        · exact .inr (.inr he)

theorem misplaced?_eq_some {before xs : List α} (h : g.misplaced? before xs = some y) :
    ∃ pre x post, xs = pre ++ x :: post ∧ g.Edge y x ∧ y ∉ before ∧ y ∉ pre ∧ y ≠ x := by
  induction xs generalizing before with
  | nil => cases h
  | cons z xs ih =>
    rw [misplaced?] at h
    split at h
    · next w hw =>
      rw [Option.some.injEq] at h
      subst h
      have hout : w ∉ z :: before := by simpa using List.find?_some hw
      have hedge := mem_previous.mp (List.mem_of_find?_eq_some hw)
      exact ⟨[], z, xs, rfl, hedge, fun h => hout (List.mem_cons_of_mem _ h), by simp,
        fun h => hout (h ▸ List.mem_cons_self)⟩
    · next hnone =>
      obtain ⟨pre, x, post, hsplit, hedge, hbefore, hpre, hne⟩ := ih h
      refine ⟨z :: pre, x, post, by rw [hsplit, List.cons_append], hedge,
        fun h => hbefore (List.mem_cons_of_mem _ h), fun h => ?_, hne⟩
      rcases List.mem_cons.mp h with rfl | h
      · exact hbefore List.mem_cons_self
      · exact hpre h

/-- The state in which the search of all vertices ends. -/
theorem closed_of_searchAll (hg : g.Joined) {t : Search α}
    (h : g.searchAll ⟨[], [], []⟩ g.vertices = .ok t) :
    t.Sound g ∧ ∀ x, x ∈ t.closed ↔ x ∈ g.vertices := by
  obtain ⟨ht, hend, -, hall⟩ :=
    searchAll_ok hg g.vertices (fun _ hx => hx) _ Search.sound_start rfl h
  refine ⟨ht, fun x => ⟨fun hx => ht.discovered_mem x (ht.closed_discovered x hx), fun hx => ?_⟩⟩
  have hcov := ht.covered x (hall x hx)
  rw [hend] at hcov
  exact hcov.resolve_right (by simp)

/-- Every vertex stands after all that it depends on. -/
def Respects (g : Digraph α) (order : List α) : Prop :=
  ∀ pre x post, order = pre ++ x :: post → ∀ y, g.Edge y x → y ∈ pre

theorem order_ok (hg : g.Joined) {order : List α} (h : g.order = .ok order) :
    order.Nodup ∧ (∀ x, x ∈ order ↔ x ∈ g.vertices) ∧ g.Respects order := by
  unfold Digraph.order at h
  split at h
  · cases h
  · next t ht =>
    obtain ⟨hsound, hmem⟩ := closed_of_searchAll hg ht
    split at h
    · cases h
    · next hplaced =>
      rw [Except.ok.injEq] at h
      subst h
      refine ⟨hsound.closed_nodup, hmem, fun pre x post hsplit y hy => ?_⟩
      rcases misplaced?_eq_none hplaced pre x post hsplit y hy with hb | hp | rfl
      · simp at hb
      · exact hp
      · have hx : y ∈ t.closed := by
          rw [hsplit]
          simp
        exact absurd hy (hsound.discovered_irrefl y (hsound.closed_discovered y hx))

/-- A vertex that is out of place was closed before one that depends on it, so that one leads
back to it. -/
theorem order_error (hg : g.Joined) (h : g.order = .error x) : TransGen g.Edge x x := by
  unfold Digraph.order at h
  split at h
  · next hself =>
    rw [Except.error.injEq] at h
    subst h
    exact .single (searchAll_error _ _ hself)
  · next t ht =>
    obtain ⟨hsound, hmem⟩ := closed_of_searchAll hg ht
    split at h
    · next y hy =>
      rw [Except.error.injEq] at h
      subst h
      obtain ⟨pre, z, post, hsplit, hedge, -, hpre, hne⟩ := misplaced?_eq_some hy
      have hin : y ∈ t.closed := (hmem y).mpr (hg y z hedge).1
      rw [hsplit] at hin
      have hpost : y ∈ post := by
        rcases List.mem_append.mp hin with h | h
        · exact absurd h hpre
        · exact (List.mem_cons.mp h).resolve_left hne
      obtain ⟨mid, last, rfl⟩ := List.append_of_mem hpost
      have hback : z ∈ last ∨ ReflTransGen g.Edge z y :=
        hsound.closed_order (pre ++ z :: mid) y last (by rw [hsplit]; simp) z hedge
      have hnodup := hsound.closed_nodup
      rw [hsplit, List.nodup_append, List.nodup_cons] at hnodup
      have hlast : z ∉ last := fun h => hnodup.2.1.1 (by simp [h])
      exact .head' hedge (hback.resolve_left hlast)
    · cases h

theorem Respects.idxOf_lt {order : List α} (h : g.Respects order) (hy : y ∈ order)
    (he : g.Edge x y) : order.idxOf x < order.idxOf y := by
  obtain ⟨pre, post, rfl, hpre⟩ := List.eq_append_cons_of_mem hy
  have hx := h pre y post rfl x he
  rw [List.idxOf_append_of_mem hx, List.idxOf_append_of_notMem hpre, List.idxOf_cons_self]
  exact Nat.lt_of_lt_of_le (List.idxOf_lt_length_of_mem hx) (Nat.le_add_right _ _)

theorem acyclic_of_order (hg : g.Joined) {order : List α} (h : g.order = .ok order) :
    g.Acyclic := by
  obtain ⟨-, hmem, hresp⟩ := order_ok hg h
  have hlt : ∀ x y, TransGen g.Edge x y → order.idxOf x < order.idxOf y := by
    intro x y hxy
    induction hxy with
    | single he => exact hresp.idxOf_lt ((hmem _).mpr (hg _ _ he).2) he
    | tail _ he ih => exact Nat.lt_trans ih (hresp.idxOf_lt ((hmem _).mpr (hg _ _ he).2) he)
  exact fun x hx => Nat.lt_irrefl _ (hlt x x hx)

theorem order_isOk_iff (hg : g.Joined) : (∃ order, g.order = .ok order) ↔ g.Acyclic := by
  refine ⟨fun ⟨order, h⟩ => acyclic_of_order hg h, fun h => ?_⟩
  cases horder : g.order with
  | error x => exact absurd (order_error hg horder) (h x)
  | ok order => exact ⟨order, rfl⟩

end AgentGraph.Digraph
