import AgentGraph.Proofs.Growth
import AgentGraph.Proofs.Trace

/-! What is done to a scope, and what comes of it.

A scope is written to, units are recorded in it, and branches are merged into it that have been
changed in the same ways. All that is left of this is one row of writes and one row of invocations:
where a branch is merged, its own rows are put in. So neither the time at which a branch was made nor
the depth at which it was merged matters, only the place where it comes back.

* `Scope.Change`: one thing that is done to a scope.
* `Scope.Becomes`: by which changes a scope comes to be another one.
* `Scope.Becomes.get?_eq`, `Scope.Becomes.mem_written_iff`, `Scope.Becomes.trace_eq`: what comes of them.
* `Scope.Reachable`: everything that can be made of new scopes.
* `merge_of_branches`: branches are merged key by key, and the last one that wrote a key decides. -/
namespace AgentGraph
set_option autoImplicit false

/-! ## Rows of writes -/

/-- The value that was written under the key last. -/
def lastWritten (writes : List (String × Value)) (key : String) : Option Value :=
  Fields.get? writes.reverse key

theorem lastWritten_append (writes more : List (String × Value)) (key : String) :
    lastWritten (writes ++ more) key = (lastWritten more key).or (lastWritten writes key) := by
  rw [lastWritten, List.reverse_append, Fields.get?_append]
  rfl

theorem mem_of_lastWritten {writes : List (String × Value)} {key : String} {value : Value}
    (h : lastWritten writes key = some value) : (key, value) ∈ writes :=
  List.mem_reverse.mp (Fields.mem_of_get? h)

theorem lastWritten_isSome_iff {writes : List (String × Value)} {key : String} :
    (lastWritten writes key).isSome ↔ key ∈ writes.map Prod.fst := by
  induction writes using List.reverseRecOn with
  | nil => simp [lastWritten]
  | append_singleton writes e ih =>
    obtain ⟨k, v⟩ := e
    rw [lastWritten_append, Option.isSome_or, Bool.or_eq_true, ih, List.map_append,
      List.mem_append, List.map_singleton, List.mem_singleton, or_comm]
    refine or_congr_right ?_
    by_cases hk : k = key
    · simp [lastWritten, Fields.get?, hk]
    · simp [lastWritten, Fields.get?, hk, Ne.symm hk]

namespace Scope

/-! ## Changes -/

/-- One thing that is done to a scope. A branch is merged with everything that was done to it. -/
inductive Change where
  | write (key : String) (value : Value)
  | record (nodeId nodeName : String)
  | merge (inside : List Change)

namespace Change

mutual

/-- What is written, by a branch as soon as it is merged. -/
def writes : Change → List (String × Value)
  | .write key value => [(key, value)]
  | .record _ _ => []
  | .merge inside => writesOfAll inside

def writesOfAll : List Change → List (String × Value)
  | [] => []
  | change :: rest => writes change ++ writesOfAll rest

end

mutual

/-- What is recorded, by a branch as soon as it is merged. -/
def invocations : Change → List Invocation
  | .write _ _ => []
  | .record nodeId nodeName => [⟨nodeId, nodeName⟩]
  | .merge inside => invocationsOfAll inside

def invocationsOfAll : List Change → List Invocation
  | [] => []
  | change :: rest => invocations change ++ invocationsOfAll rest

end

theorem writesOfAll_append (changes more : List Change) :
    writesOfAll (changes ++ more) = writesOfAll changes ++ writesOfAll more := by
  induction changes with
  | nil => rfl
  | cons change rest ih => rw [List.cons_append, writesOfAll, writesOfAll, ih, List.append_assoc]

theorem invocationsOfAll_append (changes more : List Change) :
    invocationsOfAll (changes ++ more) = invocationsOfAll changes ++ invocationsOfAll more := by
  induction changes with
  | nil => rfl
  | cons change rest ih =>
    rw [List.cons_append, invocationsOfAll, invocationsOfAll, ih, List.append_assoc]

theorem writesOfAll_concat (changes : List Change) (change : Change) :
    writesOfAll (changes ++ [change]) = writesOfAll changes ++ change.writes := by
  rw [writesOfAll_append, writesOfAll, writesOfAll, List.append_nil]

theorem invocationsOfAll_concat (changes : List Change) (change : Change) :
    invocationsOfAll (changes ++ [change]) = invocationsOfAll changes ++ change.invocations := by
  rw [invocationsOfAll_append, invocationsOfAll, invocationsOfAll, List.append_nil]

end Change

/-- By these changes the scope becomes the other one. A branch that is merged has become what it is in
the same way; it may have been made at any time, of this scope or of another one. -/
inductive Becomes : Scope → List Change → Scope → Prop
  | start {s : Scope} : Becomes s [] s
  | write {s t : Scope} {changes : List Change} (h : Becomes s changes t) (key : String)
      (value : Value) : Becomes s (changes ++ [.write key value]) (t.write key value)
  | record {s t : Scope} {changes : List Change} (h : Becomes s changes t)
      (nodeId nodeName : String) :
    Becomes s (changes ++ [.record nodeId nodeName]) (t.record nodeId nodeName)
  | merge {s t origin branch : Scope} {changes inside : List Change} (h : Becomes s changes t)
      (hbranch : Becomes origin.branch inside branch) :
    Becomes s (changes ++ [.merge inside]) (t.merge branch)

namespace Becomes

variable {s t u : Scope} {changes more : List Change}

theorem trans (h : Becomes s changes t) (h' : Becomes t more u) : Becomes s (changes ++ more) u := by
  induction h' with
  | start => rwa [List.append_nil]
  | write _ key value ih =>
    rw [← List.append_assoc]
    exact (ih h).write key value
  | record _ nodeId nodeName ih =>
    rw [← List.append_assoc]
    exact (ih h).record nodeId nodeName
  | merge _ hbranch ih =>
    rw [← List.append_assoc]
    exact (ih h).merge hbranch

theorem mem_written_iff (h : Becomes s changes t) (key : String) :
    key ∈ t.written ↔ key ∈ s.written ∨ key ∈ (Change.writesOfAll changes).map Prod.fst := by
  induction h with
  | start => simp [Change.writesOfAll]
  | @write s t changes _ name value ih =>
    have hwritten : (t.write name value).written = t.written.insert name := rfl
    have hname : key ∈ (Change.write name value).writes.map Prod.fst ↔ key = name :=
      List.mem_singleton
    rw [hwritten, Names.mem_insert, ih, Change.writesOfAll_concat, List.map_append,
      List.mem_append, hname, or_comm, or_assoc]
  | @record s t changes _ _ _ ih =>
    rw [Change.writesOfAll_concat, Change.writes, List.append_nil]
    exact ih
  | @merge s t origin branch changes inside _ _ ih ihbranch =>
    have hwritten : (t.merge branch).written = Names.union t.written branch.written := rfl
    -- The branch began with nothing written.
    have hbranch : key ∈ branch.written ↔ key ∈ (Change.writesOfAll inside).map Prod.fst :=
      ihbranch.trans (or_iff_right List.not_mem_nil)
    rw [hwritten, Names.mem_union, ih, hbranch, Change.writesOfAll_concat, List.map_append,
      List.mem_append, or_assoc]
    rfl

theorem get?_eq (h : Becomes s changes t) (key : String) :
    t.get? key = (lastWritten (Change.writesOfAll changes) key).or (s.get? key) := by
  induction h with
  | start => rfl
  | @write s t changes _ name value ih =>
    rw [get?_write, ih, Change.writesOfAll_concat, lastWritten_append, Change.writes]
    by_cases hname : name = key <;> simp [lastWritten, Fields.get?, hname]
  | @record s t changes _ _ _ ih =>
    rw [Change.writesOfAll_concat, Change.writes, List.append_nil]
    exact ih
  | @merge s t origin branch changes inside _ hbranch ih ihbranch =>
    have hwritten : key ∈ branch.written ↔ (lastWritten (Change.writesOfAll inside) key).isSome :=
      ((hbranch.mem_written_iff key).trans (or_iff_right List.not_mem_nil)).trans
        lastWritten_isSome_iff.symm
    rw [get?_merge, ih, ihbranch, Change.writesOfAll_concat, lastWritten_append, Change.writes]
    simp only [hwritten]
    cases lastWritten (Change.writesOfAll inside) key <;> simp

theorem trace_eq (h : Becomes s changes t) :
    t.trace = s.trace ++ Change.invocationsOfAll changes := by
  induction h with
  | start => exact (List.append_nil _).symm
  | write _ _ _ ih =>
    rw [Change.invocationsOfAll_concat, Change.invocations, List.append_nil]
    exact ih
  | @record s t changes _ nodeId nodeName ih =>
    have htrace : (t.record nodeId nodeName).trace = t.trace ++ [⟨nodeId, nodeName⟩] := rfl
    rw [htrace, ih, Change.invocationsOfAll_concat, Change.invocations, List.append_assoc]
  | @merge s t origin branch changes inside _ _ ih ihbranch =>
    have htrace : (t.merge branch).trace = t.trace ++ branch.trace := rfl
    have hbranch : branch.trace = Change.invocationsOfAll inside := ihbranch
    rw [htrace, ih, hbranch, Change.invocationsOfAll_concat, Change.invocations,
      List.append_assoc]

end Becomes

/-! ## What scopes keep to -/

/-- The scope can be made of new ones. -/
inductive Reachable : Scope → Prop
  | new (state : ValueMap) (trace : List Invocation) : Reachable ⟨state, trace, []⟩
  | branch {s : Scope} (h : Reachable s) : Reachable s.branch
  | write {s : Scope} (h : Reachable s) (key : String) (value : Value) :
    Reachable (s.write key value)
  | record {s : Scope} (h : Reachable s) (nodeId nodeName : String) :
    Reachable (s.record nodeId nodeName)
  | merge {s branch : Scope} (h : Reachable s) (hbranch : Reachable branch) :
    Reachable (s.merge branch)

/-- Every key of the first scope is one of the second. -/
def Covered (s t : Scope) : Prop := ∀ key, (s.get? key).isSome → (t.get? key).isSome

theorem Becomes.covered {s t : Scope} {changes : List Change} (h : Becomes s changes t) :
    s.Covered t := by
  intro key hkey
  rw [h.get?_eq key, Option.isSome_or, hkey, Bool.or_true]

theorem covered_write (s : Scope) (key : String) (value : Value) : s.Covered (s.write key value) := by
  intro name hname
  rw [get?_write]
  split
  · rfl
  · exact hname

theorem covered_merge (s branch : Scope) : s.Covered (s.merge branch) := by
  intro name hname
  rw [get?_merge]
  split
  · next h => exact h.2
  · exact hname

theorem Reachable.present {s : Scope} (h : Reachable s) :
    ∀ key ∈ s.written, (s.get? key).isSome := by
  induction h with
  | new | branch => exact fun _ hkey => nomatch hkey
  | @write s _ key value ih =>
    intro name hname
    rcases (Names.mem_insert _ _ _).mp hname with rfl | hname
    · rw [get?_write, if_pos rfl]
      rfl
    · exact covered_write s key value name (ih name hname)
  | record _ _ _ ih => exact ih
  | @merge s branch _ _ ih ihbranch =>
    intro name hname
    rcases (Names.mem_union _ _ _).mp hname with hname | hname
    · exact covered_merge s branch name (ih name hname)
    · have hbranch := ihbranch name hname
      rwa [get?_merge, if_pos ⟨hname, hbranch⟩]

end Scope

/-! ## Branches -/

/-- A branch, as it is now, and everything that has been done to it. -/
structure Offshoot where
  changes : List Scope.Change
  scope : Scope

namespace Offshoot

open Scope

/-- The branch was made of the scope. -/
def Of (b : Offshoot) (s : Scope) : Prop := Becomes s.branch b.changes b.scope

/-- What the branch wrote, itself or by merging its own branches. -/
def writes (b : Offshoot) : List (String × Value) := Change.writesOfAll b.changes

def Wrote (b : Offshoot) (key : String) : Prop := key ∈ b.writes.map Prod.fst

instance (b : Offshoot) (key : String) : Decidable (b.Wrote key) :=
  inferInstanceAs (Decidable (key ∈ b.writes.map Prod.fst))

variable {s : Scope} {b : Offshoot} {key : String}

theorem Of.mem_written_iff (h : b.Of s) : key ∈ b.scope.written ↔ b.Wrote key :=
  (Becomes.mem_written_iff h key).trans (or_iff_right List.not_mem_nil)

theorem Of.get?_of_wrote (h : b.Of s) (hkey : b.Wrote key) :
    ∃ value, lastWritten b.writes key = some value ∧ b.scope.get? key = some value := by
  obtain ⟨value, hvalue⟩ := Option.isSome_iff_exists.mp (lastWritten_isSome_iff.mpr hkey)
  refine ⟨value, hvalue, ?_⟩
  have hlast : lastWritten (Change.writesOfAll b.changes) key = some value := hvalue
  rw [Becomes.get?_eq h key, hlast, Option.some_or]

theorem Of.get?_merge (h : b.Of s) (t : Scope) : (t.merge b.scope).get? key =
    (lastWritten b.writes key).or (t.get? key) := by
  have hmerged : Becomes t [.merge b.changes] (t.merge b.scope) := Becomes.start.merge h
  have hwrites : Change.writesOfAll [.merge b.changes] = b.writes := List.append_nil _
  rw [hmerged.get?_eq key, hwrites]

/-- What is merged last is looked at first. -/
theorem get?_merge_all {branches : List Offshoot} (h : ∀ b ∈ branches, b.Of s) (t : Scope) :
    ((branches.map scope).foldl Scope.merge t).get? key =
      (lastWritten (branches.flatMap writes) key).or (t.get? key) := by
  induction branches generalizing t with
  | nil => rfl
  | cons b rest ih =>
    have hb : b.Of s := h b List.mem_cons_self
    have hrest : ∀ x ∈ rest, x.Of s := fun x hx => h x (List.mem_cons_of_mem _ hx)
    rw [List.map_cons, List.foldl_cons, ih hrest, hb.get?_merge, List.flatMap_cons,
      lastWritten_append, Option.or_assoc]

theorem not_mem_writes {branches : List Offshoot} (h : ∀ b ∈ branches, ¬ b.Wrote key) :
    lastWritten (branches.flatMap writes) key = none := by
  rw [← Option.not_isSome_iff_eq_none, lastWritten_isSome_iff, List.mem_map]
  rintro ⟨e, he, rfl⟩
  obtain ⟨b, hb, heb⟩ := List.mem_flatMap.mp he
  exact h b hb (List.mem_map_of_mem heb)

end Offshoot

theorem mem_written_merge_all {branches : List Scope} {s : Scope} {key : String} :
    key ∈ (branches.foldl Scope.merge s).written ↔
      key ∈ s.written ∨ ∃ b ∈ branches, key ∈ b.written := by
  induction branches generalizing s with
  | nil => simp
  | cons b rest ih =>
    have hwritten : (s.merge b).written = Names.union s.written b.written := rfl
    rw [List.foldl_cons, ih, hwritten, Names.mem_union, List.exists_mem_cons_iff, or_assoc]

/-! ## Merging branches back -/

/-- Branches of a scope are merged into it one after another, each after it has been changed in any
ways. A key then holds what the last branch that wrote it came to hold there, which is the last value
that was written under the key in it; a key that none of them wrote is as it was. What the scope or a
branch wrote is written, and the traces are put one after another. In everything that can be made of
new scopes there is a value under each written key, and nothing that is done to a scope takes a key
away. -/
theorem merge_of_branches (s : Scope) (branches : List Offshoot) (h : ∀ b ∈ branches, b.Of s) :
    let merged := (branches.map Offshoot.scope).foldl Scope.merge s
    (∀ key before b after, branches = before ++ b :: after → b.Wrote key →
      (∀ later ∈ after, ¬ later.Wrote key) → ∃ value, lastWritten b.writes key = some value ∧
        b.scope.get? key = some value ∧ merged.get? key = some value) ∧
    (∀ key, (∀ b ∈ branches, ¬ b.Wrote key) → merged.get? key = s.get? key) ∧
    (∀ key, key ∈ merged.written ↔ key ∈ s.written ∨ ∃ b ∈ branches, key ∈ b.scope.written) ∧
    merged.trace = s.trace ++ (branches.map fun b => b.scope.trace).flatten ∧
    (∀ b ∈ branches, (∀ key, key ∈ b.scope.written ↔ b.Wrote key) ∧
      b.scope.trace = Scope.Change.invocationsOfAll b.changes) ∧
    (∀ t : Scope, t.Reachable → ∀ key ∈ t.written, (t.get? key).isSome) ∧
    ∀ t : Scope, t.Covered t.branch ∧ (∀ key value, t.Covered (t.write key value)) ∧
      (∀ nodeId nodeName, t.Covered (t.record nodeId nodeName)) ∧
      (∀ branch, t.Covered (t.merge branch)) ∧ ∀ changes u, t.Becomes changes u → t.Covered u := by
  refine ⟨?_, ?_, ?_, ?_, ?_, fun t ht => ht.present, fun t => ⟨?_, ?_, ?_, ?_, ?_⟩⟩
  · rintro key before b after rfl hwrote hlater
    have hb : b.Of s := h b List.mem_append_cons_self
    obtain ⟨value, hlast, hvalue⟩ := hb.get?_of_wrote hwrote
    refine ⟨value, hlast, hvalue, ?_⟩
    rw [Offshoot.get?_merge_all h, List.flatMap_append, List.flatMap_cons, lastWritten_append,
      lastWritten_append, Offshoot.not_mem_writes hlater, Option.none_or, hlast]
    rfl
  · intro key hnone
    rw [Offshoot.get?_merge_all h, Offshoot.not_mem_writes hnone, Option.none_or]
  · intro key
    rw [mem_written_merge_all]
    simp
  · rw [trace_merged, List.map_map]
    rfl
  · intro b hb
    exact ⟨fun key => (h b hb).mem_written_iff, Scope.Becomes.trace_eq (h b hb)⟩
  · exact fun _ hkey => hkey
  · exact t.covered_write
  · exact fun _ _ _ hkey => hkey
  · exact t.covered_merge
  · exact fun _ _ h => h.covered

namespace Rehearsal

def start : Scope := .ofState [("mood", .string "calm"), ("tune", .string "old")]

def first : Offshoot where
  changes := [.write "tune" (.string "first")]
  scope := start.branch.write "tune" (.string "first")

/-- A branch of this branch wrote the tune, after a branch of its own had written the words. -/
def second : Offshoot where
  changes := [.record "b" "Bass", .merge [.merge [.write "words" (.string "la")],
    .write "tune" (.string "second")]]
  scope :=
    let inner := start.branch.branch
    (start.branch.record "b" "Bass").merge
      ((inner.merge (inner.branch.write "words" (.string "la"))).write "tune" (.string "second"))

theorem branches_of_start : ∀ b ∈ [first, second], b.Of start := by
  intro b hb
  rcases List.mem_cons.mp hb with rfl | hb
  · exact Scope.Becomes.start.write _ _
  · rw [List.mem_singleton.mp hb]
    have hwords : Scope.Becomes start.branch.branch.branch [.write "words" (.string "la")] _ :=
      Scope.Becomes.start.write _ _
    have hinner : Scope.Becomes start.branch.branch _ _ :=
      (Scope.Becomes.start.merge hwords).write "tune" (.string "second")
    exact (Scope.Becomes.start.record "b" "Bass").merge hinner

end Rehearsal

open Rehearsal in
/-- The tune that was written two branches down stands, and the mood is as it was. -/
theorem merge_of_branches_rehearsal :
    (∀ b ∈ [first, second], b.Of start) ∧
      ((start.merge first.scope).merge second.scope).get? "tune" = some (.string "second") ∧
      ((start.merge first.scope).merge second.scope).get? "mood" = some (.string "calm") := by
  obtain ⟨hlast, hkept, -⟩ := merge_of_branches start [first, second] branches_of_start
  refine ⟨branches_of_start, ?_, hkept "mood" (by decide)⟩
  obtain ⟨value, hvalue, -, hmerged⟩ := hlast "tune" [first] second [] rfl (by decide)
    fun _ hlater => nomatch hlater
  obtain rfl : .string "second" = value := Option.some.inj hvalue
  exact hmerged

end AgentGraph
