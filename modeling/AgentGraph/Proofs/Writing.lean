import AgentGraph.Proofs.Changes
import AgentGraph.Proofs.Wording

/-! What a process writes on its way to an outcome.

Every write is a step of the process, so that one can tell what was written while it was going on, also
where nothing shows it afterwards: where the same value was there before, or another one came later. If
an invocation succeeds, its writes are all that has been done to the state: nothing is written in a
branch that is not merged, and nothing is there that was not written.

* `Writing`: by some writes a process comes to an outcome.
* `Writing.of_andThen`, `Writing.of_onSuccess`: the writes of two parts that follow on each other.
* `Written`: a scope that has become another one by these writes alone.
* `Runnable.accounts`: an invocation that succeeds has done nothing else to its scope.
* `exists_writing_of_steps`: whatever a schedule comes to is come to by some writes. -/
namespace AgentGraph
set_option autoImplicit false

variable {μ σ : Type} {may : Replies μ}

/-! ## Writes of a process -/

/-- A process that was run: what it wrote, and what it came to. -/
structure Wrote (μ : Type) where
  start : Process μ
  writes : List (String × Value)
  outcome : Outcome

/-- By these writes the process comes to the outcome. Those of the branches of a fork are listed one
branch after another. -/
inductive Writing (may : Replies μ) : Process μ → List (String × Value) → Outcome → Prop
  | done {o : Outcome} : Writing may (.done o) [] o
  | report {e : Event} {next : Process μ} {writes : List (String × Value)} {o : Outcome}
      (h : Writing may next writes o) : Writing may (.report e next) writes o
  | write {c : Context} {key : String} {value : Value} {next : Context → Process μ}
      {writes : List (String × Value)} {o : Outcome}
      (h : Writing may (next (c.write key value)) writes o) :
    Writing may (.write c key value next) ((key, value) :: writes) o
  | ask {model : μ} {request : Request} {next : Except Failure String → Process μ}
      {reply : Except Failure String} {writes : List (String × Value)} {o : Outcome}
      (hreply : may model request reply) (h : Writing may (next reply) writes o) :
    Writing may (.ask model request next) writes o
  | fork {pool : Nat} {runs : List (Wrote μ)} {next : List Outcome → Process μ}
      {writes : List (String × Value)} {o : Outcome}
      (hruns : ∀ r ∈ runs, Writing may r.start r.writes r.outcome)
      (h : Writing may (next (runs.map Wrote.outcome)) writes o) :
    Writing may (.fork pool (runs.map Wrote.start) next) (runs.flatMap Wrote.writes ++ writes) o

section Inversion
variable {writes : List (String × Value)} {o : Outcome} {c c' : Context} {direct : Value}

theorem Writing.of_fork {pool : Nat} {branches : List (Process μ)}
    {next : List Outcome → Process μ} (h : Writing may (.fork pool branches next) writes o) :
    ∃ (runs : List (Wrote μ)) (rest : List (String × Value)), runs.map Wrote.start = branches ∧
      (∀ r ∈ runs, Writing may r.start r.writes r.outcome) ∧
      Writing may (next (runs.map Wrote.outcome)) rest o ∧
      writes = runs.flatMap Wrote.writes ++ rest := by
  cases h with
  | fork hruns h => exact ⟨_, _, rfl, hruns, h, rfl⟩

theorem Writing.of_done (h : Writing may (.done o : Process μ) writes ⟨.ok direct, c⟩) :
    writes = [] ∧ o = ⟨.ok direct, c⟩ := by
  cases h with
  | done => exact ⟨rfl, rfl⟩

theorem Writing.of_done_ok {value : Value} (h : Writing may (.done ⟨.ok value, c⟩ : Process μ) writes
    ⟨.ok direct, c'⟩) : writes = [] ∧ direct = value ∧ c' = c := by
  cases h with
  | done => exact ⟨rfl, rfl, rfl⟩

theorem Writing.of_andThen {k : Outcome → Process μ} : (p : Process μ) →
    {writes : List (String × Value)} → {o : Outcome} → Writing may (p.andThen k) writes o →
    ∃ first o₁ rest, Writing may p first o₁ ∧ Writing may (k o₁) rest o ∧ writes = first ++ rest
  | .done o₁, writes, _, h => ⟨[], o₁, writes, .done, h, rfl⟩
  | .report _ next, _, _, h => by
    cases h with
    | report h =>
      obtain ⟨first, o₁, rest, hfirst, hrest, rfl⟩ := of_andThen next h
      exact ⟨first, o₁, rest, .report hfirst, hrest, rfl⟩
  | .write _ _ _ next, _, _, h => by
    cases h with
    | write h =>
      obtain ⟨first, o₁, rest, hfirst, hrest, rfl⟩ := of_andThen (next _) h
      exact ⟨_, o₁, rest, .write hfirst, hrest, rfl⟩
  | .ask _ _ next, _, _, h => by
    cases h with
    | @ask _ _ _ reply _ _ hreply h =>
      obtain ⟨first, o₁, rest, hfirst, hrest, rfl⟩ := of_andThen (next reply) h
      exact ⟨first, o₁, rest, .ask hreply hfirst, hrest, rfl⟩
  | .fork _ _ next, _, _, h => by
    obtain ⟨runs, _, rfl, hruns, hnext, rfl⟩ := Writing.of_fork h
    obtain ⟨first, o₁, rest, hfirst, hrest, rfl⟩ := of_andThen (next _) hnext
    exact ⟨_, o₁, rest, .fork hruns hfirst, hrest, (List.append_assoc ..).symm⟩

/-- If the whole succeeds, so did its first part. -/
theorem Writing.of_onSuccess {p : Process μ} {k : Value → Context → Process μ}
    (h : Writing may (p.onSuccess k) writes ⟨.ok direct, c'⟩) :
    ∃ first value c rest, Writing may p first ⟨.ok value, c⟩ ∧
      Writing may (k value c) rest ⟨.ok direct, c'⟩ ∧ writes = first ++ rest := by
  obtain ⟨first, ⟨value, c⟩, rest, hfirst, hrest, rfl⟩ := Writing.of_andThen p h
  cases value with
  | ok value => exact ⟨first, value, c, rest, hfirst, hrest, rfl⟩
  | error e => cases hrest

theorem Writing.of_consult {model : μ} {request : Request} {k : String → Process μ}
    (h : Writing may (.consult model request c k) writes ⟨.ok direct, c'⟩) :
    ∃ reply, may model request (.ok reply) ∧ Writing may (k reply) writes ⟨.ok direct, c'⟩ := by
  cases h with
  | @ask _ _ _ reply _ _ hreply h =>
    cases reply with
    | ok reply => exact ⟨reply, hreply, h⟩
    | error e => cases h

/-- What an invocation writes the unit writes. -/
theorem Writing.of_invoke {x : Executable μ}
    (h : Writing may (x.invoke c) writes ⟨.ok direct, c'⟩) :
    Writing may (x.act (c.withScope (c.scope.record x.id x.name))) writes ⟨.ok direct, c'⟩ := by
  cases h with
  | report h =>
    obtain ⟨first, o, rest, hfirst, hrest, rfl⟩ := Writing.of_andThen _ h
    cases hrest with
    | report hrest =>
      obtain ⟨rfl, rfl⟩ := Writing.of_done hrest
      rwa [List.append_nil]

end Inversion

/-! ## Writes to a scope -/

/-- By these writes alone, none of them of null, the scope has become the other one. -/
structure Written (s : Scope) (writes : List (String × Value)) (t : Scope) : Prop where
  present : ∀ e ∈ writes, e.2 ≠ .null
  made : ∃ changes, s.Becomes changes t ∧ Scope.Change.writesOfAll changes = writes

namespace Written

variable {s t u : Scope} {writes more : List (String × Value)} {key : String} {value : Value}

theorem refl (s : Scope) : Written s [] s := ⟨List.forall_mem_nil _, [], .start, rfl⟩

theorem trans (h : Written s writes t) (h' : Written t more u) : Written s (writes ++ more) u := by
  obtain ⟨hpresent, changes, hchanges, rfl⟩ := h
  obtain ⟨hpresent', changes', hchanges', rfl⟩ := h'
  exact ⟨List.forall_mem_append.mpr ⟨hpresent, hpresent'⟩, changes ++ changes',
    hchanges.trans hchanges', Scope.Change.writesOfAll_append _ _⟩

theorem record (s : Scope) (nodeId nodeName : String) : Written s [] (s.record nodeId nodeName) :=
  ⟨List.forall_mem_nil _, [.record nodeId nodeName], Scope.Becomes.start.record _ _, rfl⟩

theorem write (s : Scope) (key : String) (hvalue : value ≠ .null) :
    Written s [(key, value)] (s.write key value) :=
  ⟨List.forall_mem_singleton.mpr hvalue, [.write key value], Scope.Becomes.start.write _ _, rfl⟩

theorem merge {origin : Scope} (h : Written origin.branch writes t) (s : Scope) :
    Written s writes (s.merge t) := by
  obtain ⟨hpresent, changes, hchanges, rfl⟩ := h
  exact ⟨hpresent, [.merge changes], Scope.Becomes.start.merge hchanges, List.append_nil _⟩

theorem get?_of_mem (h : Written s writes t) (hkey : key ∈ writes.map Prod.fst) :
    ∃ value, t.get? key = some value ∧ value ≠ .null ∧ (key, value) ∈ writes := by
  obtain ⟨hpresent, changes, hchanges, rfl⟩ := h
  obtain ⟨value, hvalue⟩ := Option.isSome_iff_exists.mp (lastWritten_isSome_iff.mpr hkey)
  have hmem := mem_of_lastWritten hvalue
  refine ⟨value, ?_, hpresent _ hmem, hmem⟩
  rw [hchanges.get?_eq, hvalue, Option.some_or]

theorem get?_of_not_mem (h : Written s writes t) (hkey : key ∉ writes.map Prod.fst) :
    t.get? key = s.get? key := by
  obtain ⟨-, changes, hchanges, rfl⟩ := h
  have hnone : lastWritten (Scope.Change.writesOfAll changes) key = none := by
    rwa [← Option.not_isSome_iff_eq_none, lastWritten_isSome_iff]
  rw [hchanges.get?_eq, hnone, Option.none_or]

end Written

/-! ## Invocations -/

/-- An invocation that succeeds does not hand back null, and has done nothing to its scope but what it
wrote. -/
def Executable.Accounts (may : Replies μ) (x : Executable μ) : Prop :=
  ∀ c writes direct c', Writing may (x.invoke c) writes ⟨.ok direct, c'⟩ →
    direct ≠ .null ∧ Written c.scope writes c'.scope

/-- The units are invoked one after another, each on what the one before it left, and all of them
succeed. -/
inductive InTurn (may : Replies μ) : Context → List (Executable μ) → List (String × Value) →
    Context → Prop
  | nil {c : Context} : InTurn may c [] [] c
  | cons {c c' last : Context} {x : Executable μ} {rest : List (Executable μ)} {direct : Value}
      {writes more : List (String × Value)}
      (h : Writing may (x.invoke c) writes ⟨.ok direct, c'⟩) (hrest : InTurn may c' rest more last) :
    InTurn may c (x :: rest) (writes ++ more) last

theorem InTurn.written {c last : Context} {xs : List (Executable μ)}
    {writes : List (String × Value)} (h : InTurn may c xs writes last)
    (hxs : ∀ x ∈ xs, x.Accounts may) : Written c.scope writes last.scope := by
  induction h with
  | nil => exact .refl _
  | cons h _ ih =>
    obtain ⟨-, hwritten⟩ := hxs _ List.mem_cons_self _ _ _ _ h
    exact hwritten.trans (ih fun x hx => hxs x (List.mem_cons_of_mem _ hx))

namespace Executable

variable {c c' : Context} {writes : List (String × Value)} {direct : Value}

theorem Accounts.of_act {x : Executable μ} (h : ∀ c writes direct c',
    Writing may (x.act c) writes ⟨.ok direct, c'⟩ →
      direct ≠ .null ∧ Written c.scope writes c'.scope) : x.Accounts may := by
  intro c writes direct c' hwriting
  obtain ⟨hdirect, hwritten⟩ := h _ _ _ _ hwriting.of_invoke
  exact ⟨hdirect, (Written.record c.scope x.id x.name).trans hwritten⟩

theorem writing_publish {key : String}
    (h : Writing may (publish key c) writes ⟨.ok direct, c'⟩) :
    writes = [(key, direct)] ∧ direct = c.scope.output key ∧ c' = c.write key direct := by
  cases h with
  | write h =>
    obtain ⟨rfl, hdirect, rfl⟩ := h.of_done_ok
    subst hdirect
    exact ⟨rfl, rfl, rfl⟩

theorem writing_inOrder {k : Context → Process μ} {xs : List (Executable μ)}
    (h : Writing may (inOrder k xs c) writes ⟨.ok direct, c'⟩) :
    ∃ inner after rest, InTurn may c xs inner after ∧
      Writing may (k after) rest ⟨.ok direct, c'⟩ ∧ writes = inner ++ rest := by
  induction xs generalizing c writes with
  | nil => exact ⟨[], c, writes, .nil, h, rfl⟩
  | cons x xs ih =>
    obtain ⟨first, value, c₁, rest, hfirst, hrest, rfl⟩ := h.of_onSuccess
    obtain ⟨inner, after, rest, hinner, hk, rfl⟩ := ih hrest
    exact ⟨first ++ inner, after, rest, .cons hfirst hinner, hk, (List.append_assoc ..).symm⟩

/-- Without a key, the value is handed on and nothing is written. -/
theorem writing_publishDirect_none {value : Value}
    (h : Writing may (publishDirect none value c) writes ⟨.ok direct, c'⟩) :
    writes = [] ∧ direct = value ∧ c' = c :=
  Writing.of_done_ok h

/-- With a key, the value is written if the scope has none there; else that one is handed back. -/
theorem writing_publishDirect_some {key : String} {value : Value} (hvalue : value ≠ .null)
    (h : Writing may (publishDirect (some key) value c) writes ⟨.ok direct, c'⟩) :
    ((c.scope.get? key).all Value.isNull ∧ writes = [(key, value)] ∧ direct = value ∧
      c' = c.write key value) ∨
    (writes = [] ∧ c' = c ∧ direct ≠ .null ∧ c.scope.get? key = some direct) := by
  unfold publishDirect at h
  dsimp only at h
  split at h
  · next hfree =>
    cases h with
    | write h =>
      obtain ⟨rfl, hdirect, rfl⟩ := h.of_done_ok
      have houtput := Scope.output_of_get? (c.get?_write_self key value)
      exact .inl ⟨hfree, rfl, hdirect.trans (houtput.resolve_left hvalue).symm, rfl⟩
  · next hheld =>
    obtain ⟨rfl, rfl, rfl⟩ := h.of_done_ok
    refine .inr ⟨rfl, rfl, Scope.output_ne_null _ _, ?_⟩
    cases hget : c'.scope.get? key with
    | none => exact absurd (by rw [hget]; rfl) hheld
    | some old =>
      rcases Scope.output_of_get? hget with rfl | houtput
      · exact absurd (by rw [hget]; rfl) hheld
      · exact congrArg some houtput

theorem writing_choose {id : String} {key : Option String}
    {routes : List (Condition × Executable μ)}
    (h : Writing may (choose id routes key c) writes ⟨.ok direct, c'⟩) :
    ∃ condition target inner value after rest,
      routes.find? (fun route => holds c.scope route.1) = some (condition, target) ∧
      Writing may (target.invoke c) inner ⟨.ok value, after⟩ ∧
      Writing may (publishDirect key value after) rest ⟨.ok direct, c'⟩ ∧
      writes = inner ++ rest := by
  unfold choose at h
  split at h
  · obtain ⟨-, ho⟩ := Writing.of_done h
    cases ho
  · next condition target hfound =>
    cases h with
    | report h =>
      obtain ⟨inner, value, after, rest, hinner, hrest, rfl⟩ := h.of_onSuccess
      exact ⟨condition, target, inner, value, after, rest, hfound, hinner, hrest, rfl⟩

/-! ## Units of each kind -/

theorem accounts_agent (id name : String) (a : Agent μ) : (agent id name a).Accounts may := by
  refine .of_act fun c writes direct c' h => ?_
  obtain ⟨reply, -, h⟩ := Writing.of_consult h
  have hreply : Value.string reply ≠ .null := fun h => nomatch h
  cases hkey : a.outputKey with
  | none =>
    rw [hkey] at h
    obtain ⟨rfl, rfl, rfl⟩ := h.of_done_ok
    exact ⟨hreply, .refl _⟩
  | some key =>
    rw [hkey] at h
    cases h with
    | write h =>
      obtain ⟨rfl, rfl, rfl⟩ := h.of_done_ok
      exact ⟨hreply, Written.write c.scope key hreply⟩

theorem accounts_sequence {id name key : String} {steps : List (Executable μ)}
    (h : ∀ x ∈ steps, x.Accounts may) : (sequence id name steps key).Accounts may := by
  refine .of_act fun c writes direct c' hwriting => ?_
  obtain ⟨inner, after, rest, hinner, hpublish, rfl⟩ := writing_inOrder hwriting
  obtain ⟨rfl, hdirect, rfl⟩ := writing_publish hpublish
  have hne : direct ≠ .null := hdirect ▸ Scope.output_ne_null _ _
  exact ⟨hne, (hinner.written h).trans (Written.write after.scope key hne)⟩

theorem accounts_conditional {id name : String} {key : Option String}
    {routes : List (Condition × Executable μ)} (h : ∀ route ∈ routes, route.2.Accounts may) :
    (conditional id name routes key).Accounts may := by
  refine .of_act fun c writes direct c' hwriting => ?_
  obtain ⟨condition, target, inner, value, after, rest, hfound, hinner, hrest, rfl⟩ :=
    writing_choose hwriting
  obtain ⟨hvalue, hwritten⟩ := h _ (List.mem_of_find?_eq_some hfound) _ _ _ _ hinner
  cases key with
  | none =>
    obtain ⟨rfl, rfl, rfl⟩ := writing_publishDirect_none hrest
    exact ⟨hvalue, hwritten.trans (.refl _)⟩
  | some key =>
    rcases writing_publishDirect_some hvalue hrest with ⟨-, rfl, rfl, rfl⟩ | ⟨rfl, rfl, hne, -⟩
    · exact ⟨hvalue, hwritten.trans (Written.write after.scope key hvalue)⟩
    · exact ⟨hne, hwritten.trans (.refl _)⟩

theorem written_merge_all {runs : List (Wrote μ)} {origin : Scope}
    (h : ∀ r ∈ runs, Written origin.branch r.writes r.outcome.context.scope) (s : Scope) :
    Written s (runs.flatMap Wrote.writes)
      ((runs.map fun r => r.outcome.context.scope).foldl Scope.merge s) := by
  induction runs generalizing s with
  | nil => exact .refl s
  | cons r rest ih =>
    have hr : Written s r.writes (s.merge r.outcome.context.scope) := (h r List.mem_cons_self).merge s
    exact hr.trans (ih (fun x hx => h x (List.mem_cons_of_mem _ hx)) _)

theorem accounts_parallel {id name : String} {branches : List (Executable μ)} {pool : Nat}
    {key : Option String} (h : ∀ x ∈ branches, x.Accounts may) :
    (parallel id name branches pool key).Accounts may := by
  refine .of_act fun c writes direct c' hwriting => ?_
  obtain ⟨runs, rest, hstarts, hruns, hjoin, rfl⟩ := Writing.of_fork hwriting
  obtain ⟨rfl, ho⟩ := hjoin.of_done
  rw [join_eq_gather] at ho
  have hok : (gather key (c.withDirective none) (runs.map Wrote.outcome)).value = .ok direct :=
    congrArg Outcome.value ho
  obtain ⟨hall, hdirect, hscope⟩ := gather_eq_of_ok hok
  have hbranch : ∀ r ∈ runs, Written c.scope.branch r.writes r.outcome.context.scope := by
    intro r hr
    obtain ⟨value, hvalue⟩ := hall r.outcome (List.mem_map_of_mem hr)
    have hstart : r.start ∈ branches.map fun x => x.invoke c.handed :=
      hstarts ▸ List.mem_map_of_mem hr
    obtain ⟨x, hx, hinvoke⟩ := List.mem_map.mp hstart
    have hrun : Writing may (x.invoke c.handed) r.writes ⟨.ok value, r.outcome.context⟩ := by
      rw [hinvoke, ← hvalue]
      exact hruns r hr
    exact (h x hx _ _ _ _ hrun).2
  refine ⟨hdirect ▸ Scope.joined_ne_null _ _, ?_⟩
  rw [ho, List.map_map] at hscope
  have hmerged := written_merge_all hbranch c.scope
  rw [List.append_nil]
  exact hscope ▸ hmerged

end Executable

namespace Supervisor

open Executable

variable {id : String} {s : Setup μ} {subs : List (Executable μ)} {task : String}
  {c c' : Context} {writes : List (String × Value)} {direct : Value}

theorem accounts_respond {response : Option String}
    (h : Writing may (respond s c response) writes ⟨.ok direct, c'⟩) :
    direct ≠ .null ∧ Written c.scope writes c'.scope := by
  cases response with
  | none =>
    obtain ⟨rfl, rfl, rfl⟩ := Writing.of_done_ok h
    exact ⟨Scope.output_ne_null _ _, .refl _⟩
  | some text =>
    have htext : Value.string text ≠ .null := fun h => nomatch h
    cases h with
    | write h =>
      obtain ⟨rfl, rfl, rfl⟩ := h.of_done_ok
      exact ⟨Scope.output_ne_null _ _, Written.write c.scope _ htext⟩

theorem accounts_conclude {last summary : Option String}
    (h : Writing may (conclude s task last summary c) writes ⟨.ok direct, c'⟩) :
    direct ≠ .null ∧ Written c.scope writes c'.scope := by
  unfold conclude at h
  split at h
  · exact accounts_respond h
  · exact accounts_respond h
  · obtain ⟨verdict, -, h⟩ := h.of_consult
    exact accounts_respond h
  · exact accounts_respond h

theorem writing_warnAtLimit {left : Nat} {p : Process μ} {o : Outcome}
    (h : Writing may (warnAtLimit id left p) writes o) : Writing may p writes o := by
  unfold warnAtLimit at h
  split at h
  · cases h with | report h => exact h
  · exact h

theorem writing_delegate {sub : Executable μ} {request : String}
    {k : String → Context → Process μ}
    (h : Writing may (delegate id sub request c k) writes ⟨.ok direct, c'⟩) :
    ∃ first value after rest,
      Writing may (sub.invoke (c.withDirective (some request))) first ⟨.ok value, after⟩ ∧
      Writing may (k (value.text?.getD "") (after.withDirective none)) rest ⟨.ok direct, c'⟩ ∧
      writes = first ++ rest := by
  cases h with
  | report h =>
    obtain ⟨first, ⟨value, after⟩, rest, hfirst, hrest, rfl⟩ := Writing.of_andThen _ h
    cases value with
    | ok value => exact ⟨first, value, after, rest, hfirst, hrest, rfl⟩
    | error e => cases hrest

theorem accounts_deliberate (hsubs : ∀ x ∈ subs, x.Accounts may) {left : Nat}
    {delegations : List Delegation}
    (h : Writing may (deliberate id s subs task left delegations c) writes ⟨.ok direct, c'⟩) :
    direct ≠ .null ∧ Written c.scope writes c'.scope := by
  -- On the steps that are left; every delegation adds the writes of one sub-agent.
  induction left generalizing delegations c writes with
  | zero => exact accounts_conclude h
  | succ left ih =>
    obtain ⟨reply, -, h⟩ := Writing.of_consult h
    split at h
    · cases h
    · exact accounts_conclude h
    · split at h
      · cases h
      · next sub hfound =>
        obtain ⟨first, value, after, rest, hfirst, hrest, rfl⟩ := writing_delegate h
        obtain ⟨-, hwritten⟩ := hsubs sub (find?_mem hfound) _ _ _ _ hfirst
        obtain ⟨hdirect, hmore⟩ := ih (writing_warnAtLimit hrest)
        exact ⟨hdirect, hwritten.trans hmore⟩

theorem accounts_supervisor {name : String} (hsubs : ∀ x ∈ subs, x.Accounts may) :
    (supervisor id name s subs).Accounts may := by
  refine .of_act fun c writes direct c' h => ?_
  have hplan : Writing may (deliberate id s subs (Supervisor.task c) (max 1 s.maxSteps) []
      (c.withDirective none)) writes ⟨.ok direct, c'⟩ := h
  have hdone := accounts_deliberate hsubs hplan
  exact hdone

end Supervisor

theorem Runnable.accounts (r : Runnable μ) : r.executable.Accounts may := by
  have hall {rs : List (Runnable μ)} (h : ∀ r ∈ rs, r.executable.Accounts may) :
      ∀ x ∈ rs.map executable, x.Accounts may := by
    intro x hx
    obtain ⟨r, hr, rfl⟩ := List.mem_map.mp hx
    exact h r hr
  induction r with
  | agent id name a => exact Executable.accounts_agent id name a
  | sequence id name steps key ih =>
    rw [executable_sequence]
    exact Executable.accounts_sequence (hall ih)
  | parallel id name branches pool key ih =>
    rw [executable_parallel]
    exact Executable.accounts_parallel (hall ih)
  | conditional id name routes key ih =>
    rw [executable_conditional]
    refine Executable.accounts_conditional fun x hx => ?_
    obtain ⟨route, hroute, rfl⟩ := List.mem_map.mp hx
    exact ih route hroute
  | supervisor id name s subs ih =>
    rw [executable_supervisor]
    exact Supervisor.accounts_supervisor (hall ih)

/-! ## Schedules -/

theorem exists_wrote {runs : List (Ran (Process μ) μ)}
    (h : ∀ r ∈ runs, ∃ writes, Writing may r.start writes r.outcome) :
    ∃ wrote : List (Wrote μ), wrote.map Wrote.start = runs.map Ran.start ∧
      wrote.map Wrote.outcome = runs.map Ran.outcome ∧
      ∀ w ∈ wrote, Writing may w.start w.writes w.outcome := by
  induction runs with
  | nil => exact ⟨[], rfl, rfl, List.forall_mem_nil _⟩
  | cons r rest ih =>
    obtain ⟨writes, hr⟩ := h r List.mem_cons_self
    obtain ⟨wrote, hstarts, houtcomes, hwrote⟩ := ih fun x hx => h x (List.mem_cons_of_mem _ hx)
    refine ⟨⟨r.start, writes, r.outcome⟩ :: wrote, ?_, ?_, List.forall_mem_cons.mpr ⟨hr, hwrote⟩⟩
    · rw [List.map_cons, List.map_cons, hstarts]
    · rw [List.map_cons, List.map_cons, houtcomes]

theorem exists_writing_of_produces {p : Process μ} {log : Log μ} {o : Outcome}
    (h : Produces may p log o) : ∃ writes, Writing may p writes o := by
  induction h with
  | done => exact ⟨[], .done⟩
  | report _ ih =>
    obtain ⟨writes, h⟩ := ih
    exact ⟨writes, .report h⟩
  | write _ ih =>
    obtain ⟨writes, h⟩ := ih
    exact ⟨_, .write h⟩
  | ask hreply _ ih =>
    obtain ⟨writes, h⟩ := ih
    exact ⟨writes, .ask hreply h⟩
  | @fork pool runs next log o _ _ hruns ih =>
    obtain ⟨writes, hnext⟩ := ih
    obtain ⟨wrote, hstarts, houtcomes, hwrote⟩ := exists_wrote hruns
    rw [← houtcomes] at hnext
    rw [← hstarts]
    exact ⟨_, .fork hwrote hnext⟩

theorem exists_writing_of_steps {p : Process μ} {actions : List (Action μ)} {o : Outcome}
    (h : Steps may (.active p) actions (.ended o)) : ∃ writes, Writing may p writes o := by
  obtain ⟨log, hproduces, -⟩ := produces_of_steps h
  exact exists_writing_of_produces hproduces

end AgentGraph
