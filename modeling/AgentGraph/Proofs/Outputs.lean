import AgentGraph.Proofs.Writing

/-! What sequences and conditionals hand back.

Both keep their output under a key, and both hand back what stands there once their parts have been
run. If a part wrote there, that is its value. If none did, a sequence falls back on its whole scope and
a conditional on the value of its target, but only where nothing stood before: an older value is taken
for the output.

* `Extracted`: which value is handed back.
* `Scope.extracted_output`, `Scope.extracted_direct`: this is what sequences and conditionals do.
* `stale_output`: an older value is handed back where no part wrote one.
* `output_of_composite`: what every invocation that succeeds hands back and leaves. -/
namespace AgentGraph
open Executable
set_option autoImplicit false

variable {μ σ : Type} {may : Replies μ}

/-! ## Extraction -/

/-- The value that is handed back, given what stood under the key before and what has been written
since: the value that was written there last, if any was; else the old one if there was one, and the
fallback if there was none. -/
structure Extracted (before : Scope) (key : String) (writes : List (String × Value)) (after : Scope)
    (fallback direct : Value) : Prop where
  fresh : key ∈ writes.map Prod.fst → after.get? key = some direct ∧ (key, direct) ∈ writes
  first : key ∉ writes.map Prod.fst → (before.get? key).all Value.isNull → direct = fallback
  stale : key ∉ writes.map Prod.fst → ∀ old, before.get? key = some old → old ≠ .null → direct = old

namespace Scope

variable {s t : Scope} {key : String} {writes : List (String × Value)} {value direct : Value}

theorem output_of_free (h : (s.get? key).all Value.isNull) :
    s.output key = .string ("\n".intercalate s.state.entryLines) := by
  rw [← ValueMap.getD_lines?]
  unfold output
  cases hget : s.get? key with
  | none => rfl
  | some value =>
    rw [hget] at h
    cases value with
    | null => rfl
    | _ => cases h

theorem not_free_of_get? (hget : s.get? key = some value) (hvalue : value ≠ .null) :
    ¬ (s.get? key).all Value.isNull := by
  rw [hget]
  cases value with
  | null => exact absurd rfl hvalue
  | _ => exact Bool.false_ne_true

theorem extracted_output (h : Written s writes t) :
    Extracted s key writes t (.string ("\n".intercalate t.state.entryLines)) (t.output key) where
  fresh hkey := by
    obtain ⟨value, hget, hvalue, hmem⟩ := h.get?_of_mem hkey
    have hsame : value = t.output key := (output_of_get? hget).resolve_left hvalue
    exact hsame ▸ ⟨hget, hmem⟩
  first hkey hfree := output_of_free (by rwa [h.get?_of_not_mem hkey])
  stale hkey old hold hne := by
    rw [← h.get?_of_not_mem hkey] at hold
    exact ((output_of_get? hold).resolve_left hne).symm

/-- The value is put under the key, or it is not because another one stands there. -/
theorem extracted_direct (h : Written s writes t) (hdirect :
    (t.get? key).all Value.isNull ∧ direct = value ∨ direct ≠ .null ∧ t.get? key = some direct) :
    Extracted s key writes t value direct where
  fresh hkey := by
    obtain ⟨written, hget, hwritten, hmem⟩ := h.get?_of_mem hkey
    rcases hdirect with ⟨hfree, -⟩ | ⟨-, hheld⟩
    · exact absurd hfree (not_free_of_get? hget hwritten)
    · obtain rfl := Option.some.inj (hheld.symm.trans hget)
      exact ⟨hget, hmem⟩
  first hkey hfree := by
    rw [← h.get?_of_not_mem hkey] at hfree
    rcases hdirect with ⟨-, hsame⟩ | ⟨hne, hheld⟩
    · exact hsame
    · exact absurd hfree (not_free_of_get? hheld hne)
  stale hkey old hold hne := by
    rw [← h.get?_of_not_mem hkey] at hold
    rcases hdirect with ⟨hfree, -⟩ | ⟨-, hheld⟩
    · exact absurd hfree (not_free_of_get? hold hne)
    · exact Option.some.inj (hheld.symm.trans hold)

end Scope

/-! ## Older values -/

namespace Encore

def singer : Runnable Unit := .agent "singer" "Singer" { model := () }

def recital : Runnable Unit := .sequence "recital" "Recital" [singer] "result"

def choice : Runnable Unit :=
  .conditional "choice" "Choice" [(⟨"request", "sing"⟩, singer)] (some "result")

/-- There is a result already. -/
def stage : Context := .ofInput [("request", .string "sing"), ("result", .string "old")]

/-- The singer writes nothing. -/
theorem writing_singer (c : Context) (reply : String) :
    Writing .any (singer.executable.invoke c) [] ⟨.ok (.string reply),
      (c.entered singer).withDirective none⟩ :=
  .report (@Writing.ask _ .any _ _ _ (.ok reply) _ _ trivial (.report .done))

theorem writing_recital : ∃ c', Writing .any (recital.executable.act stage)
    [("result", .string "old")] ⟨.ok (.string "old"), c'⟩ :=
  ⟨_, .report (@Writing.ask _ .any _ _ _ (.ok "la") _ _ trivial (.report (.write .done)))⟩

theorem writing_choice : ∃ c', Writing .any (choice.executable.act stage) []
    ⟨.ok (.string "old"), c'⟩ :=
  ⟨_, .report (.report (@Writing.ask _ .any _ _ _ (.ok "la") _ _ trivial (.report .done)))⟩

end Encore

open Encore in
/-- Neither in the sequence nor in the conditional anything is written by a part, and both hand back the
result that was there before: not the lines of the scope, and not what the target said. -/
theorem stale_output :
    (∃ after c', InTurn .any stage [singer.executable] [] after ∧
      Writing .any (recital.executable.act stage) [("result", .string "old")]
        ⟨.ok (.string "old"), c'⟩ ∧
      stage.scope.get? "result" = some (.string "old") ∧
      .string "old" ≠ Value.string ("\n".intercalate after.scope.state.entryLines)) ∧
    ∃ after c', Writing .any (singer.executable.invoke stage) [] ⟨.ok (.string "la"), after⟩ ∧
      Writing .any (choice.executable.act stage) [] ⟨.ok (.string "old"), c'⟩ ∧
      stage.scope.get? "result" = some (.string "old") ∧ Value.string "old" ≠ .string "la" := by
  have hsinger := writing_singer stage "la"
  obtain ⟨c₁, hrecital⟩ := writing_recital
  obtain ⟨c₂, hchoice⟩ := writing_choice
  refine ⟨⟨_, c₁, .cons hsinger .nil, hrecital, rfl, fun h => ?_⟩, _, c₂, hsinger, hchoice, rfl,
    fun h => ?_⟩
  · exact absurd (Value.string.inj h) (by decide +kernel)
  · exact absurd (Value.string.inj h) (by decide)

/-! ## Composites -/

/-- However branches move and whatever models reply, an invocation of a sequence or of a conditional
with a key that succeeds hands back a value that is not null, and leaves it under its key. If a unit
inside it wrote there, it is the value that stands there after the parts have been run, and one that
such a unit wrote. If none did and no value stood there before, it is what the target handed back, or
the lines of the scope after the parts of a sequence. If none did and a value stood there before, it is
this one. -/
theorem output_of_composite (may : Replies μ) :
    (∀ (id name key : String) (steps : List (Runnable μ)) (c c' : Context)
      (writes : List (String × Value)) (direct : Value),
      Writing may ((Runnable.sequence id name steps key).executable.act c) writes
          ⟨.ok direct, c'⟩ →
        ∃ inner after, InTurn may c (steps.map Runnable.executable) inner after ∧
          writes = inner ++ [(key, direct)] ∧ direct ≠ .null ∧ c'.scope.get? key = some direct ∧
          Extracted c.scope key inner after.scope
            (.string ("\n".intercalate after.scope.state.entryLines)) direct) ∧
    (∀ (id name key : String) (routes : List (Condition × Runnable μ)) (c c' : Context)
      (writes : List (String × Value)) (direct : Value),
      Writing may ((Runnable.conditional id name routes (some key)).executable.act c) writes
          ⟨.ok direct, c'⟩ →
        ∃ condition target inner value after,
          routes.find? (fun route => holds c.scope route.1) = some (condition, target) ∧
          Writing may (target.executable.invoke c) inner ⟨.ok value, after⟩ ∧
          (writes = inner ∨ writes = inner ++ [(key, direct)]) ∧ direct ≠ .null ∧
          c'.scope.get? key = some direct ∧
          Extracted c.scope key inner after.scope value direct) ∧
    (∀ (p : Process μ) (actions : List (Action μ)) (o : Outcome),
      Steps may (.active p) actions (.ended o) → ∃ writes, Writing may p writes o) ∧
    ∀ (σ : Type) (answer : Responder μ σ) (memory : σ) (p : Process μ),
      ∃ writes, Writing .any p writes (p.run answer memory).outcome := by
  refine ⟨?_, ?_, fun p actions o h => exists_writing_of_steps h, fun σ answer memory p =>
    exists_writing_of_produces (produces_run answer p memory)⟩
  · intro id name key steps c c' writes direct h
    rw [Runnable.executable_sequence] at h
    obtain ⟨inner, after, rest, hinner, hpublish, rfl⟩ := writing_inOrder h
    obtain ⟨rfl, rfl, rfl⟩ := writing_publish hpublish
    have hwritten : Written c.scope inner after.scope := by
      refine hinner.written fun x hx => ?_
      obtain ⟨r, -, rfl⟩ := List.mem_map.mp hx
      exact r.accounts
    exact ⟨inner, after, hinner, rfl, Scope.output_ne_null _ _, after.get?_write_self _ _,
      Scope.extracted_output hwritten⟩
  · intro id name key routes c c' writes direct h
    rw [Runnable.executable_conditional] at h
    obtain ⟨condition, x, inner, value, after, rest, hfound, hinner, hrest, rfl⟩ := writing_choose h
    rw [List.find?_map] at hfound
    obtain ⟨⟨condition', target⟩, hroute, heq⟩ := Option.map_eq_some_iff.mp hfound
    obtain ⟨rfl, rfl⟩ := Prod.mk.inj heq
    obtain ⟨hvalue, hwritten⟩ := target.accounts _ _ _ _ hinner
    refine ⟨_, target, inner, value, after, hroute, hinner, ?_⟩
    rcases writing_publishDirect_some hvalue hrest with
      ⟨hfree, rfl, rfl, rfl⟩ | ⟨rfl, rfl, hne, hheld⟩
    · exact ⟨.inr rfl, hvalue, after.get?_write_self _ _,
        Scope.extracted_direct hwritten (.inl ⟨hfree, rfl⟩)⟩
    · exact ⟨.inl (List.append_nil _), hne, hheld,
        Scope.extracted_direct hwritten (.inr ⟨hne, hheld⟩)⟩

open Encore in
/-- The result that was there before stays where it is. -/
theorem output_of_composite_encore :
    (∃ c' inner after, Writing .any (recital.executable.act stage) [("result", .string "old")]
        ⟨.ok (.string "old"), c'⟩ ∧ InTurn .any stage [singer.executable] inner after ∧
      c'.scope.get? "result" = some (.string "old") ∧
      Extracted stage.scope "result" inner after.scope
        (.string ("\n".intercalate after.scope.state.entryLines)) (.string "old")) ∧
    (∃ c' inner value after, Writing .any (choice.executable.act stage) [] ⟨.ok (.string "old"), c'⟩ ∧
      Writing .any (singer.executable.invoke stage) inner ⟨.ok value, after⟩ ∧
      Extracted stage.scope "result" inner after.scope value (.string "old")) ∧
    ∃ actions o writes, Steps .any (.active (recital.executable.invoke stage)) actions (.ended o) ∧
      Writing .any (recital.executable.invoke stage) writes o := by
  obtain ⟨hsequence, hconditional, hschedule, -⟩ := output_of_composite (μ := Unit) .any
  obtain ⟨c₁, hrecital⟩ := writing_recital
  obtain ⟨c₂, hchoice⟩ := writing_choice
  have hreplies : ∀ (model : Unit) (request : Request), ∃ reply, Replies.any model request reply :=
    fun _ _ => ⟨.ok "", trivial⟩
  obtain ⟨actions, o, hsteps⟩ := (recital.live stage).able hreplies
  obtain ⟨inner, after, hinner, -, -, hkept, hextracted⟩ :=
    hsequence "recital" "Recital" "result" [singer] stage c₁ _ _ hrecital
  obtain ⟨condition, target, inner', value, after', hroute, hinner', -, -, -, hextracted'⟩ :=
    hconditional "choice" "Choice" "result" _ stage c₂ _ _ hchoice
  obtain ⟨-, rfl⟩ := Prod.mk.inj (Option.some.inj hroute)
  obtain ⟨writes, hwriting⟩ := hschedule _ _ _ hsteps
  exact ⟨⟨c₁, inner, after, hrecital, hinner, hkept, hextracted⟩,
    ⟨c₂, inner', value, after', hchoice, hinner', hextracted'⟩, actions, o, writes, hsteps, hwriting⟩

end AgentGraph
