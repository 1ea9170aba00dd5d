import AgentGraph.Proofs.Deeds
import AgentGraph.Proofs.Requests

/-! What a supervisor does until it has a response.

A session goes through stages: in each of them the model names a sub-agent, and the sub-agent answers. It
ends when the model says so, or when no step is left. Sub-agents may be anything that can be run.

* `Supervisor.Staged`: stages that follow on each other.
* `Supervisor.carriedOut`: all that is done in some stages, told apart by who does it.
* `Supervisor.prefersSecond_iff`: what a verdict says.
* `Supervisor.Conducts`: a session from where some delegations have been made.
* `Supervisor.conducts_of_deliberate`: a supervisor that succeeds has held a session.
* `Supervisor.Conducted`: what there is to say about a whole session, with all that the model is told. -/
namespace AgentGraph
set_option autoImplicit false

variable {μ σ : Type} {may : Replies μ}

namespace Deed

def exchange? : Deed μ → Option (μ × Request × Except Failure String)
  | .exchange model request reply => some (model, request, reply)
  | _ => none

def event? : Deed μ → Option Event
  | .event e => some e
  | _ => none

def write? : Deed μ → Option (String × Value)
  | .write key value => some (key, value)
  | _ => none

end Deed

namespace Supervisor

/-! ## What the model says -/

theorem toUpper_eq_iff {c : Char} : c.toUpper = 'B' ↔ c = 'B' ∨ c = 'b' := by
  constructor
  · intro h
    by_cases hlower : 'a'.val ≤ c.val ∧ c.val ≤ 'z'.val
    · have hall : ∀ n ≤ 'z'.toNat, (Char.ofNat n).toUpper = 'B' →
          Char.ofNat n = 'B' ∨ Char.ofNat n = 'b' := by decide
      have hc := hall c.toNat hlower.2
      rw [Char.ofNat_toNat] at hc
      exact hc h
    · have hsame : c.toUpper = c := dif_neg hlower
      exact .inl (hsame ▸ h)
  · rintro (rfl | rfl) <;> rfl

/-- The second answer is preferred if the verdict begins with its letter, blanks before it apart. -/
theorem prefersSecond_iff {verdict : String} : prefersSecond verdict ↔
    (Text.trim verdict).toList.head? = some 'B' ∨ (Text.trim verdict).toList.head? = some 'b' := by
  rw [prefersSecond, beq_iff_eq, Text.upper, String.toList_map, List.head?_map]
  cases (Text.trim verdict).toList.head? with
  | none => simp
  | some c => simp [toUpper_eq_iff]

theorem kept?_eq (text : String) :
    kept? text = (some text).filter fun text => !Text.isBlankText text := by
  rw [kept?, Option.filter_some]
  by_cases hblank : Text.isBlankText text <;> simp [hblank]

theorem lastAnswer?_eq (delegations : List Delegation) : lastAnswer? delegations =
    (delegations.getLast?.map Delegation.answer).filter fun answer => !Text.isBlankText answer := by
  rw [lastAnswer?]
  cases delegations.getLast? with
  | none => rfl
  | some d => exact kept?_eq d.answer

/-! ## Sessions -/

/-- What a supervisor does itself, and all that a sub-agent does in one invocation. -/
inductive Segment (μ : Type) where
  | own (deed : Deed μ)
  | part (deeds : List (Deed μ))

namespace Segment

def deeds : Segment μ → List (Deed μ)
  | .own deed => [deed]
  | .part deeds => deeds

def own? : Segment μ → Option (Deed μ)
  | .own deed => some deed
  | .part _ => none

def part? : Segment μ → Option (List (Deed μ))
  | .own _ => none
  | .part deeds => some deeds

theorem flatMap_own (deeds : List (Deed μ)) : (deeds.map own).flatMap Segment.deeds = deeds := by
  rw [List.flatMap_map]
  exact List.flatMap_singleton' deeds

theorem filterMap_own (deeds : List (Deed μ)) : (deeds.map own).filterMap own? = deeds := by
  rw [List.filterMap_map]
  exact List.filterMap_some

theorem filterMap_part_own (deeds : List (Deed μ)) : (deeds.map own).filterMap part? = [] := by
  rw [List.filterMap_map]
  exact List.filterMap_eq_nil_iff.mpr fun _ _ => rfl

end Segment

/-- A step of a plan that was carried out: the reply that asked for it, who did what, and what came of
it. -/
structure Stage (μ : Type) where
  reply : String
  sub : Executable μ
  request : String
  deeds : List (Deed μ)
  value : Value
  after : Context

def Stage.delegation (stage : Stage μ) : Delegation :=
  ⟨stage.sub.id, stage.request, stage.value.text?.getD ""⟩

structure Session (μ : Type) where
  stages : List (Stage μ)
  /-- The context after all stages. -/
  last : Context
  /-- The reply that said that the task is done, and its response. -/
  finish : Option (String × String)
  /-- The reply that compared two answers. -/
  verdict : Option String
  chosen : Option String

namespace Session

def delegations (session : Session μ) : List Delegation := session.stages.map Stage.delegation

/-- Everything that was replied when a plan was asked for. -/
def replies (session : Session μ) : List String :=
  session.stages.map Stage.reply ++ session.finish.toList.map Prod.fst

/-- The answer of the last delegation, unless it is blank. -/
def last? (session : Session μ) : Option String :=
  (session.delegations.getLast?.map Delegation.answer).filter fun answer => !Text.isBlankText answer

/-- The response of the model itself, unless it is blank. -/
def summary? (session : Session μ) : Option String :=
  (session.finish.map Prod.snd).filter fun response => !Text.isBlankText response

end Session

section Rules
variable (may : Replies μ) (id : String) (s : Setup μ) (subs : List (Executable μ)) (task : String)

/-- The stages follow on each other, each of them as the reply to what was delegated before asks. -/
inductive Staged : List Delegation → Context → List (Stage μ) → Context → Prop
  | nil {delegations : List Delegation} {c : Context} : Staged delegations c [] c
  | cons {delegations : List Delegation} {c last : Context} {stage : Stage μ} {rest : List (Stage μ)}
      {requested : String} {asked : Option String}
      (hreply : may s.model (planningRequest subs task delegations) (.ok stage.reply))
      (hplan : Plan.parse stage.reply = .ok (.delegate requested asked))
      (hsub : find? subs requested = some stage.sub) (hrequest : stage.request = asked.getD task)
      (hdone : Does may (stage.sub.invoke (c.withDirective (some stage.request))) stage.deeds
        ⟨.ok stage.value, stage.after⟩)
      (hrest : Staged (delegations ++ [stage.delegation]) (stage.after.withDirective none) rest last) :
    Staged delegations c (stage :: rest) last

/-- The response is chosen by the strategy; the model is asked only if it leaves two answers. -/
inductive Chooses : (last summary verdict chosen : Option String) → Prop
  | last {last summary : Option String} (hstrategy : s.strategy = .last) :
    Chooses last summary none (last.or summary)
  | summary {last summary : Option String} (hstrategy : s.strategy = .summary) :
    Chooses last summary none (summary.or last)
  | single {last summary : Option String} (hstrategy : s.strategy = .scored)
      (hone : last = none ∨ summary = none) : Chooses last summary none (last.or summary)
  | scored {first second verdict : String} (hstrategy : s.strategy = .scored)
      (hreply : may s.model (comparison task first second) (.ok verdict)) :
    Chooses (some first) (some second) (some verdict)
      (some (if prefersSecond verdict then second else first))

def warning : Deed μ := .event (.note id .warning "invocation limit reached")

/-- What is done in some stages of a session of at most `limit` steps. -/
def carriedOut (limit : Nat) : List Delegation → List (Stage μ) → List (Segment μ)
  | _, [] => []
  | delegations, stage :: rest =>
    .own (.exchange s.model (planningRequest subs task delegations) (.ok stage.reply)) ::
      .own (.event (.note id .info ("delegating to " ++ stage.sub.id))) :: .part stage.deeds ::
      ((if delegations.length + 1 = limit then [.own (warning id)] else []) ++
        carriedOut limit (delegations ++ [stage.delegation]) rest)

/-- What is done to choose a response, and to keep it. -/
def choosing (last summary verdict chosen : Option String) : List (Deed μ) :=
  (verdict.toList.map fun reply =>
    .exchange s.model (comparison task (last.getD "") (summary.getD "")) (.ok reply)) ++
  chosen.toList.map fun text => .write s.outputKey (.string text)

/-- What is done when some delegations have been made and no more will be. -/
def ending (delegations : List Delegation) (session : Session μ) : List (Deed μ) :=
  (session.finish.toList.map fun f =>
    .exchange s.model (planningRequest subs task delegations) (.ok f.1)) ++
  choosing s task (lastAnswer? delegations) session.summary? session.verdict session.chosen

/-- A session that goes on from some delegations, with some steps left. -/
structure Conducts (left : Nat) (delegations : List Delegation) (c : Context)
    (session : Session μ) : Prop where
  staged : Staged may s subs task delegations c session.stages session.last
  finished : ∀ f ∈ session.finish, Plan.parse f.1 = .ok (.finish f.2) ∧
    may s.model (planningRequest subs task (delegations ++ session.delegations)) (.ok f.1)
  length_le : session.replies.length ≤ left
  exhausted : session.finish = none → session.stages.length = left
  chooses : Chooses may s task (lastAnswer? (delegations ++ session.delegations)) session.summary?
    session.verdict session.chosen

/-- What is done in such a session. -/
def segments (limit : Nat) (delegations : List Delegation) (session : Session μ) : List (Segment μ) :=
  carriedOut id s subs task limit delegations session.stages ++
    (ending s subs task (delegations ++ session.delegations) session).map .own

end Rules

variable {id : String} {s : Setup μ} {subs : List (Executable μ)} {task : String} {c c' : Context}
  {deeds : List (Deed μ)} {value : Value} {delegations : List Delegation} {left limit : Nat}

/-! ## Inversion -/

/-- The context and the value that a session ends with. -/
def keeping (s : Setup μ) (c : Context) (chosen : Option String) : Context :=
  c.keep (chosen.map fun _ => s.outputKey) (.string (chosen.getD ""))

theorem respond_of_does {chosen : Option String}
    (h : Does may (respond s c chosen) deeds ⟨.ok value, c'⟩) :
    deeds = (chosen.toList.map fun text => .write s.outputKey (.string text)) ∧
      c' = keeping s c chosen ∧ value = c'.scope.output s.outputKey := by
  cases chosen with
  | none =>
    obtain ⟨rfl, ho⟩ := h.of_done
    cases ho
    exact ⟨rfl, rfl, rfl⟩
  | some text =>
    cases h with
    | write h =>
      obtain ⟨rfl, ho⟩ := h.of_done
      cases ho
      exact ⟨rfl, rfl, rfl⟩

/-- A response is picked with these deeds, and left behind. -/
structure Picks (may : Replies μ) (s : Setup μ) (task : String) (last summary : Option String)
    (c : Context) (deeds : List (Deed μ)) (value : Value) (c' : Context)
    (verdict chosen : Option String) : Prop where
  chooses : Chooses may s task last summary verdict chosen
  deeds : deeds = choosing s task last summary verdict chosen
  context : c' = keeping s c chosen
  value : value = c'.scope.output s.outputKey

theorem conclude_of_does {last summary : Option String}
    (h : Does may (conclude s task last summary c) deeds ⟨.ok value, c'⟩) :
    ∃ verdict chosen, Picks may s task last summary c deeds value c' verdict chosen := by
  have hsilent : ∀ {chosen : Option String}, Chooses may s task last summary none chosen →
      Does may (respond s c chosen) deeds ⟨.ok value, c'⟩ →
      ∃ verdict chosen, Picks may s task last summary c deeds value c' verdict chosen := by
    intro chosen hchooses h
    obtain ⟨hdeeds, hcontext, hvalue⟩ := respond_of_does h
    exact ⟨none, chosen, hchooses, hdeeds, hcontext, hvalue⟩
  cases hstrategy : s.strategy with
  | last =>
    simp only [conclude, hstrategy] at h
    exact hsilent (.last hstrategy) h
  | summary =>
    simp only [conclude, hstrategy] at h
    exact hsilent (.summary hstrategy) h
  | scored =>
    cases last with
    | none =>
      simp only [conclude, hstrategy] at h
      exact hsilent (.single hstrategy (.inl rfl)) h
    | some first =>
      cases summary with
      | none =>
        simp only [conclude, hstrategy] at h
        exact hsilent (.single hstrategy (.inr rfl)) h
      | some second =>
        simp only [conclude, hstrategy] at h
        obtain ⟨verdict, rest, hreply, hrest, rfl⟩ := h.of_consult
        obtain ⟨rfl, hcontext, hvalue⟩ := respond_of_does hrest
        exact ⟨some verdict, _, .scored hstrategy hreply, rfl, hcontext, hvalue⟩

theorem warnAtLimit_of_does {p : Process μ} {o : Outcome}
    (h : Does may (warnAtLimit id left p) deeds o) :
    ∃ rest, Does may p rest o ∧ deeds = (if left = 0 then [warning id] else []) ++ rest := by
  unfold warnAtLimit at h
  split at h
  · next hleft =>
    cases h with
    | report h => exact ⟨_, h, by rw [if_pos hleft]; rfl⟩
  · next hleft => exact ⟨deeds, h, by rw [if_neg hleft]; rfl⟩

theorem delegate_of_does {sub : Executable μ} {request : String}
    {k : String → Context → Process μ}
    (h : Does may (delegate id sub request c k) deeds ⟨.ok value, c'⟩) :
    ∃ first answered after rest,
      Does may (sub.invoke (c.withDirective (some request))) first ⟨.ok answered, after⟩ ∧
      Does may (k (answered.text?.getD "") (after.withDirective none)) rest ⟨.ok value, c'⟩ ∧
      deeds = .event (.note id .info ("delegating to " ++ sub.id)) :: (first ++ rest) := by
  cases h with
  | report h =>
    obtain ⟨first, ⟨answered, after⟩, rest, hfirst, hrest, rfl⟩ := Does.of_andThen _ h
    cases answered with
    | error e =>
      obtain ⟨-, ho⟩ := hrest.of_done
      cases ho
    | ok answered => exact ⟨first, answered, after, rest, hfirst, hrest, rfl⟩

theorem segments_cons (stage : Stage μ) (session : Session μ) :
    segments id s subs task limit delegations { session with stages := stage :: session.stages } =
      .own (.exchange s.model (planningRequest subs task delegations) (.ok stage.reply)) ::
        .own (.event (.note id .info ("delegating to " ++ stage.sub.id))) :: .part stage.deeds ::
        ((if delegations.length + 1 = limit then [.own (warning id)] else []) ++
          segments id s subs task limit (delegations ++ [stage.delegation]) session) := by
  have hall : delegations ++ (stage :: session.stages).map Stage.delegation =
      delegations ++ [stage.delegation] ++ session.stages.map Stage.delegation := by simp
  simp only [segments, carriedOut, Session.delegations, hall, List.cons_append, List.append_assoc]
  rfl

theorem conducts_of_deliberate
    (h : Does may (deliberate id s subs task left delegations c) deeds ⟨.ok value, c'⟩)
    (hlimit : delegations.length + left = limit) :
    ∃ session : Session μ, Conducts may s subs task left delegations c session ∧
      deeds = (segments id s subs task limit delegations session).flatMap Segment.deeds ∧
      c' = keeping s session.last session.chosen ∧ value = c'.scope.output s.outputKey := by
  -- On the steps that are left. Every stage is put in front of the session that goes on after it.
  induction left generalizing delegations c deeds with
  | zero =>
    obtain ⟨verdict, chosen, hpicks⟩ := conclude_of_does h
    refine ⟨⟨[], c, none, verdict, chosen⟩, ⟨.nil, nofun, le_rfl, fun _ => rfl, ?_⟩, ?_,
      hpicks.context, hpicks.value⟩
    · rw [Session.delegations, List.map_nil, List.append_nil]
      exact hpicks.chooses
    · rw [hpicks.deeds, segments, carriedOut, List.nil_append, Segment.flatMap_own, Session.delegations,
        List.map_nil, List.append_nil]
      rfl
  | succ left ih =>
    obtain ⟨reply, rest, hreply, hrest, rfl⟩ := h.of_consult
    split at hrest
    · obtain ⟨-, ho⟩ := hrest.of_done
      cases ho
    · next response hplan =>
      rw [kept?_eq] at hrest
      obtain ⟨verdict, chosen, hpicks⟩ := conclude_of_does hrest
      refine ⟨⟨[], c, some (reply, response), verdict, chosen⟩,
        ⟨.nil, ?_, Nat.le_add_left 1 left, nofun, ?_⟩, ?_, hpicks.context, hpicks.value⟩
      · rintro f ⟨⟩
        rw [Session.delegations, List.map_nil, List.append_nil]
        exact ⟨hplan, hreply⟩
      · rw [Session.delegations, List.map_nil, List.append_nil]
        exact hpicks.chooses
      · rw [hpicks.deeds, segments, carriedOut, List.nil_append, Segment.flatMap_own,
          Session.delegations, List.map_nil, List.append_nil]
        rfl
    · next requested asked hplan =>
      split at hrest
      · obtain ⟨-, ho⟩ := hrest.of_done
        cases ho
      · next sub hsub =>
        obtain ⟨first, answered, after, later, hfirst, hlater, rfl⟩ := delegate_of_does hrest
        obtain ⟨more, hmore, rfl⟩ := warnAtLimit_of_does hlater
        let stage : Stage μ := ⟨reply, sub, asked.getD task, first, answered, after⟩
        have hlength : (delegations ++ [stage.delegation]).length + left = limit := by
          rw [List.length_append, List.length_singleton]
          omega
        obtain ⟨session, hsession, rfl, hcontext, hvalue⟩ := ih hmore hlength
        refine ⟨{ session with stages := stage :: session.stages }, ⟨?_, ?_, ?_, ?_, ?_⟩, ?_,
          hcontext, hvalue⟩
        · exact .cons hreply hplan hsub rfl hfirst hsession.staged
        · intro f hf
          have hfinished := hsession.finished f hf
          rwa [List.append_assoc] at hfinished
        · exact Nat.succ_le_succ hsession.length_le
        · exact fun hfinish => congrArg Nat.succ (hsession.exhausted hfinish)
        · have hchooses := hsession.chooses
          rwa [List.append_assoc] at hchooses
        · have hlast : left = 0 ↔ delegations.length + 1 = limit := by omega
          rw [segments_cons, if_congr hlast rfl rfl]
          simp only [List.flatMap_cons, List.flatMap_append, Segment.deeds, List.singleton_append]
          split <;> rfl

/-! ## Who does what -/

/-- Everything that the supervisor does itself. -/
def owns (segments : List (Segment μ)) : List (Deed μ) := segments.filterMap Segment.own?

theorem owns_segments (session : Session μ) :
    owns (segments id s subs task limit delegations session) =
      owns (carriedOut id s subs task limit delegations session.stages) ++
        ending s subs task (delegations ++ session.delegations) session := by
  rw [owns, segments, List.filterMap_append, Segment.filterMap_own]
  rfl

theorem owns_carriedOut_cons (stage : Stage μ) (rest : List (Stage μ)) :
    owns (carriedOut id s subs task limit delegations (stage :: rest)) =
      .exchange s.model (planningRequest subs task delegations) (.ok stage.reply) ::
        .event (.note id .info ("delegating to " ++ stage.sub.id)) ::
        ((if delegations.length + 1 = limit then [warning id] else []) ++
          owns (carriedOut id s subs task limit (delegations ++ [stage.delegation]) rest)) := by
  rw [owns, carriedOut]
  simp only [List.filterMap_cons, List.filterMap_append, Segment.own?]
  split <;> rfl

theorem parts_carriedOut (stages : List (Stage μ)) :
    (carriedOut id s subs task limit delegations stages).filterMap Segment.part? =
      stages.map Stage.deeds := by
  induction stages generalizing delegations with
  | nil => rfl
  | cons stage rest ih =>
    rw [carriedOut]
    simp only [List.filterMap_cons, List.filterMap_append, Segment.part?, ih, List.map_cons]
    split <;> rfl

theorem exchanges_carriedOut (stages : List (Stage μ)) :
    (owns (carriedOut id s subs task limit delegations stages)).filterMap Deed.exchange? =
      (stages.map Stage.reply).mapIdx fun k reply => (s.model, planningRequest subs task
        (delegations ++ (stages.map Stage.delegation).take k), .ok reply) := by
  induction stages generalizing delegations with
  | nil => rfl
  | cons stage rest ih =>
    have hsilent : (if delegations.length + 1 = limit then [warning id] else []).filterMap
        (Deed.exchange? (μ := μ)) = [] := by split <;> rfl
    rw [owns_carriedOut_cons]
    simp only [List.filterMap_cons, List.filterMap_append, Deed.exchange?, hsilent, ih, List.nil_append,
      List.map_cons, List.mapIdx_cons, List.take_zero, List.append_nil, List.take_succ_cons,
      List.append_assoc, List.singleton_append]

theorem writes_carriedOut (stages : List (Stage μ)) :
    (owns (carriedOut id s subs task limit delegations stages)).filterMap Deed.write? = [] := by
  induction stages generalizing delegations with
  | nil => rfl
  | cons stage rest ih =>
    rw [owns_carriedOut_cons]
    simp only [List.filterMap_cons, List.filterMap_append, Deed.write?, ih, List.append_nil]
    split <;> rfl

/-- The limit is told of when the last step that it allows has been carried out. -/
theorem events_carriedOut {stages : List (Stage μ)}
    (hlimit : delegations.length + stages.length ≤ limit) :
    (owns (carriedOut id s subs task limit delegations stages)).filterMap Deed.event? =
      (stages.map fun stage => .note id .info ("delegating to " ++ stage.sub.id)) ++
        if stages ≠ [] ∧ delegations.length + stages.length = limit then
          [.note id .warning "invocation limit reached"] else [] := by
  induction stages generalizing delegations with
  | nil => rw [if_neg fun h => h.1 rfl]; rfl
  | cons stage rest ih =>
    rw [List.length_cons] at hlimit
    have hrest := @ih (delegations ++ [stage.delegation]) (by simp; omega)
    rw [owns_carriedOut_cons]
    simp only [List.filterMap_cons, List.filterMap_append, Deed.event?, hrest, List.map_cons,
      List.cons_append]
    congr 1
    cases rest with
    | nil =>
      by_cases hlast : delegations.length + 1 = limit
      · simp [hlast, warning, Deed.event?]
      · simp [hlast]
    | cons next rest =>
      have hearlier : delegations.length + 1 ≠ limit := by
        rw [List.length_cons] at hlimit
        omega
      have hlength : (delegations ++ [stage.delegation]).length + (next :: rest).length =
          delegations.length + (stage :: next :: rest).length := by
        simp only [List.length_append, List.length_cons, List.length_nil]
        omega
      rw [if_neg hearlier, hlength]
      simp

/-! ## Whole sessions -/

theorem Chooses.verdict_isSome {last summary verdict chosen : Option String}
    (h : Chooses may s task last summary verdict chosen) :
    verdict.isSome ↔ s.strategy = .scored ∧ last.isSome ∧ summary.isSome := by
  cases h with
  | last hstrategy | summary hstrategy => simp [hstrategy]
  | single _ hone => rcases hone with rfl | rfl <;> simp
  | scored hstrategy => simp [hstrategy]

/-- What a supervisor that succeeded has done on a context, in so many stages. -/
structure Conducted (may : Replies μ) (id : String) (s : Setup μ) (subs : List (Executable μ))
    (c : Context) (value : Value) (c' : Context) (session : Session μ)
    (segments : List (Segment μ)) : Prop where
  /-- The task is the directive, if there is one, and else what the scope suggests. -/
  task : Supervisor.task c =
    c.directive.getD ((Prompt.ofTemplate none).message c.scope.state c.ambient)
  /-- Each stage is what the reply to a plan asks for. -/
  staged : Staged may s subs (Supervisor.task c) [] (c.withDirective none) session.stages session.last
  parts : segments.filterMap Segment.part? = session.stages.map Stage.deeds
  finished : ∀ f ∈ session.finish, Plan.parse f.1 = .ok (.finish f.2)
  asked : 1 ≤ session.replies.length ∧ session.replies.length ≤ max 1 s.maxSteps
  /-- Each plan is asked for with the task and a record of every delegation that was made before; the
  comparison shows the task and both answers. -/
  exchanges : (owns segments).filterMap Deed.exchange? =
    (session.replies.mapIdx fun k reply => (s.model,
      { system := some (systemMessage subs)
        user := "Task:\n" ++ Supervisor.task c ++ "\n" ++
          String.join ((session.delegations.take k).map fun d =>
            "\nAgent " ++ d.agentId ++ " was asked: " ++ d.request ++ "\nIt answered: " ++ d.answer ++
              "\n") }, .ok reply)) ++
    session.verdict.toList.map fun reply => (s.model,
      { system := some "You compare two answers and pick the better one."
        user := "Task:\n" ++ Supervisor.task c ++ "\n\nCandidate A:\n" ++ session.last?.getD "" ++
          "\n\nCandidate B:\n" ++ session.summary?.getD "" ++
          "\n\nWhich candidate answers the task better? " ++
          "Reply with the single letter A or B." }, .ok reply)
  compared : session.verdict.isSome ↔
    s.strategy = .scored ∧ session.last?.isSome ∧ session.summary?.isSome
  events : (owns segments).filterMap Deed.event? =
    (session.stages.map fun stage => .note id .info ("delegating to " ++ stage.sub.id)) ++
      if session.replies.length = max 1 s.maxSteps ∧ session.finish = none then
        [.note id .warning "invocation limit reached"] else []
  writes : (owns segments).filterMap Deed.write? =
    session.chosen.toList.map fun text => (s.outputKey, .string text)
  byLast : s.strategy = .last → session.chosen = session.last?.or session.summary?
  bySummary : s.strategy = .summary → session.chosen = session.summary?.or session.last?
  byScore : s.strategy = .scored → session.chosen =
    session.verdict.elim (session.last?.or session.summary?) fun verdict =>
      if (Text.trim verdict).toList.head? = some 'B' ∨ (Text.trim verdict).toList.head? = some 'b' then
        session.summary?
      else session.last?
  unwritten : session.chosen = none ↔ session.last? = none ∧ session.summary? = none
  context : c' = keeping s session.last session.chosen
  value : value = c'.scope.output s.outputKey

theorem Chooses.chosen_eq_none {last summary verdict chosen : Option String}
    (h : Chooses may s task last summary verdict chosen) :
    chosen = none ↔ last = none ∧ summary = none := by
  cases h with
  | last | single => exact Option.or_eq_none_iff
  | summary => exact Option.or_eq_none_iff.trans and_comm
  | scored => simp

theorem exchanges_ending (session : Session μ) (delegations : List Delegation) :
    (ending s subs task delegations session).filterMap Deed.exchange? =
      (session.finish.toList.map fun f => (s.model, planningRequest subs task delegations, .ok f.1)) ++
      session.verdict.toList.map fun reply => (s.model,
        comparison task ((lastAnswer? delegations).getD "") (session.summary?.getD ""), .ok reply) := by
  simp [ending, choosing, List.filterMap_append, List.filterMap_map, Function.comp_def, Deed.exchange?]

theorem parts_segments (session : Session μ) :
    (segments id s subs task limit delegations session).filterMap Segment.part? =
      session.stages.map Stage.deeds := by
  rw [segments, List.filterMap_append, parts_carriedOut, Segment.filterMap_part_own, List.append_nil]

theorem exchanges_segments (session : Session μ) :
    (owns (segments id s subs task limit [] session)).filterMap Deed.exchange? =
      (session.replies.mapIdx fun k reply =>
        (s.model, planningRequest subs task (session.delegations.take k), .ok reply)) ++
      session.verdict.toList.map fun reply => (s.model,
        comparison task (session.last?.getD "") (session.summary?.getD ""), .ok reply) := by
  have hlength : session.delegations.length = (session.stages.map Stage.reply).length := by
    rw [Session.delegations, List.length_map, List.length_map]
  rw [owns_segments, List.filterMap_append, exchanges_carriedOut, exchanges_ending, List.nil_append,
    lastAnswer?_eq, Session.replies, List.mapIdx_append, List.append_assoc]
  congr 1
  -- The last plan, if it ends the session, is asked for with all delegations.
  congr 1
  cases session.finish with
  | none => rfl
  | some f =>
    rw [Option.toList_some, List.map_singleton, List.map_singleton, List.mapIdx_singleton, Nat.zero_add,
      ← hlength, List.take_length]

theorem writes_segments (session : Session μ) :
    (owns (segments id s subs task limit delegations session)).filterMap Deed.write? =
      session.chosen.toList.map fun text => (s.outputKey, .string text) := by
  rw [owns_segments, List.filterMap_append, writes_carriedOut]
  simp [ending, choosing, List.filterMap_append, List.filterMap_map, Function.comp_def, Deed.write?]

theorem events_segments {session : Session μ} (hlimit : session.stages.length ≤ limit) :
    (owns (segments id s subs task limit [] session)).filterMap Deed.event? =
      (session.stages.map fun stage => .note id .info ("delegating to " ++ stage.sub.id)) ++
        if session.stages ≠ [] ∧ session.stages.length = limit then
          [.note id .warning "invocation limit reached"] else [] := by
  have hending : (ending s subs task ([] ++ session.delegations) session).filterMap Deed.event? = [] := by
    simp [ending, choosing, List.filterMap_append, List.filterMap_map, Function.comp_def, Deed.event?]
  rw [owns_segments, List.filterMap_append, hending, List.append_nil,
    events_carriedOut (by rwa [List.length_nil, Nat.zero_add]), List.length_nil, Nat.zero_add]

theorem Chooses.chosen_eq {last summary verdict chosen : Option String}
    (h : Chooses may s task last summary verdict chosen) : chosen = match s.strategy with
      | .last => last.or summary
      | .summary => summary.or last
      | .scored => verdict.elim (last.or summary) fun verdict =>
        if prefersSecond verdict then summary else last := by
  cases h with
  | last hstrategy | summary hstrategy => rw [hstrategy]
  | single hstrategy =>
    rw [hstrategy]
    rfl
  | scored hstrategy =>
    rw [hstrategy]
    exact apply_ite some ..

theorem conducted_of_conducts {session : Session μ}
    (h : Conducts may s subs (Supervisor.task c) (max 1 s.maxSteps) [] (c.withDirective none) session)
    (hcontext : c' = keeping s session.last session.chosen)
    (hvalue : value = c'.scope.output s.outputKey) :
    Conducted may id s subs c value c' session
      (segments id s subs (Supervisor.task c) (max 1 s.maxSteps) [] session) := by
  have hasked : session.replies.length = session.stages.length + session.finish.toList.length := by
    rw [Session.replies, List.length_append, List.length_map, List.length_map]
  have hmost := h.length_le
  have hpositive : 1 ≤ max 1 s.maxSteps := Nat.le_max_left ..
  have hchooses : Chooses may s (Supervisor.task c) session.last? session.summary? session.verdict
      session.chosen := by
    have hchooses := h.chooses
    rwa [List.nil_append, lastAnswer?_eq] at hchooses
  have hexhausted : session.finish = none → session.stages.length = max 1 s.maxSteps := h.exhausted
  refine ⟨rfl, h.staged, parts_segments session, fun f hf => (h.finished f hf).1, ⟨?_, hmost⟩,
    exchanges_segments session, hchooses.verdict_isSome, ?_, writes_segments session, fun hs => ?_,
    fun hs => ?_, fun hs => ?_, hchooses.chosen_eq_none, hcontext, hvalue⟩
  · cases hfinish : session.finish with
    | none => rw [hasked, hexhausted hfinish]; omega
    | some f => rw [hasked, hfinish]; exact Nat.le_add_left ..
  · -- Every step that is left was taken, and none of them said that the task is done.
    have hlast : (session.stages ≠ [] ∧ session.stages.length = max 1 s.maxSteps) ↔
        session.replies.length = max 1 s.maxSteps ∧ session.finish = none := by
      rw [← List.length_pos_iff_ne_nil]
      cases hfinish : session.finish with
      | none =>
        rw [hasked, hexhausted hfinish, hfinish]
        simp
      | some f =>
        rw [hfinish, Option.toList_some, List.length_singleton] at hasked
        simp
        omega
    rw [events_segments (by omega), if_congr hlast rfl rfl]
  · rw [hchooses.chosen_eq, hs]
  · rw [hchooses.chosen_eq, hs]
  · simp only [hchooses.chosen_eq, hs, prefersSecond_iff]

/-- What is done in an invocation, from its beginning to its end. -/
def invocation (id : String) (segments : List (Segment μ)) : List (Deed μ) :=
  .event (.unitStarted id .supervisor) ::
    (segments.flatMap Segment.deeds ++ [.event (.unitCompleted id)])

theorem conducted_of_does {name : String}
    (h : Does may ((Executable.supervisor id name s subs).invoke c) deeds ⟨.ok value, c'⟩) :
    ∃ (session : Session μ) (segments : List (Segment μ)),
      Conducted may id s subs (c.withScope (c.scope.record id name)) value c' session segments ∧
        deeds = invocation id segments := by
  obtain ⟨inside, hinside, rfl⟩ := h.of_invoke
  obtain ⟨session, hsession, rfl, hcontext, hvalue⟩ := conducts_of_deliberate hinside (Nat.zero_add _)
  exact ⟨session, _, conducted_of_conducts hsession hcontext hvalue, rfl⟩

end Supervisor

/-! ## Sub-agents of compiled graphs -/

section Compiled

variable {provider : Provider μ} {tools : Registry} {config : Config} {nodes : List Node}
  {d : NodeDecl} {n : Node} {entry : String} {decls : List NodeDecl} {checked : Checked} {e : Entry μ}
  {id name : String} {s : Supervisor.Setup μ} {subs : List (Runnable μ)}

/-- The ids of sub-agents are trimmed, and no two of them stand for different units. -/
theorem Runnable.MadeFrom.sub
    (h : (Runnable.supervisor id name s subs).MadeFrom provider tools config nodes d n)
    {r : Runnable μ} (hr : r ∈ subs) :
    Text.visible? r.id = some r.id ∧ ∀ other ∈ subs, other.id = r.id → other = r := by
  have hkind := h.standsFor.kind
  obtain ⟨depth, htree⟩ := h.tree
  obtain ⟨-, -, hrole⟩ := Node.ofDecl_eq_ok h.node
  obtain ⟨id', name', key', role⟩ := n
  cases role with
  | supervisor llmId ids strategy =>
    obtain ⟨model, -, hsubs⟩ := Option.bind_eq_some_iff.mp htree
    obtain ⟨parts, hparts, hsubs⟩ := Option.bind_eq_some_iff.mp hsubs
    obtain ⟨-, -, -, rfl⟩ := Runnable.supervisor.inj (Option.some.inj hsubs)
    have hpart : ∀ x ∈ parts, x.id ∈ ids ∧
        unfolded? provider tools config nodes depth x.id = some x := by
      intro x hx
      obtain ⟨id, hid, hx⟩ := part_of_mapM hparts x hx
      obtain rfl := unfolded?_id hx
      exact ⟨hid, hx⟩
    obtain ⟨hid, hunfolded⟩ := hpart r hr
    refine ⟨?_, fun other hother hsame => ?_⟩
    · cases hrole with
      | supervisor _ _ hids =>
        obtain ⟨raw, -, hraw⟩ := forall₂_mem_right hids hid
        obtain ⟨hblank, htrim⟩ := Text.visible?_trimmed hraw
        exact Text.visible?_eq_some_iff.mpr ⟨hblank, htrim⟩
    · have hother := (hpart other hother).2
      rw [hsame, hunfolded] at hother
      exact (Option.some.inj hother).symm
  | _ => cases hkind

theorem Supervisor.find?_id {r : Runnable μ} (hr : r ∈ subs)
    (h : ∀ other ∈ subs, other.id = r.id → other = r) :
    find? (subs.map Runnable.executable) r.id = some r.executable := by
  have hfound : ∃ x, (subs.map Runnable.executable).find? (fun sub => sub.id == r.id) = some x := by
    rw [← Option.isSome_iff_exists, List.find?_isSome]
    exact ⟨r.executable, List.mem_map_of_mem hr, beq_self_eq_true _⟩
  obtain ⟨x, hx⟩ := hfound
  obtain ⟨other, hother, rfl⟩ := List.mem_map.mp (List.mem_of_find?_eq_some hx)
  have hid : other.executable.id = r.id :=
    eq_of_beq (List.find?_some (p := fun sub : Executable μ => sub.id == r.id) hx)
  rw [find?, hx, h other hother hid]
  rfl

/-- A plan that names a sub-agent by its id is carried out by that very unit. -/
theorem Compiled.delegates (h : Compiled provider tools config checked e)
    (hp : Checked.Passed entry decls checked)
    (hs : (Runnable.supervisor id name s subs).Within e.runnable) {r : Runnable μ} (hr : r ∈ subs)
    {form : Plan.Form} (hdone : ¬ form.done) (hagent : form.agent = some r.id) :
    ∃ asked, form.plan = .ok (.delegate r.id asked) ∧
      Supervisor.find? (subs.map Runnable.executable) r.id = some r.executable := by
  obtain ⟨d, n, -, -, hmade⟩ := h.declared_of_within hp hs
  obtain ⟨hvisible, hunique⟩ := hmade.sub hr
  refine ⟨form.request.filter fun text => !Text.isBlankText text, ?_, Supervisor.find?_id hr hunique⟩
  rw [Plan.Form.plan, if_neg hdone, hagent, Option.bind_some, hvisible]

end Compiled

/-! ## Runs -/

open Supervisor in
/-- Whatever models reply and sub-agents do, a supervisor that succeeds has held a session: it has asked
for at least one plan and at most as many as it may, each time with everything that was delegated before;
it has warned exactly if the last plan it may ask for was to delegate too; it has asked for a comparison
exactly if its strategy says so and two answers were there; and it has written the response that its
strategy chooses, if there is any. In a compiled graph it finds every sub-agent under its id. -/
theorem sessions_of_supervisor (id name : String) (s : Setup μ) (subs : List (Executable μ))
    (c : Context) :
    (∀ (may : Replies μ) (actions : List (Action μ)) (value : Value) (c' : Context),
      Steps may (.active ((Executable.supervisor id name s subs).invoke c)) actions
          (.ended ⟨.ok value, c'⟩) →
        ∃ (session : Session μ) (segments : List (Segment μ)),
          Conducted may id s subs (c.withScope (c.scope.record id name)) value c' session segments ∧
            (Deed.log (invocation id segments)).Shows actions) ∧
    (∀ (σ : Type) (answer : Responder μ σ) (memory : σ) (value : Value) (c' : Context),
      (((Executable.supervisor id name s subs).invoke c).run answer memory).outcome =
          ⟨.ok value, c'⟩ →
        ∃ (session : Session μ) (segments : List (Segment μ)),
          Conducted (.by answer) id s subs (c.withScope (c.scope.record id name)) value c' session
            segments ∧ Deed.log (invocation id segments) =
              (((Executable.supervisor id name s subs).invoke c).run answer memory).log) ∧
    ∀ (provider : Provider μ) (tools : Registry) (config : Config) (entry : String)
      (decls : List NodeDecl) (e : Entry μ),
      (compile provider tools config entry decls).result = .ok e →
        ∀ (id name : String) (s : Setup μ) (units : List (Runnable μ)),
          (Runnable.supervisor id name s units).Within e.runnable →
          ∀ r ∈ units, ∀ form : Plan.Form, ¬ form.done → form.agent = some r.id →
            ∃ asked, form.plan = .ok (.delegate r.id asked) ∧
              find? (units.map Runnable.executable) r.id = some r.executable := by
  refine ⟨fun may actions value c' h => ?_, fun σ answer memory value c' h => ?_,
    fun provider tools config entry decls e he id name s units hs r hr form hdone hagent => ?_⟩
  · obtain ⟨deeds, hdeeds, hshows⟩ := exists_deeds_of_steps h
    obtain ⟨session, segments, hconducted, rfl⟩ := conducted_of_does hdeeds
    exact ⟨session, segments, hconducted, hshows⟩
  · obtain ⟨deeds, hdeeds, hlog⟩ :=
      exists_deeds_of_run answer ((Executable.supervisor id name s subs).invoke c) memory
    rw [h] at hdeeds
    obtain ⟨session, segments, hconducted, rfl⟩ := conducted_of_does hdeeds
    exact ⟨session, segments, hconducted, hlog⟩
  · obtain ⟨checked, hchecked, hcompiled⟩ := compiled_of_compile he
    exact hcompiled.delegates (Checked.passed hchecked) hs hr hdone hagent

/-! ## A compiled supervisor -/

namespace Choir

/-- A supervisor that may ask for one plan, over an agent that uses the same model. -/
def decls : List NodeDecl :=
  [.llm "model" "address" "name", .agent "singer" "model", .supervisor "lead" "model" ["singer"]]

def checked : Checked where
  entryId := "lead"
  nodes := [⟨"model", "model", none, .llm (some "address") (some "name") none none⟩,
    ⟨"singer", "singer", none, .agent "model" none none []⟩,
    ⟨"lead", "lead", none, .supervisor "model" ["singer"] .last⟩]
  order := ["model", "singer", "lead"]

def singer : Runnable Unit := .agent "singer" "singer" { model := (), prompt := .ofTemplate none }

def setup : Supervisor.Setup Unit := { model := (), outputKey := "response", maxSteps := 1 }

def entry : Entry Unit where
  runnable := .supervisor "lead" "lead" setup [singer]
  entryId := checked.entryId
  nodes := checked.nodes
  buildOrder := checked.order

/-- The model always wants the singer to sing. -/
def answer : Responder Unit Unit := fun _ _ memory => (.ok "\x7b\"agent\": \"singer\"\x7d", memory)

theorem compile_decls :
    (compile (fun _ => .ok ()) [] { supervisorSteps := 1 } "lead" decls).result = .ok entry := by
  have horder : (dependencyGraph checked.nodes).order = .ok checked.order := by
    have hgraph : dependencyGraph checked.nodes = ⟨["model", "singer", "lead"],
      [("model", "singer"), ("model", "lead"), ("singer", "lead")]⟩ := rfl
    rw [hgraph]
    simp [checked, Digraph.order, Digraph.searchAll, Digraph.search, Digraph.next,
      Digraph.previous, Digraph.Search.open, Digraph.Search.close, Digraph.misplaced?]
  have hchecked : Checked.ofDecls "lead" decls = .ok checked := by
    have hnodes : Checked.ofDecls "lead" decls = Checked.ofNodes "lead" checked.nodes := rfl
    have hids : duplicate? [] (checked.nodes.map Node.id) = none := rfl
    have hreferences : referencesError? checked.nodes = none := rfl
    rw [hnodes, Checked.ofNodes, hids, hreferences]
    dsimp only
    rw [horder]
    rfl
  rw [compile, hchecked]
  rfl

end Choir

open Supervisor in
/-- The one plan that may be asked for names the singer by its id. -/
theorem sessions_of_supervisor_choir :
    (∃ (value : Value) (c' : Context) (session : Session Unit) (segments : List (Segment Unit)),
      Conducted (.by Choir.answer) "lead" Choir.setup [Choir.singer.executable]
        ((Context.ofInput Duet.input).entered Choir.entry.runnable) value c' session segments ∧
      session.replies.length = 1) ∧
    ∃ asked, Plan.Form.plan { agent := some "singer" } = .ok (.delegate "singer" asked) ∧
      find? [Choir.singer.executable] "singer" = some Choir.singer.executable := by
  obtain ⟨-, hrun, hcompiled⟩ := sessions_of_supervisor "lead" "lead" Choir.setup
    [Choir.singer.executable] (Context.ofInput Duet.input)
  refine ⟨?_, hcompiled (fun _ => .ok ()) [] { supervisorSteps := 1 } "lead" Choir.decls Choir.entry
    Choir.compile_decls "lead" "lead" Choir.setup [Choir.singer] (Runnable.within_self _) Choir.singer
    List.mem_cons_self { agent := some "singer" } (by decide) rfl⟩
  have hok : (((Executable.supervisor "lead" "lead" Choir.setup [Choir.singer.executable]).invoke
      (Context.ofInput Duet.input)).run Choir.answer ()).outcome.value.isOk = true := by decide +kernel
  cases houtcome : (((Executable.supervisor "lead" "lead" Choir.setup
      [Choir.singer.executable]).invoke (Context.ofInput Duet.input)).run Choir.answer ()).outcome with
  | mk result c' =>
    rw [houtcome] at hok
    cases result with
    | error e => cases hok
    | ok value =>
      obtain ⟨session, segments, hconducted, -⟩ := hrun Unit Choir.answer () value c' houtcome
      exact ⟨value, c', session, segments, hconducted,
        le_antisymm hconducted.asked.2 hconducted.asked.1⟩

end AgentGraph
