import AgentGraph.Proofs.Trimmed
import AgentGraph.Run.Supervisor

/-! The texts that models are sent.

* `ValueMap.entryLines`: the entries of a map as lines.
* `Prompt.Sendable`: a message that says something, and more than the word `default`.
* `Prompt.sendable_message`: whatever a prompt is resolved to is such a message.
* `Request.WellFormed`: a request whose texts all say something.
* `Supervisor.wellFormed_planningRequest`: what a supervisor asks is well formed.
* `Plan.request_of_parse`: no plan delegates a blank request. -/
namespace AgentGraph
set_option autoImplicit false

variable {μ : Type}

namespace Text

theorem isBlankText_append (s t : String) :
    isBlankText (s ++ t) = (isBlankText s && isBlankText t) := by
  rw [isBlankText, isBlankText, isBlankText, String.toList_append, List.all_append]

theorem not_blank_append_left {s : String} (h : ¬ isBlankText s) (t : String) :
    ¬ isBlankText (s ++ t) := by
  rw [isBlankText_append, Bool.and_eq_true]
  exact fun hboth => h hboth.1

end Text

/-! ## Lines -/

namespace ValueMap

/-- One line `name: text` for each entry that is not null, in their order. -/
def entryLines : ValueMap → List String
  | [] => []
  | (_, .null) :: rest => entryLines rest
  | (name, value) :: rest => (name ++ ": " ++ value.text) :: entryLines rest

variable {m : ValueMap} {text : String}

theorem map_filter_eq_entryLines (m : ValueMap) :
    (m.filter fun e => !e.2.isNull).map (fun e => e.1 ++ ": " ++ e.2.text) = m.entryLines := by
  induction m with
  | nil => rfl
  | cons e rest ih =>
    obtain ⟨name, value⟩ := e
    cases value with
    | null => exact ih
    | _ => exact congrArg (List.cons _) ih

theorem lines?_eq (m : ValueMap) :
    m.lines? = if m.entryLines = [] then none else some ("\n".intercalate m.entryLines) := by
  rw [← map_filter_eq_entryLines, lines?]
  cases m.filter fun e => !e.2.isNull <;> rfl

theorem lines?_eq_some_iff : m.lines? = some text ↔
    m.entryLines ≠ [] ∧ "\n".intercalate m.entryLines = text := by
  rw [lines?_eq]
  split <;> simp_all

theorem getD_lines? (m : ValueMap) : m.lines?.getD "" = "\n".intercalate m.entryLines := by
  rw [lines?_eq]
  split
  · next hnone => rw [hnone]; rfl
  · rfl

theorem colon_mem_of_line {line : String} (h : line ∈ m.entryLines) : ':' ∈ line.toList := by
  rw [← map_filter_eq_entryLines] at h
  obtain ⟨e, -, rfl⟩ := List.mem_map.mp h
  simp

end ValueMap

/-! ## Messages -/

namespace Prompt

/-- The message says something, and it is not the word `default`. -/
structure Sendable (text : String) : Prop where
  visible : ¬ Text.isBlankText text
  own : ¬ Text.sameIgnoringCase (Text.trim text) "default"

variable {m : ValueMap} {text : String}

theorem sendable_generic : Sendable genericInstruction := ⟨by decide, by decide +kernel⟩

theorem sendable_fallback : Sendable fallbackInstruction := ⟨by decide, by decide +kernel⟩

theorem sendable_orGeneric (h : ¬ Text.isBlankText text) : Sendable (orGeneric text) := by
  unfold orGeneric
  by_cases hdefault : isDefault text
  · rw [if_pos hdefault]
    exact sendable_generic
  · rw [if_neg hdefault]
    exact ⟨h, hdefault⟩

theorem sendable_of_listing (h : listing? m = some text) : Sendable text := by
  obtain ⟨-, hkept⟩ := Option.filter_eq_some_iff.mp h
  simp only [Bool.and_eq_true, Bool.not_eq_true', isDefault] at hkept
  exact ⟨by simp [hkept.1], by simp [hkept.2]⟩

theorem visible_of_namedText {name : String} (h : namedText? m name = some text) :
    ¬ Text.isBlankText text := by
  obtain ⟨raw, -, hraw⟩ := Option.bind_eq_some_iff.mp h
  exact (Text.visible?_trimmed hraw).1

theorem sendable_of_fields (h : ofFields? m = some text) : Sendable text := by
  unfold ofFields? at h
  split at h
  · next found hfound =>
    obtain rfl := Option.some.inj h
    obtain ⟨name, -, hname⟩ := List.exists_of_findSome?_eq_some hfound
    exact sendable_orGeneric (visible_of_namedText hname)
  · exact sendable_of_listing h

theorem sendable_of_metadata {metadata : Value} (h : ofMetadata? metadata = some text) :
    Sendable text := by
  unfold ofMetadata? at h
  split at h
  · cases h
  · cases h
  · exact sendable_of_fields h
  · obtain ⟨shown, hshown, rfl⟩ := Option.map_eq_some_iff.mp h
    exact sendable_orGeneric (Text.visible?_trimmed hshown).1

theorem sendable_of_map (h : ofMap? m = some text) : Sendable text := by
  unfold ofMap? at h
  split at h
  · cases h
  · split at h
    · rcases Option.or_eq_some_iff.mp h with hmetadata | ⟨-, hlisting⟩
      · exact sendable_of_metadata hmetadata
      · exact sendable_of_listing hlisting
    · exact sendable_of_fields h

theorem render_text_eq (template : String) (m : ValueMap) : (render template m).text =
    Text.trim (String.ofList ((pieces template.toList).flatMap (Piece.text m))) := by
  rw [Text.trim, String.toList_ofList]
  rfl

/-- What is rendered is trimmed, so nothing is left of it if it is blank. -/
theorem isBlankText_rendered {template : String} :
    Text.isBlankText (render template m).text ↔ (render template m).text.isEmpty := by
  rw [render_text_eq, Text.isBlankText_trim, Text.isBlankText_iff, ← Text.trimChars_eq_nil_iff,
    String.isEmpty_iff, Text.trim, String.ofList_eq_empty_iff]

theorem sendable_of_template {template : String} (h : ofTemplate? template m = some text) :
    Sendable text := by
  unfold ofTemplate? at h
  dsimp only at h
  split at h
  · cases h
  · next hempty =>
    obtain rfl := Option.some.inj h
    exact sendable_orGeneric fun hblank => hempty (isBlankText_rendered.mp hblank)

theorem sendable_message (p : Prompt) (scope ambient : ValueMap) :
    Sendable (p.message scope ambient) := by
  have hmessage : p.message scope ambient =
      ((p.template.bind fun t => ofTemplate? t (source scope ambient)).or
        (ofMap? (source scope ambient))).getD fallbackInstruction := rfl
  rw [hmessage]
  cases hfound : (p.template.bind fun t => ofTemplate? t (source scope ambient)).or
      (ofMap? (source scope ambient)) with
  | none => exact sendable_fallback
  | some text =>
    rcases Option.or_eq_some_iff.mp hfound with htemplate | ⟨-, hmap⟩
    · obtain ⟨template, -, htext⟩ := Option.bind_eq_some_iff.mp htemplate
      exact sendable_of_template htext
    · exact sendable_of_map hmap

end Prompt

/-! ## Requests -/

/-- All texts of the request say something. -/
structure Request.WellFormed (r : Request) : Prop where
  user : ¬ Text.isBlankText r.user
  system : ∀ text, r.system = some text → ¬ Text.isBlankText text

/-- A directive that was handed down, if there is one, says something. -/
def Context.Directed (c : Context) : Prop :=
  ∀ text, c.directive = some text → ¬ Text.isBlankText text

namespace Executable.Agent

variable {a : Agent μ} {c : Context}

/-- Only a directive is sent as it is. -/
theorem sendable_message (h : c.directive = none ∨ a.prompt.hasTemplate) :
    Prompt.Sendable (a.message c) := by
  have hresolved := a.prompt.sendable_message c.scope.state c.ambient
  unfold message
  cases hdirective : c.directive with
  | none => exact hresolved
  | some directive =>
    rw [hdirective] at h
    rcases h with h | h
    · cases h
    · simp only [h, if_true]
      exact hresolved

theorem visible_message (h : c.Directed) : ¬ Text.isBlankText (a.message c) := by
  by_cases hresolved : c.directive = none ∨ a.prompt.hasTemplate
  · exact (sendable_message hresolved).visible
  · obtain ⟨hsome, htemplate⟩ := not_or.mp hresolved
    obtain ⟨directive, hdirective⟩ := Option.ne_none_iff_exists'.mp hsome
    have hmessage : a.message c = directive := by
      simp only [message, hdirective, if_neg htemplate]
    rw [hmessage]
    exact h directive hdirective

end Executable.Agent

namespace Supervisor

variable {c : Context} {subs : List (Executable μ)} {task : String}

theorem visible_task (h : c.Directed) : ¬ Text.isBlankText (Supervisor.task c) := by
  unfold Supervisor.task
  cases hdirective : c.directive with
  | none => exact (Prompt.sendable_message _ _ _).visible
  | some directive => exact h directive hdirective

theorem wellFormed_planningRequest (subs : List (Executable μ)) (task : String)
    (delegations : List Delegation) : (planningRequest subs task delegations).WellFormed := by
  have huser : ¬ Text.isBlankText "Task:\n" := by decide
  have hsystem : ¬ Text.isBlankText
      "You are a supervisor. Solve the user's task by delegating to these agents:\n" := by decide
  refine ⟨?_, fun text htext => ?_⟩
  · unfold planningRequest planningMessage
    simp only [Text.isBlankText_append, huser, Bool.false_and]
    exact Bool.false_ne_true
  · have htext : text = systemMessage subs := (Option.some.inj htext).symm
    rw [htext]
    unfold systemMessage
    simp only [Text.isBlankText_append, hsystem, Bool.false_and]
    exact Bool.false_ne_true

theorem wellFormed_comparison (task first second : String) :
    (comparison task first second).WellFormed := by
  have huser : ¬ Text.isBlankText "Task:\n" := by decide
  have hsystem : ¬ Text.isBlankText "You compare two answers and pick the better one." := by decide
  unfold comparison
  refine ⟨?_, fun text htext => ?_⟩
  · simp only [Text.isBlankText_append, huser, Bool.false_and]
    exact Bool.false_ne_true
  · rw [← Option.some.inj htext]
    exact hsystem

end Supervisor

/-! ## Plans -/

theorem Plan.request_of_parse {reply agent request : String}
    (h : Plan.parse reply = .ok (.delegate agent (some request))) : ¬ Text.isBlankText request := by
  unfold Plan.parse at h
  split at h
  · cases h
  · split at h
    · cases h
    · next form _ =>
      unfold Form.plan at h
      split at h
      · cases h
      · split at h
        · next found _ =>
          obtain ⟨-, hrequest⟩ := Plan.delegate.inj (Except.ok.inj h)
          obtain ⟨-, hkept⟩ := Option.filter_eq_some_iff.mp hrequest
          simpa using hkept
        · cases h

/-! ## System messages -/

theorem Node.visible_systemMessage {d : NodeDecl} {text : String}
    (h : Node.systemMessage d = some text) : ¬ Text.isBlankText text := by
  rcases Option.or_eq_some_iff.mp h with hsystem | ⟨-, hrole⟩
  · exact (shown_trimmed hsystem).1
  · obtain ⟨role, -, rfl⟩ := Option.map_eq_some_iff.mp hrole
    have hlead : ¬ Text.isBlankText "You are the " := by decide
    exact Text.not_blank_append_left (Text.not_blank_append_left hlead role) "."

end AgentGraph
