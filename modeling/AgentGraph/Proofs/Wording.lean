import AgentGraph.Proofs.Effect
import AgentGraph.Proofs.Finite
import AgentGraph.Proofs.Messages
import AgentGraph.Proofs.Turns

/-! What a run comes to in words.

A unit hands back a value, its entry keeps one under a key, and a report has a text. No unit ever hands
back null; and what the entry holds under its key is what it handed back, or null. So the text of a
report is that of the value handed back if it shows, and what is kept never says more.

* `Value.isBlank_eq`: a value that is not null is blank if and only if its text is.
* `Turn.Proper.ne_null`: no turn succeeds with null.
* `Turn.Local.kept`: what a unit hands back stands under its key, if anything but null does.
* `Compiled.outputKey?_eq`: the key of an entry is the one that its unit uses.
* `text_of_run`: how every report is worded. -/
namespace AgentGraph
set_option autoImplicit false

variable {μ σ : Type} {may : Replies μ}

/-! ## Texts of values -/

theorem Json.not_blank_of_isNumeral {c : Char} (h : isNumeral c) : ¬ Text.isBlank c := by
  have hrange : 0x2B ≤ c.toNat ∧ c.toNat ≤ 0x65 := by
    simp only [isNumeral, Bool.or_eq_true, decide_eq_true_eq, Char.isDigit_iff_toNat] at h
    rcases h with ((((h | rfl) | rfl) | rfl) | rfl) | rfl
    · have hzero : '0'.toNat = 48 := rfl
      have hnine : '9'.toNat = 57 := rfl
      omega
    all_goals decide
  exact Text.not_blank_of_range (by omega) (by omega)

namespace Decimal

theorem digits_positional_ne_nil (d : Digits) : d.positional false ≠ [] := by
  have hdigits : digitChars d.mantissa ≠ [] := Nat.toDigits_ne_nil
  unfold Digits.positional
  dsimp only
  split
  · split <;> simp [hdigits]
  · split <;> simp

/-- A double for a reader is a word or a numeral. -/
theorem not_blank_plainText (x : Float) : ¬ Text.isBlankText (plainText x) := by
  unfold plainText Layout.text
  split
  · decide
  · split <;> decide
  · next negative size _ =>
    have hchars : Layout.plain.chars (size.shortest Layout.plain.tie) ≠ [] :=
      digits_positional_ne_nil _
    obtain ⟨c, hc⟩ := List.exists_mem_of_ne_nil _ hchars
    have hnumeral : Json.isNumeral c := Json.isNumeral_of_mem_layout hc
    refine Text.not_blank_of_mem ?_ (Json.not_blank_of_isNumeral hnumeral)
    rw [String.toList_ofList]
    split
    · exact List.mem_cons_of_mem _ hc
    · exact hc

end Decimal

namespace Value

theorem not_blank_numberText (x : Float) : ¬ Text.isBlankText (numberText x) := by
  unfold numberText
  split
  · decide
  · exact Decimal.not_blank_plainText x

theorem not_blank_jsonText {v : Value} {c : Char} {cs : List Char}
    (h : v.toJson.compactChars = c :: cs) (hc : ¬ Text.isBlank c) : ¬ Text.isBlankText v.jsonText := by
  refine Text.not_blank_of_mem (c := c) ?_ hc
  rw [jsonText, Json.compact, String.toList_ofList, h]
  exact List.mem_cons_self

/-- Of the values that are not null, exactly those are blank whose texts are. -/
theorem isBlank_eq {v : Value} (h : v ≠ .null) : v.isBlank = Text.isBlankText v.text := by
  cases v with
  | null => exact absurd rfl h
  | bool b => cases b <;> rfl
  | number x => exact (Bool.eq_false_iff.mpr (not_blank_numberText x)).symm
  | string s => rfl
  | array items =>
    exact (Bool.eq_false_iff.mpr (not_blank_jsonText (v := .array items) rfl (by decide))).symm
  | object fields =>
    exact (Bool.eq_false_iff.mpr (not_blank_jsonText (v := .object fields) rfl (by decide))).symm

end Value

/-! ## Direct values -/

theorem Context.get?_write_self (c : Context) (key : String) (value : Value) :
    (c.write key value).scope.get? key = some value :=
  (Scope.get?_write c.scope key key value).trans (if_pos rfl)

namespace Scope

variable {s : Scope} {key : String} {value : Value}

theorem output_ne_null (s : Scope) (key : String) : s.output key ≠ .null := by
  unfold output
  split
  · exact fun h => nomatch h
  · exact fun h => nomatch h
  · next value hnull _ => exact hnull

/-- What stands under the key is the output, unless it is null. -/
theorem output_of_get? (h : s.get? key = some value) : value = .null ∨ value = s.output key := by
  rw [output, h]
  cases value with
  | null => exact .inl rfl
  | _ => exact .inr rfl

theorem joined_ne_null (key : Option String) (s : Scope) : Executable.joined key s ≠ .null := by
  unfold Executable.joined
  split
  · exact fun h => nomatch h
  · exact fun h => nomatch h
  · next value hnull _ => exact hnull

theorem joined_of_get? (h : s.get? key = some value) :
    value = .null ∨ value = Executable.joined (some key) s := by
  rw [Executable.joined, Option.bind_some, h]
  cases value with
  | null => exact .inl rfl
  | _ => exact .inr rfl

end Scope

namespace Supervisor

variable {id : String} {s : Setup μ} {subs : List (Runnable μ)} {task : String} {c : Context}
  {log : Log μ} {o : Outcome} {direct : Value}

/-- Only by picking a response a supervisor succeeds. -/
theorem Concludes.responded {last summary : Option String}
    (h : Concludes may s task c last summary log o) (hvalue : o.value = .ok direct) :
    ∃ response, o = responded s c response := by
  cases h with
  | unscored => cases hvalue
  | _ => exact ⟨_, rfl⟩

theorem Deliberates.responded {left : Nat} {delegations : List Delegation} {parts : List (Turn μ)}
    (h : Deliberates may id s subs task left delegations c parts log o)
    (hvalue : o.value = .ok direct) : ∃ c' response, o = responded s c' response := by
  induction h with
  | exhausted hconclude => exact ⟨_, hconclude.responded hvalue⟩
  | finished _ _ _ hconclude => exact ⟨_, hconclude.responded hvalue⟩
  | delegated _ _ _ _ _ ih => exact ih hvalue
  | _ => cases hvalue

end Supervisor

namespace Turn

variable {t : Turn μ} {direct : Value}

theorem Proper.ne_null (h : t.Proper may) : t.outcome.value ≠ .ok .null := by
  induction h with
  | @mk t hlocal _ ih =>
    intro hnull
    cases hlocal with
    | replied => cases hnull
    | sequence => exact Scope.output_ne_null _ _ (Except.ok.inj hnull)
    | parallel =>
      obtain ⟨-, hjoined, -⟩ := gather_eq_of_ok hnull
      exact Scope.joined_ne_null _ _ hjoined.symm
    | @routed id name routes key c condition p o _ _ hend =>
      rcases hend with ⟨value, hvalue, rfl⟩ | ⟨e, -, rfl⟩
      · cases key with
        | none =>
          -- The value of the target is handed on.
          have hpart := ih p (List.mem_singleton_self p)
          rw [hvalue] at hpart
          exact hpart hnull
        | some key => exact Scope.output_ne_null _ _ (Except.ok.inj hnull)
      · cases hnull
    | supervisor hplan =>
      obtain ⟨c', response, rfl⟩ := hplan.responded hnull
      exact Scope.output_ne_null _ _ (Except.ok.inj hnull)
    | _ => cases hnull

end Turn

/-- The key that what a unit hands back is found under, if there is one. -/
def Runnable.outputKey? : Runnable μ → Option String
  | .agent _ _ a => a.outputKey
  | .sequence _ _ _ key => some key
  | .parallel _ _ _ _ key => key
  | .conditional _ _ _ key => key
  | .supervisor _ _ setup _ => some setup.outputKey

namespace Turn

variable {t : Turn μ} {direct value : Value} {key : String}

theorem Local.kept (h : t.Local may) (hvalue : t.outcome.value = .ok direct)
    (hkey : t.unit.outputKey? = some key) (hget : t.outcome.context.scope.get? key = some value) :
    value = .null ∨ value = direct := by
  cases h with
  | @replied id name a c request reply =>
    have hown : a.outputKey = some key := hkey
    simp only [hown, Context.keep, Context.get?_write_self] at hget
    exact .inr ((Option.some.inj hget).symm.trans (Except.ok.inj hvalue))
  | sequence =>
    obtain rfl := Option.some.inj hkey
    rw [Context.get?_write_self] at hget
    exact .inr ((Option.some.inj hget).symm.trans (Except.ok.inj hvalue))
  | @parallel id name pool own c parts =>
    have hown : own = some key := hkey
    subst hown
    obtain ⟨-, hjoined, hscope⟩ := gather_eq_of_ok hvalue
    rw [hscope] at hget
    rw [hjoined]
    exact Scope.joined_of_get? hget
  | @routed id name routes own c condition p o _ _ hend =>
    have hown : own = some key := hkey
    subst hown
    rcases hend with ⟨value, -, rfl⟩ | ⟨e, -, rfl⟩
    · rw [← Except.ok.inj hvalue]
      exact Scope.output_of_get? hget
    · cases hvalue
  | supervisor hplan =>
    obtain ⟨c', response, rfl⟩ := hplan.responded hvalue
    obtain rfl := Option.some.inj hkey
    rw [← Except.ok.inj hvalue]
    exact Scope.output_of_get? hget
  | _ => cases hvalue

theorem Local.held_of_sequence (h : t.Local may) (hvalue : t.outcome.value = .ok direct)
    (hkind : t.unit.kind = .sequence) :
    ∃ key, t.unit.outputKey? = some key ∧ t.outcome.context.scope.get? key = some direct := by
  cases h with
  | @sequence id name key =>
    rw [← Except.ok.inj hvalue]
    exact ⟨key, rfl, Context.get?_write_self _ _ _⟩
  | interrupted => cases hvalue
  | _ => cases hkind

end Turn

theorem Runnable.invoke_ne_null (r : Runnable μ) (c : Context) :
    Always may (r.executable.invoke c) fun _ o => o.value ≠ .ok .null := by
  refine (r.turns c).imp fun log o hturn => ?_
  obtain ⟨t, ht, -, -, -, rfl⟩ := hturn
  exact ht.ne_null

/-! ## The key of an entry -/

section Entries
variable {provider : Provider μ} {tools : Registry} {config : Config} {checked : Checked}
  {e : Entry μ} {input : ValueMap}

theorem outputKey?_of_treeOf? {model? : String → Option μ} {part? : String → Option (Runnable μ)}
    {n : Node} {r : Runnable μ} (h : treeOf? tools config model? part? n = some r) :
    r.outputKey? = n.outputKey.or (defaultOutputKey? r.kind) := by
  have hstands := standsFor_of_treeOf? h
  have hkey := hstands.key
  obtain ⟨id, name, outputKey, role⟩ := n
  cases r with
  | parallel =>
    cases role with
    | parallel ids poolSize =>
      obtain ⟨branches, -, hr⟩ := Option.bind_eq_some_iff.mp h
      cases hr
      exact (Option.or_none).symm
    | _ => cases hstands.kind
  | _ =>
    cases role with
    | parallel => cases hstands.kind
    | _ =>
      rw [hstands.kind]
      exact hkey

theorem Compiled.outputKey?_eq (h : Compiled provider tools config checked e) :
    e.outputKey? = e.runnable.outputKey? := by
  obtain ⟨n, depth, hn, htree, -⟩ := h.tree_of_within e.runnable.within_self
  rw [Entry.outputKey?, ← h.entryId_eq, hn, Option.bind_some, outputKey?_of_treeOf? htree]
  rfl

/-! ## Reports -/

theorem Entry.not_blank_parallelNotice (id : String) : ¬ Text.isBlankText (parallelNotice id) := by
  have hhead : ¬ Text.isBlankText "Workflow completed, but parallel entry node '" := by decide
  exact Text.not_blank_append_left
    (Text.not_blank_append_left (Text.not_blank_append_left hhead _) _) _

/-- How a report is worded, given the value that the entry handed back. -/
structure Entry.Worded (e : Entry μ) (direct : Value) (report : Report) : Prop where
  present : direct ≠ .null
  text : report.text = if Text.isBlankText direct.text then
      if e.kind = .parallel then
        "Workflow completed, but parallel entry node '" ++ e.entryId ++
          "' returned no direct text output. " ++
          "Add a final agent in a sequence/supervisor to compose sub-agent outputs."
      else ""
    else direct.text
  /-- What is kept under the output key does not show either. -/
  kept : Text.isBlankText direct.text → e.keptText? report.state = none
  visible : e.kind = .parallel → ¬ Text.isBlankText report.text
  held : e.kind = .sequence →
    ∃ key, e.outputKey? = some key ∧ Fields.get? report.state key = some direct
  declared : ∀ key value, e.outputKey? = some key → Fields.get? report.state key = some value →
    value.isBlank = false → report.text = value.text

theorem Entry.text_of_report {o : Outcome} {report : Report} (h : e.report input o = .ok report) :
    ∃ direct, o.value = .ok direct ∧ report.text = e.text direct report.state := by
  unfold Entry.report at h
  cases hvalue : o.value with
  | error f =>
    rw [hvalue] at h
    cases h
  | ok direct =>
    rw [hvalue] at h
    obtain rfl := Except.ok.inj h
    exact ⟨direct, rfl, rfl⟩

theorem Entry.text_of_visible {direct : Value} (hne : direct ≠ .null)
    (hvisible : ¬ Text.isBlankText direct.text) (state : ValueMap) :
    e.text direct state = direct.text := by
  have htext : direct.text? = some direct.text := by
    cases direct with
    | null => exact absurd rfl hne
    | _ => rfl
  rw [Entry.text, htext, Option.filter_some, if_pos (by simpa using hvisible)]

theorem Entry.text_of_blank {direct : Value} (hblank : Text.isBlankText direct.text)
    {state : ValueMap} (hkept : e.keptText? state = none) :
    e.text direct state = if e.kind = .parallel then parallelNotice e.entryId else "" := by
  have htext : (direct.text?.filter fun text => !Text.isBlankText text) = none := by
    cases direct with
    | null => rfl
    | _ => exact (Option.filter_some).trans (if_neg (by simpa using hblank))
  rw [Entry.text, htext, hkept]
  rfl

theorem Compiled.worded (h : Compiled provider tools config checked e)
    (hinput : Fields.Ordered input) {log : Log μ} {o : Outcome}
    (hp : Produces may (e.process input) log o) {report : Report}
    (hreport : e.report input o = .ok report) :
    ∃ direct, o.value = .ok direct ∧ e.Worded direct report := by
  obtain ⟨direct, hvalue, htext⟩ := Entry.text_of_report hreport
  have hstate := (h.framed hinput hp hreport).state
  obtain ⟨t, ht, rfl, -⟩ := Entry.turned log o hp
  have hne : direct ≠ .null := fun hnull => ht.proper.ne_null (hnull ▸ hvalue)
  have hkey : t.unit.outputKey? = e.outputKey? := ht.unit ▸ h.outputKey?_eq.symm
  have hunder : ∀ key value, e.outputKey? = some key → Fields.get? report.state key = some value →
      value.isBlank = false → value = direct := by
    intro key value hown hget hblank
    rw [hstate] at hget
    rcases ht.proper.local.kept hvalue (hkey.trans hown) hget with rfl | rfl
    · cases hblank
    · rfl
  have hkept : Text.isBlankText direct.text → e.keptText? report.state = none := by
    intro hblank
    unfold Entry.keptText?
    split
    · rfl
    · next value hget =>
      obtain ⟨key, hown, hget⟩ := Option.bind_eq_some_iff.mp hget
      rw [ite_eq_left_iff, Bool.not_eq_true]
      -- A value that shows would be the direct one, which does not.
      intro hshown
      have hsame := hunder key value hown hget hshown
      rw [hsame, Value.isBlank_eq hne, hblank] at hshown
      cases hshown
  have hworded : report.text = if Text.isBlankText direct.text then
      if e.kind = .parallel then Entry.parallelNotice e.entryId else "" else direct.text := by
    rw [htext]
    split
    · next hblank => exact Entry.text_of_blank hblank (hkept hblank)
    · next hvisible => exact Entry.text_of_visible hne hvisible _
  refine ⟨direct, hvalue, hne, hworded, hkept, fun hkind => ?_, fun hkind => ?_, ?_⟩
  · rw [hworded]
    by_cases hblank : Text.isBlankText direct.text
    · rw [if_pos hblank, if_pos hkind]
      exact Entry.not_blank_parallelNotice _
    · rwa [if_neg hblank]
  · have hsequence : t.unit.kind = .sequence := ht.unit ▸ hkind
    obtain ⟨key, hown, hget⟩ := ht.proper.local.held_of_sequence hvalue hsequence
    rw [hstate]
    exact ⟨key, hkey ▸ hown, hget⟩
  · intro key value hown hget hshown
    obtain rfl := hunder key value hown hget hshown
    rw [Value.isBlank_eq hne] at hshown
    rw [hworded, hshown]
    rfl

/-- No unit succeeds with null. However branches move and whatever models reply, the text of a run that
succeeds is that of the value that its entry handed back, if this text shows; else it says that a
parallel has no text, or nothing. What the entry keeps under its key never makes up for it. The key is
the one that the unit of the entry uses: a sequence leaves its value there, and whatever shows there is
what the text of the run is the text of. -/
theorem text_of_run (provider : Provider μ) (tools : Registry) (config : Config) (entry : String)
    (decls : List NodeDecl) (e : Entry μ)
    (he : (compile provider tools config entry decls).result = .ok e) (input : ValueMap)
    (hinput : Fields.Ordered input) :
    (∀ (may : Replies μ) (r : Runnable μ) (c : Context) (actions : List (Action μ)) (o : Outcome),
      Steps may (.active (r.executable.invoke c)) actions (.ended o) → o.value ≠ .ok .null) ∧
    e.outputKey? = e.runnable.outputKey? ∧
    (∀ (may : Replies μ) (actions : List (Action μ)) (o : Outcome) (report : Report),
      Steps may (.active (e.process input)) actions (.ended o) → e.report input o = .ok report →
        ∃ direct, o.value = .ok direct ∧ e.Worded direct report) ∧
    ∀ (σ : Type) (answer : Responder μ σ) (memory : σ) (report : Report),
      (e.execute answer memory input).result = .ok report →
        ∃ direct, ((e.process input).run answer memory).outcome.value = .ok direct ∧
          e.Worded direct report := by
  obtain ⟨c, -, hcompiled⟩ := compiled_of_compile he
  refine ⟨fun may r c actions o h => ?_, hcompiled.outputKey?_eq, fun may actions o report h => ?_,
    fun σ answer memory report hresult => ?_⟩
  · obtain ⟨log, hproduces, -⟩ := produces_of_steps h
    exact r.invoke_ne_null c log o hproduces
  · obtain ⟨log, hproduces, -⟩ := produces_of_steps h
    exact hcompiled.worded hinput hproduces
  · have hproduces := produces_run answer (e.process input) memory
    exact hcompiled.worded hinput hproduces (Entry.report_of_execute hresult)

/-- The entry is a parallel that declares no key, so it has no text of its own. -/
theorem text_of_run_duet : ∃ report,
    (Duet.entry.execute (fun _ _ memory => (.ok "la", memory)) () Duet.input).result = .ok report ∧
      Duet.entry.Worded (.string "") report ∧ report.text = Entry.parallelNotice "entry" := by
  have hordered : Fields.Ordered Duet.input := List.pairwise_singleton _ _
  obtain ⟨-, -, -, hrun⟩ := text_of_run (fun _ => .ok ()) [] {} "entry" Duet.decls Duet.entry
    Duet.compile_decls Duet.input hordered
  obtain ⟨direct, hvalue, hworded⟩ := hrun Unit (fun _ _ memory => (.ok "la", memory)) () _ rfl
  obtain rfl : .string "" = direct := Except.ok.inj hvalue
  exact ⟨_, rfl, hworded, rfl⟩

end Entries

end AgentGraph
