import AgentGraph.Proofs.Prefixes
import AgentGraph.Run.Plan

/-! Plans within replies.

What is read of a reply reaches from its first opening brace to its last closing one. It is the object of
the reply if no closing brace comes after that object; with one after it the reply is refused, whatever the
object says. The text in front may be anything without an opening brace.

* `Plan.object?_of_embraced`, `Plan.exists_embraced`: the part of a reply that is read.
* `Plan.parse_of_embraced`: text around an object does not change the plan, if it has no brace that counts.
* `Plan.parse_before_brace`: a closing brace in the text after an object.
* `Plan.parse_reply`: what every reply comes to. -/
namespace AgentGraph
set_option autoImplicit false

namespace Plan

open Json

/-- An object from its opening to its closing brace, the first and the last one of their kinds among
these texts. -/
structure Embraced (before object after : List Char) : Prop where
  before : '\x7b' ∉ before
  opens : object.head? = some '\x7b'
  closes : object.getLast? = some '\x7d'
  after : '\x7d' ∉ after

variable {before object after cs : List Char}

theorem dropWhile_ne_append {c : Char} (hbefore : c ∉ before) (hobject : object.head? = some c) :
    (before ++ object).dropWhile (· ≠ c) = object := by
  have hskipped : ∀ x ∈ before, decide (x ≠ c) = true := fun x hx =>
    decide_eq_true fun heq => hbefore (heq ▸ hx)
  rw [List.dropWhile_append_of_pos hskipped]
  obtain ⟨rest, rfl⟩ := List.head?_eq_some_iff.mp hobject
  exact List.dropWhile_cons_of_neg (by simp)

theorem object?_of_embraced (h : Embraced before object after) :
    object? (before ++ object ++ after) = some object := by
  have hopens : (object ++ after).head? = some '\x7b' := by
    rw [List.head?_append, h.opens]
    rfl
  have hcloses : object.reverse.head? = some '\x7d' := List.head?_reverse.trans h.closes
  have hafter : '\x7d' ∉ after.reverse := fun hmem => h.after (List.mem_reverse.mp hmem)
  have hcut : ((object ++ after).reverse.dropWhile (· ≠ '\x7d')).reverse = object := by
    rw [List.reverse_append, dropWhile_ne_append hafter hcloses, List.reverse_reverse]
  unfold object?
  rw [List.append_assoc, dropWhile_ne_append h.before hopens]
  dsimp only
  rw [hcut]
  cases object with
  | nil => cases h.opens
  | cons c rest => rfl

theorem exists_dropWhile_ne (c : Char) (cs : List Char) :
    ∃ before, cs = before ++ cs.dropWhile (· ≠ c) ∧ c ∉ before ∧
      ∀ x ∈ (cs.dropWhile (· ≠ c)).head?, x = c := by
  refine ⟨cs.takeWhile (· ≠ c), List.takeWhile_append_dropWhile.symm, fun hmem => ?_, fun x hx => ?_⟩
  · simpa using List.mem_takeWhile_imp hmem
  · have hstops := List.head?_dropWhile_not (· ≠ c) cs
    rw [hx] at hstops
    simpa using hstops

theorem exists_embraced (h : object? cs = some object) :
    ∃ before after, cs = before ++ object ++ after ∧ Embraced before object after := by
  obtain ⟨before, hcs, hbefore, hopens⟩ := exists_dropWhile_ne '\x7b' cs
  unfold object? at h
  dsimp only at h
  generalize cs.dropWhile (· ≠ '\x7b') = opening at hcs hopens h
  obtain ⟨after, hopening, hafter, hcloses⟩ := exists_dropWhile_ne '\x7d' opening.reverse
  generalize opening.reverse.dropWhile (· ≠ '\x7d') = closing at hopening hcloses h
  obtain rfl : opening = closing.reverse ++ after.reverse := by
    rw [← List.reverse_append, ← hopening, List.reverse_reverse]
  split at h
  · cases h
  · next hne =>
    obtain rfl := Option.some.inj h
    refine ⟨before, after.reverse, hcs.trans (List.append_assoc ..).symm, hbefore, ?_, ?_, ?_⟩
    · obtain ⟨c, rest, hobject⟩ := List.exists_cons_of_ne_nil hne
      rw [hobject] at hopens ⊢
      exact congrArg some (hopens c rfl)
    · have hclosing : closing ≠ [] := fun hnil => hne (hnil ▸ List.reverse_nil)
      obtain ⟨c, rest, rfl⟩ := List.exists_cons_of_ne_nil hclosing
      rw [List.getLast?_reverse]
      exact congrArg some (hcloses c rfl)
    · exact fun hmem => hafter (List.mem_reverse.mp hmem)

/-- What a text that is to be a plan says. -/
def ofObject (text : String) : Except Error Plan :=
  match Form.read.onText text with
  | .error e => .error (.malformed e)
  | .ok form => form.plan

theorem parse_of_embraced {p o s : String} (h : Embraced p.toList o.toList s.toList) :
    parse (p ++ o ++ s) = ofObject o := by
  have hobject := object?_of_embraced h
  rw [← String.toList_append, ← String.toList_append] at hobject
  unfold parse
  rw [hobject]
  dsimp only
  rw [String.ofList_toList]
  rfl

theorem Embraced.alone (h : Embraced before object after) : Embraced [] object [] :=
  ⟨List.not_mem_nil, h.opens, h.closes, List.not_mem_nil⟩

/-- Text around an object does not change what is read of it. -/
theorem parse_object {p o s : String} (h : Embraced p.toList o.toList s.toList) :
    parse o = ofObject o := by
  have halone : parse ("" ++ o ++ "") = ofObject o := parse_of_embraced h.alone
  rwa [String.empty_append, String.append_empty] at halone

/-- The text up to its last closing brace, and what follows that. -/
theorem exists_last_brace {s : String} (h : '\x7d' ∈ s.toList) :
    ∃ inner outer : String, s = inner ++ outer ∧ inner.toList.getLast? = some '\x7d' ∧
      '\x7d' ∉ outer.toList := by
  obtain ⟨after, hs, hafter, hcloses⟩ := exists_dropWhile_ne '\x7d' s.toList.reverse
  generalize s.toList.reverse.dropWhile (· ≠ '\x7d') = inner at hs hcloses
  have hchars : s.toList = inner.reverse ++ after.reverse := by
    rw [← List.reverse_append, ← hs, List.reverse_reverse]
  refine ⟨String.ofList inner.reverse, String.ofList after.reverse, ?_, ?_, ?_⟩
  · rw [← String.ofList_append, ← hchars, String.ofList_toList]
  · rw [String.toList_ofList, List.getLast?_reverse]
    cases inner with
    | nil =>
      rw [List.reverse_nil, List.nil_append] at hchars
      rw [hchars] at h
      exact absurd (List.mem_reverse.mp h) hafter
    | cons c inner => exact congrArg some (hcloses c rfl)
  · rw [String.toList_ofList]
    exact fun hmem => hafter (List.mem_reverse.mp hmem)

/-- A reply is refused for a closing brace after its object. -/
theorem parse_before_brace {p o s : String} (hp : '\x7b' ∉ p.toList) (ho : IsObject o)
    (hs : '\x7d' ∈ s.toList) : ∃ e, parse (p ++ o ++ s) = .error (.malformed e) ∧
      ((∃ form, Form.read.onText o = .ok form) ∧ e.cause = .trailingCharacters ∨
        ∃ own, Form.read.onText o = .error own ∧ e.cause = own.cause) := by
  obtain ⟨inner, outer, rfl, hinner, houter⟩ := exists_last_brace hs
  have hembraced : Embraced p.toList (o ++ inner).toList outer.toList := by
    rw [String.toList_append]
    refine ⟨hp, ?_, ?_, houter⟩
    · rw [List.head?_append, ho.opens]
      rfl
    · rw [List.getLast?_append, hinner]
      rfl
  have hbrace : ∃ c ∈ inner.toList, ¬ isJsonBlank c :=
    ⟨'\x7d', List.mem_of_getLast? hinner, by decide⟩
  obtain ⟨e, hread, hcause⟩ := onText_extend Form.read ho hbrace
  refine ⟨e, ?_, hcause⟩
  have hreply : p ++ o ++ (inner ++ outer) = p ++ (o ++ inner) ++ outer := by
    simp only [String.append_assoc]
  rw [hreply, parse_of_embraced hembraced, ofObject, hread]

theorem embraced_or_not (reply : String) :
    (∃ p o s : String, reply = p ++ o ++ s ∧ Embraced p.toList o.toList s.toList) ∨
      parse reply = .error .noObject := by
  cases hobject : object? reply.toList with
  | none =>
    refine .inr ?_
    unfold parse
    rw [hobject]
  | some object =>
    obtain ⟨before, after, hreply, h⟩ := exists_embraced hobject
    refine .inl ⟨String.ofList before, String.ofList object, String.ofList after, ?_, ?_⟩
    · rw [← String.ofList_append, ← String.ofList_append, ← hreply, String.ofList_toList]
    · simpa only [String.toList_ofList] using h

/-! ## What an object says -/

/-- What the members of a plan mean. -/
inductive Form.Means (form : Form) : Except Error Plan → Prop
  | finish (hdone : form.done) : form.Means (.ok (.finish (form.response.getD "")))
  | delegate {agent : String} (hdone : ¬ form.done) (hagent : form.agent = some agent)
      (hshown : ¬ Text.isBlankText agent) : form.Means
        (.ok (.delegate (Text.trim agent) (form.request.filter fun text => !Text.isBlankText text)))
  | neither (hdone : ¬ form.done) (hagent : ∀ agent, form.agent = some agent → Text.isBlankText agent) :
      form.Means (.error .neither)

theorem Form.means_plan (form : Form) : form.Means form.plan := by
  unfold Form.plan
  by_cases hdone : form.done
  · rw [if_pos hdone]
    exact .finish hdone
  · rw [if_neg hdone]
    cases hagent : form.agent with
    | none => exact .neither hdone fun agent h => nomatch hagent.symm.trans h
    | some agent =>
      rw [Option.bind_some, Text.visible?]
      by_cases hblank : Text.isBlankText agent
      · rw [if_pos hblank]
        exact .neither hdone fun other h => Option.some.inj (hagent.symm.trans h) ▸ hblank
      · rw [if_neg hblank]
        exact .delegate hdone hagent hblank

theorem read_of_object (o : String) :
    (∃ e, Form.read.onText o = .error e ∧ ofObject o = .error (.malformed e)) ∨
      ∃ form, Form.read.onText o = .ok form ∧ form.Means (ofObject o) := by
  unfold ofObject
  cases Form.read.onText o with
  | error e => exact .inl ⟨e, rfl, rfl⟩
  | ok form => exact .inr ⟨form, rfl, form.means_plan⟩

/-! ## Replies -/

/-- Every reply either holds nothing between braces or is read as what it holds there alone, whose two ends
lie between characters of the reply; and what can be read is one plan or names neither. If that begins with
a whole object, the object alone decides just when no closing brace follows it: else the reply is refused,
for what stands after the object if there is nothing wrong with it. -/
theorem parse_reply (reply : String) :
    (∀ p o s : String, reply = p ++ o ++ s → Embraced p.toList o.toList s.toList →
      parse reply = parse o ∧
      p.rawEndPos.IsValid reply ∧ (p ++ o).rawEndPos.IsValid reply ∧
      ((∃ e, Form.read.onText o = .error e ∧ parse o = .error (.malformed e)) ∨
        ∃ form, Form.read.onText o = .ok form ∧ form.Means (parse o))) ∧
      (∀ p o s : String, reply = p ++ o ++ s → '\x7b' ∉ p.toList → IsObject o →
        ('\x7d' ∉ s.toList → parse reply = parse o) ∧
        ('\x7d' ∈ s.toList → ∃ e, parse reply = .error (.malformed e) ∧
          ((∃ form, Form.read.onText o = .ok form) ∧ e.cause = .trailingCharacters ∨
            ∃ own, Form.read.onText o = .error own ∧ e.cause = own.cause))) ∧
      ((∃ p o s : String, reply = p ++ o ++ s ∧ Embraced p.toList o.toList s.toList) ∨
        parse reply = .error .noObject) := by
  refine ⟨?_, ?_, embraced_or_not reply⟩
  · rintro p o s rfl h
    have hopening : p.rawEndPos.IsValid (p ++ o ++ s) :=
      String.Pos.Raw.isValid_iff_exists_append.mpr ⟨p, o ++ s, String.append_assoc .., rfl⟩
    have hclosing : (p ++ o).rawEndPos.IsValid (p ++ o ++ s) :=
      String.Pos.Raw.isValid_iff_exists_append.mpr ⟨p ++ o, s, rfl, rfl⟩
    rw [parse_of_embraced h, parse_object h]
    exact ⟨rfl, hopening, hclosing, read_of_object o⟩
  · rintro p o s rfl hp ho
    refine ⟨fun hs => ?_, parse_before_brace hp ho⟩
    have h : Embraced p.toList o.toList s.toList := ⟨hp, ho.opens, ho.closes, hs⟩
    rw [parse_of_embraced h, parse_object h]

/-- A plan between two texts without braces, and one with braces after it. -/
theorem parse_reply_sure :
    (parse "Sure. \x7b\"agent\": \" ann \"\x7d, thanks" = parse "\x7b\"agent\": \" ann \"\x7d" ∧
      (parse "\x7b\"agent\": \" ann \"\x7d").toOption = some (.delegate "ann" none)) ∧
      ∃ e, parse "Sure. \x7b\"agent\": \" ann \"\x7d or \x7bbob\x7d" = .error (.malformed e) ∧
        e.cause = .trailingCharacters := by
  have hsure : '\x7b' ∉ "Sure. ".toList := by decide
  have hobject : IsObject "\x7b\"agent\": \" ann \"\x7d" := ⟨rfl, rfl, by decide +kernel⟩
  have hread : (Form.read.onText "\x7b\"agent\": \" ann \"\x7d").isOk := by decide +kernel
  obtain ⟨-, hplain, -⟩ := parse_reply "Sure. \x7b\"agent\": \" ann \"\x7d, thanks"
  obtain ⟨-, hbraces, -⟩ := parse_reply "Sure. \x7b\"agent\": \" ann \"\x7d or \x7bbob\x7d"
  obtain ⟨halone, -⟩ := hplain "Sure. " "\x7b\"agent\": \" ann \"\x7d" ", thanks" rfl hsure hobject
  obtain ⟨-, hrefused⟩ :=
    hbraces "Sure. " "\x7b\"agent\": \" ann \"\x7d" " or \x7bbob\x7d" rfl hsure hobject
  obtain ⟨e, herror, hcause⟩ := hrefused (by decide)
  refine ⟨⟨halone (by decide), by decide +kernel⟩, e, herror, ?_⟩
  rcases hcause with ⟨-, hcause⟩ | ⟨own, hown, -⟩
  · exact hcause
  · rw [hown] at hread
    cases hread

/-- An object that says that the task is done is not found any more if braces come after it. -/
theorem refused_before_braces :
    (parse "\x7b\"done\": true\x7d").toOption = some (.finish "") ∧
      ∃ e, parse "\x7b\"done\": true\x7d and \x7bx\x7d" = .error e ∧
        e.message = "trailing characters at line 1 column 16" := by
  refine ⟨by decide +kernel, ?_⟩
  have hmessage : (match parse "\x7b\"done\": true\x7d and \x7bx\x7d" with
      | .ok _ => "" | .error e => e.message) = "trailing characters at line 1 column 16" := by
    decide +kernel
  cases hparse : parse "\x7b\"done\": true\x7d and \x7bx\x7d" with
  | ok plan =>
    rw [hparse] at hmessage
    have hempty : "" = "trailing characters at line 1 column 16" := hmessage
    exact absurd hempty (by decide)
  | error e =>
    rw [hparse] at hmessage
    exact ⟨e, rfl, hmessage⟩

end Plan
end AgentGraph
