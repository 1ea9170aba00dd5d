import AgentGraph.Graph.Node
import Mathlib.Data.List.DropRight

/-! Texts without blanks around them.

* `trimChars_eq`: a text is trimmed from the left and then from the right.
* `mem_trimChars`: trimming takes only blanks away.
* `isBlankText_trim`: trimming leaves nothing of a blank text, and something of every other one.
* `trim_trim`: a trimmed text stays as it is.
* `visible?_eq_some_iff`: a text that is not blank shows, and trimmed.
* `visible?_trimmed`: what shows of a text is not blank, and is trimmed. -/
namespace AgentGraph
set_option autoImplicit false

namespace Text

variable {c : Char} {cs : List Char} {s t : String}

/-! ## Characters -/

/-- No visible character of the ASCII range is blank. -/
theorem not_blank_of_range (hlow : 0x21 ≤ c.toNat) (hhigh : c.toNat ≤ 0x7E) : ¬ isBlank c := by
  simp only [isBlank, Bool.or_eq_true, Bool.and_eq_true, decide_eq_true_eq, beq_iff_eq]
  omega

theorem trimChars_eq (cs : List Char) :
    trimChars cs = (cs.dropWhile isBlank).rdropWhile isBlank := rfl

theorem trimChars_eq_nil_iff : trimChars cs = [] ↔ ∀ c ∈ cs, isBlank c := by
  rw [trimChars_eq, List.rdropWhile_eq_nil_iff]
  constructor
  · intro h
    have hnil : cs.dropWhile isBlank = [] := by
      cases hdrop : cs.dropWhile isBlank with
      | nil => rfl
      | cons c rest =>
        -- The first character that is kept is not blank.
        have hne : cs.dropWhile isBlank ≠ [] := hdrop ▸ List.cons_ne_nil c rest
        have hfirst := List.head_dropWhile_not isBlank hne
        rw [h _ (List.head_mem _)] at hfirst
        cases hfirst
    exact List.dropWhile_eq_nil_iff.mp hnil
  · intro h c hc
    exact h c ((List.dropWhile_sublist _).subset hc)

theorem trimChars_trimChars (cs : List Char) : trimChars (trimChars cs) = trimChars cs := by
  have hleft : (trimChars cs).dropWhile isBlank = trimChars cs := by
    refine List.dropWhile_eq_self_iff.mpr fun hlength => ?_
    have hprefix : trimChars cs <+: cs.dropWhile isBlank := List.rdropWhile_prefix isBlank _
    have hlong : 0 < (cs.dropWhile isBlank).length := hlength.trans_le hprefix.length_le
    have hfirst : (trimChars cs)[0] = (cs.dropWhile isBlank)[0] := hprefix.getElem _
    rw [hfirst]
    exact List.dropWhile_get_zero_not isBlank cs _
  rw [trimChars_eq (trimChars cs), hleft]
  exact List.rdropWhile_idempotent ..

theorem mem_dropBlanks (hc : c ∈ cs) (h : ¬ isBlank c) : c ∈ dropBlanks cs := by
  rw [← List.takeWhile_append_dropWhile (p := isBlank) (l := cs)] at hc
  rcases List.mem_append.mp hc with hc | hc
  · exact absurd (List.mem_takeWhile_imp hc) h
  · exact hc

theorem mem_trimChars (hc : c ∈ cs) (h : ¬ isBlank c) : c ∈ trimChars cs :=
  List.mem_reverse.mpr (mem_dropBlanks (List.mem_reverse.mpr (mem_dropBlanks hc h)) h)

theorem dropWhile_map_of_same {q : Char → Bool} {f : Char → Char} (h : ∀ c, q (f c) = q c)
    (cs : List Char) : (cs.map f).dropWhile q = (cs.dropWhile q).map f := by
  have hcomp : q ∘ f = q := funext h
  rw [List.dropWhile_map, hcomp]

/-- Characters may be replaced before trimming, if blanks stay blanks and others stay others. -/
theorem trimChars_map {f : Char → Char} (h : ∀ c, isBlank (f c) = isBlank c) (cs : List Char) :
    trimChars (cs.map f) = (trimChars cs).map f := by
  rw [trimChars, dropBlanks, dropBlanks, dropWhile_map_of_same h, ← List.map_reverse,
    dropWhile_map_of_same h, ← List.map_reverse]
  rfl

/-! ## Texts -/

theorem isBlankText_iff : isBlankText s ↔ ∀ c ∈ s.toList, isBlank c := by
  rw [isBlankText, List.all_eq_true]

theorem not_blank_of_mem (hc : c ∈ s.toList) (h : ¬ isBlank c) : ¬ isBlankText s :=
  fun hblank => h (isBlankText_iff.mp hblank c hc)

theorem isBlankText_trim (s : String) : isBlankText (trim s) ↔ isBlankText s := by
  rw [isBlankText_iff, isBlankText_iff, ← trimChars_eq_nil_iff, ← trimChars_eq_nil_iff, trim,
    String.toList_ofList, trimChars_trimChars]

theorem trim_trim (s : String) : trim (trim s) = trim s := by
  rw [trim, trim, String.toList_ofList, trimChars_trimChars]

theorem visible?_eq_some_iff : visible? s = some t ↔ ¬ isBlankText s ∧ trim s = t := by
  unfold visible?
  split <;> simp_all

theorem visible?_isSome (h : ¬ isBlankText s) : visible? s = some (trim s) :=
  visible?_eq_some_iff.mpr ⟨h, rfl⟩

theorem visible?_trimmed (h : visible? s = some t) : ¬ isBlankText t ∧ trim t = t := by
  obtain ⟨hblank, rfl⟩ := visible?_eq_some_iff.mp h
  exact ⟨fun htrim => hblank ((isBlankText_trim s).mp htrim), trim_trim s⟩

end Text

theorem Node.shown_trimmed {raw : Option String} {t : String} (h : Node.shown raw = some t) :
    ¬ Text.isBlankText t ∧ Text.trim t = t := by
  obtain ⟨text, -, htext⟩ := Option.bind_eq_some_iff.mp h
  exact Text.visible?_trimmed htext

end AgentGraph
