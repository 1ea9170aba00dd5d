import AgentGraph.Proofs.Resolution
import Mathlib

/-! Templates and what they are rendered to.

* `Placeholder`: a placeholder as it is written. A text begins with at most one (`Placeholder.unique`), which
  is the one that is found (`placeholder?_chars`, `exists_of_placeholder?`).
* `Splits`: a text as literal text and placeholders in turn, where none begins earlier than the one that is
  taken. Every text splits (`exists_splits`), and in one way only (`Splits.unique`).
* `Reaches`: the value that a row of names leads to, each looked up in the object under the one before it.
* `Stands`: what stands for a path in a map (`resolve?_eq_iff`).
* `render_of_template`: what a template is rendered to. -/
namespace AgentGraph.Prompt
set_option autoImplicit false

/-! ## Placeholders -/

/-- The characters of a path are ASCII characters from `-` to `z`, so none of them is blank. -/
theorem not_blank_of_isPathChar {c : Char} (h : isPathChar c) : ¬ Text.isBlank c := by
  have hrange : 0x2D ≤ c.toNat ∧ c.toNat ≤ 0x7A := by
    simp only [isPathChar, Char.isAlphanum, Char.isAlpha, Char.isUpper, Char.isLower, Char.isDigit,
      UInt32.le_iff_toNat_le, Char.toNat_val, Bool.or_eq_true, Bool.and_eq_true, decide_eq_true_eq,
      beq_iff_eq] at h
    rcases h with ((h | rfl) | rfl) | rfl
    · have hbounds : 'A'.toNat = 65 ∧ 'a'.toNat = 97 ∧ '0'.toNat = 48 := ⟨rfl, rfl, rfl⟩
      have hbounds' : 'Z'.toNat = 90 ∧ 'z'.toNat = 122 ∧ '9'.toNat = 57 := ⟨rfl, rfl, rfl⟩
      omega
    all_goals decide
  exact Text.not_blank_of_range (by omega) (by omega)

/-- A placeholder: a path between two pairs of braces, perhaps with blanks around it. -/
@[ext] structure Placeholder where
  left : List Char
  path : List Char
  right : List Char
  left_blank : ∀ c ∈ left, Text.isBlank c
  right_blank : ∀ c ∈ right, Text.isBlank c
  path_ne_nil : path ≠ []
  path_chars : ∀ c ∈ path, isPathChar c

section Stop
variable {q : Char → Bool} {xs ys xs' ys' : List Char}

/-- A run of characters that is as long as it can be. -/
theorem takeWhile_stop (hxs : ∀ c ∈ xs, q c) (hys : ∀ c ∈ ys.head?, ¬ q c) :
    (xs ++ ys).takeWhile q = xs := by
  rw [List.takeWhile_append_of_pos hxs]
  cases ys with
  | nil => exact List.append_nil xs
  | cons c ys => rw [List.takeWhile_cons_of_neg (hys c rfl), List.append_nil]

theorem dropWhile_stop (hxs : ∀ c ∈ xs, q c) (hys : ∀ c ∈ ys.head?, ¬ q c) :
    (xs ++ ys).dropWhile q = ys := by
  rw [List.dropWhile_append_of_pos hxs]
  cases ys with
  | nil => rfl
  | cons c ys => exact List.dropWhile_cons_of_neg (hys c rfl)

theorem stop_unique (hxs : ∀ c ∈ xs, q c) (hys : ∀ c ∈ ys.head?, ¬ q c) (hxs' : ∀ c ∈ xs', q c)
    (hys' : ∀ c ∈ ys'.head?, ¬ q c) (h : xs ++ ys = xs' ++ ys') : xs = xs' ∧ ys = ys' := by
  constructor
  · rw [← takeWhile_stop hxs hys, h, takeWhile_stop hxs' hys']
  · rw [← dropWhile_stop hxs hys, h, dropWhile_stop hxs' hys']

end Stop

namespace Placeholder

variable {p q : Placeholder} {rest rest' : List Char}

def chars (p : Placeholder) : List Char :=
  '\x7b' :: '\x7b' :: (p.left ++ (p.path ++ (p.right ++ ['\x7d', '\x7d'])))

/-- The path as it is named. -/
def name (p : Placeholder) : String := String.ofList p.path

theorem chars_append (p : Placeholder) (rest : List Char) : p.chars ++ rest =
    '\x7b' :: '\x7b' :: (p.left ++ (p.path ++ (p.right ++ '\x7d' :: '\x7d' :: rest))) := by
  simp only [chars, List.cons_append, List.append_assoc, List.nil_append]

theorem path_stop (p : Placeholder) (rest : List Char) :
    ∀ c ∈ (p.path ++ rest).head?, ¬ Text.isBlank c := by
  obtain ⟨c, path, hpath⟩ := List.exists_cons_of_ne_nil p.path_ne_nil
  rw [hpath]
  rintro c' ⟨⟩
  exact not_blank_of_isPathChar (p.path_chars c (hpath ▸ List.mem_cons_self))

theorem right_stop (p : Placeholder) (rest : List Char) :
    ∀ c ∈ (p.right ++ '\x7d' :: rest).head?, ¬ isPathChar c := by
  intro c hc hpath
  cases hright : p.right with
  | nil =>
    rw [hright] at hc
    obtain rfl := Option.some.inj hc
    exact absurd hpath (by decide)
  | cons d right =>
    rw [hright] at hc
    obtain rfl := Option.some.inj hc
    exact not_blank_of_isPathChar hpath (p.right_blank _ (hright ▸ List.mem_cons_self))

theorem brace_stop (rest : List Char) : ∀ c ∈ ('\x7d' :: rest).head?, ¬ Text.isBlank c := by
  rintro c ⟨⟩
  decide

/-- A text begins with at most one placeholder. -/
theorem unique (h : p.chars ++ rest = q.chars ++ rest') : p = q ∧ rest = rest' := by
  rw [chars_append, chars_append, List.cons.injEq, List.cons.injEq] at h
  -- Each of the three runs stops where it has to, so the parts agree one after the other.
  obtain ⟨hleft, h⟩ :=
    stop_unique p.left_blank (p.path_stop _) q.left_blank (q.path_stop _) h.2.2
  obtain ⟨hpath, h⟩ := stop_unique p.path_chars (p.right_stop _) q.path_chars (q.right_stop _) h
  obtain ⟨hright, h⟩ := stop_unique p.right_blank (brace_stop _) q.right_blank (brace_stop _) h
  have hrest : rest = rest' := (List.cons.inj (List.cons.inj h).2).2
  exact ⟨Placeholder.ext hleft hpath hright, hrest⟩

end Placeholder

theorem placeholder?_chars (p : Placeholder) (rest : List Char) :
    placeholder? (p.chars ++ rest) = some (p.name, rest) := by
  have hne : p.path.isEmpty = false := List.isEmpty_eq_false_iff.mpr p.path_ne_nil
  rw [Placeholder.chars_append]
  unfold placeholder?
  simp only [Text.dropBlanks, dropWhile_stop p.left_blank (p.path_stop _),
    takeWhile_stop p.path_chars (p.right_stop _), dropWhile_stop p.path_chars (p.right_stop _),
    dropWhile_stop p.right_blank (Placeholder.brace_stop _), hne]
  rfl

theorem exists_of_placeholder? {cs rest : List Char} {path : String}
    (h : placeholder? cs = some (path, rest)) :
    ∃ p : Placeholder, cs = p.chars ++ rest ∧ path = p.name := by
  unfold placeholder? at h
  split at h
  · next inner =>
    dsimp only at h
    split at h
    · cases h
    · next hne =>
      split at h
      · next rest' hclose =>
        obtain ⟨rfl, rfl⟩ := Prod.mk.inj (Option.some.inj h)
        let p : Placeholder :=
          { left := inner.takeWhile Text.isBlank
            path := (Text.dropBlanks inner).takeWhile isPathChar
            right := ((Text.dropBlanks inner).dropWhile isPathChar).takeWhile Text.isBlank
            left_blank := fun _ hc => List.mem_takeWhile_imp hc
            right_blank := fun _ hc => List.mem_takeWhile_imp hc
            path_ne_nil := fun hnil => hne (List.isEmpty_iff.mpr hnil)
            path_chars := fun _ hc => List.mem_takeWhile_imp hc }
        refine ⟨p, ?_, rfl⟩
        rw [Placeholder.chars_append, ← hclose]
        simp only [p, Text.dropBlanks, List.takeWhile_append_dropWhile]
      · cases h
  · cases h

/-! ## Splitting a text -/

/-- A placeholder, and the literal text that stands before it. -/
@[ext] structure Slot where
  literal : List Char
  placeholder : Placeholder

def Slot.chars (s : Slot) : List Char := s.literal ++ s.placeholder.chars

/-- A placeholder begins with the first character. -/
def Begins (cs : List Char) : Prop := ∃ (p : Placeholder) (rest : List Char), cs = p.chars ++ rest

/-- No placeholder begins in the literal text when `after` comes behind it. -/
def Plain (literal after : List Char) : Prop :=
  ∀ before rest, literal = before ++ rest → rest ≠ [] → ¬ Begins (rest ++ after)

/-- The text is literal text and placeholders in turn, and then the last literal text; no placeholder begins
earlier than the one that is taken. -/
inductive Splits : List Char → List Slot → List Char → Prop
  | last {literal : List Char} (h : Plain literal []) : Splits literal [] literal
  | slot {s : Slot} {text last : List Char} {slots : List Slot}
      (h : Plain s.literal (s.placeholder.chars ++ text)) (hrest : Splits text slots last) :
    Splits (s.chars ++ text) (s :: slots) last

variable {c : Char} {cs literal after text last last' : List Char} {slots slots' : List Slot}

theorem plain_nil (after : List Char) : Plain [] after := by
  intro before rest h hne
  exact absurd (List.append_eq_nil_iff.mp h.symm).2 hne

theorem plain_cons_iff : Plain (c :: literal) after ↔
    ¬ Begins (c :: literal ++ after) ∧ Plain literal after := by
  constructor
  · intro h
    refine ⟨h [] _ rfl (List.cons_ne_nil c literal), fun before rest hsplit hne => ?_⟩
    exact h (c :: before) rest (by rw [hsplit, List.cons_append]) hne
  · rintro ⟨hfirst, h⟩ before rest hsplit hne
    cases before with
    | nil =>
      obtain rfl : c :: literal = rest := hsplit
      exact hfirst
    | cons d before => exact h before rest (List.cons.inj hsplit).2 hne

theorem begins_chars (p : Placeholder) (rest : List Char) : Begins (p.chars ++ rest) := ⟨p, rest, rfl⟩

theorem Splits.placeholder (p : Placeholder) (h : Splits cs slots last) :
    Splits (p.chars ++ cs) (⟨[], p⟩ :: slots) last :=
  .slot (s := ⟨[], p⟩) (plain_nil _) h

/-- A text that no placeholder begins with splits as what is left of it does. -/
theorem Splits.cons (h : Splits cs slots last) (hc : ¬ Begins (c :: cs)) :
    ∃ slots' last', Splits (c :: cs) slots' last' := by
  cases h with
  | last h => exact ⟨[], c :: cs, .last (plain_cons_iff.mpr ⟨by rwa [List.append_nil], h⟩)⟩
  | @slot s text _ slots h hrest =>
    let s' : Slot := ⟨c :: s.literal, s.placeholder⟩
    have htext : s.chars ++ text = s.literal ++ (s.placeholder.chars ++ text) := List.append_assoc ..
    rw [htext] at hc ⊢
    have hplain : Plain s'.literal (s'.placeholder.chars ++ text) := plain_cons_iff.mpr ⟨hc, h⟩
    have hcons : s'.chars ++ text = c :: (s.literal ++ (s.placeholder.chars ++ text)) :=
      congrArg (c :: ·) htext
    exact ⟨s' :: slots, last, hcons ▸ .slot hplain hrest⟩

theorem not_begins_of_placeholder? (h : placeholder? cs = none) : ¬ Begins cs := by
  rintro ⟨p, rest, rfl⟩
  rw [placeholder?_chars] at h
  cases h

/-- Every text splits. -/
theorem exists_splits (cs : List Char) : ∃ slots last, Splits cs slots last := by
  -- A placeholder opens a slot; any other character goes to the literal text of what follows.
  fun_induction pieces cs with
  | case1 => exact ⟨[], [], .last (plain_nil [])⟩
  | case2 c after path rest hfound ih =>
    obtain ⟨p, hp, -⟩ := exists_of_placeholder? hfound
    obtain ⟨slots, last, h⟩ := ih
    rw [hp]
    exact ⟨_, _, h.placeholder p⟩
  | case3 c after hnone ih =>
    obtain ⟨slots, last, h⟩ := ih
    exact h.cons (not_begins_of_placeholder? hnone)

/-- Of two literal texts in front of placeholders neither is longer. -/
theorem literal_unique {literal' after' : List Char} (h : Plain literal after) (h' : Plain literal' after')
    (hafter : Begins after) (hafter' : Begins after') (htext : literal ++ after = literal' ++ after') :
    literal = literal' ∧ after = after' := by
  -- If one of them went on, the placeholder behind the other would begin in it.
  rcases List.append_eq_append_iff.mp htext with ⟨mid, rfl, rfl⟩ | ⟨mid, rfl, rfl⟩
  · cases mid with
    | nil => exact ⟨(List.append_nil _).symm, rfl⟩
    | cons c mid => exact absurd hafter (h' literal _ rfl (List.cons_ne_nil c mid))
  · cases mid with
    | nil => exact ⟨List.append_nil _, rfl⟩
    | cons c mid => exact absurd hafter' (h literal' _ rfl (List.cons_ne_nil c mid))

/-- Where a placeholder is left, the text is not plain. -/
theorem Slot.not_plain {s : Slot} {text : List Char} : ¬ Plain (s.chars ++ text) [] := by
  intro h
  refine h s.literal (s.placeholder.chars ++ text) (List.append_assoc ..) (List.cons_ne_nil _ _) ?_
  rw [List.append_nil]
  exact begins_chars ..

/-- A text splits in one way only. -/
theorem Splits.unique (h : Splits cs slots last) (h' : Splits cs slots' last') :
    slots = slots' ∧ last = last' := by
  induction h generalizing slots' last' with
  | last h =>
    cases h' with
    | last => exact ⟨rfl, rfl⟩
    | slot => exact absurd h Slot.not_plain
  | @slot s text last slots h hrest ih =>
    generalize hcs : s.chars ++ text = cs at h'
    cases h' with
    | last h' => exact absurd (hcs ▸ h') Slot.not_plain
    | @slot s' text' _ slots' h' hrest' =>
      rw [Slot.chars, Slot.chars, List.append_assoc, List.append_assoc] at hcs
      obtain ⟨hliteral, hafter⟩ :=
        literal_unique h h' (begins_chars ..) (begins_chars ..) hcs
      obtain ⟨hplaceholder, rfl⟩ := Placeholder.unique hafter
      obtain ⟨rfl, rfl⟩ := ih hrest'
      exact ⟨congrArg (· :: slots) (Slot.ext hliteral hplaceholder), rfl⟩

/-! ## What a text is taken apart to -/

theorem pieces_chars (p : Placeholder) (rest : List Char) :
    pieces (p.chars ++ rest) = .placeholder p.name :: pieces rest := by
  have hfound := placeholder?_chars p rest
  rw [Placeholder.chars_append] at hfound ⊢
  rw [pieces]
  split
  · next path rest' heq =>
    obtain ⟨rfl, rfl⟩ := Prod.mk.inj (Option.some.inj (hfound.symm.trans heq))
    rfl
  · next heq =>
    rw [hfound] at heq
    cases heq

theorem pieces_cons (h : ¬ Begins (c :: cs)) : pieces (c :: cs) = .literal c :: pieces cs := by
  rw [pieces]
  split
  · next heq =>
    obtain ⟨p, hp, -⟩ := exists_of_placeholder? heq
    exact absurd ⟨p, _, hp⟩ h
  · rfl

theorem pieces_plain (h : Plain literal after) :
    pieces (literal ++ after) = literal.map .literal ++ pieces after := by
  induction literal with
  | nil => rfl
  | cons c literal ih =>
    obtain ⟨hfirst, hrest⟩ := plain_cons_iff.mp h
    rw [List.map_cons, List.cons_append, List.cons_append, ← ih hrest]
    exact pieces_cons hfirst

def Slot.path (s : Slot) : String := s.placeholder.name

def Slot.pieces (s : Slot) : List Piece := s.literal.map .literal ++ [.placeholder s.path]

theorem Splits.pieces_eq (h : Splits cs slots last) :
    pieces cs = slots.flatMap Slot.pieces ++ last.map .literal := by
  induction h with
  | @last literal h =>
    have hplain := pieces_plain h
    rwa [List.append_nil, Prompt.pieces, List.append_nil] at hplain
  | @slot s text last slots h hrest ih =>
    rw [Slot.chars, List.append_assoc, pieces_plain h, pieces_chars, ih, List.flatMap_cons,
      Slot.pieces]
    simp only [Slot.path, List.append_assoc, List.cons_append, List.nil_append]

/-! ## Paths -/

/-- The path is made of these names, with a dot between any two of them; a name may be empty. -/
structure Dotted (path : String) (names : List String) : Prop where
  ne_nil : names ≠ []
  no_dot : ∀ name ∈ names, '.' ∉ name.toList
  path_eq : path = ".".intercalate names

/-- The value that the names lead to, each in the object that the ones before it lead to. -/
inductive Reaches : Value → List String → Value → Prop
  | here (value : Value) : Reaches value [] value
  | step {fields : ValueMap} {name : String} {names : List String} {inner value : Value}
      (hlead : fields.Leads name inner) (h : Reaches inner names value) :
    Reaches (.object fields) (name :: names) value

theorem segments_eq_splitOn (cs : List Char) : segments cs = cs.splitOn '.' := by
  induction cs with
  | nil => rfl
  | cons c cs ih =>
    rw [segments, List.splitOn_cons_eq_if_modifyHead, ih]
    simp only [beq_iff_eq]
    split
    · rfl
    · cases hsplit : cs.splitOn '.' with
      | nil => exact absurd hsplit (List.splitOn_ne_nil _ _)
      | cons first others => rfl

theorem segments_of_dotted {path : String} {names : List String} (h : Dotted path names) :
    segments path.toList = names.map String.toList := by
  rw [segments_eq_splitOn, h.path_eq, String.toList_intercalate]
  exact List.splitOn_intercalate '.' (List.forall_mem_map.mpr h.no_dot)
    (mt List.map_eq_nil_iff.mp h.ne_nil)

theorem segments_no_dot {cs name : List Char} (h : name ∈ segments cs) : '.' ∉ name := by
  fun_induction segments cs generalizing name with
  | case1 =>
    obtain rfl := List.mem_singleton.mp h
    exact List.not_mem_nil
  | case2 rest ih =>
    rcases List.mem_cons.mp h with rfl | h
    · exact List.not_mem_nil
    · exact ih h
  | case3 c rest hc hnil ih =>
    obtain rfl := List.mem_singleton.mp h
    exact fun hmem => hc (List.mem_singleton.mp hmem).symm
  | case4 c rest hc first others heq ih =>
    rw [heq] at ih
    rcases List.mem_cons.mp h with rfl | h
    · exact List.not_mem_cons_of_ne_of_not_mem (Ne.symm hc) (ih List.mem_cons_self)
    · exact ih (List.mem_cons_of_mem _ h)

/-- Every path is made of names. -/
theorem exists_dotted (path : String) : ∃ names, Dotted path names := by
  refine ⟨(segments path.toList).map String.ofList, ?_, ?_, ?_⟩
  · rw [segments_eq_splitOn]
    exact mt List.map_eq_nil_iff.mp (List.splitOn_ne_nil _ _)
  · refine List.forall_mem_map.mpr fun name hname => ?_
    rw [String.toList_ofList]
    exact segments_no_dot hname
  · have hnames : ((segments path.toList).map String.ofList).map String.toList =
        path.toList.splitOn '.' := by
      simp only [List.map_map, Function.comp_def, String.toList_ofList, List.map_id', segments_eq_splitOn]
    rw [← String.toList_inj, String.toList_intercalate, hnames]
    exact (List.intercalate_splitOn '.').symm

theorem descend_eq_some_iff {v value : Value} {names : List String} :
    descend v (names.map String.toList) = some value ↔ Reaches v names value := by
  induction names generalizing v with
  | nil =>
    constructor
    · intro h
      obtain rfl := Option.some.inj h
      exact .here v
    · rintro ⟨⟩
      rfl
  | cons name names ih =>
    rw [List.map_cons]
    constructor
    · intro h
      cases v with
      | object fields =>
        obtain ⟨inner, hlookup, hinner⟩ := Option.bind_eq_some_iff.mp h
        rw [String.ofList_toList] at hlookup
        exact .step (ValueMap.lookup_eq_some_iff.mp hlookup) (ih.mp hinner)
      | _ => cases h
    · rintro (_ | ⟨hlead, h⟩)
      refine Option.bind_eq_some_iff.mpr ⟨_, ?_, ih.mpr h⟩
      rw [String.ofList_toList]
      exact ValueMap.lookup_eq_some_iff.mpr hlead

/-! ## What stands for a path -/

/-- The text that a value is shown as: nothing for a null, else its text without blanks around it. -/
def shown : Value → String
  | .null => ""
  | value => Text.trim value.text

/-- What stands for a path in a map, if anything does. -/
inductive Stands (m : ValueMap) (path : String) : Option String → Prop
  /-- The name `prompt` alone, in any case, stands for the message of the map. -/
  | message (hprompt : Text.sameIgnoringCase path "prompt") : Stands m path (some ((ofMap? m).getD ""))
  | value {names : List String} {value : Value} (hprompt : ¬ Text.sameIgnoringCase path "prompt")
      (hpath : Dotted path names) (h : Reaches (.object m) names value) :
    Stands m path (some (shown value))
  | missing {names : List String} (hprompt : ¬ Text.sameIgnoringCase path "prompt")
      (hpath : Dotted path names) (h : ∀ value, ¬ Reaches (.object m) names value) : Stands m path none

theorem resolve?_of_dotted {m : ValueMap} {path : String} {names : List String}
    (hprompt : ¬ Text.sameIgnoringCase path "prompt") (hpath : Dotted path names) :
    resolve? m path = (descend (.object m) (names.map String.toList)).map shown := by
  rw [resolve?, if_neg hprompt, segments_of_dotted hpath]
  refine congrArg (Option.map · _) (funext fun value => ?_)
  cases value <;> rfl

theorem resolve?_eq_iff {m : ValueMap} {path : String} {found : Option String} :
    resolve? m path = found ↔ Stands m path found := by
  constructor
  · rintro rfl
    by_cases hprompt : Text.sameIgnoringCase path "prompt"
    · rw [resolve?, if_pos hprompt]
      exact .message hprompt
    · obtain ⟨names, hpath⟩ := exists_dotted path
      rw [resolve?_of_dotted hprompt hpath]
      cases hvalue : descend (.object m) (names.map String.toList) with
      | none =>
        refine .missing hprompt hpath fun value hreaches => ?_
        rw [descend_eq_some_iff.mpr hreaches] at hvalue
        cases hvalue
      | some value => exact .value hprompt hpath (descend_eq_some_iff.mp hvalue)
  · rintro (hprompt | ⟨hprompt, hpath, h⟩ | ⟨hprompt, hpath, h⟩)
    · rw [resolve?, if_pos hprompt]
    · rw [resolve?_of_dotted hprompt hpath, descend_eq_some_iff.mpr h, Option.map_some]
    · rw [resolve?_of_dotted hprompt hpath, Option.map_eq_none_iff]
      exact Option.eq_none_iff_forall_ne_some.mpr fun value hvalue => h value (descend_eq_some_iff.mp hvalue)

/-! ## What a template is rendered to -/

/-- The literal text of a slot, and then what stands for its path. -/
def Slot.filled (m : ValueMap) (s : Slot) : List Char :=
  s.literal ++ ((resolve? m s.path).getD "").toList

theorem text_literal (m : ValueMap) (cs : List Char) : (cs.map .literal).flatMap (Piece.text m) = cs := by
  rw [List.flatMap_map]
  exact List.flatMap_singleton' cs

theorem path?_literal (cs : List Char) : (cs.map .literal).filterMap Piece.path? = [] := by
  rw [List.filterMap_map, List.filterMap_eq_nil_iff]
  exact fun _ _ => rfl

theorem Slot.text_pieces (m : ValueMap) (s : Slot) : s.pieces.flatMap (Piece.text m) = s.filled m := by
  rw [Slot.pieces, List.flatMap_append, text_literal, List.flatMap_singleton]
  rfl

theorem Slot.path?_pieces (s : Slot) : s.pieces.filterMap Piece.path? = [s.path] := by
  rw [Slot.pieces, List.filterMap_append, path?_literal]
  rfl

/-- A text that splits is rendered by filling its slots. -/
theorem Splits.render_eq {template : String} (h : Splits template.toList slots last) (m : ValueMap) :
    render template m =
      { text := Text.trim (String.ofList (slots.flatMap (Slot.filled m) ++ last))
        hadPlaceholders := !slots.isEmpty
        unresolved := (slots.map Slot.path).filter fun path => (resolve? m path).isNone } := by
  have htext : (Prompt.pieces template.toList).flatMap (Piece.text m) =
      slots.flatMap (Slot.filled m) ++ last := by
    rw [h.pieces_eq, List.flatMap_append, text_literal, List.flatMap_assoc]
    simp only [Slot.text_pieces]
  have hpaths : (Prompt.pieces template.toList).filterMap Piece.path? = slots.map Slot.path := by
    rw [h.pieces_eq, List.filterMap_append, path?_literal, List.append_nil, List.filterMap_flatMap]
    simp only [Slot.path?_pieces]
    exact List.map_eq_flatMap.symm
  rw [render, htext, hpaths, List.isEmpty_map, Text.trim, String.toList_ofList]

/-- A template splits in one way; each of its slots is filled with what stands for its path, and this is not
looked at again. What is trimmed is the whole, and paths that nothing stands for are listed as they come. -/
theorem render_of_template (template : String) (m : ValueMap) :
    ∃ slots last, Splits template.toList slots last ∧
      (∀ slots' last', Splits template.toList slots' last' → slots' = slots ∧ last' = last) ∧
      (render template m).text = Text.trim (String.ofList (slots.flatMap (Slot.filled m) ++ last)) ∧
      ((render template m).hadPlaceholders ↔ slots ≠ []) ∧
      (render template m).unresolved =
        (slots.map Slot.path).filter (fun path => (resolve? m path).isNone) ∧
      ∀ path found, resolve? m path = found ↔ Stands m path found := by
  obtain ⟨slots, last, h⟩ := exists_splits template.toList
  refine ⟨slots, last, h, fun _ _ h' => h'.unique h, ?_⟩
  rw [h.render_eq]
  refine ⟨rfl, ?_, rfl, fun _ _ => resolve?_eq_iff⟩
  rw [Bool.not_eq_true', List.isEmpty_eq_false_iff]

/-- Neither the braces in the value nor those around the placeholder are looked at again. -/
example : render "\x7b\x7b\x7ba\x7d\x7d\x7d" [("a", .string "\x7b\x7bb\x7d\x7d")] =
    ⟨"\x7b\x7b\x7bb\x7d\x7d\x7d", true, []⟩ := by
  decide +kernel

end AgentGraph.Prompt
