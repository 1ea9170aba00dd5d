import AgentGraph.Proofs.Ordered
import AgentGraph.Proofs.Templates
import Mathlib

/-! Paths in templates, and the case they are written in.

* `ValueMap.Distinct`: no two keys of a map differ in case only.
* `Splits.recased`: a text splits at the same places, in whatever case its paths are written.
* `Unambiguous`: all maps on the way of a path are distinct.
* `resolve?_recased`: the case of such a path does not matter.
* `Chain`: the value under a row of keys, each spelt as it is in its object.
* `paths_ignore_case`: a path leads to every value, and the rendered text does not depend on its case. -/
namespace AgentGraph
set_option autoImplicit false

/-! ## Case -/

namespace Text

variable {c d : Char} {s t : String}

theorem toLower_of_not_alpha (h : ¬ c.isAlpha) : c.toLower = c := by
  refine Char.toLower_eq_of_not_isUpper fun hupper => h ?_
  rw [Char.isAlpha, hupper, Bool.true_or]

/-- What is no letter is only like itself. -/
theorem eq_of_toLower_eq (hd : ¬ d.isAlpha) (h : c.toLower = d) : c = d := by
  have hc : ¬ c.isAlpha := by rwa [← Char.isAlpha_toLower_eq_isAlpha, h]
  rw [← h, toLower_of_not_alpha hc]

theorem sameIgnoringCase_iff : sameIgnoringCase s t ↔
    s.toList.map Char.toLower = t.toList.map Char.toLower := by
  rw [sameIgnoringCase, beq_iff_eq, lower, lower, ← String.toList_inj, String.toList_map,
    String.toList_map]

theorem sameIgnoringCase_trans {u : String} (h : sameIgnoringCase s t) (h' : sameIgnoringCase t u) :
    sameIgnoringCase s u :=
  sameIgnoringCase_iff.mpr ((sameIgnoringCase_iff.mp h).trans (sameIgnoringCase_iff.mp h'))

theorem sameIgnoringCase_symm (h : sameIgnoringCase s t) : sameIgnoringCase t s := by
  rwa [sameIgnoringCase_comm]

end Text

/-! ## Maps -/

namespace ValueMap

/-- No two keys differ in case only. -/
def Distinct (m : ValueMap) : Prop := m.Pairwise fun a b => ¬ Text.sameIgnoringCase a.1 b.1

variable {m : ValueMap} {name name' key : String} {value : Value}

theorem Leads.exists_mem (h : m.Leads name value) :
    ∃ key, (key, value) ∈ m ∧ Text.sameIgnoringCase key name := by
  cases h with
  | exact h => exact ⟨name, Fields.mem_of_get? h, Text.sameIgnoringCase_refl name⟩
  | folded hnone hm hkey hbefore => exact ⟨_, hm ▸ List.mem_append_right _ List.mem_cons_self, hkey⟩

theorem exists_leads (hmem : (key, value) ∈ m) (hkey : Text.sameIgnoringCase key name) :
    ∃ found, m.Leads name found := by
  have hsome : m.lookup name ≠ none := by
    unfold lookup
    split
    · exact Option.some_ne_none _
    · exact fun hnone => List.find?_eq_none.mp (Option.map_eq_none_iff.mp hnone) _ hmem hkey
  obtain ⟨found, hfound⟩ := Option.ne_none_iff_exists'.mp hsome
  exact ⟨found, lookup_eq_some_iff.mp hfound⟩

/-- In a distinct map a name leads to the value under any key that it is like. -/
theorem Distinct.leads_iff (h : Distinct m) :
    m.Leads name value ↔ ∃ key, (key, value) ∈ m ∧ Text.sameIgnoringCase key name := by
  refine ⟨Leads.exists_mem, fun ⟨key, hmem, hkey⟩ => ?_⟩
  obtain ⟨found, hfound⟩ := exists_leads hmem hkey
  obtain ⟨key', hmem', hkey'⟩ := hfound.exists_mem
  have hsame : (key, value) = (key', found) := by
    have hsymm : Std.Symm fun a b : String × Value => ¬ Text.sameIgnoringCase a.1 b.1 :=
      ⟨fun _ _ hab hba => hab (Text.sameIgnoringCase_symm hba)⟩
    by_contra hne
    exact h.forall hmem hmem' hne (Text.sameIgnoringCase_trans hkey (Text.sameIgnoringCase_symm hkey'))
  obtain ⟨-, rfl⟩ := Prod.mk.inj hsame
  exact hfound

theorem Leads.recased (h : m.Leads name value) (hm : Distinct m)
    (hname : Text.sameIgnoringCase name name') : m.Leads name' value := by
  obtain ⟨key, hmem, hkey⟩ := h.exists_mem
  exact hm.leads_iff.mpr ⟨key, hmem, Text.sameIgnoringCase_trans hkey hname⟩

end ValueMap

namespace Prompt

/-! ## Splitting and case -/

theorem isPathChar_of_isAlpha {c : Char} (h : c.isAlpha) : isPathChar c := by
  rw [isPathChar, Char.isAlphanum, h]
  rfl

/-- A letter is a letter in either case, and nothing else has a case. -/
theorem isPathChar_toLower (c : Char) : isPathChar c.toLower = isPathChar c := by
  by_cases hc : c.isAlpha
  · have hlower : c.toLower.isAlpha := by rwa [Char.isAlpha_toLower_eq_isAlpha]
    rw [isPathChar_of_isAlpha hc, isPathChar_of_isAlpha hlower]
  · rw [Text.toLower_of_not_alpha hc]

theorem isBlank_toLower (c : Char) : Text.isBlank c.toLower = Text.isBlank c := by
  by_cases hc : c.isAlpha
  · have hlower : c.toLower.isAlpha := by rwa [Char.isAlpha_toLower_eq_isAlpha]
    have hblank := not_blank_of_isPathChar (isPathChar_of_isAlpha hc)
    have hblank' := not_blank_of_isPathChar (isPathChar_of_isAlpha hlower)
    rw [Bool.not_eq_true] at hblank hblank'
    rw [hblank, hblank']
  · rw [Text.toLower_of_not_alpha hc]

section Recased
variable {cs cs' rest literal after after' last : List Char}

theorem forall_of_toLower {q : Char → Bool} (hq : ∀ c, q c.toLower = q c)
    (hmap : cs.map Char.toLower = cs'.map Char.toLower) (h : ∀ c ∈ cs', q c) : ∀ c ∈ cs, q c := by
  intro c hc
  have hmem : c.toLower ∈ cs'.map Char.toLower := hmap ▸ List.mem_map_of_mem hc
  obtain ⟨d, hd, hdc⟩ := List.mem_map.mp hmem
  rw [← hq, ← hdc, hq]
  exact h d hd

/-- Whether a placeholder begins with the first character does not depend on case. -/
theorem Begins.recased (h : Begins cs) (hmap : cs'.map Char.toLower = cs.map Char.toLower) :
    Begins cs' := by
  obtain ⟨p, rest, rfl⟩ := h
  rw [Placeholder.chars_append] at hmap
  simp only [List.map_cons, List.map_append] at hmap
  have hopen : '\x7b'.toLower = '\x7b' := by decide
  have hclose : '\x7d'.toLower = '\x7d' := by decide
  rw [hopen, hclose] at hmap
  -- The other text falls into parts of the same lengths: braces, blanks, path, blanks, braces.
  obtain ⟨c, cs', rfl, hc, hmap⟩ := List.map_eq_cons_iff.mp hmap
  obtain ⟨d, cs', rfl, hd, hmap⟩ := List.map_eq_cons_iff.mp hmap
  obtain ⟨left, cs', rfl, hleft, hmap⟩ := List.map_eq_append_iff.mp hmap
  obtain ⟨path, cs', rfl, hpath, hmap⟩ := List.map_eq_append_iff.mp hmap
  obtain ⟨right, cs', rfl, hright, hmap⟩ := List.map_eq_append_iff.mp hmap
  obtain ⟨e, cs', rfl, he, hmap⟩ := List.map_eq_cons_iff.mp hmap
  obtain ⟨f, rest', rfl, hf, -⟩ := List.map_eq_cons_iff.mp hmap
  obtain rfl := Text.eq_of_toLower_eq (by decide) hc
  obtain rfl := Text.eq_of_toLower_eq (by decide) hd
  obtain rfl := Text.eq_of_toLower_eq (by decide) he
  obtain rfl := Text.eq_of_toLower_eq (by decide) hf
  have hne : path ≠ [] := fun hnil => p.path_ne_nil (by simpa [hnil] using hpath.symm)
  let p' : Placeholder :=
    { left, path, right
      left_blank := forall_of_toLower isBlank_toLower hleft p.left_blank
      right_blank := forall_of_toLower isBlank_toLower hright p.right_blank
      path_ne_nil := hne
      path_chars := forall_of_toLower isPathChar_toLower hpath p.path_chars }
  exact ⟨p', rest', (p'.chars_append rest').symm⟩

theorem Plain.recased (h : Plain literal after)
    (hmap : after'.map Char.toLower = after.map Char.toLower) : Plain literal after' := by
  intro before rest hsplit hne hbegins
  refine h before rest hsplit hne (hbegins.recased ?_)
  rw [List.map_append, List.map_append, hmap]

/-- The slots are the same but for the case of the letters in the path. -/
structure Slot.Recased (s s' : Slot) : Prop where
  literal : s.literal = s'.literal
  left : s.placeholder.left = s'.placeholder.left
  path : Text.sameIgnoringCase s.path s'.path
  right : s.placeholder.right = s'.placeholder.right

variable {s s' : Slot} {slots slots' : List Slot}

theorem Slot.Recased.map_chars (h : s.Recased s') :
    s.placeholder.chars.map Char.toLower = s'.placeholder.chars.map Char.toLower := by
  have hpath := Text.sameIgnoringCase_iff.mp h.path
  rw [Slot.path, Slot.path, Placeholder.name, Placeholder.name, String.toList_ofList,
    String.toList_ofList] at hpath
  simp only [Placeholder.chars, List.map_cons, List.map_append, h.left, h.right, hpath]

theorem Splits.text_eq (h : Splits cs slots last) : cs = slots.flatMap Slot.chars ++ last := by
  induction h with
  | last => rfl
  | slot h hrest ih => rw [List.flatMap_cons, List.append_assoc, ← ih]

theorem map_flatMap_chars (h : List.Forall₂ Slot.Recased slots slots') :
    (slots.flatMap Slot.chars).map Char.toLower = (slots'.flatMap Slot.chars).map Char.toLower := by
  induction h with
  | nil => rfl
  | cons hs hslots ih =>
    simp only [List.flatMap_cons, List.map_append, Slot.chars, ih, hs.map_chars, hs.literal]

/-- A text splits at the same places when its paths are written in another case. -/
theorem Splits.recased (h : Splits cs slots last) (hslots : List.Forall₂ Slot.Recased slots slots') :
    Splits (slots'.flatMap Slot.chars ++ last) slots' last := by
  induction h generalizing slots' with
  | last h =>
    cases hslots
    exact .last h
  | @slot s text last slots h hrest ih =>
    cases hslots with
    | @cons _ s' _ slots' hs hslots =>
      rw [List.flatMap_cons, List.append_assoc]
      refine .slot ?_ (ih hslots)
      rw [← hs.literal]
      refine h.recased ?_
      rw [hrest.text_eq]
      simp only [List.map_append, hs.map_chars, map_flatMap_chars hslots]

end Recased

/-! ## Looking up and case -/

section Lookup
variable {m : ValueMap} {v value : Value} {path path' : String} {names names' : List String}
  {found : Option String}

theorem segments_toLower (cs : List Char) :
    segments (cs.map Char.toLower) = (segments cs).map (List.map Char.toLower) := by
  have hdot : '.'.toLower = '.' := by decide
  fun_induction segments cs with
  | case1 => rfl
  | case2 rest ih => rw [List.map_cons, hdot, segments, if_pos rfl, ih, List.map_cons, List.map_nil]
  | case3 c rest hc hnil ih =>
    have hlower : c.toLower ≠ '.' := fun heq => hc (Text.eq_of_toLower_eq (by decide) heq)
    rw [List.map_cons, segments, if_neg hlower, ih, hnil]
    rfl
  | case4 c rest hc first others heq ih =>
    have hlower : c.toLower ≠ '.' := fun heq => hc (Text.eq_of_toLower_eq (by decide) heq)
    rw [List.map_cons, segments, if_neg hlower, ih, heq]
    rfl

/-- Paths that differ in case only are made of names that do. -/
theorem Dotted.recased (h : Dotted path names) (hpath : Text.sameIgnoringCase path path') :
    ∃ names', Dotted path' names' ∧ List.Forall₂ (fun a b => Text.sameIgnoringCase a b) names names' := by
  obtain ⟨names', h'⟩ := exists_dotted path'
  have hsegments : (segments path.toList).map (List.map Char.toLower) =
      (segments path'.toList).map (List.map Char.toLower) := by
    rw [← segments_toLower, ← segments_toLower, Text.sameIgnoringCase_iff.mp hpath]
  rw [segments_of_dotted h, segments_of_dotted h', List.map_map, List.map_map, ← List.forall₂_eq_eq_eq,
    List.forall₂_map_left_iff, List.forall₂_map_right_iff] at hsegments
  exact ⟨names', h', hsegments.imp fun _ _ heq => Text.sameIgnoringCase_iff.mpr heq⟩

theorem Dotted.eq_singleton (h : Dotted path names) (hdot : '.' ∉ path.toList) : names = [path] := by
  have hsegments := segments_of_dotted h
  rw [segments_eq_splitOn, List.splitOn_eq_singleton hdot] at hsegments
  obtain ⟨name, rest, rfl, hname, hrest⟩ := List.map_eq_cons_iff.mp hsegments.symm
  rw [List.map_eq_nil_iff.mp hrest, String.toList_inj.mp hname]

/-- An object in which the names are looked up: one that some of them, but not all, lead to. -/
def Passes (v : Value) (names : List String) (o : ValueMap) : Prop :=
  ∃ before name after, names = before ++ name :: after ∧ Reaches v before (.object o)

/-- Where the names of a path are looked up, no two keys differ in case only. The name `prompt` alone is
not looked up. -/
def Unambiguous (m : ValueMap) (path : String) : Prop :=
  ¬ Text.sameIgnoringCase path "prompt" →
    ∀ names o, Dotted path names → Passes (.object m) names o → o.Distinct

theorem Passes.step {fields o : ValueMap} {name : String} {inner : Value}
    (hlead : fields.Leads name inner) (h : Passes inner names o) :
    Passes (.object fields) (name :: names) o := by
  obtain ⟨before, next, after, rfl, hreaches⟩ := h
  exact ⟨name :: before, next, after, rfl, .step hlead hreaches⟩

theorem reaches_recased (hnames : List.Forall₂ (fun a b => Text.sameIgnoringCase a b) names names')
    (hpasses : ∀ o, Passes v names o → o.Distinct) : Reaches v names value ↔ Reaches v names' value := by
  -- An object on the way of the other names need not be on the way of these before the step is recast.
  induction hnames generalizing v with
  | nil => rfl
  | @cons name name' names names' hname hnames ih =>
    constructor
    · rintro (_ | @⟨fields, _, _, inner, _, hlead, h⟩)
      have hfields : fields.Distinct := hpasses fields ⟨[], name, names, rfl, .here _⟩
      have hinner := ih fun o ho => hpasses o (ho.step hlead)
      exact .step (hlead.recased hfields hname) (hinner.mp h)
    · rintro (_ | @⟨fields, _, _, inner, _, hlead', h⟩)
      have hfields : fields.Distinct := hpasses fields ⟨[], name, names, rfl, .here _⟩
      have hlead := hlead'.recased hfields (Text.sameIgnoringCase_symm hname)
      have hinner := ih fun o ho => hpasses o (ho.step hlead)
      exact .step hlead (hinner.mpr h)

theorem resolve?_recased (hclear : Unambiguous m path) (hpath : Text.sameIgnoringCase path path') :
    resolve? m path = resolve? m path' := by
  have hprompt (h : ¬ Text.sameIgnoringCase path "prompt") : ¬ Text.sameIgnoringCase path' "prompt" :=
    fun h' => h (Text.sameIgnoringCase_trans hpath h')
  have hstands : Stands m path (resolve? m path) := resolve?_eq_iff.mp rfl
  symm
  rw [resolve?_eq_iff]
  generalize resolve? m path = found at hstands
  cases hstands with
  | message h => exact .message (Text.sameIgnoringCase_trans (Text.sameIgnoringCase_symm hpath) h)
  | value h hdotted hreaches =>
    obtain ⟨names', hdotted', hnames⟩ := hdotted.recased hpath
    refine .value (hprompt h) hdotted' ?_
    exact (reaches_recased hnames fun o => hclear h _ o hdotted).mp hreaches
  | missing h hdotted hnone =>
    obtain ⟨names', hdotted', hnames⟩ := hdotted.recased hpath
    refine .missing (hprompt h) hdotted' fun value hreaches => hnone value ?_
    exact (reaches_recased hnames fun o => hclear h _ o hdotted).mpr hreaches

end Lookup

/-! ## Keys -/

/-- The keys lead to the value, each spelt as it is in its object. -/
inductive Chain : Value → List String → Value → Prop
  | here (value : Value) : Chain value [] value
  | step {fields : ValueMap} {key : String} {keys : List String} {inner value : Value}
      (hget : Fields.get? fields key = some inner) (h : Chain inner keys value) :
    Chain (.object fields) (key :: keys) value

theorem Chain.reaches {v value : Value} {keys : List String} (h : Chain v keys value) :
    Reaches v keys value := by
  induction h with
  | here => exact .here _
  | step hget h ih => exact .step (.exact hget) ih

/-- A key that a path can be made of. -/
structure IsKey (key : String) : Prop where
  ne_nil : key.toList ≠ []
  chars : ∀ c ∈ key.toList, isPathChar c
  no_dot : '.' ∉ key.toList

section Keys
variable {keys : List String}

theorem dotted_of_keys (hne : keys ≠ []) (hkeys : ∀ key ∈ keys, IsKey key) :
    Dotted (".".intercalate keys) keys :=
  ⟨hne, fun key hkey => (hkeys key hkey).no_dot, rfl⟩

theorem path_ne_nil_of_keys (hne : keys ≠ []) (hkeys : ∀ key ∈ keys, IsKey key) :
    (".".intercalate keys).toList ≠ [] := by
  intro hnil
  have hsegments := segments_of_dotted (dotted_of_keys hne hkeys)
  rw [hnil] at hsegments
  obtain ⟨key, rest, rfl, hkey, -⟩ := List.map_eq_cons_iff.mp hsegments.symm
  exact (hkeys key List.mem_cons_self).ne_nil hkey

theorem isPathChar_of_keys (hkeys : ∀ key ∈ keys, IsKey key) :
    ∀ c ∈ (".".intercalate keys).toList, isPathChar c := by
  induction keys with
  | nil => exact fun c hc => absurd hc List.not_mem_nil
  | cons key rest ih =>
    obtain ⟨hkey, hrest⟩ := List.forall_mem_cons.mp hkeys
    cases rest with
    | nil =>
      rw [String.intercalate_singleton]
      exact hkey.chars
    | cons next rest =>
      have hdot : ".".toList = ['.'] := by simp
      rw [String.intercalate_cons_cons, String.toList_append, String.toList_append, hdot]
      simp only [List.forall_mem_append, List.forall_mem_singleton]
      exact ⟨⟨hkey.chars, rfl⟩, ih hrest⟩

/-- Only a key that is alone can be read as the word `prompt`. -/
theorem not_prompt_of_keys (hne : keys ≠ []) (hkeys : ∀ key ∈ keys, IsKey key)
    (hprompt : ∀ key, keys = [key] → ¬ Text.sameIgnoringCase key "prompt") :
    ¬ Text.sameIgnoringCase (".".intercalate keys) "prompt" := by
  intro hsame
  obtain ⟨names, hdotted, hnames⟩ := (dotted_of_keys hne hkeys).recased hsame
  obtain rfl := hdotted.eq_singleton (by decide +kernel)
  obtain ⟨key, rest, hkey, hnil, rfl⟩ := List.forall₂_cons_right_iff.mp hnames
  obtain rfl := List.forall₂_nil_right_iff.mp hnil
  exact hprompt key rfl hkey

end Keys

/-! ## The laws of paths -/

theorem trim_shown (value : Value) : Text.trim (shown value) = shown value := by
  cases value with
  | null => rfl
  | _ => exact Text.trim_trim _

/-- A path that is made of keys leads to their value, whatever lies beside them. -/
theorem resolve?_of_chain {m : ValueMap} {keys : List String} {value : Value} (hne : keys ≠ [])
    (hkeys : ∀ key ∈ keys, IsKey key) (h : Chain (.object m) keys value)
    (hprompt : ∀ key, keys = [key] → ¬ Text.sameIgnoringCase key "prompt") :
    resolve? m (".".intercalate keys) = some (shown value) :=
  resolve?_eq_iff.mpr
    (.value (not_prompt_of_keys hne hkeys hprompt) (dotted_of_keys hne hkeys) h.reaches)

theorem Splits.single (p : Placeholder) : Splits p.chars [⟨[], p⟩] [] := by
  have h := Splits.placeholder p (.last (plain_nil []))
  rwa [List.append_nil] at h

theorem render_of_chain {m : ValueMap} {keys : List String} {value : Value} (hne : keys ≠ [])
    (hkeys : ∀ key ∈ keys, IsKey key) (h : Chain (.object m) keys value)
    (hprompt : ∀ key, keys = [key] → ¬ Text.sameIgnoringCase key "prompt") :
    render ("\x7b\x7b" ++ ".".intercalate keys ++ "\x7d\x7d") m = ⟨shown value, true, []⟩ := by
  let p : Placeholder :=
    { left := []
      path := (".".intercalate keys).toList
      right := []
      left_blank := List.forall_mem_nil _
      right_blank := List.forall_mem_nil _
      path_ne_nil := path_ne_nil_of_keys hne hkeys
      path_chars := isPathChar_of_keys hkeys }
  have hpath : Slot.path ⟨[], p⟩ = ".".intercalate keys := String.ofList_toList
  have htemplate : ("\x7b\x7b" ++ ".".intercalate keys ++ "\x7d\x7d").toList = p.chars := by
    simp [Placeholder.chars, p]
  have hsplits : Splits ("\x7b\x7b" ++ ".".intercalate keys ++ "\x7d\x7d").toList [⟨[], p⟩] [] :=
    htemplate ▸ .single p
  have hfound := resolve?_of_chain hne hkeys h hprompt
  rw [hsplits.render_eq, List.flatMap_singleton, List.append_nil, Slot.filled, List.map_singleton, hpath,
    hfound, List.nil_append, Option.getD_some, String.ofList_toList, trim_shown]
  simp [hfound]

/-- Slots that differ in the case of their paths only are filled alike. -/
theorem filled_recased {m : ValueMap} {s s' : Slot} (hclear : Unambiguous m s.path) (h : s.Recased s') :
    s.filled m = s'.filled m := by
  rw [Slot.filled, Slot.filled, h.literal, resolve?_recased hclear h.path]

/-- Every chain of keys is a path to its value, exactly as it is spelt. Where no object on the way of the
paths has two keys that differ in case only, the case of the paths does not matter. -/
theorem paths_ignore_case (m : ValueMap) :
    (∀ keys value, keys ≠ [] → (∀ key ∈ keys, IsKey key) → Chain (.object m) keys value →
      (∀ key, keys = [key] → ¬ Text.sameIgnoringCase key "prompt") →
      render ("\x7b\x7b" ++ ".".intercalate keys ++ "\x7d\x7d") m = ⟨shown value, true, []⟩) ∧
    ∀ (template template' : String) (slots slots' : List Slot) (last : List Char),
      Splits template.toList slots last → List.Forall₂ Slot.Recased slots slots' →
      template'.toList = slots'.flatMap Slot.chars ++ last →
      (∀ s ∈ slots, Unambiguous m s.path) →
      (render template m).text = (render template' m).text ∧
        List.Forall₂ (fun a b => Text.sameIgnoringCase a b) (render template m).unresolved
          (render template' m).unresolved := by
  refine ⟨fun keys value hne hkeys h hprompt => render_of_chain hne hkeys h hprompt, ?_⟩
  intro template template' slots slots' last hsplits hslots htemplate hclear
  have hsplits' : Splits template'.toList slots' last := htemplate ▸ hsplits.recased hslots
  have hboth := (List.forall₂_and_left _ _).mpr ⟨hclear, hslots⟩
  have hfilled : slots.map (Slot.filled m) = slots'.map (Slot.filled m) := by
    rw [← List.forall₂_eq_eq_eq, List.forall₂_map_left_iff, List.forall₂_map_right_iff]
    exact hboth.imp fun _ _ h => filled_recased h.1 h.2
  have hpaths : List.Forall₂ (fun a b => Text.sameIgnoringCase a b ∧ resolve? m a = resolve? m b)
      (slots.map Slot.path) (slots'.map Slot.path) := by
    rw [List.forall₂_map_left_iff, List.forall₂_map_right_iff]
    exact hboth.imp fun _ _ h => ⟨h.2.path, resolve?_recased h.1 h.2.path⟩
  rw [hsplits.render_eq, hsplits'.render_eq]
  constructor
  · rw [List.flatMap_def, List.flatMap_def, hfilled]
  · refine (List.rel_filter ?_ hpaths).imp fun _ _ h => h.1
    intro a b h
    show (resolve? m a).isNone ↔ (resolve? m b).isNone
    rw [h.2]

namespace Duet

def voices : ValueMap := [("LEAD", .null), ("lead", .string "hum")]

/-- There are two keys that differ in case only, but they are not on the way to the object they stand in. -/
def scope : ValueMap := [("Duet", .object voices)]

/-- The path with a blank after it. -/
def spaced (path : List Char) (hne : path ≠ []) (h : path.all isPathChar) : Placeholder where
  left := []
  path := path
  right := [' ']
  left_blank := List.forall_mem_nil _
  right_blank := List.forall_mem_singleton.mpr rfl
  path_ne_nil := hne
  path_chars := List.all_eq_true.mp h

def upper : Placeholder := spaced ['D', 'U', 'E', 'T'] (by decide) (by decide)

def lower : Placeholder := spaced ['d', 'u', 'e', 't'] (by decide) (by decide)

theorem unambiguous : Unambiguous scope upper.name := by
  intro _ names o hdotted hpasses
  obtain rfl := hdotted.eq_singleton (by decide +kernel)
  obtain ⟨before, name, after, hnames, hreaches⟩ := hpasses
  cases before with
  | nil =>
    cases hreaches
    exact List.pairwise_singleton _ _
  | cons first before => simp at hnames

end Duet

theorem paths_ignore_case_duet :
    Chain (.object Duet.scope) ["Duet", "lead"] (.string "hum") ∧
      render ("\x7b\x7b" ++ ".".intercalate ["Duet", "lead"] ++ "\x7d\x7d") Duet.scope =
        ⟨"hum", true, []⟩ ∧
      Slot.Recased ⟨[], Duet.upper⟩ ⟨[], Duet.lower⟩ ∧ Unambiguous Duet.scope Duet.upper.name ∧
      (render "\x7b\x7bDUET \x7d\x7d" Duet.scope).text = (render "\x7b\x7bduet \x7d\x7d" Duet.scope).text := by
  obtain ⟨hchain, hcase⟩ := paths_ignore_case Duet.scope
  have hkeys : ∀ key ∈ ["Duet", "lead"], IsKey key := by
    simp only [List.forall_mem_cons]
    exact ⟨⟨by decide +kernel, List.all_eq_true.mp (by decide +kernel), by decide +kernel⟩,
      ⟨by decide +kernel, List.all_eq_true.mp (by decide +kernel), by decide +kernel⟩, List.forall_mem_nil _⟩
  have hvalue : Chain (.object Duet.scope) ["Duet", "lead"] (.string "hum") := by
    have houter : Fields.get? Duet.scope "Duet" = some (.object Duet.voices) := if_pos rfl
    have hinner : Fields.get? Duet.voices "lead" = some (.string "hum") := by
      simp [Duet.voices, Fields.get?]
    exact .step houter (.step hinner (.here _))
  have hshown : shown (.string "hum") = "hum" := by decide +kernel
  have htemplate : "\x7b\x7bDUET \x7d\x7d".toList = Duet.upper.chars := by decide +kernel
  have hsplits : Splits "\x7b\x7bDUET \x7d\x7d".toList [⟨[], Duet.upper⟩] [] := htemplate ▸ .single _
  have hsame : Text.sameIgnoringCase Duet.upper.name Duet.lower.name := by
    rw [Text.sameIgnoringCase_iff, Placeholder.name, Placeholder.name, String.toList_ofList,
      String.toList_ofList]
    decide
  have hrecased : Slot.Recased ⟨[], Duet.upper⟩ ⟨[], Duet.lower⟩ := ⟨rfl, rfl, hsame, rfl⟩
  have hrendered := hchain _ _ (List.cons_ne_nil _ _) hkeys hvalue (by simp)
  rw [hshown] at hrendered
  refine ⟨hvalue, hrendered, hrecased, Duet.unambiguous, ?_⟩
  refine (hcase _ _ _ _ _ hsplits (.cons hrecased .nil) (by decide +kernel) ?_).1
  exact List.forall_mem_singleton.mpr Duet.unambiguous

end Prompt
end AgentGraph
