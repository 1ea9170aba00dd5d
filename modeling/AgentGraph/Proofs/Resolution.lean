import AgentGraph.Proofs.Messages

/-! Where a prompt takes its message from.

The sources stand in a row: the template, the well-known names and then all entries of the metadata, the
metadata itself if it is no object, and the entries of the map. What the first of them says that shows is
the message.

* `ValueMap.lookup_eq_some_iff`: what a name leads to, in whatever case it is spelt.
* `Prompt.Source.Says`: what a source has to say.
* `Prompt.sources`: all sources, in their order.
* `Prompt.Source.says_iff`: what a source says can be computed.
* `Prompt.sendable_of_lines`: entries written as lines never need a filter.
* `Prompt.first?_map`: the message of a map is that of the first source that shows.
* `Prompt.message_of_sources`: the message of a prompt. -/
namespace AgentGraph
set_option autoImplicit false

/-! ## Names in any case -/

namespace ValueMap

/-- What a name leads to in a map: the value under exactly this name; if there is none, that under the
first name, in the order of the map, which differs in case only. -/
inductive Leads (m : ValueMap) (name : String) : Value → Prop
  | exact {value : Value} (h : Fields.get? m name = some value) : Leads m name value
  | folded {before after : List (String × Value)} {key : String} {value : Value}
      (hnone : Fields.get? m name = none) (hm : m = before ++ (key, value) :: after)
      (hkey : Text.sameIgnoringCase key name)
      (hbefore : ∀ e ∈ before, ¬ Text.sameIgnoringCase e.1 name) : Leads m name value

theorem lookup_eq_some_iff {m : ValueMap} {name : String} {value : Value} :
    m.lookup name = some value ↔ m.Leads name value := by
  unfold lookup
  constructor
  · intro h
    split at h
    · next found hfound =>
      obtain rfl := Option.some.inj h
      exact .exact hfound
    · next hnone =>
      obtain ⟨⟨key, found⟩, hfound, rfl⟩ := Option.map_eq_some_iff.mp h
      obtain ⟨hkey, before, after, hm, hbefore⟩ := List.find?_eq_some_iff_append.mp hfound
      exact .folded hnone hm hkey fun e he => by simpa using hbefore e he
  · intro h
    cases h with
    | exact h => rw [h]
    | @folded before after key _ hnone hm hkey hbefore =>
      rw [hnone]
      refine Option.map_eq_some_iff.mpr ⟨(key, value), ?_, rfl⟩
      refine List.find?_eq_some_iff_append.mpr ⟨hkey, before, after, hm, fun e he => ?_⟩
      simpa using hbefore e he

end ValueMap

namespace Prompt

/-- A place that a message may be taken from. -/
inductive Source where
  | template (text : String)
  /-- The value that a name leads to in some fields. -/
  | named (fields : ValueMap) (name : String)
  /-- All entries of some fields that are not null. -/
  | lines (fields : ValueMap)
  /-- A value on its own. -/
  | whole (value : Value)

/-- What a source has to say on a map: a template the text it renders to, a name the trimmed text of the
value it leads to, some fields a line for each entry, and a value its own trimmed text. Blank texts and
null say nothing. -/
inductive Source.Says (m : ValueMap) : Source → String → Prop
  | template {text : String} (hshows : ¬ Text.isBlankText (render text m).text) :
    Says m (.template text) (render text m).text
  | named {fields : ValueMap} {name : String} {value : Value} (hleads : fields.Leads name value)
      (hvalue : value ≠ .null) (hshows : ¬ Text.isBlankText value.text) :
    Says m (.named fields name) (Text.trim value.text)
  | lines {fields : ValueMap} (hany : fields.entryLines ≠ []) :
    Says m (.lines fields) ("\n".intercalate fields.entryLines)
  | whole {value : Value} (hvalue : value ≠ .null) (hshows : ¬ Text.isBlankText value.text) :
    Says m (.whole value) (Text.trim value.text)

/-- First the well-known names, then all entries. -/
def sourcesOfFields (fields : ValueMap) : List Source :=
  ["prompt", "query", "task", "instruction", "request", "text", "message"].map (.named fields) ++
    [.lines fields]

def sourcesOfMetadata : Value → List Source
  | .object fields => sourcesOfFields fields
  | value => [.whole value]

def sourcesOfMap (m : ValueMap) : List Source :=
  match m.lookup "metadata" with
  | some metadata => sourcesOfMetadata metadata ++ [.lines m]
  | none => sourcesOfFields m

/-- All sources of a message, the ones that come first before the others. -/
def sources (template : Option String) (m : ValueMap) : List Source :=
  template.toList.map .template ++ sourcesOfMap m

variable {m fields : ValueMap} {text : String}

/-! ## What is said -/

/-- What a source says, if it shows at all. -/
def Source.text? (m : ValueMap) : Source → Option String
  | .template text => Text.visible? (render text m).text
  | .named fields name => ((fields.lookup name).bind Value.text?).bind Text.visible?
  | .lines fields => fields.lines?
  | .whole value => value.text?.bind Text.visible?

theorem trim_rendered (template : String) (m : ValueMap) :
    Text.trim (render template m).text = (render template m).text := by
  rw [render_text_eq, Text.trim_trim]

theorem shown_eq_some_iff {value : Value} : value.text?.bind Text.visible? = some text ↔
    value ≠ .null ∧ ¬ Text.isBlankText value.text ∧ Text.trim value.text = text := by
  cases value with
  | null => exact iff_of_false nofun fun h => h.1 rfl
  | _ => exact Text.visible?_eq_some_iff.trans (and_iff_right nofun).symm

theorem Source.says_iff {s : Source} : s.Says m text ↔ s.text? m = some text := by
  cases s with
  | template template =>
    rw [Source.text?, Text.visible?_eq_some_iff, trim_rendered]
    constructor
    · intro h
      cases h with
      | template hshows => exact ⟨hshows, rfl⟩
    · rintro ⟨hshows, rfl⟩
      exact .template hshows
  | named fields name =>
    rw [Source.text?, Option.bind_assoc, Option.bind_eq_some_iff]
    simp only [ValueMap.lookup_eq_some_iff, shown_eq_some_iff]
    constructor
    · intro h
      cases h with
      | named hleads hvalue hshows => exact ⟨_, hleads, hvalue, hshows, rfl⟩
    · rintro ⟨value, hleads, hvalue, hshows, rfl⟩
      exact .named hleads hvalue hshows
  | lines fields =>
    rw [Source.text?, ValueMap.lines?_eq_some_iff]
    constructor
    · intro h
      cases h with
      | lines hany => exact ⟨hany, rfl⟩
    · rintro ⟨hany, rfl⟩
      exact .lines hany
  | whole value =>
    rw [Source.text?, shown_eq_some_iff]
    constructor
    · intro h
      cases h with
      | whole hvalue hshows => exact ⟨hvalue, hshows, rfl⟩
    · rintro ⟨hvalue, hshows, rfl⟩
      exact .whole hvalue hshows

theorem Source.silent_iff {s : Source} : (∀ text, ¬ s.Says m text) ↔ s.text? m = none := by
  simp only [says_iff, Option.eq_none_iff_forall_ne_some, ne_eq]

theorem colon_mem_of_lines (h : fields.lines? = some text) : ':' ∈ text.toList := by
  obtain ⟨hany, rfl⟩ := ValueMap.lines?_eq_some_iff.mp h
  obtain ⟨line, rest, hcons⟩ := List.exists_cons_of_ne_nil hany
  have hfirst : ':' ∈ line.toList := ValueMap.colon_mem_of_line (hcons ▸ List.mem_cons_self)
  rw [hcons]
  cases rest with
  | nil => rwa [String.intercalate_singleton]
  | cons next rest =>
    rw [String.intercalate_cons_cons, String.toList_append, String.toList_append]
    exact List.mem_append_left _ (List.mem_append_left _ hfirst)

/-- Every line has a colon, so the lines are not blank, and not the word `default`. -/
theorem sendable_of_lines (h : fields.lines? = some text) : Sendable text := by
  have hcolon := colon_mem_of_lines h
  have hblank : ¬ Text.isBlank ':' := by decide
  refine ⟨Text.not_blank_of_mem hcolon hblank, fun hdefault => ?_⟩
  have hlower : Text.lower (Text.trim text) = Text.lower "default" := eq_of_beq hdefault
  have hmem : ':' ∈ (Text.lower (Text.trim text)).toList := by
    rw [Text.lower, String.toList_map, Text.trim, String.toList_ofList]
    exact List.mem_map.mpr ⟨':', Text.mem_trimChars hcolon hblank, by decide⟩
  rw [hlower] at hmem
  exact absurd hmem (by decide +kernel)

theorem listing?_eq (fields : ValueMap) : listing? fields = fields.lines? := by
  unfold listing?
  cases h : fields.lines? with
  | none => rfl
  | some text =>
    obtain ⟨hvisible, hown⟩ := sendable_of_lines h
    simp [hvisible, isDefault, hown]

theorem orGeneric_of_lines (h : fields.lines? = some text) : orGeneric text = text :=
  if_neg (sendable_of_lines h).own

/-! ## The first source that shows -/

/-- What the first of some sources says that shows, unless this is the word `default`. -/
def first? (m : ValueMap) (sources : List Source) : Option String :=
  (sources.findSome? (Source.text? m)).map orGeneric

theorem first?_append (m : ValueMap) (xs ys : List Source) :
    first? m (xs ++ ys) = (first? m xs).or (first? m ys) := by
  rw [first?, List.findSome?_append, Option.map_or]
  rfl

theorem first?_lines (m fields : ValueMap) : first? m [.lines fields] = listing? fields := by
  rw [listing?_eq, first?, List.findSome?_singleton, Source.text?]
  cases h : fields.lines? with
  | none => rfl
  | some text => rw [Option.map_some, orGeneric_of_lines h]

theorem first?_fields (m fields : ValueMap) : first? m (sourcesOfFields fields) = ofFields? fields := by
  have hsources : sourcesOfFields fields = messageNames.map (.named fields) ++ [.lines fields] := rfl
  have hnamed : Source.text? m ∘ Source.named fields = namedText? fields := rfl
  rw [hsources, first?_append, first?_lines, first?, List.findSome?_map, hnamed, ofFields?]
  cases messageNames.findSome? (namedText? fields) <;> rfl

theorem first?_metadata (m : ValueMap) (metadata : Value) :
    first? m (sourcesOfMetadata metadata) = ofMetadata? metadata := by
  cases metadata with
  | null => rfl
  | object fields =>
    rw [sourcesOfMetadata, first?_fields]
    cases fields with
    | nil => rfl
    | cons e rest => rfl
  | _ => exact congrArg (Option.map orGeneric) List.findSome?_singleton

theorem first?_map (m : ValueMap) : first? m (sourcesOfMap m) = ofMap? m := by
  unfold sourcesOfMap ofMap?
  cases m with
  | nil => rfl
  | cons e rest =>
    rw [List.isEmpty_cons, if_neg Bool.false_ne_true]
    cases ValueMap.lookup (e :: rest) "metadata" with
    | some metadata => rw [first?_append, first?_metadata, first?_lines]
    | none => exact first?_fields _ _

/-! ## Templates -/

theorem visible?_rendered (template : String) (m : ValueMap) :
    Text.visible? (render template m).text =
      if (render template m).text.isEmpty then none else some (render template m).text := by
  rw [Text.visible?, trim_rendered]
  exact if_congr isBlankText_rendered rfl rfl

theorem pieces_of_blank {cs : List Char} (h : ∀ c ∈ cs, Text.isBlank c) :
    pieces cs = cs.map .literal := by
  induction cs with
  | nil => rw [pieces, List.map_nil]
  | cons c rest ih =>
    obtain ⟨hc, hrest⟩ := List.forall_mem_cons.mp h
    have hnone : placeholder? (c :: rest) = none := by
      unfold placeholder?
      split
      · next heq =>
        obtain ⟨rfl, -⟩ := List.cons.inj heq
        exact absurd hc (by decide)
      · rfl
    rw [pieces]
    split
    · next heq =>
      rw [hnone] at heq
      cases heq
    · rw [ih hrest, List.map_cons]

theorem rendered_of_blank {template : String} (h : Text.isBlankText template) (m : ValueMap) :
    (render template m).text = "" := by
  have hblank := Text.isBlankText_iff.mp h
  rw [render_text_eq, pieces_of_blank hblank, List.flatMap_map, Text.trim, String.toList_ofList]
  have hsame : template.toList.flatMap (fun c => Piece.text m (.literal c)) = template.toList :=
    List.flatMap_singleton' _
  rw [hsame, Text.trimChars_eq_nil_iff.mpr hblank]

theorem first?_template (m : ValueMap) (template : Option String) :
    first? m (template.toList.map .template) =
      (ofTemplate template).template.bind fun text => ofTemplate? text m := by
  cases template with
  | none => rfl
  | some text =>
    rw [Option.toList_some, List.map_singleton, first?, List.findSome?_singleton, Source.text?,
      visible?_rendered, ofTemplate, Option.filter_some]
    by_cases hblank : Text.isBlankText text
    · rw [rendered_of_blank hblank]
      simp [hblank]
    · simp only [hblank, Bool.not_false, if_true, Option.bind_some, ofTemplate?]
      split <;> rfl

theorem message_eq (template : Option String) (scope ambient : ValueMap) :
    (ofTemplate template).message scope ambient =
      (first? (source scope ambient) (sources template (source scope ambient))).getD
        fallbackInstruction := by
  rw [sources, first?_append, first?_template, first?_map]
  rfl

/-! ## The message -/

theorem source_eq (scope ambient : ValueMap) :
    source scope ambient = if scope = [] ∧ ambient ≠ [] then ambient else scope := by
  cases scope <;> cases ambient <;> rfl

/-- How a message comes from the sources: the first one that has something to say is taken. Where it says
the word `default`, in whatever case, or where there is none, an instruction of its own takes its place. -/
def Chosen (template : Option String) (m : ValueMap) (message : String) : Prop :=
  (∃ before s after text, sources template m = before ++ s :: after ∧
      (∀ x ∈ before, ∀ other, ¬ x.Says m other) ∧ s.Says m text ∧
      message = if Text.sameIgnoringCase (Text.trim text) "default" then
        "Please help me with a short task." else text) ∨
    (∀ s ∈ sources template m, ∀ text, ¬ s.Says m text) ∧ message = "Please respond."

theorem chosen_first? (template : Option String) (m : ValueMap) :
    Chosen template m ((first? m (sources template m)).getD fallbackInstruction) := by
  unfold first?
  cases hfirst : (sources template m).findSome? (Source.text? m) with
  | none =>
    have hsilent := List.findSome?_eq_none_iff.mp hfirst
    exact .inr ⟨fun s hs => Source.silent_iff.mpr (hsilent s hs), rfl⟩
  | some text =>
    obtain ⟨before, s, after, hsources, htext, hbefore⟩ := List.findSome?_eq_some_iff.mp hfirst
    exact .inl ⟨before, s, after, text, hsources, fun x hx => Source.silent_iff.mpr (hbefore x hx),
      Source.says_iff.mpr htext, rfl⟩

/-- Whatever the template and the maps hold, the message says something other than the word `default`, and
it is that of the first source that shows; where a name is looked up, exact spelling comes first. -/
theorem message_of_sources (template : Option String) (scope ambient : ValueMap) :
    Sendable ((ofTemplate template).message scope ambient) ∧
      Chosen template (if scope = [] ∧ ambient ≠ [] then ambient else scope)
        ((ofTemplate template).message scope ambient) ∧
      ∀ (fields : ValueMap) (name : String) (value : Value),
        fields.lookup name = some value ↔ fields.Leads name value := by
  refine ⟨sendable_message .., ?_, fun _ _ _ => ValueMap.lookup_eq_some_iff⟩
  rw [message_eq, source_eq]
  exact chosen_first? ..

/-- The metadata comes before the entries of the map. -/
example : (ofTemplate (some " ")).message
    [("request", .string "hum"), ("metadata", .object [("query", .string " sing ")])] [] = "sing" := by
  decide +kernel

end Prompt
end AgentGraph
