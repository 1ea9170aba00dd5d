import AgentGraph.Proofs.Finite
import AgentGraph.Proofs.Ordered
import AgentGraph.Value.Basic

/-! Values that are printed and read back.

The document of a printed value holds no fault, so whether it is read depends on its depth alone: a
reader enters one container after the other until there is no room left.

* `Value.readAny_shown`, `Value.readAny_too_deep`: what is read of such a document, with enough room and
  with too little.
* `Value.text_round_trip`: a value is read back from its text if containers do not nest too deep in it,
  so its text tells it from every other value. -/
namespace AgentGraph
set_option autoImplicit false

namespace Value

/-! ## Depth, numbers and order -/

mutual

/-- How many arrays and objects stand inside one another. -/
def depth : Value → Nat
  | .array items => itemsDepth items + 1
  | .object fields => fieldsDepth fields + 1
  | _ => 0

def itemsDepth : List Value → Nat
  | [] => 0
  | item :: rest => max item.depth (itemsDepth rest)

def fieldsDepth : List (String × Value) → Nat
  | [] => 0
  | (_, value) :: rest => max value.depth (fieldsDepth rest)

end

mutual

/-- All numbers in the value. -/
def numbers : Value → List Float
  | .number x => [x]
  | .array items => itemsNumbers items
  | .object fields => fieldsNumbers fields
  | _ => []

def itemsNumbers : List Value → List Float
  | [] => []
  | item :: rest => item.numbers ++ itemsNumbers rest

def fieldsNumbers : List (String × Value) → List Float
  | [] => []
  | (_, value) :: rest => value.numbers ++ fieldsNumbers rest

end

/-- In every object of the value the names increase, as they do in a map. -/
inductive Ordered : Value → Prop
  | null : Ordered .null
  | bool {b : Bool} : Ordered (.bool b)
  | number {x : Float} : Ordered (.number x)
  | string {s : String} : Ordered (.string s)
  | array {items : List Value} (h : ∀ v ∈ items, Ordered v) : Ordered (.array items)
  | object {fields : ValueMap} (hnames : Fields.Ordered fields) (h : ∀ e ∈ fields, Ordered e.2) :
      Ordered (.object fields)

theorem Ordered.of_array {items : List Value} (h : Ordered (.array items)) :
    ∀ v ∈ items, Ordered v := by
  cases h
  assumption

theorem Ordered.of_object {fields : ValueMap} (h : Ordered (.object fields)) :
    Fields.Ordered fields ∧ ∀ e ∈ fields, Ordered e.2 := by
  cases h with
  | object hnames hfields => exact ⟨hnames, hfields⟩

/-! ## As JSON -/

mutual

theorem ofJson_toJson (v : Value) : ofJson v.toJson = v := by
  match v with
  | .null | .bool _ | .number _ | .string _ => rfl
  | .array items => rw [toJson, ofJson, ofItems_toItems]
  | .object fields => rw [toJson, ofJson, ofMembers_toMembers]

theorem ofItems_toItems (items : List Value) : ofItems (toItems items) = items := by
  match items with
  | [] => rfl
  | item :: rest => rw [toItems, ofItems, ofJson_toJson item, ofItems_toItems rest]

theorem ofMembers_toMembers (fields : List (String × Value)) :
    ofMembers (toMembers fields) = fields := by
  match fields with
  | [] => rfl
  | (name, value) :: rest =>
    rw [toMembers, ofMembers, ofJson_toJson value, ofMembers_toMembers rest]

end

theorem toMembers_eq (fields : List (String × Value)) :
    toMembers fields = Fields.mapValues toJson fields := by
  induction fields with
  | nil => rfl
  | cons e rest ih =>
    obtain ⟨name, value⟩ := e
    rw [toMembers, ih]
    rfl

theorem ofList_toMembers {fields : ValueMap} (h : Fields.Ordered fields) :
    Fields.ofList (toMembers fields) = toMembers fields := by
  rw [toMembers_eq]
  exact (h.mapValues toJson).ofList_eq

mutual

theorem toJson_legible (v : Value)
    (h : ∀ x ∈ v.numbers, Json.parse (Decimal.jsonText x) = .ok (.ofFloat x)) : v.toJson.Legible := by
  match v with
  | .null => exact .null
  | .bool _ => exact .bool
  | .number x => exact .number (Json.legible_ofFloat (h x List.mem_cons_self))
  | .string _ => exact .string
  | .array items => exact .array (toItems_legible items h)
  | .object fields => exact .object (toMembers_legible fields h)

theorem toItems_legible (items : List Value)
    (h : ∀ x ∈ itemsNumbers items, Json.parse (Decimal.jsonText x) = .ok (.ofFloat x)) :
    ∀ j ∈ toItems items, j.Legible := by
  match items with
  | [] => exact List.forall_mem_nil _
  | item :: rest =>
    obtain ⟨hitem, hrest⟩ := List.forall_mem_append.mp h
    exact List.forall_mem_cons.mpr ⟨toJson_legible item hitem, toItems_legible rest hrest⟩

theorem toMembers_legible (fields : List (String × Value))
    (h : ∀ x ∈ fieldsNumbers fields, Json.parse (Decimal.jsonText x) = .ok (.ofFloat x)) :
    ∀ m ∈ toMembers fields, m.2.Legible := by
  match fields with
  | [] => exact List.forall_mem_nil _
  | (name, value) :: rest =>
    obtain ⟨hvalue, hrest⟩ := List.forall_mem_append.mp h
    exact List.forall_mem_cons.mpr ⟨toJson_legible value hvalue, toMembers_legible rest hrest⟩

end

/-! ## Documents that show a value -/

section Shown

open Json

theorem readAny_array {room : Nat} {start stop : Option Nat} {docs : List Doc} :
    readAny (room + 1) (.list start docs (.closed stop)) = (readAnyItems room docs).map .array := by
  have henter : enter (room + 1) start = .ok room := rfl
  simp only [readAny, henter, bind, Except.bind]
  cases readAnyItems room docs <;> rfl

theorem readAny_object {room : Nat} {start stop : Option Nat} {entries : List (Key × Doc)} :
    readAny (room + 1) (.object start entries (.closed stop)) =
      (readAnyMembers room entries).map fun members => .object (Fields.ofList members) := by
  have henter : enter (room + 1) start = .ok room := rfl
  simp only [readAny, henter, bind, Except.bind]
  cases readAnyMembers room entries <;> rfl

mutual

theorem readAny_shown (v : Value) {room : Nat} {d : Doc} (hv : v.Ordered) (hroom : v.depth ≤ room)
    (hd : Doc.Shows v.toJson d) : readAny room d = .ok v.toJson := by
  match v, room, hroom with
  | .null, _, _ | .bool _, _, _ | .number _, _, _ | .string _, _, _ => cases hd; rfl
  | .array items, room + 1, hroom =>
    cases hd with
    | list hshown =>
      have hitems := readAnyItems_shown items hv.of_array (Nat.le_of_succ_le_succ hroom) hshown
      rw [readAny_array, hitems]
      rfl
  | .object fields, room + 1, hroom =>
    cases hd with
    | object hshown =>
      obtain ⟨hnames, hfields⟩ := hv.of_object
      have hmembers := readAnyMembers_shown fields hfields (Nat.le_of_succ_le_succ hroom) hshown
      rw [readAny_object, hmembers, Except.map, ofList_toMembers hnames]
      rfl

theorem readAnyItems_shown (items : List Value) {room : Nat} {docs : List Doc}
    (hitems : ∀ v ∈ items, v.Ordered) (hroom : itemsDepth items ≤ room)
    (hshown : ItemsShown (toItems items) docs) : readAnyItems room docs = .ok (toItems items) := by
  match items with
  | [] => cases hshown; rfl
  | item :: rest =>
    obtain ⟨hitem, hrest⟩ := List.forall_mem_cons.mp hitems
    obtain ⟨hfirst, hothers⟩ := Nat.max_le.mp hroom
    cases hshown with
    | cons hd hdocs =>
      have hread := readAny_shown item hitem hfirst hd
      have hmore := readAnyItems_shown rest hrest hothers hdocs
      simp only [readAnyItems, hread, hmore, bind, Except.bind]
      rfl

theorem readAnyMembers_shown (fields : List (String × Value)) {room : Nat}
    {entries : List (Key × Doc)} (hfields : ∀ e ∈ fields, e.2.Ordered)
    (hroom : fieldsDepth fields ≤ room) (hshown : MembersShown (toMembers fields) entries) :
    readAnyMembers room entries = .ok (toMembers fields) := by
  match fields with
  | [] => cases hshown; rfl
  | (name, value) :: rest =>
    obtain ⟨hvalue, hrest⟩ := List.forall_mem_cons.mp hfields
    obtain ⟨hfirst, hothers⟩ := Nat.max_le.mp hroom
    cases hshown with
    | cons hkey hd hentries =>
      have hread := readAny_shown value hvalue hfirst hd
      have hmore := readAnyMembers_shown rest hrest hothers hentries
      simp only [readAnyMembers, hkey, hread, hmore, bind, Except.bind]
      rfl

end

/-- What is read is refused for its depth. -/
def TooDeep {α : Type} (result : Except Fault α) : Prop :=
  ∃ offset, result = .error ⟨.nestedTooDeep, offset⟩

theorem TooDeep.map {α β : Type} {result : Except Fault α} (h : TooDeep result) (f : α → β) :
    TooDeep (result.map f) := by
  obtain ⟨offset, rfl⟩ := h
  exact ⟨offset, rfl⟩

mutual

theorem readAny_too_deep (v : Value) {room : Nat} {d : Doc} (hv : v.Ordered) (hroom : room < v.depth)
    (hd : Doc.Shows v.toJson d) : TooDeep (readAny room d) := by
  match v, room, hroom with
  | .array items, 0, _ => cases hd; exact ⟨_, rfl⟩
  | .object fields, 0, _ => cases hd; exact ⟨_, rfl⟩
  | .array items, room + 1, hroom =>
    cases hd with
    | list hshown =>
      rw [readAny_array]
      exact (readAnyItems_too_deep items hv.of_array (Nat.lt_of_succ_lt_succ hroom) hshown).map _
  | .object fields, room + 1, hroom =>
    cases hd with
    | object hshown =>
      rw [readAny_object]
      exact (readAnyMembers_too_deep fields hv.of_object.2 (Nat.lt_of_succ_lt_succ hroom) hshown).map _

theorem readAnyItems_too_deep (items : List Value) {room : Nat} {docs : List Doc}
    (hitems : ∀ v ∈ items, v.Ordered) (hroom : room < itemsDepth items)
    (hshown : ItemsShown (toItems items) docs) : TooDeep (readAnyItems room docs) := by
  match items with
  | item :: rest =>
    obtain ⟨hitem, hrest⟩ := List.forall_mem_cons.mp hitems
    cases hshown with
    | cons hd hdocs =>
      -- The first item that is too deep decides; those before it are read.
      by_cases hfirst : item.depth ≤ room
      · have hmax : room < itemsDepth rest := by
          rw [itemsDepth] at hroom
          omega
        obtain ⟨offset, hmore⟩ := readAnyItems_too_deep rest hrest hmax hdocs
        have hread := readAny_shown item hitem hfirst hd
        exact ⟨offset, by simp only [readAnyItems, hread, hmore, bind, Except.bind]⟩
      · obtain ⟨offset, hread⟩ := readAny_too_deep item hitem (Nat.lt_of_not_le hfirst) hd
        exact ⟨offset, by simp only [readAnyItems, hread, bind, Except.bind]⟩

theorem readAnyMembers_too_deep (fields : List (String × Value)) {room : Nat}
    {entries : List (Key × Doc)} (hfields : ∀ e ∈ fields, e.2.Ordered)
    (hroom : room < fieldsDepth fields) (hshown : MembersShown (toMembers fields) entries) :
    TooDeep (readAnyMembers room entries) := by
  match fields with
  | (name, value) :: rest =>
    obtain ⟨hvalue, hrest⟩ := List.forall_mem_cons.mp hfields
    cases hshown with
    | cons hkey hd hentries =>
      by_cases hfirst : value.depth ≤ room
      · have hmax : room < fieldsDepth rest := by
          rw [fieldsDepth] at hroom
          omega
        obtain ⟨offset, hmore⟩ := readAnyMembers_too_deep rest hrest hmax hentries
        have hread := readAny_shown value hvalue hfirst hd
        exact ⟨offset, by simp only [readAnyMembers, hkey, hread, hmore, bind, Except.bind]⟩
      · obtain ⟨offset, hread⟩ := readAny_too_deep value hvalue (Nat.lt_of_not_le hfirst) hd
        exact ⟨offset, by simp only [readAnyMembers, hkey, hread, bind, Except.bind]⟩

end

end Shown

/-! ## Texts -/

/-- The names in the value are in order and its numbers are finite. -/
structure Regular (v : Value) : Prop where
  ordered : v.Ordered
  finite : ∀ x ∈ v.numbers, x.isFinite

/-- The finite numbers in the value are read as they are printed. -/
def PrintsExactly (v : Value) : Prop :=
  ∀ x ∈ v.numbers, x.isFinite → Json.parse (Decimal.jsonText x) = .ok (Json.ofFloat x)

section Texts

variable {v : Value}

theorem exists_shown (hv : v.Regular) (hprint : v.PrintsExactly) :
    ∃ d, Json.Doc.Shows v.toJson d ∧ Json.Doc.ofChars v.jsonText.toList = (d, none) :=
  Json.Doc.ofChars_compact (toJson_legible v fun x hx => hprint x hx (hv.finite x hx))

theorem parse_jsonText (hv : v.Regular) (hprint : v.PrintsExactly) (hdepth : v.depth ≤ 127) :
    Json.parse v.jsonText = .ok v.toJson := by
  obtain ⟨d, hshows, hd⟩ := exists_shown hv hprint
  exact Json.onText_eq_ok_iff.mpr ⟨d, hd, readAny_shown v hv.ordered hdepth hshows⟩

theorem parse_too_deep (hv : v.Regular) (hprint : v.PrintsExactly) (hdepth : 127 < v.depth) :
    ∃ e, Json.parse v.jsonText = .error e ∧ e.cause = .nestedTooDeep := by
  obtain ⟨d, hshows, hd⟩ := exists_shown hv hprint
  have hread : TooDeep (Json.readAny Json.maxDepth d) := readAny_too_deep v hv.ordered hdepth hshows
  obtain ⟨offset, hread⟩ := hread
  refine ⟨Json.Fault.locate ⟨.nestedTooDeep, offset⟩ v.jsonText.toList, ?_, rfl⟩
  rw [Json.parse, Json.onText_of_ofChars hd, hread]
  rfl

/-- A value with at most 127 arrays and objects inside one another is read back from its text, if its
numbers are; with more of them it is refused. So no other value of that kind has its text. -/
theorem text_round_trip (v : Value) (hv : v.Regular) (hprint : v.PrintsExactly) :
    (v.depth ≤ 127 → (Json.parse v.jsonText).map ofJson = .ok v) ∧
      (127 < v.depth → ∃ e, Json.parse v.jsonText = .error e ∧ e.cause = .nestedTooDeep) ∧
      ∀ w : Value, w.Regular → w.PrintsExactly → w.depth ≤ 127 → w.jsonText = v.jsonText → w = v := by
  have hparse (u : Value) (hu : u.Regular) (hprint : u.PrintsExactly) (hdepth : u.depth ≤ 127) :
      (Json.parse u.jsonText).map ofJson = .ok u := by
    rw [parse_jsonText hu hprint hdepth]
    exact congrArg Except.ok u.ofJson_toJson
  refine ⟨hparse v hv hprint, parse_too_deep hv hprint, fun w hw hwprint hdepth htext => ?_⟩
  have hread := hparse w hw hwprint hdepth
  rw [htext] at hread
  -- A text that is read is not the text of a value that is too deep.
  have hshallow : v.depth ≤ 127 := by
    by_contra hdeep
    obtain ⟨e, herror, -⟩ := parse_too_deep hv hprint (Nat.lt_of_not_le hdeep)
    rw [herror] at hread
    cases hread
  rw [hparse v hv hprint hshallow] at hread
  exact (Except.ok.inj hread).symm

end Texts

/-- A value with all kinds of value in it, and with a name and a string that are not printed as they
stand. -/
def assorted : Value :=
  .object [("a\"\n", .array [.number 0.7, .null, .bool true, .string "\\\x01😀"]), ("b", .object [])]

theorem text_round_trip_assorted : assorted.Regular ∧ assorted.PrintsExactly ∧ assorted.depth ≤ 127 ∧
    (Json.parse assorted.jsonText).map ofJson = .ok assorted := by
  have hordered : assorted.Ordered := by
    refine .object (List.pairwise_pair.mpr (by decide)) ?_
    refine List.forall_mem_cons.mpr ⟨.array ?_, List.forall_mem_singleton.mpr ?_⟩
    · intro v hv
      simp only [List.mem_cons, List.not_mem_nil, or_false] at hv
      rcases hv with rfl | rfl | rfl | rfl
      · exact .number
      · exact .null
      · exact .bool
      · exact .string
    · exact .object .nil (List.forall_mem_nil _)
  have hregular : assorted.Regular := ⟨hordered, List.forall_mem_singleton.mpr (by decide +kernel)⟩
  have hprint : assorted.PrintsExactly := by
    refine List.forall_mem_singleton.mpr fun _ => ?_
    have hchars : (Json.Number.float 0.7).chars = ['0', '.', '7'] := by decide +kernel
    have hlegible := Json.legible_of_scan hchars (by decide) fun _ => ⟨rfl, rfl, rfl⟩
    have hread := Json.parse_of_legible hlegible
    rwa [Json.Number.chars, String.ofList_toList] at hread
  have hdepth : assorted.depth ≤ 127 := by decide
  exact ⟨hregular, hprint, hdepth, (text_round_trip assorted hregular hprint).1 hdepth⟩

end Value

end AgentGraph
