import AgentGraph.Proofs.Assembling
import AgentGraph.Proofs.Ordered
import AgentGraph.Value.Basic

/-! Two ways from a text to a value.

A value can be read by way of a JSON value, or straight from the text by trying the kinds of value one
after the other. Both begin with what is written in the text, so they are compared there. A JSON value
is the written one with its members put in order, of equal names the last; and only one kind fits any
written value, so the order in which the kinds are tried does not show.

* `Value.Means`: the value that is meant by what is written.
* `readAny_eq_content`: a JSON value is read as what is written, put in order.
* `Value.ofContent?_eq`: of the kinds of value the right one is found.
* `Value.means_iff`: what is written means one value.
* `Value.readings_agree`: both ways lead to that value, or to the same fault. -/
namespace AgentGraph
set_option autoImplicit false

/-! ## Lists in JSON values -/

namespace Json

theorem sortedItems_eq (items : List Json) : sortedItems items = items.map sorted := by
  induction items with
  | nil => rfl
  | cons item rest ih => rw [sortedItems, ih, List.map_cons]

theorem sortedMembers_eq (members : List (String × Json)) :
    sortedMembers members = Fields.mapValues sorted members := by
  induction members with
  | nil => rfl
  | cons m rest ih =>
    obtain ⟨name, value⟩ := m
    rw [sortedMembers, ih]
    rfl

end Json

namespace Value

theorem ofItems_eq (items : List Json) : ofItems items = items.map ofJson := by
  induction items with
  | nil => rfl
  | cons item rest ih => rw [ofItems, ih, List.map_cons]

theorem ofMembers_eq (members : List (String × Json)) :
    ofMembers members = Fields.mapValues ofJson members := by
  induction members with
  | nil => rfl
  | cons m rest ih =>
    obtain ⟨name, value⟩ := m
    rw [ofMembers, ih]
    rfl

/-- The value of what is written. -/
def ofWritten (j : Json) : Value := ofJson j.sorted

theorem ofWritten_array (items : List Json) :
    ofWritten (.array items) = .array (items.map ofWritten) := by
  have hsorted : (Json.array items).sorted = .array (items.map Json.sorted) := by
    rw [Json.sorted, Json.sortedItems_eq]
  rw [ofWritten, hsorted, ofJson, ofItems_eq, List.map_map]
  rfl

theorem mapValues_ofWritten (members : List (String × Json)) :
    Fields.mapValues ofWritten members =
      Fields.mapValues ofJson (Fields.mapValues Json.sorted members) := by
  simp [Fields.mapValues, ofWritten]

theorem ofWritten_object (members : List (String × Json)) :
    ofWritten (.object members) = .object (Fields.ofList (Fields.mapValues ofWritten members)) := by
  have hsorted : (Json.object members).sorted =
      .object (Fields.ofList (Fields.mapValues Json.sorted members)) := by
    rw [Json.sorted, Json.sortedMembers_eq]
  have hinserted := Fields.mapValues_extend ofJson [] (Fields.mapValues Json.sorted members)
  rw [ofWritten, hsorted, ofJson, ofMembers_eq, mapValues_ofWritten]
  exact congrArg Value.object hinserted

end Value

/-! ## By way of a JSON value -/

namespace Json

mutual

/-- A JSON value is read as what is written, put in order. -/
theorem readAny_eq_content (room : Nat) (d : Doc) :
    readAny room d = (Value.content room d).map sorted := by
  match d with
  | .scalar _ _ content =>
    cases content with
    | error f => rfl
    | ok s => cases s <;> rfl
  | .broken _ _ _ => rfl
  | .list start items close =>
    cases henter : enter room start with
    | error f => simp only [readAny, Value.content, henter, bind, Except.bind, Except.map]
    | ok inner =>
      have hitems := readAnyItems_eq_content inner items
      simp only [readAny, Value.content, henter, hitems, bind, Except.bind]
      cases Value.contentItems inner items with
      | error f => rfl
      | ok written =>
        cases close.listFault with
        | none => rfl
        | some f => rfl
  | .object start members close =>
    cases henter : enter room start with
    | error f => simp only [readAny, Value.content, henter, bind, Except.bind, Except.map]
    | ok inner =>
      have hmembers := readAnyMembers_eq_content inner members
      simp only [readAny, Value.content, henter, hmembers, bind, Except.bind]
      cases Value.contentMembers inner members with
      | error f => rfl
      | ok written =>
        cases close.objectFault with
        | none => rfl
        | some f => rfl

theorem readAnyItems_eq_content (room : Nat) (items : List Doc) :
    readAnyItems room items = (Value.contentItems room items).map sortedItems := by
  match items with
  | [] => rfl
  | item :: rest =>
    have hitem := readAny_eq_content room item
    have hrest := readAnyItems_eq_content room rest
    simp only [readAnyItems, Value.contentItems, hitem, hrest, bind, Except.bind]
    cases Value.content room item with
    | error f => rfl
    | ok j => cases Value.contentItems room rest <;> rfl

theorem readAnyMembers_eq_content (room : Nat) (members : List (Key × Doc)) :
    readAnyMembers room members = (Value.contentMembers room members).map sortedMembers := by
  match members with
  | [] => rfl
  | (key, value) :: rest =>
    have hvalue := readAny_eq_content room value
    have hrest := readAnyMembers_eq_content room rest
    simp only [readAnyMembers, Value.contentMembers, hvalue, hrest, bind, Except.bind]
    cases key.name with
    | error f => rfl
    | ok name =>
      cases Value.content room value with
      | error f => rfl
      | ok j => cases Value.contentMembers room rest <;> rfl

end

end Json

/-! ## Straight from what is written -/

namespace Value

mutual

/-- Of the kinds of value the right one is found. -/
theorem ofContent?_eq (j : Json) : ofContent? j = some (ofWritten j) := by
  match j with
  | .null => rfl
  | .bool b => rfl
  | .number n => rfl
  | .string s => rfl
  | .array items =>
    have hitems := itemsOfContent?_eq items
    rw [ofContent?, hitems, ofWritten_array]
    rfl
  | .object members =>
    have hmembers := fieldsOfContent?_eq [] members
    rw [ofContent?, hmembers, ofWritten_object]
    rfl

theorem itemsOfContent?_eq (items : List Json) :
    itemsOfContent? items = some (items.map ofWritten) := by
  match items with
  | [] => rfl
  | item :: rest =>
    have hitem := ofContent?_eq item
    have hrest := itemsOfContent?_eq rest
    simp only [itemsOfContent?, hitem, hrest]
    rfl

theorem fieldsOfContent?_eq (fields : ValueMap) (members : List (String × Json)) :
    fieldsOfContent? fields members =
      some (Fields.extend fields (Fields.mapValues ofWritten members)) := by
  match members with
  | [] => rfl
  | (name, value) :: rest =>
    have hvalue := ofContent?_eq value
    have hrest := fieldsOfContent?_eq (fields.insert name (ofWritten value)) rest
    simp only [fieldsOfContent?, hvalue]
    exact hrest

end

theorem read_eq (room : Nat) (d : Json.Doc) : read room d = (content room d).map ofWritten := by
  unfold read
  cases content room d with
  | error f => rfl
  | ok j =>
    simp only [bind, Except.bind, ofContent?_eq]
    rfl

/-- Both readers give the same value, or the same fault, for every document. -/
theorem read_eq_readAny (room : Nat) (d : Json.Doc) :
    read room d = (Json.readAny room d).map ofJson := by
  rw [read_eq, Json.readAny_eq_content]
  cases content room d <;> rfl

/-! ## What is meant -/

/-- The value that is meant by what is written: of the same kind at every depth, with the double that
is nearest to an integer, and with the last of several members of one name. -/
inductive Means : Json → Value → Prop
  | null : Means .null .null
  | bool {b : Bool} : Means (.bool b) (.bool b)
  | number {n : Json.Number} : Means (.number n) (.number n.toFloat)
  | string {s : String} : Means (.string s) (.string s)
  | array {items : List Json} {values : List Value} (h : List.Forall₂ Means items values) :
      Means (.array items) (.array values)
  | object {members : List (String × Json)} {fields : ValueMap} (hordered : Fields.Ordered fields)
      (h : ∀ name, Option.Rel Means (Fields.get? members.reverse name) (fields.get? name)) :
      Means (.object members) (.object fields)

theorem get?_written (members : List (String × Json)) (name : String) :
    (Fields.ofList (Fields.mapValues ofWritten members)).get? name =
      (Fields.get? members.reverse name).map ofWritten := by
  rw [Fields.get?_ofList, ← Fields.get?_mapValues]
  simp [Fields.mapValues]

theorem mem_of_get?_reverse {members : List (String × Json)} {name : String} {value : Json}
    (h : Fields.get? members.reverse name = some value) : (name, value) ∈ members :=
  List.mem_reverse.mp (Fields.mem_of_get? h)

theorem means_object {members : List (String × Json)}
    (h : ∀ m ∈ members, Means m.2 (ofWritten m.2)) :
    Means (.object members) (ofWritten (.object members)) := by
  rw [ofWritten_object]
  refine .object (Fields.ordered_ofList _) fun name => ?_
  rw [get?_written]
  cases hget : Fields.get? members.reverse name with
  | none => exact .none
  | some value => exact .some (h _ (mem_of_get?_reverse hget))

theorem eq_of_object {members : List (String × Json)} {fields : ValueMap}
    (hordered : Fields.Ordered fields)
    (hfields : ∀ name, Option.Rel Means (Fields.get? members.reverse name) (fields.get? name))
    (h : ∀ m ∈ members, ∀ v, Means m.2 v → v = ofWritten m.2) :
    Value.object fields = ofWritten (.object members) := by
  rw [ofWritten_object]
  refine congrArg Value.object (hordered.ext (Fields.ordered_ofList _) fun name => ?_)
  have hname := hfields name
  rw [get?_written]
  cases hget : Fields.get? members.reverse name with
  | none =>
    rw [hget] at hname
    cases hfound : fields.get? name with
    | none => rfl
    | some v => rw [hfound] at hname; cases hname
  | some value =>
    rw [hget] at hname
    cases hfound : fields.get? name with
    | none => rw [hfound] at hname; cases hname
    | some v =>
      rw [hfound] at hname
      cases hname with
      | some hmeans => rw [h _ (mem_of_get?_reverse hget) v hmeans]; rfl

mutual

theorem means_ofWritten (j : Json) : Means j (ofWritten j) := by
  match j with
  | .null => exact .null
  | .bool b => exact .bool
  | .number n => exact .number
  | .string s => exact .string
  | .array items =>
    rw [ofWritten_array]
    exact .array (meansItems_ofWritten items)
  | .object members => exact means_object (meansMembers_ofWritten members)

theorem meansItems_ofWritten (items : List Json) :
    List.Forall₂ Means items (items.map ofWritten) := by
  match items with
  | [] => exact .nil
  | item :: rest => exact .cons (means_ofWritten item) (meansItems_ofWritten rest)

theorem meansMembers_ofWritten (members : List (String × Json)) :
    ∀ m ∈ members, Means m.2 (ofWritten m.2) := by
  match members with
  | [] => exact List.forall_mem_nil _
  | (name, value) :: rest =>
    exact List.forall_mem_cons.mpr ⟨means_ofWritten value, meansMembers_ofWritten rest⟩

end

mutual

theorem eq_of_means (j : Json) {v : Value} (h : Means j v) : v = ofWritten j := by
  match j, h with
  | .null, .null => rfl
  | .bool _, .bool => rfl
  | .number _, .number => rfl
  | .string _, .string => rfl
  | .array items, .array h =>
    rw [ofWritten_array]
    exact congrArg Value.array (eqItems_of_means items h)
  | .object members, .object hordered h => exact eq_of_object hordered h (eqMembers_of_means members)

theorem eqItems_of_means (items : List Json) {values : List Value}
    (h : List.Forall₂ Means items values) : values = items.map ofWritten := by
  match items, h with
  | [], .nil => rfl
  | item :: rest, .cons hfirst hrest =>
    rw [eq_of_means item hfirst, eqItems_of_means rest hrest]
    rfl

theorem eqMembers_of_means (members : List (String × Json)) :
    ∀ m ∈ members, ∀ v, Means m.2 v → v = ofWritten m.2 := by
  match members with
  | [] => exact List.forall_mem_nil _
  | (name, value) :: rest =>
    exact List.forall_mem_cons.mpr ⟨fun _ h => eq_of_means value h, eqMembers_of_means rest⟩

end

/-- What is written means one value. -/
theorem means_iff {j : Json} {v : Value} : Means j v ↔ v = ofWritten j := by
  constructor
  · exact eq_of_means j
  · rintro rfl
    exact means_ofWritten j

/-! ## Texts -/

theorem onText_map {α β : Type} {reader : Json.Reader α} {reader' : Json.Reader β} {f : α → β}
    (h : ∀ room d, reader' room d = (reader room d).map f) (text : String) :
    reader'.onText text = (reader.onText text).map f := by
  rcases hd : Json.Doc.ofChars text.toList with ⟨d, after⟩
  rw [Json.onText_of_ofChars hd, Json.onText_of_ofChars hd, h]
  cases reader Json.maxDepth d with
  | error e => rfl
  | ok a => cases after <;> rfl

/-- Reading a text straight into a value and reading it as JSON first come to the same: to the one value
that is meant by what is written, if the text can be taken in at all, and else to the same fault. -/
theorem readings_agree (text : String) :
    read.onText text = (Json.parse text).map ofJson ∧
      ∀ v, read.onText text = .ok v ↔ ∃ j, Json.Reader.onText content text = .ok j ∧ Means j v := by
  have hread : read.onText text = (Json.Reader.onText content text).map ofWritten :=
    onText_map read_eq text
  refine ⟨onText_map read_eq_readAny text, fun v => ?_⟩
  rw [hread]
  cases hcontent : Json.Reader.onText content text with
  | error e =>
    constructor
    · rintro ⟨⟩
    · rintro ⟨j, ⟨⟩, -⟩
  | ok j =>
    constructor
    · rintro ⟨⟩
      exact ⟨j, rfl, means_ofWritten j⟩
    · rintro ⟨_, ⟨⟩, hmeans⟩
      rw [means_iff.mp hmeans]
      rfl

end Value

end AgentGraph
