import AgentGraph.Graph.Format
import AgentGraph.Proofs.Assembling

/-! Reading back what was written.

A reader gives a value for some JSON if it makes the value of every document that shows the JSON.
For a record the members that were written are matched with its fields in order; a field that was
left out keeps what the record had there.

* `Record.gives`: a record whose fields are filled by the members is read from them. -/
namespace AgentGraph.Json

set_option autoImplicit false

/-- Reads the value in this much room or more from any document that shows the JSON. -/
def Reader.Gives {α : Type} (reader : Reader α) (depth : Nat) (j : Json) (a : α) : Prop :=
  ∀ {room d}, depth ≤ room → Doc.Shows j d → reader room d = .ok a

/-! ## Scalars, options and lists -/

theorem readString_gives (depth : Nat) (s : String) : Reader.Gives readString depth (.string s) s := by
  intro room d _ hd
  cases hd
  rfl

theorem readFloat_gives (depth : Nat) (x : Float) : Reader.Gives readFloat depth (.ofFloat x) x := by
  intro room d _ hd
  cases hd
  rfl

theorem readNat_gives {width n : Nat} (h : n < Decimal.twoTo width) (depth : Nat)
    (expected : String) : Reader.Gives (readNat width expected) depth (.ofNat n) n := by
  intro room d _ hd
  cases hd
  have hin : 0 ≤ (n : Int) && (n : Int) < Decimal.twoTo width := by simp [h]
  exact if_pos hin

section Readers

variable {α β : Type} {reader : Reader β} {depth : Nat}

theorem readOption_gives {j : Json} {b : β} (hnull : j ≠ .null) (h : reader.Gives depth j b) :
    (readOption reader).Gives depth j (some b) := by
  intro room d hroom hd
  have hread := h hroom hd
  unfold readOption
  split
  · cases hd
    exact absurd rfl hnull
  · rw [hread]
    rfl

theorem mapM_of_shown {toJson : β → Json} {items : List β} {docs : List Doc} {room : Nat}
    (hitems : ∀ b ∈ items, reader.Gives depth (toJson b) b) (hroom : depth ≤ room)
    (h : ItemsShown (items.map toJson) docs) : docs.mapM (reader room) = .ok items := by
  induction items generalizing docs with
  | nil =>
    cases h
    rfl
  | cons b items ih =>
    obtain ⟨hb, hitems⟩ := List.forall_mem_cons.mp hitems
    cases h with
    | cons first rest =>
      rw [List.mapM_cons, hb hroom first]
      simp only [ih hitems rest]
      rfl

theorem readList_gives {toJson : β → Json} {items : List β}
    (h : ∀ b ∈ items, reader.Gives depth (toJson b) b) :
    (readList reader).Gives (depth + 1) (.array (items.map toJson)) items := by
  intro room d hroom hd
  cases hd with
  | list hshown =>
    cases room with
    | zero => cases hroom
    | succ room =>
      have hitems := mapM_of_shown h (Nat.le_of_succ_le_succ hroom) hshown
      simp only [readList, enter, bind, Except.bind, hitems]
      rfl

end Readers

/-! ## Records -/

section Records

variable {α : Type} {depth : Nat}

/-- The members fill the fields in order and make `c` of `a`. -/
inductive Fills (depth : Nat) : List (Field α) → List (String × Json) → α → α → Prop
  | nil {a : α} : Fills depth [] [] a a
  | given {f : Field α} {fields : List (Field α)} {j : Json} {members : List (String × Json)}
      {a b c : α} (hread : ∀ {room d}, depth ≤ room → Doc.Shows j d → f.read room d a = .ok b)
      (rest : Fills depth fields members b c) :
      Fills depth (f :: fields) ((f.name, j) :: members) a c
  | omitted {f : Field α} {fields : List (Field α)} {members : List (String × Json)} {a c : α}
      (h : f.required = false) (rest : Fills depth fields members a c) :
      Fills depth (f :: fields) members a c

theorem find?_of_nodup {fields : List (Field α)} {f : Field α} (h : (fields.map Field.name).Nodup)
    (hf : f ∈ fields) : fields.find? (·.name == f.name) = some f := by
  induction fields with
  | nil => cases hf
  | cons g fields ih =>
    obtain ⟨hg, hrest⟩ := List.nodup_cons.mp h
    rcases List.mem_cons.mp hf with rfl | hf
    · exact List.find?_cons_of_pos (beq_self_eq_true _)
    · have hne : g.name ≠ f.name := fun heq => hg (heq ▸ List.mem_map_of_mem hf)
      rw [List.find?_cons_of_neg (by rwa [beq_iff_eq])]
      exact ih hrest hf

theorem readMembers_of_fills {r : Record α} {fields : List (Field α)}
    {members : List (String × Json)} {entries : List (Key × Doc)} {a c : α} {room : Nat}
    (seen : List String) (h : Fills depth fields members a c) (hshown : MembersShown members entries)
    (hroom : depth ≤ room) (hfind : ∀ f ∈ fields, r.fields.find? (·.name == f.name) = some f)
    (hnodup : (fields.map Field.name).Nodup) (hseen : ∀ f ∈ fields, f.name ∉ seen) :
    ∃ seen', r.readMembers room seen a entries = .ok (seen', c) ∧ (∀ name ∈ seen, name ∈ seen') ∧
      ∀ f ∈ fields, f.required → f.name ∈ seen' := by
  induction h generalizing entries seen with
  | nil =>
    cases hshown
    exact ⟨seen, rfl, fun _ hname => hname, List.forall_mem_nil _⟩
  | @given f fields j members a b c hread _ ih =>
    obtain ⟨hf, hfind⟩ := List.forall_mem_cons.mp hfind
    obtain ⟨hnew, hseen⟩ := List.forall_mem_cons.mp hseen
    rw [List.map_cons, List.nodup_cons] at hnodup
    cases hshown with
    | @cons _ _ _ key d entries hkey first rest =>
      have hothers : ∀ g ∈ fields, g.name ∉ f.name :: seen := by
        intro g hg hmem
        rcases List.mem_cons.mp hmem with heq | hmem
        · exact hnodup.1 (heq ▸ List.mem_map_of_mem hg)
        · exact hseen g hg hmem
      obtain ⟨seen', hmembers, hkept, hrequired⟩ := ih (f.name :: seen) rest hfind hnodup.2 hothers
      refine ⟨seen', ?_, fun name hname => hkept name (List.mem_cons_of_mem _ hname), ?_⟩
      · have hnot : seen.contains f.name = false := by
          rw [List.contains_eq_mem, decide_eq_false_iff_not]
          exact hnew
        simp only [Record.readMembers, hkey, bind, Except.bind, hf, hnot, Bool.false_eq_true,
          if_false, hread hroom first, hmembers]
      · exact List.forall_mem_cons.mpr ⟨fun _ => hkept _ List.mem_cons_self, hrequired⟩
  | @omitted f fields members a c hoptional _ ih =>
    obtain ⟨-, hfind⟩ := List.forall_mem_cons.mp hfind
    obtain ⟨-, hseen⟩ := List.forall_mem_cons.mp hseen
    rw [List.map_cons, List.nodup_cons] at hnodup
    obtain ⟨seen', hmembers, hkept, hrequired⟩ := ih seen hshown hfind hnodup.2 hseen
    refine ⟨seen', hmembers, hkept, List.forall_mem_cons.mpr ⟨fun hreq => ?_, hrequired⟩⟩
    rw [hoptional] at hreq
    cases hreq

theorem Record.gives {r : Record α} {members : List (String × Json)} {empty a : α}
    (hnodup : (r.fields.map Field.name).Nodup) (h : Fills depth r.fields members empty a) :
    (r.read empty).Gives (depth + 1) (.object members) a := by
  intro room d hroom hd
  cases hd with
  | object hshown =>
    cases room with
    | zero => cases hroom
    | succ room =>
      obtain ⟨seen, hmembers, -, hrequired⟩ := readMembers_of_fills [] h hshown
        (Nat.le_of_succ_le_succ hroom) (fun f hf => find?_of_nodup hnodup hf) hnodup
        fun _ _ => List.not_mem_nil
      have hnone : (r.fields.find? fun field => field.required && !seen.contains field.name) = none := by
        rw [List.find?_eq_none]
        intro f hf hmissing
        rw [Bool.and_eq_true, Bool.not_eq_true', List.contains_eq_mem, decide_eq_false_iff_not] at hmissing
        exact hmissing.2 (hrequired f hf hmissing.1)
      simp only [Record.read, enter, bind, Except.bind, hmembers, hnone]
      rfl

end Records

/-! ## Fields -/

section Fields

variable {α β : Type} {depth : Nat} {name : String} {reader : Reader β} {fields : List (Field α)}
  {members : List (String × Json)} {a c : α}

theorem Fills.field {required : Bool} {put : β → α → α} {j : Json} {b : β}
    (hread : reader.Gives depth j b) (rest : Fills depth fields members (put b a) c) :
    Fills depth (.of name required reader put :: fields) ((name, j) :: members) a c := by
  refine Fills.given (f := .of name required reader put) (fun hroom hd => ?_) rest
  change (reader _ _).map _ = _
  rw [hread hroom hd]
  rfl

theorem Fills.member? {put : Option β → α → α} {toJson : β → Json} {value : Option β}
    (hread : ∀ b ∈ value, reader.Gives depth (toJson b) b) (hnull : ∀ b, toJson b ≠ .null)
    (hnone : put none a = a) (rest : Fills depth fields members (put value a) c) :
    Fills depth (.of name false (readOption reader) put :: fields)
      (Json.member? name (value.map toJson) ++ members) a c := by
  cases value with
  | none =>
    rw [hnone] at rest
    exact .omitted rfl rest
  | some b => exact .field (readOption_gives (hnull b) (hread b rfl)) rest

theorem Fills.text {put : String → α → α} {s : String}
    (rest : Fills depth fields members (put s a) c) :
    Fills depth (textField name put :: fields) ((name, .string s) :: members) a c :=
  .field (readString_gives depth s) rest

theorem Fills.text? {put : Option String → α → α} {value : Option String} (hnone : put none a = a)
    (rest : Fills depth fields members (put value a) c) :
    Fills depth (textField? name put :: fields) (Json.text? name value ++ members) a c :=
  .member? (fun s _ => readString_gives depth s) nofun hnone rest

theorem Fills.list? {put : List β → α → α} {toJson : β → Json} {items : List β}
    (hread : ∀ b ∈ items, reader.Gives depth (toJson b) b) (hnone : put [] a = a)
    (rest : Fills (depth + 1) fields members (put items a) c) :
    Fills (depth + 1) (listField name reader put :: fields)
      (Json.list? name toJson items ++ members) a c := by
  cases items with
  | nil =>
    rw [hnone] at rest
    exact .omitted rfl rest
  | cons b items => exact .field (readList_gives hread) rest

end Fields

end AgentGraph.Json
