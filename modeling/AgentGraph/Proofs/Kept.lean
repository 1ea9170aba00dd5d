import AgentGraph.Proofs.Declared
import AgentGraph.Proofs.Finite

/-! What is true of everything that is read.

Records are read field by field, from an object or from a list; a property of the record that no
field breaks is true of what is read, whatever is left out, unknown or surplus.

* `readNat_yields`, `readFloat_yields`: numbers have the width of their type and are finite.
* `Record.yields`: a record that is read has every property that its fields keep. -/
namespace AgentGraph.Json

set_option autoImplicit false

section Readers

variable {α : Type} {Q : α → Prop}

/-- Everything that is read from a finite document has the property. -/
def Reader.Yields (reader : Reader α) (Q : α → Prop) : Prop :=
  ∀ room d a, d.Finite → reader room d = .ok a → Q a

theorem readFloat_yields : Reader.Yields readFloat fun x => x.isFinite := by
  intro room d x hd h
  unfold readFloat at h
  split at h
  · next n =>
    cases h
    cases hd with
    | scalar hn => exact hn n rfl
  · cases h

theorem readNat_yields (width : Nat) (expected : String) :
    Reader.Yields (readNat width expected) fun n => n < Decimal.twoTo width := by
  intro room d n _ h
  unfold readNat at h
  split at h
  · split at h
    · next k hk =>
      simp only [Bool.and_eq_true, decide_eq_true_eq] at hk
      cases h
      omega
    · cases h
  · cases h

theorem map_eq_ok {ε β γ : Type} {x : Except ε β} {f : β → γ} {c : γ} (h : x.map f = .ok c) :
    ∃ b, x = .ok b ∧ f b = c := by
  cases x with
  | error e => cases h
  | ok b => exact ⟨b, rfl, Except.ok.inj h⟩

theorem readOption_yields {reader : Reader α} (h : reader.Yields Q) :
    (readOption reader).Yields fun o => ∀ a ∈ o, Q a := by
  intro room d o hd ho
  unfold readOption at ho
  split at ho
  · cases ho
    exact nofun
  · obtain ⟨a, ha, rfl⟩ := map_eq_ok ho
    rintro _ ⟨⟩
    exact h _ _ _ hd ha

theorem readList_yields {reader : Reader α} (h : reader.Yields Q) :
    (readList reader).Yields fun items => ∀ a ∈ items, Q a := by
  intro room d items hd hitems
  unfold readList at hitems
  split at hitems
  · obtain ⟨inner, -, hitems⟩ := bind_eq_ok_iff.mp hitems
    obtain ⟨items', hread, hitems⟩ := bind_eq_ok_iff.mp hitems
    obtain ⟨-, rfl⟩ := raise_eq_ok_iff.mp hitems
    cases hd with
    | list hdocs =>
      intro a ha
      obtain ⟨d, hd, hda⟩ := forall₂_mem_right (mapM_eq_ok_iff.mp hread) ha
      exact h _ _ _ (hdocs d hd) hda
  · cases hitems

end Readers

/-! ## Records -/

section Records

variable {α β : Type} {I : α → Prop} {room : Nat} {a : α}

/-- Reading the field keeps a property of the record. -/
def Field.Keeps (f : Field α) (I : α → Prop) : Prop :=
  ∀ room d a b, d.Finite → f.read room d a = .ok b → I a → I b

theorem Field.of_keeps {Q : β → Prop} {name : String} {required : Bool} {reader : Reader β}
    {put : β → α → α} (hreader : reader.Yields Q) (hput : ∀ b a, Q b → I a → I (put b a)) :
    (Field.of name required reader put).Keeps I := by
  intro room d a c hd h ha
  obtain ⟨b, hb, rfl⟩ := map_eq_ok h
  exact hput b a (hreader _ _ _ hd hb) ha

/-- A field that the property is not about. -/
theorem Field.of_keeps_other {name : String} {required : Bool} {reader : Reader β}
    {put : β → α → α} (hput : ∀ b a, I a → I (put b a)) :
    (Field.of name required reader put).Keeps I :=
  Field.of_keeps (Q := fun _ => True) (fun _ _ _ _ _ => trivial) fun b a _ => hput b a

variable {r : Record α} {fields : List (Field α)}

theorem Record.readMembers_keeps (hfields : ∀ f ∈ r.fields, f.Keeps I) {members : List (Key × Doc)}
    (hmembers : ∀ m ∈ members, m.2.Finite) {seen seen' : List String} {b : α} (ha : I a)
    (h : r.readMembers room seen a members = .ok (seen', b)) : I b := by
  induction members generalizing seen a with
  | nil =>
    cases h
    exact ha
  | cons m members ih =>
    obtain ⟨key, value⟩ := m
    obtain ⟨hvalue, hmembers⟩ := List.forall_mem_cons.mp hmembers
    obtain ⟨name, -, h⟩ := bind_eq_ok_iff.mp h
    split at h
    · obtain ⟨-, -, h⟩ := bind_eq_ok_iff.mp h
      exact ih hmembers ha h
    · next field hfind =>
      split at h
      · cases h
      · obtain ⟨a', hread, h⟩ := bind_eq_ok_iff.mp h
        exact ih hmembers (hfields field (List.mem_of_find?_eq_some hfind) _ _ _ _ hvalue hread ha) h

theorem Record.readItems_keeps (hfields : ∀ f ∈ fields, f.Keeps I) {items rest : List Doc}
    (hitems : ∀ d ∈ items, d.Finite) {count : Nat} {close : Close} {b : α} (ha : I a)
    (h : r.readItems room count close a fields items = .ok (rest, b)) : I b := by
  induction fields generalizing items count a with
  | nil =>
    cases items <;> cases h <;> exact ha
  | cons f fields ih =>
    obtain ⟨hf, hfields⟩ := List.forall_mem_cons.mp hfields
    cases items with
    | nil =>
      obtain ⟨-, -, h⟩ := bind_eq_ok_iff.mp h
      split at h
      · cases h
      · exact ih hfields hitems ha h
    | cons d items =>
      obtain ⟨hd, hitems⟩ := List.forall_mem_cons.mp hitems
      obtain ⟨a', hread, h⟩ := bind_eq_ok_iff.mp h
      exact ih hfields hitems (hf _ _ _ _ hd hread ha) h

theorem Record.yields {empty : α} (hfields : ∀ f ∈ r.fields, f.Keeps I) (hempty : I empty) :
    (r.read empty).Yields I := by
  intro room d a hd h
  unfold Record.read at h
  split at h
  · obtain ⟨inner, -, h⟩ := bind_eq_ok_iff.mp h
    obtain ⟨⟨rest, a'⟩, hread, h⟩ := bind_eq_ok_iff.mp h
    obtain ⟨-, rfl⟩ := raise_eq_ok_iff.mp h
    cases hd with
    | list hitems => exact Record.readItems_keeps hfields hitems hempty hread
  · obtain ⟨inner, -, h⟩ := bind_eq_ok_iff.mp h
    obtain ⟨⟨seen, a'⟩, hread, h⟩ := bind_eq_ok_iff.mp h
    obtain ⟨-, -, h⟩ := bind_eq_ok_iff.mp h
    split at h
    · cases h
    · cases h
      cases hd with
      | object hmembers => exact Record.readMembers_keeps hfields hmembers hempty hread
  · cases h

end Records

theorem onText_yields {α : Type} {reader : Reader α} {Q : α → Prop} (h : reader.Yields Q)
    {text : String} {a : α} (ha : reader.onText text = .ok a) : Q a := by
  obtain ⟨d, hd, hread⟩ := onText_eq_ok_iff.mp ha
  have hfinite : (Doc.ofChars text.toList).1.Finite := Doc.ofChars_finite text.toList
  rw [hd] at hfinite
  exact h _ _ _ hfinite hread

end AgentGraph.Json
