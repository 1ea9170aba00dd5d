/-! Named entries in the order of their names.

`Fields α` holds the entries of a map or of a JSON object. Names are compared character by
character, which is also the order of their UTF-8 bytes. Insertion keeps the order; looking up a
name after an insertion is described for every list, ordered or not. -/
namespace AgentGraph

set_option autoImplicit false

abbrev Fields (α : Type) := List (String × α)

namespace Fields

variable {α β : Type}

def get? (fs : Fields α) (name : String) : Option α :=
  match fs with
  | [] => none
  | (k, v) :: rest => if k = name then some v else get? rest name

def has (fs : Fields α) (name : String) : Bool := (fs.get? name).isSome

/-- Replaces the entry of that name, or puts a new one in its place in the order. -/
def insert (fs : Fields α) (name : String) (value : α) : Fields α :=
  match fs with
  | [] => [(name, value)]
  | (k, v) :: rest =>
    if name = k then (name, value) :: rest
    else if name < k then (name, value) :: (k, v) :: rest
    else (k, v) :: insert rest name value

/-- The entries in order; of several with one name the last one wins. -/
def ofList (entries : List (String × α)) : Fields α :=
  entries.foldl (fun fs e => fs.insert e.1 e.2) []

def names (fs : Fields α) : List String := fs.map Prod.fst

/-- All entries of `fs` with those of `others` put over them. -/
def extend (fs others : Fields α) : Fields α :=
  others.foldl (fun acc e => acc.insert e.1 e.2) fs

/-- Names strictly increase. -/
def Ordered (fs : Fields α) : Prop := fs.Pairwise fun a b => a.1 < b.1

/-! ## Looking up -/

@[simp] theorem get?_nil (name : String) : get? ([] : Fields α) name = none := rfl

theorem get?_insert (fs : Fields α) (name other : String) (value : α) :
    (fs.insert name value).get? other = if name = other then some value else fs.get? other := by
  induction fs with
  | nil => simp [insert, get?]
  | cons e rest ih =>
    obtain ⟨k, v⟩ := e
    by_cases hk : name = k
    · subst hk
      simp only [insert, get?, if_true]
      split <;> rfl
    · by_cases hl : name < k
      · simp only [insert, hk, hl, get?, if_false, if_true]
      · simp only [insert, hk, hl, get?, if_false, ih]
        by_cases ho : k = other
        · subst ho
          simp [hk]
        · simp [ho]

end Fields

/-! ## Sets of names -/

/-- A set of names, each held once and in order. -/
abbrev Names := List String

namespace Names

def insert (ns : Names) (name : String) : Names :=
  match ns with
  | [] => [name]
  | k :: rest =>
    if name = k then name :: rest
    else if name < k then name :: k :: rest
    else k :: insert rest name

def union (ns others : Names) : Names := others.foldl insert ns

theorem mem_insert (ns : Names) (name other : String) :
    other ∈ insert ns name ↔ other = name ∨ other ∈ ns := by
  induction ns with
  | nil => simp [insert]
  | cons k rest ih =>
    by_cases hk : name = k
    · subst hk
      simp [insert]
    · by_cases hl : name < k
      · simp [insert, hk, hl]
      · simp only [insert, hk, hl, if_false, List.mem_cons, ih]
        exact or_left_comm

theorem mem_union (ns others : Names) (name : String) :
    name ∈ union ns others ↔ name ∈ ns ∨ name ∈ others := by
  induction others generalizing ns with
  | nil => simp [union]
  | cons k rest ih =>
    have h := ih (insert ns k)
    simp only [union, List.foldl_cons] at h ⊢
    rw [h, mem_insert, List.mem_cons]
    constructor
    · rintro ((h | h) | h)
      · exact .inr (.inl h)
      · exact .inl h
      · exact .inr (.inr h)
    · rintro (h | h | h)
      · exact .inl (.inr h)
      · exact .inl (.inl h)
      · exact .inr h

end Names

end AgentGraph
