import AgentGraph.Proofs.Kept
import AgentGraph.Proofs.Reading

/-! Graph files.

Writing a graph leaves out what is not set, and reading gives what is left out its default; the two
agree on every field. A number is read back if it fits its field, and numbers that were read fit.

* `Graph.fits_of_parse`: what is read from a file has numbers of the widths of its fields.
* `NodeDecl.read_gives`, `Graph.read_gives`: the members that are written fill the fields in order.
* `Graph.toJson_legible`: every number of a graph that fits is read as it is printed.
* `Graph.files_round_trip`: a graph is read back from its file. -/
namespace AgentGraph

set_option autoImplicit false

/-! ## Numbers that fit -/

/-- The temperature is finite and the other numbers have the widths of their fields. -/
def NodeDecl.Fits (d : NodeDecl) : Prop :=
  (∀ x ∈ d.temperature, x.isFinite) ∧ (∀ n ∈ d.maxTokens, n < Decimal.twoTo 32) ∧
    ∀ n ∈ d.threadPoolSize, n < Decimal.twoTo 64

def Graph.Fits (g : Graph) : Prop := ∀ d ∈ g.nodes, d.Fits

section Read

open Json

theorem NodeDecl.fields_keep_fits : ∀ f ∈ NodeDecl.shape.fields, f.Keeps NodeDecl.Fits := by
  rw [NodeDecl.shape]
  -- Up to the model's name no field is a number.
  iterate 4 refine List.forall_mem_cons.mpr ⟨Field.of_keeps_other fun _ _ h => h, ?_⟩
  refine List.forall_mem_cons.mpr ⟨Field.of_keeps (readOption_yields readFloat_yields)
    fun _ _ hx h => ⟨hx, h.2⟩, ?_⟩
  refine List.forall_mem_cons.mpr ⟨Field.of_keeps (readOption_yields (readNat_yields 32 _))
    fun _ _ hn h => ⟨h.1, hn, h.2.2⟩, ?_⟩
  -- Nor is one from the model's id on to the branches.
  iterate 12 refine List.forall_mem_cons.mpr ⟨Field.of_keeps_other fun _ _ h => h, ?_⟩
  exact List.forall_mem_singleton.mpr (Field.of_keeps (readOption_yields (readNat_yields 64 _))
    fun _ _ hn h => ⟨h.1, h.2.1, hn⟩)

theorem NodeDecl.read_fits : NodeDecl.read.Yields NodeDecl.Fits :=
  Record.yields NodeDecl.fields_keep_fits ⟨fun _ => nofun, fun _ => nofun, fun _ => nofun⟩

theorem Graph.fields_keep_fits : ∀ f ∈ Graph.shape.fields, f.Keeps Graph.Fits := by
  rw [Graph.shape]
  iterate 3 refine List.forall_mem_cons.mpr ⟨Field.of_keeps_other fun _ _ h => h, ?_⟩
  exact List.forall_mem_singleton.mpr (Field.of_keeps (readList_yields NodeDecl.read_fits)
    fun _ _ h _ => h)

theorem Graph.read_fits : Graph.read.Yields Graph.Fits :=
  Record.yields Graph.fields_keep_fits fun _ => nofun

/-- What is read from a file fits. -/
theorem Graph.fits_of_parse {text : String} {g : Graph} (h : Graph.parse text = .ok g) : g.Fits :=
  onText_yields Graph.read_fits h

end Read

/-! ## Reading what was written -/

section Written

open Json

theorem ToolEntry.read_gives (t : ToolEntry) : ToolEntry.read.Gives 1 t.toJson t := by
  refine Record.gives (by decide) (Fills.text ?_)
  rw [← List.append_nil (Json.text? _ _)]
  exact Fills.text? rfl .nil

theorem BranchDecl.read_gives (b : BranchDecl) : BranchDecl.read.Gives 1 b.toJson b :=
  Record.gives (by decide) (Fills.text (Fills.text (Fills.text .nil)))

theorem NodeDecl.read_gives {d : NodeDecl} (h : d.Fits) : NodeDecl.read.Gives 3 d.toJson d := by
  refine Record.gives (by decide) ?_
  simp only [List.append_assoc, List.cons_append, List.nil_append]
  rw [← List.append_nil (Json.member? "threadPoolSize" _)]
  refine Fills.text (Fills.text (Fills.text? rfl (Fills.text? rfl ?_)))
  refine Fills.member? (fun x _ => readFloat_gives 2 x) nofun rfl ?_
  refine Fills.member? (fun n hn => readNat_gives (h.2.1 n hn) 2 _) nofun rfl ?_
  refine Fills.text? rfl (Fills.text? rfl (Fills.text? rfl (Fills.text? rfl (Fills.text? rfl
    (Fills.text? rfl ?_)))))
  refine Fills.list? (fun s _ => readString_gives 1 s) rfl ?_
  refine Fills.list? (fun t _ => t.read_gives) rfl ?_
  refine Fills.list? (fun s _ => readString_gives 1 s) rfl ?_
  refine Fills.text? rfl (Fills.text? rfl ?_)
  refine Fills.list? (fun b _ => b.read_gives) rfl ?_
  exact Fills.member? (fun n hn => readNat_gives (h.2.2 n hn) 2 _) nofun rfl .nil

theorem Graph.read_gives {g : Graph} (h : g.Fits) : Graph.read.Gives 5 g.toJson g := by
  refine Record.gives (by decide) ?_
  rw [List.cons_append]
  refine Fills.text (Fills.text? rfl (Fills.text ?_))
  exact Fills.field (readList_gives fun d hd => NodeDecl.read_gives (h d hd)) .nil

end Written

/-! ## Legible graphs -/

section Legible

open Json

theorem legible_member? {α : Type} (name : String) {toJson : α → Json} {value : Option α}
    (h : ∀ a ∈ value, (toJson a).Legible) :
    ∀ m ∈ Json.member? name (value.map toJson), m.2.Legible := by
  cases value with
  | none => exact List.forall_mem_nil _
  | some a => exact List.forall_mem_singleton.mpr (h a rfl)

theorem legible_text? (name : String) (value : Option String) :
    ∀ m ∈ Json.text? name value, m.2.Legible :=
  legible_member? name fun _ _ => .string

theorem legible_array {α : Type} {toJson : α → Json} {items : List α}
    (h : ∀ a ∈ items, (toJson a).Legible) : (Json.array (items.map toJson)).Legible :=
  .array (List.forall_mem_map.mpr h)

theorem legible_list? {α : Type} (name : String) {toJson : α → Json} {items : List α}
    (h : ∀ a ∈ items, (toJson a).Legible) : ∀ m ∈ Json.list? name toJson items, m.2.Legible := by
  cases items with
  | nil => exact List.forall_mem_nil _
  | cons a items => exact List.forall_mem_singleton.mpr (legible_array h)

theorem legible_cons {name : String} {value : Json} {members : List (String × Json)}
    (hvalue : value.Legible) (h : ∀ m ∈ members, m.2.Legible) :
    ∀ m ∈ (name, value) :: members, m.2.Legible :=
  List.forall_mem_cons.mpr ⟨hvalue, h⟩

theorem legible_append {xs ys : List (String × Json)} (hx : ∀ m ∈ xs, m.2.Legible)
    (hy : ∀ m ∈ ys, m.2.Legible) : ∀ m ∈ xs ++ ys, m.2.Legible :=
  List.forall_mem_append.mpr ⟨hx, hy⟩

theorem ToolEntry.toJson_legible (t : ToolEntry) : t.toJson.Legible :=
  .object (legible_cons .string (legible_text? _ _))

theorem BranchDecl.toJson_legible (b : BranchDecl) : b.toJson.Legible :=
  .object (legible_cons .string (legible_cons .string (legible_cons .string (List.forall_mem_nil _))))

theorem NodeDecl.toJson_legible {d : NodeDecl} (h : d.Fits)
    (hfloat : ∀ x ∈ d.temperature, parse (Decimal.jsonText x) = .ok (.ofFloat x)) :
    d.toJson.Legible := by
  have htokens : ∀ n ∈ d.maxTokens, (Json.ofNat n).Legible := fun n hn =>
    .number (legible_ofNat (Nat.lt_trans (h.2.1 n hn) (by decide)))
  have hpool : ∀ n ∈ d.threadPoolSize, (Json.ofNat n).Legible := fun n hn =>
    .number (legible_ofNat (h.2.2 n hn))
  have htemperature : ∀ x ∈ d.temperature, (Json.ofFloat x).Legible := fun x hx =>
    .number (legible_ofFloat (hfloat x hx))
  refine .object (legible_append ?_ (legible_member? _ hpool))
  refine legible_append ?_ (legible_list? _ fun b _ => b.toJson_legible)
  iterate 2 refine legible_append ?_ (legible_text? _ _)
  refine legible_append ?_ (legible_list? _ fun _ _ => .string)
  refine legible_append ?_ (legible_list? _ fun t _ => t.toJson_legible)
  refine legible_append ?_ (legible_list? _ fun _ _ => .string)
  iterate 6 refine legible_append ?_ (legible_text? _ _)
  refine legible_append ?_ (legible_member? _ htokens)
  refine legible_append ?_ (legible_member? _ htemperature)
  iterate 2 refine legible_append ?_ (legible_text? _ _)
  exact legible_cons .string (legible_cons .string (List.forall_mem_nil _))

theorem Graph.toJson_legible {g : Graph} (h : g.Fits) (hfloat : ∀ d ∈ g.nodes,
    ∀ x ∈ d.temperature, Json.parse (Decimal.jsonText x) = .ok (Json.ofFloat x)) :
    g.toJson.Legible := by
  have hnodes : (Json.array (g.nodes.map NodeDecl.toJson)).Legible :=
    legible_array fun d hd => NodeDecl.toJson_legible (h d hd) (hfloat d hd)
  refine .object (legible_append (legible_cons .string (legible_text? _ _)) ?_)
  exact legible_cons .string (legible_cons hnodes (List.forall_mem_nil _))

end Legible

/-! ## Round trips -/

theorem Graph.parse_of_shows {g : Graph} (h : g.Fits) {text : String} {d : Json.Doc}
    (hd : Json.Doc.Shows g.toJson d) (htext : Json.Doc.ofChars text.toList = (d, none)) :
    Graph.parse text = .ok g :=
  Json.onText_eq_ok_iff.mpr ⟨d, htext, Graph.read_gives h (by decide) hd⟩

/-- A graph that fits is read back from both of its texts. -/
theorem Graph.parse_print {g : Graph} (h : g.Fits) (hlegible : g.toJson.Legible)
    {print : Json → String} (hprint : print ∈ [Json.compact, Json.indented]) :
    Graph.parse (print g.toJson) = .ok g := by
  rcases List.mem_cons.mp hprint with rfl | hprint
  · obtain ⟨d, hd, htext⟩ := Json.Doc.ofChars_compact hlegible
    exact parse_of_shows h hd htext
  · obtain rfl := List.mem_singleton.mp hprint
    obtain ⟨d, hd, htext⟩ := Json.Doc.ofChars_indented hlegible
    exact parse_of_shows h hd htext

/-- Graph files round-trip, if the temperatures in them are read as they are printed: a graph that
fits is read back from its file, and so is every graph that was read from a file; writing it once
more gives the same text. -/
theorem Graph.files_round_trip (g : Graph)
    (hfloat : ∀ d ∈ g.nodes, ∀ x ∈ d.temperature, x.isFinite →
      Json.parse (Decimal.jsonText x) = .ok (Json.ofFloat x)) :
    ∀ print ∈ [Json.compact, Json.indented],
      (g.Fits → Graph.parse (print g.toJson) = .ok g) ∧
      ∀ text, Graph.parse text = .ok g →
        Graph.parse (print g.toJson) = .ok g ∧
        (Graph.parse (print g.toJson)).map (fun g' => print g'.toJson) = .ok (print g.toJson) := by
  intro print hprint
  have hfits (h : g.Fits) : Graph.parse (print g.toJson) = .ok g :=
    parse_print h (toJson_legible h fun d hd x hx => hfloat d hd x hx ((h d hd).1 x hx)) hprint
  refine ⟨hfits, fun text htext => ?_⟩
  have hparse := hfits (fits_of_parse htext)
  exact ⟨hparse, congrArg (Except.map fun g' => print g'.toJson) hparse⟩

/-- A graph with a temperature. -/
def Graph.warm : Graph :=
  (Graph.ofEntry "story" "writer").add
    { NodeDecl.llm "writer" "http://localhost:8080/v1" "tiny" with
      temperature := some 0.7
      maxTokens := some 512 }

theorem Graph.warm_files_round_trip : Graph.warm.Fits ∧
    Json.parse (Decimal.jsonText 0.7) = .ok (Json.ofFloat 0.7) ∧
    ∀ print ∈ [Json.compact, Json.indented], Graph.parse (print Graph.warm.toJson) = .ok Graph.warm := by
  have hfits : Graph.warm.Fits := by
    refine List.forall_mem_singleton.mpr ⟨?_, ?_, fun _ => nofun⟩
    · rintro _ ⟨⟩
      decide +kernel
    · rintro _ ⟨⟩
      decide
  have htext : (Json.Number.float 0.7).chars = ['0', '.', '7'] := by decide +kernel
  have hparse : Json.parse (Decimal.jsonText 0.7) = .ok (Json.ofFloat 0.7) := by
    have hlegible := Json.legible_of_scan htext (by decide) fun _ => ⟨rfl, rfl, rfl⟩
    have hread := Json.parse_of_legible hlegible
    rwa [Json.Number.chars, String.ofList_toList] at hread
  refine ⟨hfits, hparse, fun print hprint => (files_round_trip warm ?_ print hprint).1 hfits⟩
  refine List.forall_mem_singleton.mpr ?_
  rintro _ ⟨⟩ -
  exact hparse

end AgentGraph
