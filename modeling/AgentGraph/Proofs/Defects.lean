import AgentGraph.Proofs.Validation
import Mathlib.Data.Finset.Card

/-! What is reported of a graph, problem by problem.

* `entryFindings`, `nodeFindings`: what is due to be said of the entry and of one node, each finding
  with the condition under which it is due.
* `defects_eq`: validating finds that and nothing else, node after node.
* `count_duplicates`: the duplicates make up for what is lost when each id is counted once.
* `problems_listed`: all of this of the problems as a reader gets them. -/
namespace AgentGraph
set_option autoImplicit false

variable {entry : String} {decls : List NodeDecl}

/-! ## What is due -/

/-- A finding that is due when `c` holds. -/
def noted (c : Prop) [Decidable c] (x : Defect) : List Defect := if c then [x] else []

/-- What is due of the entry: its id is blank, or names no node, or the first node of that id is of
a known kind that no run begins at. -/
def entryFindings (entry : String) (decls : List NodeDecl) : List Defect :=
  noted (Text.isBlankText entry) .entryBlank ++
  noted (¬ Text.isBlankText entry ∧ ∀ d ∈ decls, d.id ≠ Text.trim entry)
    (.entryUnknown (Text.trim entry)) ++
  noted (¬ Text.isBlankText entry ∧
      ((decls.find? (·.id == Text.trim entry)).bind NodeDecl.kind?).any
        (· ∉ [.sequence, .parallel, .supervisor]))
    .entryKind

/-- What is due of a reference of `d`: it shows, and no node has the id that is left of it. -/
def referenceFindings (decls : List NodeDecl) (d : NodeDecl) (r : RefField × String) :
    List Defect :=
  noted (¬ Text.isBlankText r.2 ∧ ∀ t ∈ decls, t.id ≠ Text.trim r.2)
    (.dangling d.id r.1 (Text.trim r.2))

/-- What is due of a node that `before` are declared before. -/
def nodeFindings (decls before : List NodeDecl) (d : NodeDecl) : List Defect :=
  noted (¬ Text.isBlankText d.id ∧ ∃ t ∈ before, t.id = d.id) (.duplicateId d.id) ++
  noted (Text.isBlankText d.id) (.idBlank d.id) ++
  noted (Text.isBlankText d.typeName) (.typeBlank d.id) ++
  noted (¬ Text.isBlankText d.typeName ∧ ∀ kind ∈ NodeKind.all, kind.name ≠ d.typeName)
    (.typeUnknown d.id d.typeName) ++
  d.references.flatMap (referenceFindings decls d)

/-- What is due of a whole graph. Without nodes there is nothing to say of any. -/
def findings (entry : String) (decls : List NodeDecl) : List Defect :=
  if decls = [] then noted (Text.isBlankText entry) .entryBlank ++ [.noNodes]
  else
    entryFindings entry decls ++
      decls.zipIdx.flatMap fun e => nodeFindings decls (decls.take e.2) e.1

/-! ## What is found -/

theorem noted_pos {c : Prop} [Decidable c] (h : c) (x : Defect) : noted c x = [x] := if_pos h

theorem noted_neg {c : Prop} [Decidable c] (h : ¬ c) (x : Defect) : noted c x = [] := if_neg h

theorem noted_congr {c c' : Prop} [Decidable c] [Decidable c'] (h : c ↔ c') (x : Defect) :
    noted c x = noted c' x := by
  simp only [noted, h]

theorem isEntry_eq (kind : NodeKind) :
    (!kind.isEntry) = decide (kind ∉ [NodeKind.sequence, .parallel, .supervisor]) := by
  cases kind <;> decide

theorem kind?_eq_none_iff {d : NodeDecl} :
    d.kind? = none ↔ ∀ kind ∈ NodeKind.all, kind.name ≠ d.typeName := by
  rw [NodeDecl.kind?, NodeKind.ofName?, List.find?_eq_none]
  exact forall₂_congr fun kind _ => by simp

theorem entryDefects_eq : entryDefects entry decls = entryFindings entry decls := by
  by_cases hblank : Text.isBlankText entry
  · rw [entryDefects_of_blank hblank, entryFindings, noted_pos hblank,
      noted_neg (not_and_of_not_left _ (not_not.mpr hblank)),
      noted_neg (not_and_of_not_left _ (not_not.mpr hblank))]
    rfl
  · rw [entryFindings, noted_neg hblank, List.nil_append]
    cases hfound : decls.find? (·.id == Text.trim entry) with
    | none =>
      have hunknown : ∀ d ∈ decls, d.id ≠ Text.trim entry :=
        fun d hd => by simpa using List.find?_eq_none.mp hfound d hd
      rw [entryDefects_of_unknown hblank hunknown, noted_pos ⟨hblank, hunknown⟩, noted_neg (by simp)]
      rfl
    | some d =>
      have hd : d ∈ decls := List.mem_of_find?_eq_some hfound
      have hid : d.id = Text.trim entry := by simpa using List.find?_some hfound
      rw [noted_neg fun h => h.2 d hd hid, List.nil_append, entryDefects,
        Text.visible?_isSome hblank]
      simp only [hfound, isEntry_eq, Option.bind_some]
      exact (noted_congr (and_iff_right hblank) _).symm

theorem danglingDefect?_eq (d : NodeDecl) (r : RefField × String) :
    (danglingDefect? (decls.map NodeDecl.id) d.id r).toList = referenceFindings decls d r := by
  by_cases hblank : Text.isBlankText r.2
  · rw [danglingDefect?, (Text.visible?_eq_none_iff _).mpr hblank, referenceFindings,
      noted_neg fun h => h.1 hblank]
    rfl
  · have hknown : (decls.map NodeDecl.id).contains (Text.trim r.2) ↔
        ∃ t ∈ decls, t.id = Text.trim r.2 := by
      rw [List.contains_iff_mem, List.mem_map]
    simp only [danglingDefect?, Text.visible?_isSome hblank, referenceFindings]
    by_cases hid : ∃ t ∈ decls, t.id = Text.trim r.2
    · rw [if_pos (hknown.mpr hid), noted_neg (by simpa [hblank] using hid)]
      rfl
    · rw [if_neg (mt hknown.mp hid), noted_pos ⟨hblank, by simpa using hid⟩]
      rfl

theorem nodeDefects_eq (before : List NodeDecl) (d : NodeDecl) :
    nodeDefects (decls.map NodeDecl.id) (before.map NodeDecl.id) d =
      nodeFindings decls before d := by
  have hseen : (!Text.isBlankText d.id && (before.map NodeDecl.id).contains d.id) ↔
      ¬ Text.isBlankText d.id ∧ ∃ t ∈ before, t.id = d.id := by
    simp
  have htype : (if Text.isBlankText d.typeName then [Defect.typeBlank d.id]
      else if d.kind?.isNone then [.typeUnknown d.id d.typeName] else []) =
      noted (Text.isBlankText d.typeName) (.typeBlank d.id) ++
      noted (¬ Text.isBlankText d.typeName ∧ ∀ kind ∈ NodeKind.all, kind.name ≠ d.typeName)
        (.typeUnknown d.id d.typeName) := by
    by_cases hblank : Text.isBlankText d.typeName
    · rw [if_pos hblank, noted_pos hblank, noted_neg fun h => h.1 hblank]
      rfl
    · rw [if_neg hblank, noted_neg hblank, List.nil_append, noted]
      simp only [hblank, Option.isNone_iff_eq_none, kind?_eq_none_iff, Bool.false_eq_true,
        not_false_eq_true, true_and]
  rw [nodeDefects, htype, List.filterMap_eq_flatMap_toList, funext (danglingDefect?_eq d),
    nodeFindings, ← noted_congr hseen, ← List.append_assoc]
  rfl

/-- The ids before a node are those of the nodes that are taken up to its place. -/
theorem nodesDefects_eq (before : List NodeDecl) (rest : List NodeDecl)
    (hsplit : decls = before ++ rest) :
    nodesDefects (decls.map NodeDecl.id) (before.map NodeDecl.id) rest =
      (rest.zipIdx before.length).flatMap fun e => nodeFindings decls (decls.take e.2) e.1 := by
  induction rest generalizing before with
  | nil => rfl
  | cons d rest ih =>
    have hbefore : decls.take before.length = before := by rw [hsplit, List.take_left]
    have hrest := ih (before ++ [d]) (by rw [hsplit, List.append_assoc]; rfl)
    rw [List.map_append, List.map_singleton, List.length_append, List.length_singleton] at hrest
    rw [nodesDefects, nodeDefects_eq, hrest, List.zipIdx_cons, List.flatMap_cons, hbefore]

/-- Validating finds what is due, in this order, and nothing else. -/
theorem defects_eq : defects entry decls = findings entry decls := by
  by_cases hnone : decls = []
  · rw [defects, if_pos (List.isEmpty_iff.mpr hnone), findings, if_pos hnone]
    rfl
  · rw [defects, if_neg (mt List.isEmpty_iff.mp hnone), findings, if_neg hnone, entryDefects_eq]
    exact congrArg _ (nodesDefects_eq [] decls rfl)

/-! ## Duplicates -/

/-- The ids that show, in the order of the declarations. -/
def shownIds (decls : List NodeDecl) : List String :=
  (decls.map NodeDecl.id).filter fun id => !Text.isBlankText id

def Defect.isDuplicate : Defect → Bool
  | .duplicateId _ => true
  | _ => false

theorem countP_referenceDefects {ids : List String} {d : NodeDecl} :
    (d.references.filterMap (danglingDefect? ids d.id)).countP Defect.isDuplicate = 0 := by
  rw [List.countP_eq_zero]
  intro x hx
  obtain ⟨field, id, -, -, rfl⟩ := mem_danglingDefects_iff.mp hx
  exact Bool.false_ne_true

theorem countP_nodeDefects (ids earlier : List String) (d : NodeDecl) :
    (nodeDefects ids earlier d).countP Defect.isDuplicate =
      if ¬ Text.isBlankText d.id ∧ d.id ∈ earlier then 1 else 0 := by
  have hblank : (if Text.isBlankText d.id then [Defect.idBlank d.id] else []).countP
      Defect.isDuplicate = 0 := by
    split <;> rfl
  have htype : (if Text.isBlankText d.typeName then [Defect.typeBlank d.id]
      else if d.kind?.isNone then [.typeUnknown d.id d.typeName] else []).countP
      Defect.isDuplicate = 0 := by
    split
    · rfl
    · split <;> rfl
  rw [nodeDefects, List.countP_append, List.countP_append, List.countP_append, hblank, htype,
    countP_referenceDefects]
  by_cases h : ¬ Text.isBlankText d.id ∧ d.id ∈ earlier
  · rw [if_pos h, if_pos (by simpa using h)]
    rfl
  · rw [if_neg h, if_neg (by simpa using h)]
    rfl

/-- Every id that shows is either counted among the distinct ones or reported as a duplicate. -/
theorem countP_nodesDefects (ids : List String) (before rest : List NodeDecl) :
    (nodesDefects ids (before.map NodeDecl.id) rest).countP Defect.isDuplicate +
        (shownIds (before ++ rest)).toFinset.card =
      (shownIds before).toFinset.card + (shownIds rest).length := by
  induction rest generalizing before with
  | nil => simp [nodesDefects, shownIds]
  | cons d rest ih =>
    have hrest := ih (before ++ [d])
    rw [List.map_append, List.map_singleton, List.append_assoc, List.singleton_append] at hrest
    -- One more node is a duplicate or a new id, unless its id is blank.
    have hone : (nodeDefects ids (before.map NodeDecl.id) d).countP Defect.isDuplicate +
        (shownIds (before ++ [d])).toFinset.card =
          (shownIds before).toFinset.card + (shownIds [d]).length := by
      rw [countP_nodeDefects]
      by_cases hblank : Text.isBlankText d.id
      · simp [shownIds, hblank]
      · have hnew : shownIds (before ++ [d]) = shownIds before ++ [d.id] := by
          simp [shownIds, hblank]
        have hmem : d.id ∈ before.map NodeDecl.id ↔ d.id ∈ (shownIds before).toFinset := by
          simp [shownIds, hblank]
        have hset : (shownIds before ++ [d.id]).toFinset =
            insert d.id (shownIds before).toFinset := by
          ext id
          simp
        have hsingle : (shownIds [d]).length = 1 := by simp [shownIds, hblank]
        rw [hnew, hset, hsingle]
        by_cases hseen : d.id ∈ (shownIds before).toFinset
        · rw [if_pos ⟨hblank, hmem.mpr hseen⟩, Finset.insert_eq_of_mem hseen, Nat.add_comm]
        · rw [if_neg fun h => hseen (hmem.mp h.2), Finset.card_insert_of_notMem hseen,
            Nat.zero_add]
    have hlength : (shownIds (d :: rest)).length = (shownIds [d]).length + (shownIds rest).length := by
      rw [shownIds, List.map_cons, ← List.singleton_append, List.filter_append, List.length_append]
      rfl
    rw [nodesDefects, List.countP_append]
    omega

theorem countP_entryDefects : (entryDefects entry decls).countP Defect.isDuplicate = 0 := by
  unfold entryDefects
  split
  · rfl
  · split
    · rfl
    · split <;> rfl

/-- The duplicates make up for what is lost when each id is counted once. -/
theorem count_duplicates :
    (defects entry decls).countP Defect.isDuplicate + (shownIds decls).toFinset.card =
      (shownIds decls).length := by
  by_cases hnone : decls = []
  · subst hnone
    rw [defects, if_pos List.isEmpty_nil, List.countP_append]
    split <;> rfl
  · have h := countP_nodesDefects (decls.map NodeDecl.id) [] decls
    rw [defects, if_neg (mt List.isEmpty_iff.mp hnone), List.countP_append, countP_entryDefects]
    simpa [shownIds] using h

/-! ## Problems -/

theorem head?_toList_append {s : String} {c : Char} (h : s.toList.head? = some c) (t : String) :
    (s ++ t).toList.head? = some c := by
  rw [String.toList_append, List.head?_append, h]
  rfl

theorem RefField.demand_head? (field : RefField) :
    ∃ c, field.demand.toList.head? = some c ∧ c ≠ 'd' := by
  cases field <;> exact ⟨_, rfl, by decide⟩

/-- A defect that is no duplicate is worded with another letter at the beginning. -/
theorem Defect.message_head? (x : Defect) :
    ∃ c, x.message.toList.head? = some c ∧ (c = 'd' → x.isDuplicate) := by
  cases x with
  | entryBlank => exact ⟨'e', rfl, nofun⟩
  | noNodes => exact ⟨'a', rfl, nofun⟩
  | entryUnknown entry => exact ⟨'e', head?_toList_append rfl _, nofun⟩
  | entryKind => exact ⟨'e', rfl, nofun⟩
  | duplicateId id => exact ⟨'d', head?_toList_append rfl _, fun _ => rfl⟩
  | idBlank id =>
    have hmessage : (idBlank id).message = "node id is required" := rfl
    exact ⟨'n', hmessage ▸ rfl, nofun⟩
  | typeBlank id =>
    have hmessage : (typeBlank id).message = "node type is required" := rfl
    exact ⟨'n', hmessage ▸ rfl, nofun⟩
  | typeUnknown id typeName =>
    exact ⟨'i', head?_toList_append (head?_toList_append (head?_toList_append
      (head?_toList_append rfl _) _) _) _, nofun⟩
  | dangling id field target =>
    obtain ⟨c, hc, hne⟩ := field.demand_head?
    exact ⟨c, head?_toList_append (head?_toList_append hc _) _, fun h => absurd h hne⟩

theorem Defect.isDuplicate_of_problem {x : Defect} {id : String}
    (h : x.problem = (duplicateId id).problem) : x.isDuplicate := by
  obtain ⟨c, hc, hduplicate⟩ := x.message_head?
  have hmessage : x.message = "duplicate node id: " ++ id := congrArg Problem.message h
  rw [hmessage, head?_toList_append (c := 'd') rfl] at hc
  exact hduplicate (Option.some.inj hc).symm

theorem mem_shownIds_of_duplicate {id : String} (h : Defect.duplicateId id ∈ defects entry decls) :
    id ∈ shownIds decls := by
  cases mem_defects_iff.mp h with
  | @duplicateId before after d hsplit hblank hseen => simp [shownIds, hsplit, hblank]

/-- What validating reports is what is due of the entry and then of one node after the other. So
nothing is reported just when nothing is wrong, there is one duplicate for each id that shows and is
not the first of its name, and without nodes no node is spoken of. -/
theorem problems_listed (entry : String) (decls : List NodeDecl) :
    problems entry decls = (findings entry decls).map Defect.problem ∧
    (problems entry decls = [] ↔ ∀ x, ¬ Defect.Present entry decls x) ∧
    (problems entry decls).countP
        (· ∈ (shownIds decls).map fun id => (Defect.duplicateId id).problem) =
      (shownIds decls).length - (shownIds decls).toFinset.card := by
  refine ⟨by rw [problems, defects_eq], problems_eq_nil_iff, ?_⟩
  have hcount : (problems entry decls).countP
      (· ∈ (shownIds decls).map fun id => (Defect.duplicateId id).problem) =
        (defects entry decls).countP Defect.isDuplicate := by
    rw [problems, List.countP_map]
    refine List.countP_congr fun x hx => ?_
    simp only [Function.comp_apply, decide_eq_true_eq, List.mem_map]
    constructor
    · rintro ⟨id, -, hid⟩
      exact Defect.isDuplicate_of_problem hid.symm
    · intro hduplicate
      cases x with
      | duplicateId id => exact ⟨id, mem_shownIds_of_duplicate hx, rfl⟩
      | _ => cases hduplicate
  have hsum := @count_duplicates entry decls
  omega

end AgentGraph
