import AgentGraph.Graph.Problem
import AgentGraph.Proofs.Compiled
import Mathlib.Data.List.Induction

/-! Validating and compiling.

* `Defect.Present`: the defects of a graph, each with what is wrong with the graph then.
* `mem_defects_iff`: exactly these are found.
* `problems_agree_with_compile`: what validates is compiled, unless a field is missing, a reference
  leads to a node of the wrong kind, there is a cycle, or a model is refused; what is compiled can
  only have blank ids, and references in fields that are not used. -/
namespace AgentGraph
set_option autoImplicit false

variable {entry : String} {decls : List NodeDecl}

/-! ## Defects -/

/-- The defects that a graph can have, each with what is wrong with the graph then. -/
inductive Defect.Present (entry : String) (decls : List NodeDecl) : Defect → Prop
  | entryBlank (hblank : Text.isBlankText entry) : Present entry decls .entryBlank
  | noNodes (hnone : decls = []) : Present entry decls .noNodes
  | entryUnknown (hsome : decls ≠ []) (hblank : ¬ Text.isBlankText entry)
      (hnone : ∀ d ∈ decls, d.id ≠ Text.trim entry) :
    Present entry decls (.entryUnknown (Text.trim entry))
  | entryKind {d : NodeDecl} {kind : NodeKind} (hblank : ¬ Text.isBlankText entry)
      (hfound : decls.find? (fun d => d.id == Text.trim entry) = some d)
      (hkind : d.kind? = some kind) (hentry : ¬ kind.isEntry) : Present entry decls .entryKind
  | duplicateId {before after : List NodeDecl} {d : NodeDecl}
      (hsplit : decls = before ++ d :: after) (hblank : ¬ Text.isBlankText d.id) (hseen : d.id ∈ before.map NodeDecl.id) :
    Present entry decls (.duplicateId d.id)
  | idBlank {d : NodeDecl} (hd : d ∈ decls) (hblank : Text.isBlankText d.id) :
    Present entry decls (.idBlank d.id)
  | typeBlank {d : NodeDecl} (hd : d ∈ decls) (hblank : Text.isBlankText d.typeName) :
    Present entry decls (.typeBlank d.id)
  | typeUnknown {d : NodeDecl} (hd : d ∈ decls) (hblank : ¬ Text.isBlankText d.typeName)
      (hkind : d.kind? = none) : Present entry decls (.typeUnknown d.id d.typeName)
  | dangling {d : NodeDecl} {field : RefField} {id : String} (hd : d ∈ decls)
      (hnames : d.Names field id) (hnone : ∀ t ∈ decls, t.id ≠ id) :
    Present entry decls (.dangling d.id field id)

theorem kind_any_iff {d : NodeDecl} : d.kind?.any (!·.isEntry) ↔
    ∃ kind, d.kind? = some kind ∧ ¬ kind.isEntry := by
  cases d.kind? <;> simp

/-! ## The defect of the entry -/

theorem Defect.present_of_entry (hsome : decls ≠ []) {x : Defect}
    (h : x ∈ entryDefects entry decls) : Present entry decls x := by
  unfold entryDefects at h
  split at h
  · next hid =>
    obtain rfl := List.mem_singleton.mp h
    exact .entryBlank ((Text.visible?_eq_none_iff _).mp hid)
  · next id hid =>
    obtain ⟨hblank, rfl⟩ := Text.visible?_eq_some_iff.mp hid
    split at h
    · next hnone =>
      obtain rfl := List.mem_singleton.mp h
      exact .entryUnknown hsome hblank fun d hd => by simpa using List.find?_eq_none.mp hnone d hd
    · next d hfound =>
      split at h
      · next hany =>
        obtain rfl := List.mem_singleton.mp h
        obtain ⟨kind, hkind, hentry⟩ := kind_any_iff.mp hany
        exact .entryKind hblank hfound hkind hentry
      · cases h

theorem entryDefects_of_blank (h : Text.isBlankText entry) :
    entryDefects entry decls = [.entryBlank] := by
  rw [entryDefects, (Text.visible?_eq_none_iff entry).mpr h]

theorem entryDefects_of_unknown (hblank : ¬ Text.isBlankText entry)
    (hnone : ∀ d ∈ decls, d.id ≠ Text.trim entry) :
    entryDefects entry decls = [.entryUnknown (Text.trim entry)] := by
  have hfound : decls.find? (fun d => d.id == Text.trim entry) = none :=
    List.find?_eq_none.mpr fun d hd => by simpa using hnone d hd
  simp only [entryDefects, Text.visible?_isSome hblank, hfound]

theorem entryDefects_of_kind (hblank : ¬ Text.isBlankText entry) {d : NodeDecl} {kind : NodeKind}
    (hfound : decls.find? (fun d => d.id == Text.trim entry) = some d)
    (hkind : d.kind? = some kind) (hentry : ¬ kind.isEntry) :
    entryDefects entry decls = [.entryKind] := by
  simp only [entryDefects, Text.visible?_isSome hblank, hfound]
  rw [if_pos (kind_any_iff.mpr ⟨kind, hkind, hentry⟩)]

/-! ## The defects of the nodes -/

theorem danglingDefect?_eq_some_iff {ids : List String} {id : String} {r : RefField × String}
    {x : Defect} : danglingDefect? ids id r = some x ↔
      ∃ target, Text.visible? r.2 = some target ∧ target ∉ ids ∧ x = .dangling id r.1 target := by
  unfold danglingDefect?
  split
  · next h => simp [h]
  · next target h => simp [h, eq_comm]

theorem mem_danglingDefects_iff {ids : List String} {d : NodeDecl} {x : Defect} :
    x ∈ d.references.filterMap (danglingDefect? ids d.id) ↔
      ∃ field id, d.Names field id ∧ id ∉ ids ∧ x = .dangling d.id field id := by
  rw [List.mem_filterMap]
  constructor
  · rintro ⟨⟨field, raw⟩, hmem, hx⟩
    obtain ⟨target, hvisible, hnone, rfl⟩ := danglingDefect?_eq_some_iff.mp hx
    exact ⟨field, target, ⟨raw, hmem, hvisible⟩, hnone, rfl⟩
  · rintro ⟨field, id, ⟨raw, hmem, hvisible⟩, hnone, rfl⟩
    exact ⟨(field, raw), hmem, danglingDefect?_eq_some_iff.mpr ⟨id, hvisible, hnone, rfl⟩⟩

theorem mem_typeDefects_iff {d : NodeDecl} {x : Defect} :
    x ∈ (if Text.isBlankText d.typeName then [Defect.typeBlank d.id]
      else if d.kind?.isNone then [.typeUnknown d.id d.typeName] else []) ↔
      Text.isBlankText d.typeName ∧ x = .typeBlank d.id ∨
      ¬ Text.isBlankText d.typeName ∧ d.kind? = none ∧ x = .typeUnknown d.id d.typeName := by
  split
  · next h => simp [h]
  · next h => simp [h, List.mem_ite_nil_right]

theorem mem_nodeDefects_iff {ids earlier : List String} {d : NodeDecl} {x : Defect} :
    x ∈ nodeDefects ids earlier d ↔
      ((¬ Text.isBlankText d.id ∧ d.id ∈ earlier ∧ x = .duplicateId d.id ∨
        Text.isBlankText d.id ∧ x = .idBlank d.id) ∨
        (Text.isBlankText d.typeName ∧ x = .typeBlank d.id ∨
          ¬ Text.isBlankText d.typeName ∧ d.kind? = none ∧ x = .typeUnknown d.id d.typeName)) ∨
      ∃ field id, d.Names field id ∧ id ∉ ids ∧ x = .dangling d.id field id := by
  have hdup : x ∈ (if !Text.isBlankText d.id && earlier.contains d.id
      then [Defect.duplicateId d.id] else []) ↔
      ¬ Text.isBlankText d.id ∧ d.id ∈ earlier ∧ x = .duplicateId d.id := by
    rw [List.mem_ite_nil_right]
    simp [and_assoc]
  have hblank : x ∈ (if Text.isBlankText d.id then [Defect.idBlank d.id] else []) ↔
      Text.isBlankText d.id ∧ x = .idBlank d.id := by
    rw [List.mem_ite_nil_right, List.mem_singleton]
  rw [nodeDefects, List.mem_append, List.mem_append, List.mem_append, hdup, hblank,
    mem_typeDefects_iff, mem_danglingDefects_iff]

/-- The defects of a node depend on the ids that are declared before it. -/
theorem mem_nodesDefects_iff {ids earlier : List String} {x : Defect} :
    x ∈ nodesDefects ids earlier decls ↔ ∃ before d after, decls = before ++ d :: after ∧
      x ∈ nodeDefects ids (earlier ++ before.map NodeDecl.id) d := by
  induction decls generalizing earlier with
  | nil => simp [nodesDefects]
  | cons t rest ih =>
    rw [nodesDefects, List.mem_append, ih]
    constructor
    · rintro (h | ⟨before, d, after, rfl, h⟩)
      · exact ⟨[], t, rest, rfl, by rwa [List.map_nil, List.append_nil]⟩
      · refine ⟨t :: before, d, after, rfl, ?_⟩
        rwa [List.map_cons, List.append_cons]
    · rintro ⟨before, d, after, hsplit, h⟩
      cases before with
      | nil =>
        obtain ⟨rfl, rfl⟩ := List.cons.inj hsplit
        rw [List.map_nil, List.append_nil] at h
        exact .inl h
      | cons u before =>
        obtain ⟨rfl, rfl⟩ := List.cons.inj hsplit
        rw [List.map_cons, List.append_cons] at h
        exact .inr ⟨before, d, after, rfl, h⟩

/-! ## All defects -/

theorem Defect.present_of_node {before after : List NodeDecl} {d : NodeDecl}
    (hsplit : decls = before ++ d :: after) {x : Defect}
    (h : x ∈ nodeDefects (decls.map NodeDecl.id) (before.map NodeDecl.id) d) :
    Present entry decls x := by
  have hd : d ∈ decls := by simp [hsplit]
  rcases mem_nodeDefects_iff.mp h with
    ((⟨hblank, hseen, rfl⟩ | ⟨hblank, rfl⟩) | ⟨hblank, rfl⟩ | ⟨hblank, hkind, rfl⟩) |
      ⟨field, id, hnames, hnone, rfl⟩
  · exact .duplicateId hsplit hblank hseen
  · exact .idBlank hd hblank
  · exact .typeBlank hd hblank
  · exact .typeUnknown hd hblank hkind
  · refine .dangling hd hnames fun t ht hid => hnone ?_
    exact hid ▸ List.mem_map_of_mem ht

theorem mem_defects_of_node {before after : List NodeDecl} {d : NodeDecl}
    (hsplit : decls = before ++ d :: after) {x : Defect}
    (h : x ∈ nodeDefects (decls.map NodeDecl.id) (before.map NodeDecl.id) d) :
    x ∈ defects entry decls := by
  have hsome : ¬ decls.isEmpty := by simp [hsplit]
  rw [defects, if_neg hsome, List.mem_append, mem_nodesDefects_iff]
  exact .inr ⟨before, d, after, hsplit, by rwa [List.nil_append]⟩

theorem mem_defects_of_mem {d : NodeDecl} (hd : d ∈ decls) {x : Defect}
    (h : ∀ earlier, x ∈ nodeDefects (decls.map NodeDecl.id) earlier d) :
    x ∈ defects entry decls := by
  obtain ⟨before, after, hsplit⟩ := List.append_of_mem hd
  exact mem_defects_of_node hsplit (h _)

theorem mem_defects_of_entry (hsome : decls ≠ []) {x : Defect} (h : x ∈ entryDefects entry decls) :
    x ∈ defects entry decls := by
  rw [defects, if_neg (by simpa using hsome)]
  exact List.mem_append_left _ h

theorem Defect.present_of_mem {x : Defect} (h : x ∈ defects entry decls) :
    Present entry decls x := by
  by_cases hsome : decls = []
  · rw [defects, if_pos (by simpa using hsome), List.mem_append, List.mem_ite_nil_right,
      List.mem_singleton, List.mem_singleton] at h
    rcases h with ⟨hblank, rfl⟩ | rfl
    · exact .entryBlank hblank
    · exact .noNodes hsome
  · rw [defects, if_neg (by simpa using hsome), List.mem_append, mem_nodesDefects_iff] at h
    rcases h with h | ⟨before, d, after, hsplit, h⟩
    · exact Defect.present_of_entry hsome h
    · exact Defect.present_of_node hsplit (by rwa [List.nil_append] at h)

theorem Defect.Present.mem {x : Defect} (h : x.Present entry decls) : x ∈ defects entry decls := by
  cases h with
  | entryBlank hblank =>
    by_cases hsome : decls = []
    · simp [defects, hsome, hblank]
    · exact mem_defects_of_entry hsome (by simp [entryDefects_of_blank hblank])
  | noNodes hnone => simp [defects, hnone]
  | entryUnknown hsome hblank hnone =>
    exact mem_defects_of_entry hsome (by simp [entryDefects_of_unknown hblank hnone])
  | entryKind hblank hfound hkind hentry =>
    have hsome : decls ≠ [] := List.ne_nil_of_mem (List.mem_of_find?_eq_some hfound)
    exact mem_defects_of_entry hsome (by simp [entryDefects_of_kind hblank hfound hkind hentry])
  | duplicateId hsplit hblank hseen =>
    exact mem_defects_of_node hsplit
      (mem_nodeDefects_iff.mpr (.inl (.inl (.inl ⟨hblank, hseen, rfl⟩))))
  | idBlank hd hblank =>
    exact mem_defects_of_mem hd fun _ =>
      mem_nodeDefects_iff.mpr (.inl (.inl (.inr ⟨hblank, rfl⟩)))
  | typeBlank hd hblank =>
    exact mem_defects_of_mem hd fun _ =>
      mem_nodeDefects_iff.mpr (.inl (.inr (.inl ⟨hblank, rfl⟩)))
  | typeUnknown hd hblank hkind =>
    exact mem_defects_of_mem hd fun _ =>
      mem_nodeDefects_iff.mpr (.inl (.inr (.inr ⟨hblank, hkind, rfl⟩)))
  | @dangling d field id hd hnames hnone =>
    have hids : id ∉ decls.map NodeDecl.id := by
      intro hid
      obtain ⟨t, ht, hsame⟩ := List.mem_map.mp hid
      exact hnone t ht hsame
    exact mem_defects_of_mem hd fun _ =>
      mem_nodeDefects_iff.mpr (.inr ⟨field, id, hnames, hids, rfl⟩)

/-- Exactly the defects that are present are found. -/
theorem mem_defects_iff {x : Defect} : x ∈ defects entry decls ↔ x.Present entry decls :=
  ⟨Defect.present_of_mem, Defect.Present.mem⟩

theorem problems_eq_nil_iff : problems entry decls = [] ↔ ∀ x, ¬ Defect.Present entry decls x := by
  rw [problems, List.map_eq_nil_iff, List.eq_nil_iff_forall_not_mem]
  exact forall_congr' fun x => not_congr mem_defects_iff

/-! ## Defects and errors -/

theorem exists_repeated (h : ¬ (decls.map NodeDecl.id).Nodup) : ∃ before d after,
    decls = before ++ d :: after ∧ d.id ∈ before.map NodeDecl.id := by
  -- The later one of two equal ids is what is found, so the list grows at its end.
  induction decls using List.reverseRecOn with
  | nil => exact absurd List.nodup_nil h
  | append_singleton rest t ih =>
    by_cases hrest : (rest.map NodeDecl.id).Nodup
    · have ht : t.id ∈ rest.map NodeDecl.id := by
        by_contra hnew
        refine h ?_
        rw [List.map_append, List.map_singleton]
        exact hrest.append (List.nodup_singleton _) (by simpa using hnew)
      exact ⟨rest, t, [], rfl, ht⟩
    · obtain ⟨before, d, after, rfl, hseen⟩ := ih hrest
      exact ⟨before, d, after ++ [t], by simp, hseen⟩

/-- The errors of compiling that validating does not look for. -/
inductive CompileError.Unforeseen : CompileError → Prop
  | missingField (nodeId field : String) : Unforeseen (.missingField nodeId field)
  | wrongReferenceKind (nodeId field reference expected : String) :
    Unforeseen (.wrongReferenceKind nodeId field reference expected)
  | cyclicDependency (nodeId : String) : Unforeseen (.cyclicDependency nodeId)
  | modelBinding (nodeId message : String) : Unforeseen (.modelBinding nodeId message)

/-- Every other error comes with a defect. -/
theorem unforeseen_of_rejects {e : CompileError} (h : Rejects entry decls e)
    (hnone : ∀ x, ¬ Defect.Present entry decls x) : e.Unforeseen := by
  have hsome : decls ≠ [] := fun h => hnone _ (.noNodes h)
  have hentry : ¬ Text.isBlankText entry := fun h => hnone _ (.entryBlank h)
  cases h with
  | entryNotFound hunknown => exact absurd (.entryUnknown hsome hentry hunknown) (hnone _)
  | invalidEntryType hfound hkind hwrong =>
    exact absurd (.entryKind hentry hfound hkind hwrong) (hnone _)
  | @unknownNodeType d hd hkind =>
    by_cases hblank : Text.isBlankText d.typeName
    · exact absurd (.typeBlank hd hblank) (hnone _)
    · exact absurd (.typeUnknown hd hblank hkind) (hnone _)
  | missingField hd field => exact .missingField ..
  | duplicateNodeId id hdistinct =>
    obtain ⟨before, d, after, hsplit, hseen⟩ := exists_repeated hdistinct
    by_cases hblank : Text.isBlankText d.id
    · exact absurd (.idBlank (by simp [hsplit]) hblank) (hnone (.idBlank d.id))
    · exact absurd (.duplicateId hsplit hblank hseen) (hnone (.duplicateId d.id))
  | unresolvedReference hd hrefers hunknown =>
    obtain ⟨_, _, _, hnames⟩ := hrefers
    exact absurd (.dangling hd hnames hunknown) (hnone _)
  | wrongReferenceKind hd hrefers => exact .wrongReferenceKind ..
  | cyclicDependency hcycle => exact .cyclicDependency ..

/-- The defects that a graph may have and still be compiled. -/
inductive Defect.Tolerated (entry : String) (decls : List NodeDecl) : Defect → Prop
  | entryBlank (hblank : Text.isBlankText entry) : Tolerated entry decls .entryBlank
  | idBlank {d : NodeDecl} (hd : d ∈ decls) (hblank : Text.isBlankText d.id) :
    Tolerated entry decls (.idBlank d.id)
  | dangling {d : NodeDecl} {field : RefField} {id : String} {kind : NodeKind} (hd : d ∈ decls)
      (hkind : d.kind? = some kind) (hunused : ¬ field.usedBy kind) (hnames : d.Names field id)
      (hnone : ∀ t ∈ decls, t.id ≠ id) : Tolerated entry decls (.dangling d.id field id)

theorem not_blank_of_kind? {d : NodeDecl} {kind : NodeKind} (h : d.kind? = some kind) :
    ¬ Text.isBlankText d.typeName := by
  rw [← (NodeKind.ofName?_eq_some_iff _ _).mp h]
  cases kind <;> decide

theorem tolerated_of_acceptable (h : Acceptable entry decls) {x : Defect}
    (hx : x.Present entry decls) : x.Tolerated entry decls := by
  obtain ⟨t, ht, hid, hentry⟩ := h.entry
  cases hx with
  | entryBlank hblank => exact .entryBlank hblank
  | noNodes hnone => exact absurd hnone (List.ne_nil_of_mem ht)
  | entryUnknown _ _ hnone => exact absurd hid (hnone t ht)
  | @entryKind d kind _ hfound hkind hwrong =>
    have hsame : decls.find? (fun d => d.id == Text.trim entry) = some t :=
      hid ▸ Checked.find?_eq_some h.distinct ht
    rw [hsame, Option.some.injEq] at hfound
    rw [hfound, hkind] at hentry
    exact absurd (isEntry_iff.mpr (by simpa using hentry)) hwrong
  | @duplicateId before after d hsplit _ hseen =>
    have hnodup := h.distinct
    rw [hsplit, List.map_append, List.map_cons] at hnodup
    exact (List.disjoint_of_nodup_append hnodup hseen List.mem_cons_self).elim
  | idBlank hd hblank => exact .idBlank hd hblank
  | typeBlank hd hblank =>
    obtain ⟨kind, hkind, -⟩ := h.complete _ hd
    exact absurd hblank (not_blank_of_kind? hkind)
  | typeUnknown hd _ hnone =>
    obtain ⟨kind, hkind, -⟩ := h.complete _ hd
    rw [hkind] at hnone
    cases hnone
  | @dangling d field id hd hnames hnone =>
    obtain ⟨kind, hkind, -⟩ := h.complete d hd
    refine .dangling hd hkind (fun hused => ?_) hnames hnone
    obtain ⟨t, ht, hid, -⟩ := h.resolved d hd field id ⟨kind, hkind, hused, hnames⟩
    exact hnone t ht hid

/-- What validates is compiled, up to what validating does not look for; what is compiled validates,
up to what compiling does not look at. -/
theorem problems_agree_with_compile {μ : Type} (provider : Provider μ) (tools : Registry)
    (config : Config) (entry : String) (decls : List NodeDecl) :
    (problems entry decls = [] →
      (∃ e, (compile provider tools config entry decls).result = .ok e) ∨
      ∃ e, (compile provider tools config entry decls).result = .error e ∧ e.Unforeseen) ∧
    ∀ e, (compile provider tools config entry decls).result = .ok e →
      ∀ p ∈ problems entry decls, ∃ x : Defect, x.problem = p ∧ x.Tolerated entry decls := by
  constructor
  · intro hvalid
    cases hresult : (compile provider tools config entry decls).result with
    | ok e => exact .inl ⟨e, rfl⟩
    | error e =>
      refine .inr ⟨e, rfl, ?_⟩
      rcases compile_error hresult with hrejects | ⟨id, message, rfl⟩
      · exact unforeseen_of_rejects hrejects (problems_eq_nil_iff.mp hvalid)
      · exact .modelBinding id message
  · intro e he p hp
    obtain ⟨c, hc, -⟩ := compiled_of_compile he
    obtain ⟨x, hx, rfl⟩ := List.mem_map.mp hp
    exact ⟨x, rfl, tolerated_of_acceptable (Checked.passed hc).acceptable (mem_defects_iff.mp hx)⟩

end AgentGraph
