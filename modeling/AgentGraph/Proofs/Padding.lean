import AgentGraph.Compile
import AgentGraph.Graph.Problem
import AgentGraph.Proofs.Trimmed
import Mathlib.Data.List.Forall2
import Mathlib.Data.Option.Defs

/-! Blanks around the texts of a graph.

* `Text.Padded`: two texts that differ only in the blanks around them. They are the same when trimmed.
* `NodeDecl.Padded`: two declarations that differ only in the blanks around their texts; ids, types, tools,
  templates and conditions are the same.
* `NodeDecl.trimmed`: a declaration with these texts trimmed. It makes the same node (`ofDecl_trimmed`) and
  has the same defects (`nodeDefects_trimmed`).
* `padding_ignored`: so two graphs that differ only in such blanks have the same problems, and compiling
  them comes to the same. -/
namespace AgentGraph
set_option autoImplicit false

/-! ## Texts -/

namespace Text

variable {s t : String} {left core right : List Char}

/-- One text with blanks around it, and the same text with perhaps other blanks around it. -/
def Padded (s t : String) : Prop :=
  ∃ core left right left' right' : List Char,
    (∀ c ∈ left ++ right, isBlank c) ∧ (∀ c ∈ left' ++ right', isBlank c) ∧
      s.toList = left ++ core ++ right ∧ t.toList = left' ++ core ++ right'

theorem trimChars_pad (h : ∀ c ∈ left ++ right, isBlank c) :
    trimChars (left ++ core ++ right) = trimChars core := by
  have hleft : ∀ c ∈ left, isBlank c := fun c hc => h c (List.mem_append_left _ hc)
  have hright : ∀ c ∈ right, isBlank c := fun c hc => h c (List.mem_append_right _ hc)
  rw [trimChars_eq, trimChars_eq, List.append_assoc, List.dropWhile_append_of_pos hleft,
    List.dropWhile_append]
  split
  · next hcore =>
    rw [List.dropWhile_eq_nil_iff.mpr hright, List.isEmpty_iff.mp hcore]
  · have hreverse : ∀ c ∈ right.reverse, isBlank c := fun c hc => hright c (List.mem_reverse.mp hc)
    rw [List.rdropWhile, List.reverse_append, List.dropWhile_append_of_pos hreverse, List.rdropWhile]

theorem Padded.trim_eq (h : Padded s t) : trim s = trim t := by
  obtain ⟨core, left, right, left', right', hs, ht, hsl, htl⟩ := h
  rw [trim, trim, hsl, htl, trimChars_pad hs, trimChars_pad ht]

theorem exists_pad (cs : List Char) :
    ∃ left right, (∀ c ∈ left ++ right, isBlank c) ∧ cs = left ++ trimChars cs ++ right := by
  refine ⟨cs.takeWhile isBlank, (cs.dropWhile isBlank).rtakeWhile isBlank, fun c hc => ?_, ?_⟩
  · rcases List.mem_append.mp hc with hc | hc
    · exact List.mem_takeWhile_imp hc
    · exact List.mem_rtakeWhile_imp hc
  · have hinner : trimChars cs ++ (cs.dropWhile isBlank).rtakeWhile isBlank = cs.dropWhile isBlank := by
      rw [trimChars_eq, List.rdropWhile, List.rtakeWhile, ← List.reverse_append,
        List.takeWhile_append_dropWhile, List.reverse_reverse]
    rw [List.append_assoc, hinner, List.takeWhile_append_dropWhile]

/-- To differ only in blanks around is to be the same when trimmed. -/
theorem padded_iff : Padded s t ↔ trim s = trim t := by
  refine ⟨Padded.trim_eq, fun h => ?_⟩
  obtain ⟨left, right, hs, hsl⟩ := exists_pad s.toList
  obtain ⟨left', right', ht, htl⟩ := exists_pad t.toList
  rw [← String.ofList_injective h] at htl
  exact ⟨_, left, right, left', right', hs, ht, hsl, htl⟩

instance (s t : String) : Decidable (Padded s t) := decidable_of_iff _ padded_iff.symm

theorem visible?_trim (s : String) : visible? (trim s) = visible? s := by
  have hblank : isBlankText (trim s) = isBlankText s := Bool.eq_iff_iff.mpr (isBlankText_trim s)
  rw [visible?, visible?, hblank, trim_trim]

theorem visible?_comp_trim : visible? ∘ trim = visible? := by
  funext s
  rw [Function.comp_apply, visible?_trim]

theorem map_trim_of_padded {s t : Option String} (h : Option.Rel Padded s t) :
    s.map trim = t.map trim := by
  cases h with
  | none => rfl
  | some h => exact congrArg some h.trim_eq

end Text

/-! ## Declarations -/

/-- The branches have the same condition, and targets that differ only in the blanks around them. -/
structure BranchDecl.Padded (b b' : BranchDecl) : Prop where
  conditionKey : b.conditionKey = b'.conditionKey
  value : b.value = b'.value
  agentId : Text.Padded b.agentId b'.agentId

def BranchDecl.trimmed (b : BranchDecl) : BranchDecl := { b with agentId := Text.trim b.agentId }

namespace NodeDecl

variable {d d' : NodeDecl}

/-- The declarations differ only in the blanks around some of their texts. -/
structure Padded (d d' : NodeDecl) : Prop where
  id : d.id = d'.id
  typeName : d.typeName = d'.typeName
  baseUrl : Option.Rel Text.Padded d.baseUrl d'.baseUrl
  modelName : Option.Rel Text.Padded d.modelName d'.modelName
  temperature : d.temperature = d'.temperature
  maxTokens : d.maxTokens = d'.maxTokens
  llmId : Option.Rel Text.Padded d.llmId d'.llmId
  name : Option.Rel Text.Padded d.name d'.name
  role : Option.Rel Text.Padded d.role d'.role
  systemMessage : Option.Rel Text.Padded d.systemMessage d'.systemMessage
  promptTemplate : d.promptTemplate = d'.promptTemplate
  outputKey : Option.Rel Text.Padded d.outputKey d'.outputKey
  toolIds : d.toolIds = d'.toolIds
  tools : d.tools = d'.tools
  subAgentIds : List.Forall₂ Text.Padded d.subAgentIds d'.subAgentIds
  responseStrategy : Option.Rel Text.Padded d.responseStrategy d'.responseStrategy
  routerAgentId : Option.Rel Text.Padded d.routerAgentId d'.routerAgentId
  branches : List.Forall₂ BranchDecl.Padded d.branches d'.branches
  threadPoolSize : d.threadPoolSize = d'.threadPoolSize

/-- The declaration without blanks around these texts. -/
def trimmed (d : NodeDecl) : NodeDecl :=
  { d with
    baseUrl := d.baseUrl.map Text.trim
    modelName := d.modelName.map Text.trim
    llmId := d.llmId.map Text.trim
    name := d.name.map Text.trim
    role := d.role.map Text.trim
    systemMessage := d.systemMessage.map Text.trim
    outputKey := d.outputKey.map Text.trim
    subAgentIds := d.subAgentIds.map Text.trim
    responseStrategy := d.responseStrategy.map Text.trim
    routerAgentId := d.routerAgentId.map Text.trim
    branches := d.branches.map BranchDecl.trimmed }

theorem Padded.trimmed_eq (h : d.Padded d') : d.trimmed = d'.trimmed := by
  have hbranch : ∀ ⦃b b' : BranchDecl⦄, b.Padded b' → b.trimmed = b'.trimmed := by
    intro b b' hb
    rw [BranchDecl.trimmed, BranchDecl.trimmed, hb.conditionKey, hb.value, hb.agentId.trim_eq]
  have hids : d.subAgentIds.map Text.trim = d'.subAgentIds.map Text.trim :=
    List.forall₂_eq_eq_eq ▸ List.rel_map (fun _ _ hid => hid.trim_eq) h.subAgentIds
  have hbranches : d.branches.map BranchDecl.trimmed = d'.branches.map BranchDecl.trimmed :=
    List.forall₂_eq_eq_eq ▸ List.rel_map hbranch h.branches
  simp only [trimmed, h.id, h.typeName, h.temperature, h.maxTokens, h.promptTemplate, h.toolIds, h.tools,
    h.threadPoolSize, hids, hbranches, Text.map_trim_of_padded h.baseUrl,
    Text.map_trim_of_padded h.modelName, Text.map_trim_of_padded h.llmId, Text.map_trim_of_padded h.name,
    Text.map_trim_of_padded h.role, Text.map_trim_of_padded h.systemMessage,
    Text.map_trim_of_padded h.outputKey, Text.map_trim_of_padded h.responseStrategy,
    Text.map_trim_of_padded h.routerAgentId]

theorem shownName_trimmed (d : NodeDecl) : d.trimmed.shownName = d.shownName := by
  have hname : d.trimmed.name.bind Text.visible? = d.name.bind Text.visible? := by
    rw [trimmed, Option.bind_map, Text.visible?_comp_trim]
  rw [shownName, shownName, hname]
  rfl

end NodeDecl

/-! ## Nodes -/

namespace Node

variable (d : NodeDecl)

theorem shown_map_trim (text : Option String) : shown (text.map Text.trim) = shown text := by
  rw [shown, Option.bind_map, Text.visible?_comp_trim, shown]

theorem demand_trimmed (text : Option String) (field : RefField) :
    demand d.trimmed (text.map Text.trim) field = demand d text field := by
  rw [demand, demand, shown_map_trim]
  rfl

theorem demandIds_trimmed : demandIds d.trimmed = demandIds d := by
  have hids : d.trimmed.subAgentIds = d.subAgentIds.map Text.trim := rfl
  rw [demandIds, demandIds, hids, List.isEmpty_map, List.mapM_map]
  have hdemand : ∀ id, demand d.trimmed (some (Text.trim id)) .subAgentIds =
      demand d (some id) .subAgentIds := fun id => demand_trimmed d (some id) _
  simp only [Function.comp_def, hdemand]
  rfl

theorem demandBranches_trimmed : demandBranches d.trimmed = demandBranches d := by
  have hbranches : d.trimmed.branches = d.branches.map BranchDecl.trimmed := rfl
  rw [demandBranches, demandBranches, hbranches, List.isEmpty_map, List.mapM_map]
  have hdemand : ∀ b : BranchDecl, demand d.trimmed (some b.trimmed.agentId) .branches =
      demand d (some b.agentId) .branches := fun b => demand_trimmed d (some b.agentId) _
  simp only [Function.comp_def, hdemand]
  rfl

theorem systemMessage_trimmed : systemMessage d.trimmed = systemMessage d := by
  have hsystem : shown d.trimmed.systemMessage = shown d.systemMessage := shown_map_trim _
  have hrole : shown d.trimmed.role = shown d.role := shown_map_trim _
  rw [systemMessage, systemMessage, hsystem, hrole]

theorem strategy_trimmed : strategy d.trimmed = strategy d := by
  have hstrategy : shown d.trimmed.responseStrategy = shown d.responseStrategy := shown_map_trim _
  rw [strategy, strategy, hstrategy]

theorem role_trimmed (kind : NodeKind) : Role.ofDecl d.trimmed kind = Role.ofDecl d kind := by
  have hllm : demand d.trimmed d.trimmed.llmId .llmId = demand d d.llmId .llmId := demand_trimmed ..
  cases kind with
  | llm =>
    have hbase : shown d.trimmed.baseUrl = shown d.baseUrl := shown_map_trim _
    have hmodel : shown d.trimmed.modelName = shown d.modelName := shown_map_trim _
    rw [Role.ofDecl, Role.ofDecl, hbase, hmodel]
    rfl
  | agent =>
    rw [Role.ofDecl, Role.ofDecl, hllm, systemMessage_trimmed]
    rfl
  | sequence => rw [Role.ofDecl, Role.ofDecl, demandIds_trimmed]
  | parallel =>
    rw [Role.ofDecl, Role.ofDecl, demandIds_trimmed]
    rfl
  | conditional =>
    have hrouter : shown d.trimmed.routerAgentId = shown d.routerAgentId := shown_map_trim _
    rw [Role.ofDecl, Role.ofDecl, demandBranches_trimmed, hrouter]
  | supervisor => rw [Role.ofDecl, Role.ofDecl, hllm, demandIds_trimmed, strategy_trimmed]

theorem ofDecl_trimmed : ofDecl d.trimmed = ofDecl d := by
  have hkind : d.trimmed.kind? = d.kind? := rfl
  have hkey : shown d.trimmed.outputKey = shown d.outputKey := shown_map_trim _
  rw [ofDecl, ofDecl, hkind]
  cases d.kind? with
  | none => rfl
  | some kind =>
    cases kind <;> simp only [role_trimmed, NodeDecl.shownName_trimmed, hkey] <;> rfl

end Node

/-! ## Checks -/

variable {μ : Type} (entry : String) (decls : List NodeDecl)

theorem find?_trimmed (id : String) : (decls.map NodeDecl.trimmed).find? (fun d => d.id == id) =
    (decls.find? fun d => d.id == id).map NodeDecl.trimmed := List.find?_map ..

theorem Checked.entry_trimmed :
    Checked.entry (Text.trim entry) (decls.map NodeDecl.trimmed) = Checked.entry entry decls := by
  unfold Checked.entry
  dsimp only
  rw [Text.trim_trim, find?_trimmed]
  cases decls.find? fun d => d.id == Text.trim entry <;> rfl

theorem Checked.ofDecls_trimmed :
    ofDecls (Text.trim entry) (decls.map NodeDecl.trimmed) = ofDecls entry decls := by
  have hnodes : (decls.map NodeDecl.trimmed).mapM Node.ofDecl = decls.mapM Node.ofDecl := by
    rw [List.mapM_map]
    exact congrArg decls.mapM (funext Node.ofDecl_trimmed)
  rw [ofDecls, ofDecls, entry_trimmed, hnodes]

theorem compile_trimmed (provider : Provider μ) (tools : Registry) (config : Config) :
    compile provider tools config (Text.trim entry) (decls.map NodeDecl.trimmed) =
      compile provider tools config entry decls := by
  rw [compile, compile, Checked.ofDecls_trimmed]

/-! ## Defects -/

theorem danglingDefect?_trimmed (ids : List String) (id : String) (r : RefField × String) :
    danglingDefect? ids id (r.1, Text.trim r.2) = danglingDefect? ids id r := by
  rw [danglingDefect?, danglingDefect?, Text.visible?_trim]

theorem references_trimmed (d : NodeDecl) :
    d.trimmed.references = d.references.map fun r => (r.1, Text.trim r.2) := by
  cases hllm : d.llmId <;> cases hrouter : d.routerAgentId <;>
    simp [NodeDecl.references, NodeDecl.trimmed, BranchDecl.trimmed, Function.comp_def, hllm, hrouter]

theorem nodeDefects_trimmed (ids earlier : List String) (d : NodeDecl) :
    nodeDefects ids earlier d.trimmed = nodeDefects ids earlier d := by
  have hdangling : d.trimmed.references.filterMap (danglingDefect? ids d.id) =
      d.references.filterMap (danglingDefect? ids d.id) := by
    rw [references_trimmed, List.filterMap_map]
    simp only [Function.comp_def, danglingDefect?_trimmed]
  exact congrArg (_ ++ ·) hdangling

theorem nodesDefects_trimmed (ids earlier : List String) :
    nodesDefects ids earlier (decls.map NodeDecl.trimmed) = nodesDefects ids earlier decls := by
  induction decls generalizing earlier with
  | nil => rfl
  | cons d rest ih =>
    rw [List.map_cons, nodesDefects, nodesDefects, nodeDefects_trimmed, ih]
    rfl

theorem entryDefects_trimmed :
    entryDefects (Text.trim entry) (decls.map NodeDecl.trimmed) = entryDefects entry decls := by
  rw [entryDefects, entryDefects, Text.visible?_trim]
  cases Text.visible? entry with
  | none => rfl
  | some id =>
    dsimp only
    rw [find?_trimmed]
    cases decls.find? fun d => d.id == id <;> rfl

theorem defects_trimmed : defects (Text.trim entry) (decls.map NodeDecl.trimmed) = defects entry decls := by
  have hids : (decls.map NodeDecl.trimmed).map NodeDecl.id = decls.map NodeDecl.id := by
    rw [List.map_map]
    rfl
  have hblank : Text.isBlankText (Text.trim entry) = Text.isBlankText entry :=
    Bool.eq_iff_iff.mpr (Text.isBlankText_trim entry)
  rw [defects, defects, List.isEmpty_map, hblank, entryDefects_trimmed, hids, nodesDefects_trimmed]

/-! ## Graphs -/

/-- Two graphs that differ only in blanks around the entry id and the texts of their nodes have the same
problems, with the same messages, and compiling them asks for the same models and comes to the same error or
the same entry. -/
theorem padding_ignored (entry entry' : String) (decls decls' : List NodeDecl)
    (hentry : Text.Padded entry entry') (hdecls : List.Forall₂ NodeDecl.Padded decls decls') :
    problems entry decls = problems entry' decls' ∧
      ∀ (μ : Type) (provider : Provider μ) (tools : Registry) (config : Config),
        compile provider tools config entry decls = compile provider tools config entry' decls' := by
  have hsame : decls.map NodeDecl.trimmed = decls'.map NodeDecl.trimmed :=
    List.forall₂_eq_eq_eq ▸ List.rel_map (fun _ _ hd => hd.trimmed_eq) hdecls
  refine ⟨?_, fun μ provider tools config => ?_⟩
  · rw [problems, problems, ← defects_trimmed entry, ← defects_trimmed entry', hentry.trim_eq, hsame]
  · rw [← compile_trimmed entry, ← compile_trimmed entry', hentry.trim_eq, hsame]

/-! ## A graph that is written carelessly -/

namespace Chant

def tidy : List NodeDecl :=
  [.llm "model" "address" "name", { NodeDecl.agent "singer" "model" with role := "soloist" },
    .sequence "entry" ["singer"]]

def untidy : List NodeDecl :=
  [.llm "model" "\taddress" "name ", { NodeDecl.agent "singer" " model" with role := "soloist\n" },
    .sequence "entry" ["singer\u3000"]]

theorem padded : List.Forall₂ NodeDecl.Padded untidy tidy :=
  .cons ⟨rfl, rfl, .some (by decide), .some (by decide), rfl, rfl, .none, .none, .none, .none, rfl, .none,
      rfl, rfl, .nil, .none, .none, .nil, rfl⟩
    (.cons ⟨rfl, rfl, .none, .none, rfl, rfl, .some (by decide), .none, .some (by decide), .none, rfl, .none,
        rfl, rfl, .nil, .none, .none, .nil, rfl⟩
      (.cons ⟨rfl, rfl, .none, .none, rfl, rfl, .none, .none, .none, .none, rfl, .none,
          rfl, rfl, .cons (by decide) .nil, .none, .none, .nil, rfl⟩ .nil))

end Chant

theorem padding_ignored_chant :
    Text.Padded "\u00a0entry" "entry" ∧ List.Forall₂ NodeDecl.Padded Chant.untidy Chant.tidy ∧
      problems "\u00a0entry" Chant.untidy = [] ∧
      compile (fun _ => .ok ()) [] {} "\u00a0entry" Chant.untidy =
        compile (fun _ => .ok ()) [] {} "entry" Chant.tidy := by
  have hentry : Text.Padded "\u00a0entry" "entry" := by decide
  obtain ⟨hproblems, hcompile⟩ := padding_ignored "\u00a0entry" "entry" _ _ hentry Chant.padded
  have htidy : problems "entry" Chant.tidy = [] := by decide
  exact ⟨hentry, Chant.padded, hproblems.trans htidy, hcompile Unit (fun _ => .ok ()) [] {}⟩

end AgentGraph
