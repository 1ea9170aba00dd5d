import AgentGraph.Proofs.Assembling
import AgentGraph.Proofs.Declared
import AgentGraph.Proofs.Scanning

/-! Texts that go on after an object.

Where a text is no JSON its document holds a fault, and whoever skips the document meets one. Without a
fault a document that was opened with a bracket has been closed by one, so it is the document of every
text that begins like that, whatever comes after it.

* `Doc.Faulty.skip_ne`: a fault is met by whoever skips the document.
* `assemble_settles`: what is assembled has a fault, or ends with a bracket.
* `Doc.ofChars_extend`: the document of an object with more text behind it.
* `onText_extend`: what is read of an object with more text behind it. -/
namespace AgentGraph.Json

set_option autoImplicit false

/-! ## Faulty documents -/

/-- The ending is a fault of its own. -/
def Close.Fails : Close → Prop
  | .closed _ | .cut => False
  | _ => True

/-- Somewhere the text of the document is no JSON. -/
inductive Doc.Faulty : Doc → Prop
  | broken {start : Option Nat} {reading skipping : Fault} : Faulty (.broken start reading skipping)
  | item {start : Option Nat} {items : List Doc} {close : Close} {d : Doc} (hmem : d ∈ items)
      (hd : Faulty d) : Faulty (.list start items close)
  | member {start : Option Nat} {members : List (Key × Doc)} {close : Close} {m : Key × Doc}
      (hmem : m ∈ members) (hm : Faulty m.2) : Faulty (.object start members close)
  | list {start : Option Nat} {items : List Doc} {close : Close} (h : close.Fails) :
      Faulty (.list start items close)
  | object {start : Option Nat} {members : List (Key × Doc)} {close : Close} (h : close.Fails) :
      Faulty (.object start members close)

theorem Close.Fails.listFaultSkipping {close : Close} (h : close.Fails) :
    close.listFaultSkipping ≠ none := by
  cases close with
  | closed | cut => exact h.elim
  | _ => exact Option.some_ne_none _

theorem Close.Fails.objectFaultSkipping {close : Close} (h : close.Fails) :
    close.objectFaultSkipping ≠ none := by
  cases close with
  | closed | cut => exact h.elim
  | _ => exact Option.some_ne_none _

theorem skip_list_ok {start : Option Nat} {items : List Doc} {close : Close}
    (h : (Doc.list start items close).skip = .ok ()) :
    skipItems items = .ok () ∧ close.listFaultSkipping = none := by
  rw [Doc.skip] at h
  obtain ⟨⟨⟩, hitems, hclose⟩ := bind_eq_ok_iff.mp h
  exact ⟨hitems, (raise_eq_ok_iff.mp hclose).1⟩

theorem skip_object_ok {start : Option Nat} {members : List (Key × Doc)} {close : Close}
    (h : (Doc.object start members close).skip = .ok ()) :
    skipMembers members = .ok () ∧ close.objectFaultSkipping = none := by
  rw [Doc.skip] at h
  obtain ⟨⟨⟩, hmembers, hclose⟩ := bind_eq_ok_iff.mp h
  exact ⟨hmembers, (raise_eq_ok_iff.mp hclose).1⟩

theorem skipItems_ok {items : List Doc} (h : skipItems items = .ok ()) : ∀ d ∈ items, d.skip = .ok () := by
  induction items with
  | nil => exact List.forall_mem_nil _
  | cons d items ih =>
    rw [skipItems] at h
    obtain ⟨⟨⟩, hd, hitems⟩ := bind_eq_ok_iff.mp h
    exact List.forall_mem_cons.mpr ⟨hd, ih hitems⟩

theorem skipMembers_ok {members : List (Key × Doc)} (h : skipMembers members = .ok ()) :
    ∀ m ∈ members, m.2.skip = .ok () := by
  induction members with
  | nil => exact List.forall_mem_nil _
  | cons m members ih =>
    rw [skipMembers] at h
    obtain ⟨⟨⟩, hm, hmembers⟩ := bind_eq_ok_iff.mp h
    exact List.forall_mem_cons.mpr ⟨hm, ih hmembers⟩

/-- A fault in a document is met by whoever skips it. -/
theorem Doc.Faulty.skip_ne {d : Doc} (h : d.Faulty) : d.skip ≠ .ok () := by
  induction h with
  | broken => exact nofun
  | item hmem _ ih => exact fun hskip => ih (skipItems_ok (skip_list_ok hskip).1 _ hmem)
  | member hmem _ ih => exact fun hskip => ih (skipMembers_ok (skip_object_ok hskip).1 _ hmem)
  | list h => exact fun hskip => h.listFaultSkipping (skip_list_ok hskip).2
  | object h => exact fun hskip => h.objectFaultSkipping (skip_object_ok hskip).2

/-! ## What is open -/

/-- The frame takes in the value that comes next. -/
def Frame.Takes : Frame → Prop
  | .list _ _ => True
  | .object _ _ key => key.isSome

section Frames

variable {f : Frame} {frames : List Frame} {d : Doc}

theorem Doc.Faulty.push (hd : d.Faulty) (hf : f.Takes) (close : Close) : ((f.push d).close close).Faulty := by
  cases f with
  | list start items => exact .item (List.mem_reverse.mpr List.mem_cons_self) hd
  | object start members key =>
    obtain ⟨key, rfl⟩ := Option.isSome_iff_exists.mp hf
    exact .member (m := (key, d)) (List.mem_reverse.mpr List.mem_cons_self) hd

theorem Doc.Faulty.cutOff (hd : d.Faulty) (hframes : ∀ f ∈ frames, f.Takes) :
    (cutOff d frames).Faulty := by
  induction frames generalizing d with
  | nil => exact hd
  | cons f frames ih =>
    obtain ⟨hf, hframes⟩ := List.forall_mem_cons.mp hframes
    exact ih (hd.push hf .cut) hframes

theorem faulty_breakOff {close : Close} (h : close.Fails) (hframes : ∀ f ∈ frames, f.Takes) (f : Frame) :
    (breakOff close (f :: frames)).Faulty := by
  have hf : (f.close close).Faulty := by
    cases f with
    | list => exact .list h
    | object => exact .object h
  exact hf.cutOff hframes

end Frames

/-- The containers that can be open when this is due, within one that is open throughout. -/
inductive Due.Within : Due → List Frame → Prop
  | value {f : Frame} {frames : List Frame} (hf : f.Takes) (h : ∀ f ∈ frames, f.Takes) :
      Within .value (f :: frames)
  | item {first : Bool} {start : Nat} {items : List Doc} {frames : List Frame}
      (h : ∀ f ∈ frames, f.Takes) : Within (.item first) (.list start items :: frames)
  | key {first : Bool} {start : Nat} {members : List (Key × Doc)} {key : Option Key}
      {frames : List Frame} (h : ∀ f ∈ frames, f.Takes) :
      Within (.key first) (.object start members key :: frames)
  | colon {f : Frame} {frames : List Frame} (hf : f.Takes) (h : ∀ f ∈ frames, f.Takes) :
      Within .colon (f :: frames)
  | separator {f : Frame} {frames : List Frame} (h : ∀ f ∈ frames, f.Takes) :
      Within .separator (f :: frames)

/-- What is assembled of the lexemes has a fault, or ends with one of the lexemes that is a bracket and
is the same whatever lexemes come after it. -/
def Settles (size : Nat) (frames : List Frame) (due : Due) (ls : List Lexeme) : Prop :=
  (assemble size frames due ls).1.Faulty ∨
    ∃ us vs, ls = us ++ vs ∧ (∃ l, us.getLast? = some l ∧ l.token.closes) ∧
      (assemble size frames due ls).2 = vs.head?.map Lexeme.start ∧
      ∀ size' more, assemble size' frames due (us ++ more) =
        ((assemble size frames due ls).1, more.head?.map Lexeme.start)

section Settles

variable {size : Nat} {frames frames' : List Frame} {due due' : Due} {l : Lexeme} {rest : List Lexeme}

/-- A lexeme after which assembling goes on. A key takes its place from the lexeme that follows it, so
only that one may not change. -/
theorem Settles.step
    (h : ∀ size' more, more.head? = rest.head? →
      assemble size' frames due (l :: more) = assemble size' frames' due' more)
    (hrest : Settles size frames' due' rest) : Settles size frames due (l :: rest) := by
  unfold Settles
  rw [h size rest rfl]
  rcases hrest with hfaulty | ⟨us, vs, rfl, ⟨last, hlast, hcloses⟩, hafter, hmore⟩
  · exact .inl hfaulty
  · refine .inr ⟨l :: us, vs, rfl, ⟨last, ?_, hcloses⟩, hafter, fun size' more => ?_⟩
    · rw [List.getLast?_cons, hlast]
      rfl
    · have hus : us ≠ [] := by
        rintro rfl
        cases hlast
      have hhead : (us ++ more).head? = (us ++ vs).head? := by
        rw [List.head?_append_of_ne_nil us hus, List.head?_append_of_ne_nil us hus]
      rw [List.cons_append, h size' (us ++ more) hhead, hmore]

/-- A lexeme with which a value is complete. -/
theorem Settles.resume {d : Doc}
    (h : ∀ size' more, assemble size' frames' due (l :: more) = resume size' d frames more)
    (hl : frames = [] → l.token.closes)
    (hrest : ∀ f fs, frames = f :: fs → Settles size (f.push d :: fs) .separator rest) :
    Settles size frames' due (l :: rest) := by
  cases frames with
  | nil =>
    refine .inr ⟨[l], rest, rfl, ⟨l, rfl, hl rfl⟩, ?_, fun size' more => ?_⟩
    · rw [h]
      rfl
    · rw [h, List.singleton_append, h]
      rfl
  | cons f fs => exact Settles.step (fun size' more _ => h size' more) (hrest f fs rfl)

/-- The lexemes that are left settle whatever is open. -/
def Settling (size : Nat) (rest : List Lexeme) : Prop :=
  ∀ frames due, Due.Within due frames → Settles size frames due rest

theorem Settling.push (h : Settling size rest) (hframes : ∀ f ∈ frames, f.Takes) (d : Doc) :
    ∀ f fs, frames = f :: fs → Settles size (f.push d :: fs) .separator rest := by
  rintro f fs rfl
  exact h _ _ (.separator (List.forall_mem_cons.mp hframes).2)

theorem settles_value (h : Settling size rest) (hdue : due.TakesValue)
    (hclose : due ≠ .value → l.token ≠ .closeList) (hframes : ∀ f ∈ frames, f.Takes)
    (hopen : frames ≠ []) : Settles size frames due (l :: rest) := by
  cases htoken : l.token with
  | openList => exact .step (fun _ _ _ => assemble_openList hdue htoken) (h _ _ (.item hframes))
  | openObject => exact .step (fun _ _ _ => assemble_openObject hdue htoken) (h _ _ (.key hframes))
  | scalar content =>
    exact .resume (fun _ _ => assemble_scalar hdue htoken) (fun hnil => absurd hnil hopen)
      (h.push hframes _)
  | string content =>
    exact .resume (fun _ _ => assemble_string hdue htoken) (fun hnil => absurd hnil hopen)
      (h.push hframes _)
  | closeList =>
    have hvalue : due = .value := by_contra fun hne => hclose hne htoken
    subst hvalue
    refine .inl ?_
    simp only [assemble, htoken]
    exact Doc.Faulty.broken.cutOff hframes
  | closeObject | comma | colon | broken | brokenString =>
    refine .inl ?_
    cases due with
    | value | item =>
      simp only [assemble, htoken]
      exact Doc.Faulty.broken.cutOff hframes
    | _ => cases hdue

theorem Settling.close (h : Settling size rest) (hframes : ∀ f ∈ frames, f.Takes) (d : Doc)
    (hl : l.token.closes)
    (hresume : ∀ size' more, assemble size' frames' due (l :: more) = resume size' d frames more) :
    Settles size frames' due (l :: rest) :=
  .resume hresume (fun _ => hl) (h.push hframes d)

theorem settles_item {first : Bool} {start : Nat} {items : List Doc} (h : Settling size rest)
    (hframes : ∀ f ∈ frames, f.Takes) :
    Settles size (.list start items :: frames) (.item first) (l :: rest) := by
  by_cases hclose : l.token = .closeList
  · cases first with
    | false =>
      refine .inl ?_
      simp only [assemble, hclose]
      exact faulty_breakOff (by trivial) hframes _
    | true => exact h.close hframes _ (by rw [hclose]; rfl) fun _ _ => assemble_emptyList hclose
  · exact settles_value h trivial (fun _ => hclose) (List.forall_mem_cons.mpr ⟨trivial, hframes⟩)
      (List.cons_ne_nil _ _)

theorem assemble_key_cons {start : Nat} {members : List (Key × Doc)} {key : Option Key} {first : Bool}
    {name : Except Fault String} (h : l.token = .string name) (next : Lexeme) :
    ∃ stop, ∀ size more,
      assemble size (.object start members key :: frames) (.key first) (l :: next :: more) =
        assemble size (.object start members (some ⟨name, stop⟩) :: frames) .colon (next :: more) := by
  obtain ⟨_, _, token⟩ := l
  cases h
  obtain ⟨nextStart, nextStop, token⟩ := next
  cases token with
  | closeObject => exact ⟨some nextStop, fun _ _ => rfl⟩
  | _ => exact ⟨some nextStart, fun _ _ => rfl⟩

theorem settles_key {first : Bool} {start : Nat} {members : List (Key × Doc)} {key : Option Key}
    (h : Settling size rest) (hframes : ∀ f ∈ frames, f.Takes) :
    Settles size (.object start members key :: frames) (.key first) (l :: rest) := by
  cases htoken : l.token with
  | closeObject =>
    cases first with
    | false =>
      refine .inl ?_
      simp only [assemble, htoken]
      exact faulty_breakOff (by trivial) hframes _
    | true => exact h.close hframes _ (by rw [htoken]; rfl) fun _ _ => assemble_emptyObject htoken
  | string name =>
    cases rest with
    | nil =>
      obtain ⟨stop, hkey⟩ := assemble_key members key first htoken
      refine .inl ?_
      rw [hkey]
      exact Doc.Faulty.broken.cutOff (List.forall_mem_cons.mpr ⟨rfl, hframes⟩)
    | cons n rest =>
      obtain ⟨stop, hkey⟩ := assemble_key_cons htoken n
      have htakes : Frame.Takes (.object start members (some ⟨name, stop⟩)) := rfl
      refine .step (fun size' more hhead => ?_) (h _ _ (.colon htakes hframes))
      obtain ⟨more, rfl⟩ := List.head?_eq_some_iff.mp hhead
      exact hkey size' more
  | brokenString =>
    refine .inl ?_
    simp only [assemble, htoken]
    exact Doc.Faulty.broken.cutOff (List.forall_mem_cons.mpr ⟨rfl, hframes⟩)
  | openList | closeList | openObject | comma | colon | scalar | broken =>
    refine .inl ?_
    simp only [assemble, htoken]
    exact faulty_breakOff (by trivial) hframes _

theorem settles_separator {f : Frame} (h : Settling size rest) (hframes : ∀ f ∈ frames, f.Takes) :
    Settles size (f :: frames) .separator (l :: rest) := by
  have hfails : ∀ hbreaks : (assemble size (f :: frames) .separator (l :: rest)).1 =
      breakOff (.unseparated (l.start + 1)) (f :: frames),
      Settles size (f :: frames) .separator (l :: rest) := fun hbreaks =>
    .inl (hbreaks ▸ faulty_breakOff (by trivial) hframes f)
  cases f with
  | list start items =>
    cases htoken : l.token with
    | comma => exact .step (fun _ _ _ => assemble_listComma htoken) (h _ _ (.item hframes))
    | closeList => exact h.close hframes _ (by rw [htoken]; rfl) fun _ _ => assemble_closeList htoken
    | _ => exact hfails (by simp only [assemble, htoken])
  | object start members key =>
    cases htoken : l.token with
    | comma => exact .step (fun _ _ _ => assemble_objectComma htoken) (h _ _ (.key hframes))
    | closeObject => exact h.close hframes _ (by rw [htoken]; rfl) fun _ _ => assemble_closeObject htoken
    | _ => exact hfails (by simp only [assemble, htoken])

/-- Whatever is open within one container, the lexemes that are left come to a fault or to the bracket of
that container. -/
theorem assemble_settles (size : Nat) (ls : List Lexeme) : Settling size ls := by
  induction ls with
  | nil =>
    intro frames due hwithin
    refine .inl ?_
    cases hwithin with
    | value hf hframes | colon hf hframes =>
      exact Doc.Faulty.broken.cutOff (List.forall_mem_cons.mpr ⟨hf, hframes⟩)
    | @item first _ _ _ hframes | @key first _ _ _ _ hframes =>
      cases first <;> exact faulty_breakOff (by trivial) hframes _
    | separator hframes => exact faulty_breakOff (by trivial) hframes _
  | cons l rest ih =>
    intro frames due hwithin
    cases hwithin with
    | value hf hframes =>
      exact settles_value ih trivial (fun hne => absurd rfl hne) (List.forall_mem_cons.mpr ⟨hf, hframes⟩)
        (List.cons_ne_nil _ _)
    | item hframes => exact settles_item ih hframes
    | key hframes => exact settles_key ih hframes
    | colon hf hframes =>
      by_cases hcolon : l.token = .colon
      · exact .step (fun _ _ _ => assemble_colon hcolon) (ih _ _ (.value hf hframes))
      · refine .inl ?_
        simp only [assemble]
        exact Doc.Faulty.broken.cutOff (List.forall_mem_cons.mpr ⟨hf, hframes⟩)
    | separator hframes => exact settles_separator ih hframes

end Settles

/-! ## Texts -/

section Texts

variable {cs : List Char} {d : Doc}

/-- The document of an object is the same whatever comes after it. -/
theorem Doc.ofChars_extend (hopens : cs.head? = some '\x7b') (h : Doc.ofChars cs = (d, none))
    (hd : ¬ d.Faulty) (after : List Char) :
    ∃ offset, Doc.ofChars (cs ++ after) = (d, (lexemes offset after).head?.map Lexeme.start) := by
  obtain ⟨rest, rfl⟩ := List.head?_eq_some_iff.mp hopens
  have hopen : ∀ rest, lexemes 0 ('\x7b' :: rest) = ⟨0, 1, .openObject⟩ :: lexemes 1 rest := fun _ =>
    lexemes_cons (by decide) Bool.false_ne_true
  have hof : ∀ rest, Doc.ofChars ('\x7b' :: rest) =
      assemble (byteCount ('\x7b' :: rest)) [.object 0 [] none] (.key true) (lexemes 1 rest) := by
    intro rest
    rw [Doc.ofChars, hopen]
    exact assemble_openObject takesValue_value rfl
  rw [hof] at h
  have hsettles := assemble_settles (byteCount ('\x7b' :: rest)) (lexemes 1 rest) [.object 0 [] none]
    (.key true) (.key (List.forall_mem_nil _))
  rw [Settles, h] at hsettles
  obtain ⟨us, vs, hlexemes, ⟨last, hlast, hcloses⟩, hafter, hmore⟩ := hsettles.resolve_left hd
  obtain rfl := List.head?_eq_none_iff.mp (Option.map_eq_none_iff.mp hafter.symm)
  rw [List.append_nil] at hlexemes
  have hbracket : ∀ l ∈ (lexemes 1 rest).getLast?, l.token.closes := by
    intro l hl
    rw [hlexemes, hlast] at hl
    cases hl
    exact hcloses
  obtain ⟨offset, hextend⟩ := lexemes_extend hbracket after
  refine ⟨offset, ?_⟩
  rw [List.cons_append, hof, hextend, hlexemes, hmore]

/-- The text of one object, from its opening to its closing brace. -/
structure IsObject (text : String) : Prop where
  opens : text.toList.head? = some '\x7b'
  closes : text.toList.getLast? = some '\x7d'
  skipped : (Reader.onText (fun _ => Doc.skip) text).isOk

theorem exists_of_isOk {ε α : Type} {x : Except ε α} (h : x.isOk) : ∃ a, x = .ok a := by
  cases x with
  | ok a => exact ⟨a, rfl⟩
  | error e => cases h

/-- An object with more text behind it is not read; the fault is one of the object, or the text is one
that should not be there. -/
theorem onText_extend {α : Type} (reader : Reader α) {o s : String} (ho : IsObject o)
    (hs : ∃ c ∈ s.toList, ¬ isJsonBlank c) :
    ∃ e, reader.onText (o ++ s) = .error e ∧
      ((∃ a, reader.onText o = .ok a) ∧ e.cause = .trailingCharacters ∨
        ∃ own, reader.onText o = .error own ∧ e.cause = own.cause) := by
  obtain ⟨⟨⟩, hskipped⟩ := exists_of_isOk ho.skipped
  obtain ⟨d, hdoc, hskip⟩ := onText_eq_ok_iff.mp hskipped
  obtain ⟨offset, hextend⟩ := Doc.ofChars_extend ho.opens hdoc (fun hd => hd.skip_ne hskip) s.toList
  have hafter : lexemes offset s.toList ≠ [] := by
    intro hnil
    obtain ⟨c, hc, hblank⟩ := hs
    exact hblank (blank_of_lexemes_eq_nil hnil c hc)
  obtain ⟨l, ls, hls⟩ := List.exists_cons_of_ne_nil hafter
  rw [hls, ← String.toList_append] at hextend
  rw [onText_of_ofChars hdoc, onText_of_ofChars hextend]
  cases reader maxDepth d with
  | error f => exact ⟨_, rfl, .inr ⟨_, rfl, rfl⟩⟩
  | ok a => exact ⟨_, rfl, .inl ⟨⟨a, rfl⟩, rfl⟩⟩

end Texts

end AgentGraph.Json
