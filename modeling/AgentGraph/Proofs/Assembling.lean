import AgentGraph.Proofs.Lexing

/-! The documents of printed JSON.

A document shows a value if it holds the value and no fault. Assembling goes over the lexemes once
with a stack of open containers; each lemma says what a few lexemes do to the innermost of them.

* `assemble_tokens`: the tokens of a value are assembled to a document that shows it.
* `Doc.ofChars_compact`, `Doc.ofChars_indented`: the document of a printed value shows it. -/
namespace AgentGraph.Json

set_option autoImplicit false

/-! ## Documents that show a value -/

mutual

inductive Doc.Shows : Json → Doc → Prop
  | null {stop start : Option Nat} : Doc.Shows .null (.scalar stop start (.ok .null))
  | bool {stop start : Option Nat} {b : Bool} :
      Doc.Shows (.bool b) (.scalar stop start (.ok (.bool b)))
  | number {stop start : Option Nat} {n : Number} :
      Doc.Shows (.number n) (.scalar stop start (.ok (.number n)))
  | string {stop start : Option Nat} {s : String} :
      Doc.Shows (.string s) (.scalar stop start (.ok (.string s)))
  | list {start stop : Option Nat} {items : List Json} {docs : List Doc}
      (h : ItemsShown items docs) : Doc.Shows (.array items) (.list start docs (.closed stop))
  | object {start stop : Option Nat} {members : List (String × Json)} {entries : List (Key × Doc)}
      (h : MembersShown members entries) :
      Doc.Shows (.object members) (.object start entries (.closed stop))

inductive ItemsShown : List Json → List Doc → Prop
  | nil : ItemsShown [] []
  | cons {item : Json} {items : List Json} {d : Doc} {docs : List Doc} (first : Doc.Shows item d)
      (rest : ItemsShown items docs) : ItemsShown (item :: items) (d :: docs)

inductive MembersShown : List (String × Json) → List (Key × Doc) → Prop
  | nil : MembersShown [] []
  | cons {name : String} {value : Json} {members : List (String × Json)} {key : Key} {d : Doc}
      {entries : List (Key × Doc)} (hkey : key.name = .ok name) (first : Doc.Shows value d)
      (rest : MembersShown members entries) :
      MembersShown ((name, value) :: members) ((key, d) :: entries)

end

/-! ## Single lexemes -/

/-- Goes on after a document that is complete. -/
def resume (size : Nat) (d : Doc) (frames : List Frame) (rest : List Lexeme) : Doc × Option Nat :=
  match frames with
  | [] => (d, rest.head?.map Lexeme.start)
  | f :: fs => assemble size (f.push d :: fs) .separator rest

/-- A value may come next. -/
def Due.TakesValue : Due → Prop
  | .value | .item _ => True
  | _ => False

theorem takesValue_value : Due.TakesValue .value := trivial

theorem takesValue_item (first : Bool) : Due.TakesValue (.item first) := trivial

section Lexemes

variable {size : Nat} {frames : List Frame} {due : Due} {l : Lexeme} {rest : List Lexeme}
  {start : Nat}

theorem assemble_scalar {content : Except Fault Scalar} (hdue : due.TakesValue)
    (h : l.token = .scalar content) : assemble size frames due (l :: rest) =
      resume size (.scalar (some l.stop) (some l.start) content) frames rest := by
  obtain ⟨_, _, token⟩ := l
  cases h
  cases due with
  | value | item => rfl
  | _ => cases hdue

theorem assemble_string {content : Except Fault String} (hdue : due.TakesValue)
    (h : l.token = .string content) : assemble size frames due (l :: rest) =
      resume size (.scalar (some l.stop) (some l.start) (content.map .string)) frames rest := by
  obtain ⟨_, _, token⟩ := l
  cases h
  cases due with
  | value | item => rfl
  | _ => cases hdue

theorem assemble_openList (hdue : due.TakesValue) (h : l.token = .openList) :
    assemble size frames due (l :: rest) =
      assemble size (.list l.start [] :: frames) (.item true) rest := by
  obtain ⟨_, _, token⟩ := l
  cases h
  cases due with
  | value | item => rfl
  | _ => cases hdue

theorem assemble_openObject (hdue : due.TakesValue) (h : l.token = .openObject) :
    assemble size frames due (l :: rest) =
      assemble size (.object l.start [] none :: frames) (.key true) rest := by
  obtain ⟨_, _, token⟩ := l
  cases h
  cases due with
  | value | item => rfl
  | _ => cases hdue

theorem assemble_emptyList {items : List Doc} (h : l.token = .closeList) :
    assemble size (.list start items :: frames) (.item true) (l :: rest) =
      resume size (.list (some start) items.reverse (.closed (some l.stop))) frames rest := by
  obtain ⟨_, _, token⟩ := l
  cases h
  rfl

theorem assemble_emptyObject {members : List (Key × Doc)} {key : Option Key}
    (h : l.token = .closeObject) :
    assemble size (.object start members key :: frames) (.key true) (l :: rest) =
      resume size (.object (some start) members.reverse (.closed (some l.stop))) frames rest := by
  obtain ⟨_, _, token⟩ := l
  cases h
  rfl

theorem assemble_key {name : Except Fault String} (members : List (Key × Doc)) (key : Option Key)
    (first : Bool) (h : l.token = .string name) :
    ∃ stop, assemble size (.object start members key :: frames) (.key first) (l :: rest) =
      assemble size (.object start members (some ⟨name, stop⟩) :: frames) .colon rest := by
  obtain ⟨_, _, token⟩ := l
  cases h
  exact ⟨_, rfl⟩

theorem assemble_colon (h : l.token = .colon) :
    assemble size frames .colon (l :: rest) = assemble size frames .value rest := by
  obtain ⟨_, _, token⟩ := l
  cases h
  rfl

theorem assemble_listComma {items : List Doc} (h : l.token = .comma) :
    assemble size (.list start items :: frames) .separator (l :: rest) =
      assemble size (.list start items :: frames) (.item false) rest := by
  obtain ⟨_, _, token⟩ := l
  cases h
  rfl

theorem assemble_objectComma {members : List (Key × Doc)} {key : Option Key} (h : l.token = .comma) :
    assemble size (.object start members key :: frames) .separator (l :: rest) =
      assemble size (.object start members key :: frames) (.key false) rest := by
  obtain ⟨_, _, token⟩ := l
  cases h
  rfl

theorem assemble_closeList {items : List Doc} (h : l.token = .closeList) :
    assemble size (.list start items :: frames) .separator (l :: rest) =
      resume size (.list (some start) items.reverse (.closed (some l.stop))) frames rest := by
  obtain ⟨_, _, token⟩ := l
  cases h
  rfl

theorem assemble_closeObject {members : List (Key × Doc)} {key : Option Key}
    (h : l.token = .closeObject) :
    assemble size (.object start members key :: frames) .separator (l :: rest) =
      resume size (.object (some start) members.reverse (.closed (some l.stop))) frames rest := by
  obtain ⟨_, _, token⟩ := l
  cases h
  rfl

end Lexemes

/-! ## Tokens of a value -/

/-- Lexemes that begin with the tokens of a value. -/
theorem exists_lexeme {t : Token} {ts : List Token} {ls : List Lexeme}
    (h : ls.map Lexeme.token = t :: ts) :
    ∃ l rest, ls = l :: rest ∧ l.token = t ∧ rest.map Lexeme.token = ts := by
  obtain ⟨l, rest, rfl, ht, hts⟩ := List.map_eq_cons_iff.mp h
  exact ⟨l, rest, rfl, ht, hts⟩

mutual

theorem assemble_tokens (j : Json) (size : Nat) (frames : List Frame) {due : Due}
    {ls : List Lexeme} {us : List Token} (hdue : due.TakesValue)
    (h : ls.map Lexeme.token = tokens j ++ us) :
    ∃ d rest, Doc.Shows j d ∧ rest.map Lexeme.token = us ∧
      assemble size frames due ls = resume size d frames rest := by
  match j with
  | .null =>
    obtain ⟨l, rest, rfl, hl, hrest⟩ := exists_lexeme h
    exact ⟨_, rest, .null, hrest, assemble_scalar hdue hl⟩
  | .bool b =>
    obtain ⟨l, rest, rfl, hl, hrest⟩ := exists_lexeme h
    exact ⟨_, rest, .bool, hrest, assemble_scalar hdue hl⟩
  | .number n =>
    obtain ⟨l, rest, rfl, hl, hrest⟩ := exists_lexeme h
    exact ⟨_, rest, .number, hrest, assemble_scalar hdue hl⟩
  | .string s =>
    obtain ⟨l, rest, rfl, hl, hrest⟩ := exists_lexeme h
    exact ⟨_, rest, .string, hrest, assemble_string hdue hl⟩
  | .array [] =>
    simp only [tokens, itemTokens, List.cons_append, List.nil_append] at h
    obtain ⟨l, ls, rfl, hl, h⟩ := exists_lexeme h
    obtain ⟨l', rest, rfl, hl', hrest⟩ := exists_lexeme h
    refine ⟨.list (some l.start) [] (.closed (some l'.stop)), rest, .list .nil, hrest, ?_⟩
    rw [assemble_openList hdue hl, assemble_emptyList hl', List.reverse_nil]
  | .array (item :: items) =>
    simp only [tokens, itemTokens, List.cons_append, List.append_assoc, List.nil_append] at h
    obtain ⟨l, ls, rfl, hl, h⟩ := exists_lexeme h
    obtain ⟨d, ls', hd, h', hitem⟩ := assemble_tokens item size
      (.list l.start [] :: frames) (takesValue_item true) h
    obtain ⟨docs, stop, rest, hdocs, hrest, hitems⟩ := assemble_moreTokens items size l.start
      [d] frames h'
    refine ⟨.list (some l.start) (d :: docs) (.closed stop), rest, .list (.cons hd hdocs), hrest, ?_⟩
    rw [assemble_openList hdue hl, hitem]
    exact hitems
  | .object [] =>
    simp only [tokens, memberTokens, List.cons_append, List.nil_append] at h
    obtain ⟨l, ls, rfl, hl, h⟩ := exists_lexeme h
    obtain ⟨l', rest, rfl, hl', hrest⟩ := exists_lexeme h
    refine ⟨.object (some l.start) [] (.closed (some l'.stop)), rest, .object .nil, hrest, ?_⟩
    rw [assemble_openObject hdue hl, assemble_emptyObject hl', List.reverse_nil]
  | .object ((name, value) :: members) =>
    simp only [tokens, memberTokens, List.cons_append, List.append_assoc, List.nil_append] at h
    obtain ⟨l, ls, rfl, hl, h⟩ := exists_lexeme h
    obtain ⟨lkey, ls, rfl, hkey, h⟩ := exists_lexeme h
    obtain ⟨lcolon, ls, rfl, hcolon, h⟩ := exists_lexeme h
    obtain ⟨stop, hassemble⟩ := assemble_key [] none true hkey
    obtain ⟨d, ls', hd, h', hvalue⟩ := assemble_tokens value size
      (.object l.start [] (some ⟨.ok name, stop⟩) :: frames) takesValue_value h
    obtain ⟨entries, stop', rest, hentries, hrest, hmembers⟩ := assemble_moreMemberTokens members
      size l.start [(⟨.ok name, stop⟩, d)] frames h'
    refine ⟨.object (some l.start) ((⟨.ok name, stop⟩, d) :: entries) (.closed stop'), rest,
      .object (.cons rfl hd hentries), hrest, ?_⟩
    rw [assemble_openObject hdue hl, hassemble, assemble_colon hcolon, hvalue]
    exact hmembers

/-- The items after the first one, up to the bracket. -/
theorem assemble_moreTokens (items : List Json) (size start : Nat) (seen : List Doc)
    (frames : List Frame) {ls : List Lexeme} {us : List Token}
    (h : ls.map Lexeme.token = moreTokens items ++ .closeList :: us) :
    ∃ docs stop rest, ItemsShown items docs ∧ rest.map Lexeme.token = us ∧
      assemble size (.list start seen :: frames) .separator ls =
        resume size (.list (some start) (seen.reverse ++ docs) (.closed stop)) frames rest := by
  match items with
  | [] =>
    obtain ⟨l, rest, rfl, hl, hrest⟩ := exists_lexeme h
    refine ⟨[], some l.stop, rest, .nil, hrest, ?_⟩
    rw [assemble_closeList hl, List.append_nil]
  | item :: items =>
    rw [moreTokens, List.cons_append, List.append_assoc] at h
    obtain ⟨l, ls, rfl, hl, h⟩ := exists_lexeme h
    obtain ⟨d, ls', hd, h', hitem⟩ := assemble_tokens item size
      (.list start seen :: frames) (takesValue_item false) h
    obtain ⟨docs, stop, rest, hdocs, hrest, hitems⟩ := assemble_moreTokens items size start
      (d :: seen) frames h'
    refine ⟨d :: docs, stop, rest, .cons hd hdocs, hrest, ?_⟩
    rw [assemble_listComma hl, hitem]
    rw [List.reverse_cons, List.append_assoc, List.singleton_append] at hitems
    exact hitems

theorem assemble_moreMemberTokens (members : List (String × Json)) (size start : Nat)
    (seen : List (Key × Doc)) (frames : List Frame) {ls : List Lexeme} {us : List Token}
    (h : ls.map Lexeme.token = moreMemberTokens members ++ .closeObject :: us) :
    ∃ entries stop rest, MembersShown members entries ∧ rest.map Lexeme.token = us ∧
      assemble size (.object start seen none :: frames) .separator ls =
        resume size (.object (some start) (seen.reverse ++ entries) (.closed stop)) frames rest := by
  match members with
  | [] =>
    obtain ⟨l, rest, rfl, hl, hrest⟩ := exists_lexeme h
    refine ⟨[], some l.stop, rest, .nil, hrest, ?_⟩
    rw [assemble_closeObject hl, List.append_nil]
  | (name, value) :: members =>
    rw [moreMemberTokens, List.cons_append, List.cons_append, List.cons_append,
      List.append_assoc] at h
    obtain ⟨l, ls, rfl, hl, h⟩ := exists_lexeme h
    obtain ⟨lkey, ls, rfl, hkey, h⟩ := exists_lexeme h
    obtain ⟨lcolon, ls, rfl, hcolon, h⟩ := exists_lexeme h
    obtain ⟨stop, hassemble⟩ := assemble_key seen none false hkey
    obtain ⟨d, ls', hd, h', hvalue⟩ := assemble_tokens value size
      (.object start seen (some ⟨.ok name, stop⟩) :: frames) takesValue_value h
    obtain ⟨entries, stop', rest, hentries, hrest, hmembers⟩ := assemble_moreMemberTokens members
      size start ((⟨.ok name, stop⟩, d) :: seen) frames h'
    refine ⟨(⟨.ok name, stop⟩, d) :: entries, stop', rest, .cons rfl hd hentries, hrest, ?_⟩
    rw [assemble_objectComma hl, hassemble, assemble_colon hcolon, hvalue]
    rw [List.reverse_cons, List.append_assoc, List.singleton_append] at hmembers
    exact hmembers

end

/-! ## Documents of texts -/

theorem Doc.ofChars_of_lexes {cs : List Char} {j : Json} (h : Lexes cs (tokens j)) :
    ∃ d, Doc.Shows j d ∧ Doc.ofChars cs = (d, none) := by
  have htokens : (lexemes 0 cs).map Lexeme.token = tokens j ++ [] := by rw [h 0, List.append_nil]
  obtain ⟨d, rest, hd, hrest, hassemble⟩ :=
    assemble_tokens j (byteCount cs) [] takesValue_value htokens
  obtain rfl := List.map_eq_nil_iff.mp hrest
  exact ⟨d, hd, hassemble⟩

theorem Doc.ofChars_compact {j : Json} (hj : j.Legible) :
    ∃ d, Doc.Shows j d ∧ Doc.ofChars j.compact.toList = (d, none) := by
  have h := compact_lexes j hj delimited_nil lexes_nil
  rw [List.append_nil, List.append_nil] at h
  rw [compact, String.toList_ofList]
  exact Doc.ofChars_of_lexes h

theorem Doc.ofChars_indented {j : Json} (hj : j.Legible) :
    ∃ d, Doc.Shows j d ∧ Doc.ofChars j.indented.toList = (d, none) := by
  have h := indented_lexes 0 j hj delimited_nil lexes_nil
  rw [List.append_nil, List.append_nil] at h
  rw [indented, String.toList_ofList]
  exact Doc.ofChars_of_lexes h

/-! ## Numbers that are read back -/

section Numbers

variable {offset : Nat} {cs : List Char} {n : Number}

def Token.opens : Token → Bool
  | .openList | .openObject => true
  | _ => false

theorem not_opens_next {α : Type} {s : Scan α} {whole : Except Fault α → Token}
    {part : Fault → Fault → Token} (hwhole : ∀ content, (whole content).opens = false)
    (hpart : ∀ f g, (part f g).opens = false) : ¬ (s.next whole part).1.opens :=
  Bool.not_eq_true _ ▸ s.next_of_parts (P := fun t => t.opens = false) hwhole hpart

/-- A container is opened by its bracket only. -/
theorem bracket_of_opens {c : Char} (h : (nextToken offset c cs).1.opens) : c = '[' ∨ c = '\x7b' := by
  unfold nextToken at h
  split at h
  · exact .inl rfl
  · cases h
  · exact .inr rfl
  iterate 3 cases h
  iterate 5 exact absurd h (not_opens_next (fun _ => rfl) fun _ _ => rfl)
  · split at h
    · exact absurd h (not_opens_next (fun _ => rfl) fun _ _ => rfl)
    · cases h

theorem bracket_mem_of_opens {l : Lexeme} {rest : List Lexeme} (h : lexemes offset cs = l :: rest)
    (hl : l.token.opens) : '[' ∈ cs ∨ '\x7b' ∈ cs := by
  induction cs generalizing offset with
  | nil =>
    rw [lexemes] at h
    cases h
  | cons c cs ih =>
    rw [lexemes] at h
    split at h
    · exact (ih h).imp (List.mem_cons_of_mem c) (List.mem_cons_of_mem c)
    · obtain ⟨rfl, -⟩ := List.cons.inj h
      rcases bracket_of_opens hl with rfl | rfl
      · exact .inl List.mem_cons_self
      · exact .inr List.mem_cons_self

theorem raise_eq_ok_iff {α : Type} {fault? : Option Fault} {a b : α} :
    raise fault? a = .ok b ↔ fault? = none ∧ a = b := by
  cases fault? with
  | none => exact ⟨fun h => ⟨rfl, Except.ok.inj h⟩, fun h => congrArg Except.ok h.2⟩
  | some f => exact ⟨nofun, fun h => nomatch h.1⟩

theorem onText_of_ofChars {α : Type} {reader : Reader α} {text : String} {d : Doc} {after : Option Nat}
    (h : Doc.ofChars text.toList = (d, after)) :
    reader.onText text = (reader maxDepth d >>= fun a =>
      raise (after.map fun offset => fault .trailingCharacters (offset + 1)) a).mapError
        (·.locate text.toList) := by
  rw [Reader.onText, Reader.onChars, h]

theorem onText_eq_ok_iff {α : Type} {reader : Reader α} {text : String} {a : α} :
    reader.onText text = .ok a ↔
      ∃ d, Doc.ofChars text.toList = (d, none) ∧ reader maxDepth d = .ok a := by
  rcases hd : Doc.ofChars text.toList with ⟨d, after⟩
  rw [onText_of_ofChars hd]
  cases hread : reader maxDepth d with
  | error f =>
    refine ⟨nofun, ?_⟩
    rintro ⟨_, ⟨⟩, hok⟩
    cases hread.symm.trans hok
  | ok b =>
    cases after with
    | some offset =>
      refine ⟨nofun, ?_⟩
      rintro ⟨_, hnone, -⟩
      cases hnone
    | none =>
      constructor
      · rintro ⟨⟩
        exact ⟨d, rfl, hread⟩
      · rintro ⟨_, ⟨⟩, hok⟩
        cases hread.symm.trans hok
        rfl

theorem content_of_number {room : Nat} {stop start : Option Nat} {content : Except Fault Scalar}
    (h : readAny room (.scalar stop start content) = .ok (.number n)) :
    content = .ok (.number n) := by
  rw [readAny] at h
  cases content with
  | error f => cases h
  | ok s =>
    cases s <;> cases h
    rfl

/-- A number whose text is read as that number is legible. -/
theorem legible_of_parse (hchars : '[' ∉ n.chars ∧ '\x7b' ∉ n.chars)
    (h : parse (String.ofList n.chars) = .ok (.number n)) : n.Legible := by
  obtain ⟨d, hd, hread⟩ := onText_eq_ok_iff.mp h
  rw [String.toList_ofList, Doc.ofChars] at hd
  cases hlexemes : lexemes 0 n.chars with
  | nil =>
    rw [hlexemes] at hd
    cases hd
    cases hread
  | cons l rest =>
    rw [hlexemes] at hd
    have hopens : ¬ l.token.opens := fun hl =>
      (bracket_mem_of_opens hlexemes hl).elim hchars.1 hchars.2
    cases htoken : l.token with
    | openList => exact absurd (congrArg Token.opens htoken) hopens
    | openObject => exact absurd (congrArg Token.opens htoken) hopens
    | scalar content =>
      rw [assemble_scalar takesValue_value htoken] at hd
      obtain ⟨rfl, hrest⟩ := Prod.mk.inj hd
      obtain rfl := List.head?_eq_none_iff.mp (Option.map_eq_none_iff.mp hrest)
      rw [Number.Legible, hlexemes, List.map_singleton, htoken, content_of_number hread]
    | string content =>
      rw [assemble_string takesValue_value htoken] at hd
      obtain ⟨rfl, -⟩ := Prod.mk.inj hd
      cases content <;> cases hread
    | closeList | closeObject | comma | colon | broken | brokenString =>
      simp only [assemble, htoken] at hd
      obtain ⟨rfl, -⟩ := Prod.mk.inj hd
      cases hread

theorem parse_of_legible (h : n.Legible) : parse (String.ofList n.chars) = .ok (.number n) := by
  have hlexes : Lexes n.chars (tokens (.number n)) := by
    have h := compact_lexes (.number n) (.number h) delimited_nil lexes_nil
    rw [List.append_nil, List.append_nil] at h
    exact h
  obtain ⟨d, hd, hchars⟩ := Doc.ofChars_of_lexes hlexes
  refine onText_eq_ok_iff.mpr ⟨d, ?_, ?_⟩
  · rw [String.toList_ofList]
    exact hchars
  · cases hd
    rfl

end Numbers

end AgentGraph.Json
