import AgentGraph.Json.Reader
import Mathlib.Data.List.TakeWhile

/-! The lexemes of printed JSON.

Where a text stands in a longer one changes the offsets of its lexemes and nothing else, so tokens
are compared without their places. A number goes on as long as it can; what follows a printed value
is always something that ends one.

* `lexes_number`: a number that is read from a text of its own is read from it anywhere.
* `compact_lexes`, `indented_lexes`: both forms of a value have the tokens of the value. -/
namespace AgentGraph.Json

set_option autoImplicit false

/-! ## Tokens of a text -/

/-- The tokens of a text, wherever it begins. -/
def Lexes (cs : List Char) (ts : List Token) : Prop :=
  ∀ offset, (lexemes offset cs).map Lexeme.token = ts

section Lexes

variable {c : Char} {cs rest : List Char} {t : Token} {ts : List Token}

theorem lexes_nil : Lexes [] [] := fun offset => by rw [lexemes, List.map_nil]

theorem Lexes.blank (hc : isJsonBlank c) (h : Lexes cs ts) : Lexes (c :: cs) ts := by
  intro offset
  rw [lexemes, if_pos hc]
  exact h (offset + 1)

theorem Lexes.blanks {gap : List Char} (hgap : ∀ c ∈ gap, isJsonBlank c) (h : Lexes cs ts) :
    Lexes (gap ++ cs) ts := by
  induction gap with
  | nil => exact h
  | cons c gap ih =>
    obtain ⟨hc, hgap⟩ := List.forall_mem_cons.mp hgap
    exact (ih hgap).blank hc

theorem lexemes_cons {offset : Nat} (hc : ¬ isJsonBlank c) (h : ¬ (nextToken offset c cs).1.isBroken) :
    lexemes offset (c :: cs) =
      ⟨offset, (nextToken offset c cs).2.1, (nextToken offset c cs).1⟩ ::
        lexemes (nextToken offset c cs).2.1 (nextToken offset c cs).2.2 := by
  rw [lexemes, if_neg hc]
  dsimp only
  rw [if_neg h]

/-- The first token, wherever the text begins, and those after it. -/
theorem Lexes.token (hc : ¬ isJsonBlank c) (ht : ¬ t.isBroken)
    (hnext : ∀ offset, (nextToken offset c cs).1 = t ∧ (nextToken offset c cs).2.2 = rest)
    (h : Lexes rest ts) : Lexes (c :: cs) (t :: ts) := by
  intro offset
  obtain ⟨htoken, hrest⟩ := hnext offset
  rw [lexemes_cons hc (htoken ▸ ht), List.map_cons, hrest, h, htoken]

theorem Lexes.openList (h : Lexes cs ts) : Lexes ('[' :: cs) (.openList :: ts) :=
  .token (by decide) (by decide) (fun _ => ⟨rfl, rfl⟩) h

theorem Lexes.closeList (h : Lexes cs ts) : Lexes (']' :: cs) (.closeList :: ts) :=
  .token (by decide) (by decide) (fun _ => ⟨rfl, rfl⟩) h

theorem Lexes.openObject (h : Lexes cs ts) : Lexes ('\x7b' :: cs) (.openObject :: ts) :=
  .token (by decide) (by decide) (fun _ => ⟨rfl, rfl⟩) h

theorem Lexes.closeObject (h : Lexes cs ts) : Lexes ('\x7d' :: cs) (.closeObject :: ts) :=
  .token (by decide) (by decide) (fun _ => ⟨rfl, rfl⟩) h

theorem Lexes.comma (h : Lexes cs ts) : Lexes (',' :: cs) (.comma :: ts) :=
  .token (by decide) (by decide) (fun _ => ⟨rfl, rfl⟩) h

theorem Lexes.colon (h : Lexes cs ts) : Lexes (':' :: cs) (.colon :: ts) :=
  .token (by decide) (by decide) (fun _ => ⟨rfl, rfl⟩) h

end Lexes

/-! ## Words -/

theorem scanWord_append (content : Scalar) (offset : Nat) (word rest : List Char) :
    scanWord content offset word (word ++ rest) =
      ⟨.ok content, none, offset + word.length, rest⟩ := by
  induction word generalizing offset with
  | nil => rfl
  | cons c word ih =>
    rw [List.cons_append, scanWord, if_pos rfl, ih, List.length_cons, Nat.add_right_comm,
      Nat.add_assoc]

section Words

variable {cs : List Char} {ts : List Token}

theorem Lexes.null (h : Lexes cs ts) : Lexes ("null".toList ++ cs) (.scalar (.ok .null) :: ts) := by
  change Lexes ('n' :: ("ull".toList ++ cs)) _
  refine .token (by decide) (by decide) (fun offset => ?_) h
  rw [nextToken, scanWord_append]
  exact ⟨rfl, rfl⟩

theorem Lexes.bool (b : Bool) (h : Lexes cs ts) :
    Lexes (boolChars b ++ cs) (.scalar (.ok (.bool b)) :: ts) := by
  cases b with
  | false =>
    change Lexes ('f' :: ("alse".toList ++ cs)) _
    refine .token (by decide) (by decide) (fun offset => ?_) h
    rw [nextToken, scanWord_append]
    exact ⟨rfl, rfl⟩
  | true =>
    change Lexes ('t' :: ("rue".toList ++ cs)) _
    refine .token (by decide) (by decide) (fun offset => ?_) h
    rw [nextToken, scanWord_append]
    exact ⟨rfl, rfl⟩

end Words

/-! ## Strings -/

theorem hexUnit?_control : ∀ n < 0x20,
    hexUnit? '0' '0' (hexDigit (n / 16)) (hexDigit n) = some n := by decide

theorem scanString_plain {p : Pending} {offset : Nat} {c : Char} {after : List Char}
    (hquote : c ≠ '"') (hbackslash : c ≠ '\\') (hc : ¬ c.toNat < 0x20) :
    scanString p offset 0 (c :: after) =
      scanString (p.push c) (offset + c.utf8Size) 0 after := by
  rw [scanString.eq_def]
  split
  · next h => cases h
  · next h =>
    cases h
    split
    · next h => cases h
    · split
      · next h => exact absurd rfl hquote
      · next h => exact absurd rfl hbackslash
      · next h => exact absurd rfl hbackslash
      · next h => exact absurd rfl hbackslash
      · exact if_neg hc

theorem scanString_escapedChar (read : List Char) (offset : Nat) (c : Char) (after : List Char) :
    ∃ offset', scanString (.ok read) offset 0 (escapedChar c ++ after) =
      scanString (.ok (c :: read)) offset' 0 after := by
  unfold escapedChar
  split
  · exact ⟨offset + 2, rfl⟩
  · exact ⟨offset + 2, rfl⟩
  · exact ⟨offset + 2, rfl⟩
  · exact ⟨offset + 2, rfl⟩
  · exact ⟨offset + 2, rfl⟩
  · exact ⟨offset + 2, rfl⟩
  · exact ⟨offset + 2, rfl⟩
  · next hquote hbackslash _ _ _ _ _ =>
    split
    · next hc =>
      refine ⟨offset + 6, ?_⟩
      have hcode : ¬ (0xDC00 ≤ c.toNat && c.toNat ≤ 0xDFFF) := by simp; omega
      have hlead : ¬ (0xD800 ≤ c.toNat && c.toNat ≤ 0xDBFF) := by simp; omega
      simp only [List.cons_append, List.nil_append, scanString, hexUnit?_control _ hc, hcode, hlead]
      simp [Pending.push, Except.map]
    · next hc => exact ⟨offset + c.utf8Size, scanString_plain hquote hbackslash hc⟩

theorem scanString_flatMap (read : List Char) (offset : Nat) (cs rest : List Char) :
    ∃ stop, scanString (.ok read) offset 0 (cs.flatMap escapedChar ++ '"' :: rest) =
      ⟨.ok (String.ofList (read.reverse ++ cs)), none, stop, rest⟩ := by
  induction cs generalizing read offset with
  | nil => exact ⟨offset + 1, by rw [List.append_nil]; rfl⟩
  | cons c cs ih =>
    rw [List.flatMap_cons, List.append_assoc]
    obtain ⟨offset', hc⟩ := scanString_escapedChar read offset c (cs.flatMap escapedChar ++ '"' :: rest)
    obtain ⟨stop, hcs⟩ := ih (c :: read) offset'
    refine ⟨stop, ?_⟩
    rw [hc, hcs, List.reverse_cons, List.append_assoc, List.singleton_append]

theorem Lexes.string (s : String) {cs : List Char} {ts : List Token} (h : Lexes cs ts) :
    Lexes (stringChars s ++ cs) (.string (.ok s) :: ts) := by
  rw [stringChars, List.append_assoc, List.singleton_append, List.cons_append]
  refine .token (by decide) Bool.false_ne_true (fun offset => ?_) h
  obtain ⟨stop, hscan⟩ := scanString_flatMap [] (offset + 1) s.toList cs
  rw [nextToken, hscan, List.reverse_nil, List.nil_append, String.ofList_toList]
  exact ⟨rfl, rfl⟩

/-! ## Numbers -/

/-- A character that a number may go on with. -/
def isNumeral (c : Char) : Bool :=
  c.isDigit || c = '.' || c = 'e' || c = 'E' || c = '+' || c = '-'

/-- A number ends before this text. -/
def Delimited (cs : List Char) : Prop := ∀ c ∈ cs.head?, ¬ isNumeral c

theorem delimited_nil : Delimited [] := nofun

theorem delimited_cons {c : Char} {cs : List Char} (hc : ¬ isNumeral c) : Delimited (c :: cs) := by
  rintro _ ⟨⟩
  exact hc

theorem Delimited.head {c : Char} {cs : List Char} (h : Delimited (c :: cs)) : ¬ isNumeral c :=
  h c rfl

theorem isNumeral_of_isDigit {c : Char} (hc : c.isDigit) : isNumeral c := by
  simp only [isNumeral, hc, Bool.true_or]

section Numbers

variable {cs rest : List Char} {negative : Bool}

theorem digitsOf_of_delimited (h : Delimited rest) : digitsOf rest = [] := by
  cases rest with
  | nil => rfl
  | cons c rest =>
    exact List.takeWhile_cons_of_neg fun hc => h.head (isNumeral_of_isDigit hc)

theorem afterDigits_of_delimited (h : Delimited rest) : afterDigits rest = rest := by
  cases rest with
  | nil => rfl
  | cons c rest =>
    exact List.dropWhile_cons_of_neg fun hc => h.head (isNumeral_of_isDigit hc)

theorem digitsOf_append (h : Delimited rest) (cs : List Char) :
    digitsOf (cs ++ rest) = digitsOf cs := by
  induction cs with
  | nil => exact digitsOf_of_delimited h
  | cons c cs ih =>
    rw [List.cons_append, digitsOf, digitsOf, List.takeWhile_cons, List.takeWhile_cons]
    rw [digitsOf, digitsOf] at ih
    rw [ih]

theorem afterDigits_append (h : Delimited rest) (cs : List Char) :
    afterDigits (cs ++ rest) = afterDigits cs ++ rest := by
  induction cs with
  | nil => exact afterDigits_of_delimited h
  | cons c cs ih =>
    rw [List.cons_append, afterDigits, afterDigits, List.dropWhile_cons, List.dropWhile_cons]
    rw [afterDigits, afterDigits] at ih
    rw [ih]
    split <;> rfl

/-- A scan finds a content and leaves a text. -/
structure Scan.Finds {α : Type} (s : Scan α) (a : α) (rest : List Char) : Prop where
  content : s.content = .ok a
  skipping : s.skipping = none
  rest : s.rest = rest

theorem not_finds_broken {α : Type} {reading skipping : Fault} {stop : Nat} {left after : List Char}
    {a : α} : ¬ (Scan.broken reading skipping stop left).Finds a after := fun h => nomatch h.skipping

theorem Scan.next_of_parts {α : Type} {s : Scan α} {whole : Except Fault α → Token}
    {part : Fault → Fault → Token} {P : Token → Prop} (hwhole : ∀ content, P (whole content))
    (hpart : ∀ f g, P (part f g)) : P (s.next whole part).1 := by
  rw [Scan.next, Scan.token]
  split
  · exact hwhole _
  · exact hpart _ _
  · exact hpart _ _

theorem overflowAt_isSome (offset offset' value : Nat) (digits : List Char) :
    (overflowAt offset value digits).isSome = (overflowAt offset' value digits).isSome := by
  induction digits generalizing offset offset' value with
  | nil => rfl
  | cons c digits ih =>
    simp only [overflowAt]
    split
    · rfl
    · exact ih ..

theorem integerContent_ok {digits : List Char} {stop : Nat} {n : Number} (stop' : Nat)
    (h : integerContent negative digits stop = .ok n) :
    integerContent negative digits stop' = .ok n := by
  unfold integerContent at h ⊢
  split at h
  · exact h
  · split at h
    · cases h
    · next hfinite => rw [if_neg hfinite, h]

/-- Where the faults would be does not matter for a number without fault. -/
theorem floatContent_ok {digits : List Char} {exponent : Int} {overflow overflow' : Option Nat}
    {stop : Nat} {n : Number} (stop' : Nat) (ho : overflow.isSome = overflow'.isSome)
    (h : floatContent negative digits exponent overflow stop = .ok n) :
    floatContent negative digits exponent overflow' stop' = .ok n := by
  unfold floatContent at h ⊢
  cases overflow with
  | none =>
    obtain rfl : overflow' = none := Option.isSome_eq_false_iff.mp ho.symm |> Option.isNone_iff_eq_none.mp
    dsimp only at h ⊢
    split at h
    · cases h
    · next hfinite => rw [if_neg hfinite, h]
  | some offset =>
    obtain ⟨offset', rfl⟩ := Option.isSome_iff_exists.mp ho.symm
    dsimp only at h ⊢
    split at h
    · cases h
    · next hzero => rw [if_neg hzero, h]

/-- An exponent that is scanned in another place. -/
structure Exponent.Like (x' x : Exponent) (rest : List Char) : Prop where
  value : x'.value = x.value
  overflow : x.overflow.isSome = x'.overflow.isSome
  rest : x'.rest = x.rest ++ rest

/-- The signs of an exponent, with whether they make it negative. -/
def exponentSigns : List (List Char × Bool) := [([], false), (['+'], false), (['-'], true)]

/-- The exponent of the digits that the text begins with. -/
def Exponent.ofDigits (negative : Bool) (offset : Nat) (cs : List Char) : Exponent :=
  let digits := digitsOf cs
  let size := Decimal.digitsValue digits
  ⟨if negative then -size else size, if negative then none else overflowAt offset 0 digits,
    offset + digits.length, afterDigits cs⟩

theorem scanExponent_of_digits {sign : List Char} {c : Char} (offset : Nat)
    (hsign : (sign, negative) ∈ exponentSigns) (hc : c.isDigit) (after : List Char) :
    scanExponent offset (sign ++ c :: after) =
      .ok (.ofDigits negative (offset + sign.length) (c :: after)) := by
  simp only [exponentSigns, List.mem_cons, Prod.mk.injEq, List.not_mem_nil, or_false] at hsign
  rcases hsign with ⟨rfl, rfl⟩ | ⟨rfl, rfl⟩ | ⟨rfl, rfl⟩
  · unfold scanExponent
    split
    next h =>
    split at h
    · next heq =>
      obtain rfl := (List.cons.inj heq).1
      exact absurd hc (by decide)
    · next heq =>
      obtain rfl := (List.cons.inj heq).1
      exact absurd hc (by decide)
    · cases h
      exact if_pos hc
  · exact if_pos hc
  · exact if_pos hc

theorem scanExponent_cases {offset : Nat} {x : Exponent} (h : scanExponent offset cs = .ok x) :
    ∃ sign negative c after, (sign, negative) ∈ exponentSigns ∧ cs = sign ++ c :: after ∧
      c.isDigit ∧ x = .ofDigits negative (offset + sign.length) (c :: after) := by
  unfold scanExponent at h
  split at h
  next hsigned =>
  split at h
  · cases h
  · next c after =>
    split at h
    · next hc =>
      cases h
      split at hsigned
      · cases hsigned
        exact ⟨['+'], false, c, after, by decide, rfl, hc, rfl⟩
      · cases hsigned
        exact ⟨['-'], true, c, after, by decide, rfl, hc, rfl⟩
      · cases hsigned
        exact ⟨[], false, c, after, by decide, rfl, hc, rfl⟩
    · cases h

theorem scanExponent_append {offset : Nat} {x : Exponent} (offset' : Nat) (hd : Delimited rest)
    (h : scanExponent offset cs = .ok x) :
    ∃ x', scanExponent offset' (cs ++ rest) = .ok x' ∧ x'.Like x rest := by
  obtain ⟨sign, negative, c, after, hsign, rfl, hc, rfl⟩ := scanExponent_cases h
  rw [List.append_assoc, List.cons_append]
  refine ⟨_, scanExponent_of_digits offset' hsign hc (after ++ rest), ?_, ?_, ?_⟩
  · simp only [Exponent.ofDigits, ← List.cons_append, digitsOf_append hd]
  · simp only [Exponent.ofDigits, ← List.cons_append, digitsOf_append hd]
    split
    · rfl
    · exact overflowAt_isSome ..
  · simp only [Exponent.ofDigits, ← List.cons_append, afterDigits_append hd]

/-! A part of a number that is scanned to its end is scanned so wherever it stands, whatever
follows it. -/

theorem finds_floatContent {digits left : List Char} {exponent : Int}
    {overflow overflow' : Option Nat} {stop : Nat} {n : Number} (stop' : Nat)
    (ho : overflow.isSome = overflow'.isSome)
    (h : (⟨floatContent negative digits exponent overflow stop, none, stop, cs⟩ : Scan Number).Finds
      n left) :
    (⟨floatContent negative digits exponent overflow' stop', none, stop', cs ++ rest⟩ :
      Scan Number).Finds n (left ++ rest) :=
  ⟨floatContent_ok stop' ho h.content, rfl, congrArg (· ++ rest) h.rest⟩

theorem finds_integerContent {digits left : List Char} {stop : Nat} {n : Number} (stop' : Nat)
    (h : (⟨integerContent negative digits stop, none, stop, cs⟩ : Scan Number).Finds n left) :
    (⟨integerContent negative digits stop', none, stop', cs ++ rest⟩ : Scan Number).Finds
      n (left ++ rest) :=
  ⟨integerContent_ok stop' h.content, rfl, congrArg (· ++ rest) h.rest⟩

theorem not_letter_of_delimited {c : Char} (hd : Delimited (c :: rest)) : ¬ (c = 'e' || c = 'E') := by
  rw [Bool.or_eq_true, decide_eq_true_eq, decide_eq_true_eq]
  rintro (rfl | rfl) <;> exact hd.head (by decide)

theorem scanScale_append {digits left : List Char} {places offset : Nat} {n : Number} (offset' : Nat)
    (hd : Delimited rest) (h : (scanScale negative digits places offset cs).Finds n left) :
    (scanScale negative digits places offset' (cs ++ rest)).Finds n (left ++ rest) := by
  cases cs with
  | nil =>
    rw [scanScale] at h
    cases rest with
    | nil => exact finds_floatContent offset' rfl h
    | cons c rest =>
      rw [List.nil_append, scanScale, if_neg (not_letter_of_delimited hd)]
      exact finds_floatContent offset' rfl h
  | cons c cs =>
    rw [List.cons_append]
    rw [scanScale] at h ⊢
    by_cases hletter : (c = 'e' || c = 'E') = true
    · rw [if_pos hletter] at h ⊢
      split at h
      · exact absurd h not_finds_broken
      · next x hx =>
        obtain ⟨x', hx', hvalue, hoverflow, hrest⟩ := scanExponent_append (offset' + 1) hd hx
        rw [hx']
        dsimp only
        rw [hvalue, hrest]
        exact finds_floatContent _ hoverflow h
    · rw [if_neg hletter] at h ⊢
      exact finds_floatContent offset' rfl h

theorem scanFraction_point {whole after : List Char} {offset : Nat}
    (hplaces : ¬ (digitsOf after).isEmpty) :
    scanFraction negative whole offset ('.' :: after) =
      scanScale negative (whole ++ digitsOf after) (digitsOf after).length
        (offset + 1 + (digitsOf after).length) (afterDigits after) :=
  if_neg hplaces

theorem skipping_point {whole after : List Char} {offset : Nat} (hplaces : (digitsOf after).isEmpty) :
    (scanFraction negative whole offset ('.' :: after)).skipping ≠ none := by
  have hpoint : scanFraction negative whole offset ('.' :: after) = _ := if_pos hplaces
  rw [hpoint]
  split <;> exact Option.some_ne_none _

theorem scanFraction_other {whole after : List Char} {offset : Nat} {c : Char} (hc : c ≠ '.') :
    scanFraction negative whole offset (c :: after) =
      if c = 'e' || c = 'E' then scanScale negative whole 0 offset (c :: after)
      else ⟨integerContent negative whole offset, none, offset, c :: after⟩ := by
  rw [scanFraction.eq_def]
  split
  · next h => exact absurd (List.cons.inj h).1 hc
  · next h =>
    cases h
    rfl
  · next h => cases h

theorem scanFraction_append {whole left : List Char} {offset : Nat} {n : Number} (offset' : Nat)
    (hd : Delimited rest) (h : (scanFraction negative whole offset cs).Finds n left) :
    (scanFraction negative whole offset' (cs ++ rest)).Finds n (left ++ rest) := by
  cases cs with
  | nil =>
    rw [scanFraction] at h
    cases rest with
    | nil => exact finds_integerContent offset' h
    | cons c rest =>
      have hpoint : c ≠ '.' := by
        rintro rfl
        exact hd.head (by decide)
      rw [List.nil_append, scanFraction_other hpoint, if_neg (not_letter_of_delimited hd)]
      exact finds_integerContent offset' h
  | cons c cs =>
    rw [List.cons_append]
    by_cases hpoint : c = '.'
    · subst hpoint
      by_cases hplaces : (digitsOf cs).isEmpty
      · exact absurd h.skipping (skipping_point hplaces)
      · rw [scanFraction_point hplaces] at h
        rw [scanFraction_point (by rwa [digitsOf_append hd]), digitsOf_append hd,
          afterDigits_append hd]
        exact scanScale_append _ hd h
    · rw [scanFraction_other hpoint] at h ⊢
      by_cases hletter : (c = 'e' || c = 'E') = true
      · rw [if_pos hletter] at h ⊢
        exact scanScale_append _ hd h
      · rw [if_neg hletter] at h ⊢
        exact finds_integerContent offset' h

theorem scanNumber_append {left : List Char} {offset : Nat} {n : Number} (offset' : Nat)
    (hd : Delimited rest) (h : (scanNumber negative offset cs).Finds n left) :
    (scanNumber negative offset' (cs ++ rest)).Finds n (left ++ rest) := by
  cases cs with
  | nil => exact absurd h not_finds_broken
  | cons c after =>
    rw [List.cons_append]
    rw [scanNumber] at h ⊢
    by_cases hzero : c = '0'
    · rw [if_pos hzero] at h ⊢
      rw [digitsOf_append hd]
      split at h
      · next hnone =>
        rw [if_pos hnone]
        exact scanFraction_append _ hd h
      · exact absurd h not_finds_broken
    · rw [if_neg hzero] at h ⊢
      by_cases hc : c.isDigit
      · rw [if_pos hc] at h ⊢
        rw [← List.cons_append, digitsOf_append hd, afterDigits_append hd]
        exact scanFraction_append _ hd h
      · rw [if_neg hc] at h
        exact absurd h not_finds_broken

theorem nextToken_digit {c : Char} (offset : Nat) (hc : c.isDigit) (cs : List Char) :
    nextToken offset c cs = numberNext (scanNumber false offset (c :: cs)) := by
  unfold nextToken
  split
  iterate 11 exact absurd hc (by decide)
  exact if_pos hc

theorem numberNext_of_finds {s : Scan Number} {n : Number} {left : List Char} (h : s.Finds n left) :
    (numberNext s).1 = .scalar (.ok (.number n)) ∧ (numberNext s).2.2 = left := by
  obtain ⟨hcontent, hskipping, hrest⟩ := h
  rw [numberNext, Scan.next, Scan.token, hskipping, hcontent]
  exact ⟨rfl, hrest⟩

theorem finds_of_numberNext {s : Scan Number} {n : Number}
    (h : (numberNext s).1 = .scalar (.ok (.number n))) : s.Finds n (numberNext s).2.2 := by
  rw [numberNext, Scan.next, Scan.token] at h
  split at h
  · next content hskipping =>
    cases hcontent : s.content with
    | error f => rw [hcontent] at h; cases h
    | ok m =>
      rw [hcontent] at h
      cases h
      exact ⟨hcontent, hskipping, rfl⟩
  · cases h
  · cases h

theorem scalarNext_no_number {s : Scan Scalar} {n : Number} (h : ∀ m, s.content ≠ .ok (.number m)) :
    (scalarNext s).1 ≠ .scalar (.ok (.number n)) := by
  rw [scalarNext, Scan.next, Scan.token]
  split
  · intro heq
    exact h n (Token.scalar.inj heq)
  · exact Token.noConfusion
  · exact Token.noConfusion

theorem scanWord_no_number {content : Scalar} {offset : Nat} {word : List Char} {m : Number}
    (h : content ≠ .number m) : (scanWord content offset word cs).content ≠ .ok (.number m) := by
  fun_induction scanWord content offset word cs with
  | case1 => exact fun heq => h (Except.ok.inj heq)
  | case3 _ _ _ _ ih => exact ih
  | case2 | case4 =>
    intro heq
    cases heq

theorem nextToken_no_number {c : Char} {offset : Nat} {n : Number} (hminus : c ≠ '-')
    (hc : ¬ c.isDigit) : (nextToken offset c cs).1 ≠ .scalar (.ok (.number n)) := by
  unfold nextToken
  split
  iterate 6 exact Token.noConfusion
  · rw [Scan.next, Scan.token]
    split <;> exact Token.noConfusion
  iterate 3 exact scalarNext_no_number fun m => scanWord_no_number Scalar.noConfusion
  · exact absurd rfl hminus
  · rw [if_neg hc]
    exact Token.noConfusion

/-- Where a number is found it would be found with anything behind it that ends a number. -/
theorem nextToken_number {c : Char} {offset : Nat} {n : Number}
    (h : (nextToken offset c cs).1 = .scalar (.ok (.number n))) (hd : Delimited rest)
    (offset' : Nat) : (nextToken offset' c (cs ++ rest)).1 = .scalar (.ok (.number n)) ∧
      (nextToken offset' c (cs ++ rest)).2.2 = (nextToken offset c cs).2.2 ++ rest := by
  by_cases hminus : c = '-'
  · subst hminus
    exact numberNext_of_finds (scanNumber_append _ hd (finds_of_numberNext h))
  · by_cases hc : c.isDigit
    · rw [nextToken_digit _ hc] at h ⊢
      rw [nextToken_digit _ hc]
      exact numberNext_of_finds (scanNumber_append _ hd (finds_of_numberNext h))
    · exact absurd h (nextToken_no_number hminus hc)

theorem blank_of_lexemes_eq_nil {offset : Nat} (h : lexemes offset cs = []) :
    ∀ c ∈ cs, isJsonBlank c := by
  induction cs generalizing offset with
  | nil => exact List.forall_mem_nil _
  | cons c cs ih =>
    rw [lexemes] at h
    split at h
    · next hc => exact List.forall_mem_cons.mpr ⟨hc, ih h⟩
    · cases h

/-- A number that is read from a text of its own is read from it anywhere. -/
theorem lexes_number {offset : Nat} {n : Number} {ts : List Token}
    (h : (lexemes offset cs).map Lexeme.token = [.scalar (.ok (.number n))]) (hd : Delimited rest)
    (hrest : Lexes rest ts) : Lexes (cs ++ rest) (.scalar (.ok (.number n)) :: ts) := by
  induction cs generalizing offset with
  | nil =>
    rw [lexemes] at h
    cases h
  | cons c cs ih =>
    rw [lexemes] at h
    split at h
    · next hblank => exact (ih h).blank hblank
    · next hblank =>
      obtain ⟨htoken, hleft⟩ := List.cons.inj h
      have hnone : lexemes (nextToken offset c cs).2.1 (nextToken offset c cs).2.2 = [] := by
        dsimp only at htoken
        rw [htoken] at hleft
        exact List.map_eq_nil_iff.mp hleft
      exact .token hblank Bool.false_ne_true (nextToken_number htoken hd)
        (hrest.blanks (blank_of_lexemes_eq_nil hnone))

end Numbers

/-! ## Whole numbers -/

theorem digitsValue_toDigits (n : Nat) : Decimal.digitsValue (Nat.toDigits 10 n) = n := by
  rw [Decimal.digitsValue, ← Nat.ofDigitChars_eq_foldl]
  exact Nat.ofDigitChars_ten_toDigits

theorem digitChar_ne_zero : ∀ n < 10, n ≠ 0 → Nat.digitChar n ≠ '0' := by decide

/-- No digits but those of zero begin with a zero. -/
theorem toDigits_head {n : Nat} (hn : n ≠ 0) : ∀ c ∈ (Nat.toDigits 10 n).head?, c ≠ '0' := by
  induction n using Nat.strong_induction_on with
  | _ n ih =>
    by_cases hsmall : n < 10
    · rw [Nat.toDigits_of_lt_base hsmall]
      rintro _ ⟨⟩
      exact digitChar_ne_zero n hsmall hn
    · rw [Nat.toDigits_of_base_le (by decide) (by omega), List.head?_append,
        List.head?_eq_some_head Nat.toDigits_ne_nil, Option.some_or,
        ← List.head?_eq_some_head]
      exact ih (n / 10) (by omega) (by omega)

/-- A number that is read as it was printed. -/
def Number.Legible (n : Number) : Prop :=
  (lexemes 0 n.chars).map Lexeme.token = [.scalar (.ok (.number n))]

theorem integerContent_toDigits {n : Nat} (h : n < Decimal.twoTo 64) (stop : Nat) :
    integerContent false (Nat.toDigits 10 n) stop = .ok (.int n) := by
  rw [integerContent, digitsValue_toDigits, Number.ofInteger]
  simp only [Bool.false_eq_true, if_false, if_pos h]

theorem scanNumber_toDigits {n : Nat} (h : n < Decimal.twoTo 64) (offset : Nat) :
    (scanNumber false offset (Nat.toDigits 10 n)).Finds (.int n) [] := by
  by_cases hn : n = 0
  · subst hn
    exact ⟨integerContent_toDigits h (offset + 1), rfl, rfl⟩
  · have hdigits : ∀ c ∈ Nat.toDigits 10 n, c.isDigit :=
      fun c hc => Nat.isDigit_of_mem_toDigits (by decide) (by decide) hc
    have htake : digitsOf (Nat.toDigits 10 n) = Nat.toDigits 10 n :=
      List.takeWhile_eq_self_iff.mpr hdigits
    have hdrop : afterDigits (Nat.toDigits 10 n) = [] := List.dropWhile_eq_nil_iff.mpr hdigits
    have hhead := toDigits_head hn
    have hcontent := integerContent_toDigits h (offset + (Nat.toDigits 10 n).length)
    obtain ⟨c, cs, hcs⟩ := List.exists_cons_of_ne_nil (Nat.toDigits_ne_nil (n := n) (b := 10))
    rw [hcs] at hdigits htake hdrop hhead hcontent ⊢
    rw [scanNumber, if_neg (hhead c rfl), if_pos (hdigits c List.mem_cons_self), htake, hdrop]
    exact ⟨hcontent, rfl, rfl⟩

theorem not_blank_of_isDigit {c : Char} (hc : c.isDigit) : ¬ isJsonBlank c := by
  simp only [isJsonBlank, Bool.or_eq_true, decide_eq_true_eq]
  rintro (((rfl | rfl) | rfl) | rfl) <;> exact absurd hc (by decide)

theorem legible_of_scan {n : Number} {c : Char} {cs : List Char} (hchars : n.chars = c :: cs)
    (hc : c.isDigit) (h : ∀ offset, (scanNumber false offset (c :: cs)).Finds n []) : n.Legible := by
  have hnext : ∀ offset, (nextToken offset c cs).1 = .scalar (.ok (.number n)) ∧
      (nextToken offset c cs).2.2 = [] := by
    intro offset
    rw [nextToken_digit offset hc]
    exact numberNext_of_finds (h offset)
  rw [Number.Legible, hchars]
  exact Lexes.token (t := .scalar _) (not_blank_of_isDigit hc) Bool.false_ne_true hnext lexes_nil 0

theorem legible_ofNat {n : Nat} (h : n < Decimal.twoTo 64) : (Number.int n).Legible := by
  have hchars : (Number.int n).chars = Nat.toDigits 10 n := Nat.toList_repr
  have hfinds := scanNumber_toDigits h
  obtain ⟨c, cs, hcs⟩ := List.exists_cons_of_ne_nil (Nat.toDigits_ne_nil (n := n) (b := 10))
  have hc : c.isDigit :=
    Nat.isDigit_of_mem_toDigits (by decide) (by decide) (hcs ▸ List.mem_cons_self)
  rw [hcs] at hchars hfinds
  exact legible_of_scan hchars hc hfinds

/-! ## Printed values -/

/-- All numbers in the value are read as they are printed. -/
inductive Legible : Json → Prop
  | null : Legible .null
  | bool {b : Bool} : Legible (.bool b)
  | number {n : Number} (h : n.Legible) : Legible (.number n)
  | string {s : String} : Legible (.string s)
  | array {items : List Json} (h : ∀ item ∈ items, Legible item) : Legible (.array items)
  | object {members : List (String × Json)} (h : ∀ m ∈ members, Legible m.2) :
      Legible (.object members)

theorem Legible.of_number {n : Number} (h : (Json.number n).Legible) : n.Legible := by
  cases h
  assumption

theorem Legible.of_array {items : List Json} (h : (Json.array items).Legible) :
    ∀ item ∈ items, item.Legible := by
  cases h
  assumption

theorem Legible.of_object {members : List (String × Json)} (h : (Json.object members).Legible) :
    ∀ m ∈ members, m.2.Legible := by
  cases h
  assumption

mutual

/-- The tokens of a value. -/
def tokens : Json → List Token
  | .null => [.scalar (.ok .null)]
  | .bool b => [.scalar (.ok (.bool b))]
  | .number n => [.scalar (.ok (.number n))]
  | .string s => [.string (.ok s)]
  | .array items => .openList :: (itemTokens items ++ [.closeList])
  | .object members => .openObject :: (memberTokens members ++ [.closeObject])

def itemTokens : List Json → List Token
  | [] => []
  | item :: rest => tokens item ++ moreTokens rest

/-- The tokens of the items after the first one. -/
def moreTokens : List Json → List Token
  | [] => []
  | item :: rest => .comma :: (tokens item ++ moreTokens rest)

def memberTokens : List (String × Json) → List Token
  | [] => []
  | (name, value) :: rest =>
    .string (.ok name) :: .colon :: (tokens value ++ moreMemberTokens rest)

def moreMemberTokens : List (String × Json) → List Token
  | [] => []
  | (name, value) :: rest =>
    .comma :: .string (.ok name) :: .colon :: (tokens value ++ moreMemberTokens rest)

end

theorem delimited_closeList {cs : List Char} : Delimited (']' :: cs) := delimited_cons (by decide)

theorem delimited_closeObject {cs : List Char} : Delimited ('\x7d' :: cs) := delimited_cons (by decide)

theorem delimited_comma {cs : List Char} : Delimited (',' :: cs) := delimited_cons (by decide)

mutual

theorem compact_lexes (j : Json) (hj : j.Legible) {rest : List Char} {ts : List Token}
    (hd : Delimited rest) (h : Lexes rest ts) : Lexes (compactChars j ++ rest) (tokens j ++ ts) := by
  match j with
  | .null => exact h.null
  | .bool b => exact h.bool b
  | .number n => exact lexes_number hj.of_number hd h
  | .string s => exact h.string s
  | .array items =>
    simp only [compactChars, tokens, List.cons_append, List.append_assoc, List.nil_append]
    exact (itemChars_lexes items hj.of_array delimited_closeList h.closeList).openList
  | .object members =>
    simp only [compactChars, tokens, List.cons_append, List.append_assoc, List.nil_append]
    exact (memberChars_lexes members hj.of_object delimited_closeObject h.closeObject).openObject

theorem itemChars_lexes (items : List Json) (hitems : ∀ item ∈ items, item.Legible) {rest : List Char}
    {ts : List Token} (hd : Delimited rest) (h : Lexes rest ts) :
    Lexes (itemChars items ++ rest) (itemTokens items ++ ts) := by
  match items with
  | [] => exact h
  | [item] =>
    simp only [itemChars, itemTokens, moreTokens, List.append_nil]
    exact compact_lexes item (List.forall_mem_singleton.mp hitems) hd h
  | item :: next :: items =>
    obtain ⟨hitem, hitems⟩ := List.forall_mem_cons.mp hitems
    have hrest := itemChars_lexes (next :: items) hitems hd h
    simp only [itemChars, itemTokens, moreTokens, List.cons_append, List.append_assoc] at hrest ⊢
    exact compact_lexes item hitem delimited_comma hrest.comma

theorem memberChars_lexes (members : List (String × Json)) (hmembers : ∀ m ∈ members, m.2.Legible)
    {rest : List Char} {ts : List Token} (hd : Delimited rest) (h : Lexes rest ts) :
    Lexes (memberChars members ++ rest) (memberTokens members ++ ts) := by
  match members with
  | [] => exact h
  | [(name, value)] =>
    simp only [memberChars, memberTokens, moreMemberTokens, List.append_nil, List.cons_append,
      List.append_assoc]
    have hvalue : value.Legible := hmembers (name, value) List.mem_cons_self
    exact (compact_lexes value hvalue hd h).colon.string name
  | (name, value) :: (next, nextValue) :: members =>
    obtain ⟨hvalue, hmembers⟩ := List.forall_mem_cons.mp hmembers
    have hrest := memberChars_lexes ((next, nextValue) :: members) hmembers hd h
    simp only [memberChars, memberTokens, moreMemberTokens, List.cons_append,
      List.append_assoc] at hrest ⊢
    exact (compact_lexes value hvalue delimited_comma hrest.comma).colon.string name

end

theorem newline_blank (depth : Nat) : ∀ c ∈ newline depth, isJsonBlank c := by
  intro c hc
  rcases List.mem_cons.mp hc with rfl | hc
  · decide
  · rw [List.eq_of_mem_replicate hc]
    decide

theorem delimited_newline (depth : Nat) (cs : List Char) : Delimited (newline depth ++ cs) :=
  delimited_cons (by decide)

theorem delimited_indentedItems (depth : Nat) (items : List Json) {rest : List Char}
    (h : Delimited rest) : Delimited (indentedItems depth items ++ rest) := by
  cases items with
  | nil => exact h
  | cons item items =>
    rw [indentedItems]
    exact delimited_comma

theorem delimited_indentedMembers (depth : Nat) (members : List (String × Json)) {rest : List Char}
    (h : Delimited rest) : Delimited (indentedMembers depth members ++ rest) := by
  cases members with
  | nil => exact h
  | cons member members =>
    rw [indentedMembers]
    exact delimited_comma

mutual

theorem indented_lexes (depth : Nat) (j : Json) (hj : j.Legible) {rest : List Char}
    {ts : List Token} (hd : Delimited rest) (h : Lexes rest ts) :
    Lexes (indentedChars depth j ++ rest) (tokens j ++ ts) := by
  match j with
  | .null => exact h.null
  | .bool b => exact h.bool b
  | .number n => exact lexes_number hj.of_number hd h
  | .string s => exact h.string s
  | .array [] => exact h.closeList.openList
  | .array (item :: items) =>
    obtain ⟨hitem, hitems⟩ := List.forall_mem_cons.mp hj.of_array
    have hclose := h.closeList.blanks (newline_blank depth)
    have hitems :=
      indentedItems_lexes (depth + 1) items hitems (delimited_newline depth _) hclose
    have hitem := indented_lexes (depth + 1) item hitem
      (delimited_indentedItems _ _ (delimited_newline depth _)) hitems
    simp only [indentedChars, tokens, itemTokens, List.cons_append, List.append_assoc,
      List.nil_append]
    exact (hitem.blanks (newline_blank _)).openList
  | .object [] => exact h.closeObject.openObject
  | .object ((name, value) :: members) =>
    obtain ⟨hvalue, hmembers⟩ := List.forall_mem_cons.mp hj.of_object
    have hclose := h.closeObject.blanks (newline_blank depth)
    have hmembers :=
      indentedMembers_lexes (depth + 1) members hmembers (delimited_newline depth _) hclose
    have hvalue := indented_lexes (depth + 1) value hvalue
      (delimited_indentedMembers _ _ (delimited_newline depth _)) hmembers
    simp only [indentedChars, tokens, memberTokens, List.cons_append, List.append_assoc,
      List.nil_append]
    exact (((hvalue.blank rfl).colon.string name).blanks (newline_blank _)).openObject

theorem indentedItems_lexes (depth : Nat) (items : List Json) (hitems : ∀ item ∈ items, item.Legible)
    {rest : List Char} {ts : List Token} (hd : Delimited rest) (h : Lexes rest ts) :
    Lexes (indentedItems depth items ++ rest) (moreTokens items ++ ts) := by
  match items with
  | [] => exact h
  | item :: items =>
    obtain ⟨hitem, hitems⟩ := List.forall_mem_cons.mp hitems
    have hrest := indentedItems_lexes depth items hitems hd h
    have hitem := indented_lexes depth item hitem (delimited_indentedItems _ _ hd) hrest
    simp only [indentedItems, moreTokens, List.cons_append, List.append_assoc]
    exact (hitem.blanks (newline_blank _)).comma

theorem indentedMembers_lexes (depth : Nat) (members : List (String × Json))
    (hmembers : ∀ m ∈ members, m.2.Legible) {rest : List Char} {ts : List Token} (hd : Delimited rest)
    (h : Lexes rest ts) :
    Lexes (indentedMembers depth members ++ rest) (moreMemberTokens members ++ ts) := by
  match members with
  | [] => exact h
  | (name, value) :: members =>
    obtain ⟨hvalue, hmembers⟩ := List.forall_mem_cons.mp hmembers
    have hrest := indentedMembers_lexes depth members hmembers hd h
    have hvalue := indented_lexes depth value hvalue (delimited_indentedMembers _ _ hd) hrest
    simp only [indentedMembers, moreMemberTokens, List.cons_append, List.append_assoc]
    exact (((hvalue.blank rfl).colon.string name).blanks (newline_blank _)).comma

end

end AgentGraph.Json
