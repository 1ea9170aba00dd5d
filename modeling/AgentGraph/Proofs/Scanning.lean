import AgentGraph.Proofs.Lexing

/-! Lexemes of a text that goes on.

A lexeme that can be skipped is the same with anything behind it, if it is not a number at the very end
of its text. So the lexemes up to a closing bracket are those of any longer text.

* `scanString_extend`, `scanNumber_extend`: a string that ends, a number that something follows.
* `lexemes_extend`: the lexemes up to a closing bracket. -/
namespace AgentGraph.Json

set_option autoImplicit false

/-! ## Scans -/

/-- The scan that leaves this text, too. -/
def Scan.extend {α : Type} (s : Scan α) (after : List Char) : Scan α :=
  { s with rest := s.rest ++ after }

section Strings

variable {cs after : List Char} {p : Pending} {offset owed : Nat}

theorem scanWord_extend {content : Scalar} {word : List Char}
    (h : (scanWord content offset word cs).skipping = none) :
    scanWord content offset word (cs ++ after) = (scanWord content offset word cs).extend after := by
  fun_induction scanWord content offset word cs with
  | case1 => rfl
  | case2 | case4 => cases h
  | case3 offset word c cs ih =>
    rw [List.cons_append, scanWord, if_pos rfl]
    exact ih h

theorem Pending.not_break {α : Type} {p : Pending} {reading skipping : Fault} {stop : Nat}
    {rest : List Char} : ¬ (p.break reading skipping stop rest : Scan α).skipping = none := by
  unfold Pending.break
  split <;> exact Option.some_ne_none _

theorem pairWith_ok {lead : Nat} {pair : Char} (h : pairWith lead offset cs = .ok pair) :
    pairWith lead offset (cs ++ after) = .ok pair := by
  unfold pairWith at h
  split at h
  · cases h
  · cases h
  · split at h
    · exact h
    · cases h
  · cases h
  · cases h

theorem ne_of_not_escape {c escape : Char} {rest : List Char} (hnil : c = escape → rest = [] → False)
    (hcons : ∀ e after, c = escape → rest = e :: after → False) : c ≠ escape := by
  intro hc
  cases rest with
  | nil => exact hnil hc rfl
  | cons e after => exact hcons e after hc rfl

/-- The first half of a pair looks no further than the string goes. -/
theorem pairWith_error {lead : Nat} {f : Fault} (h : pairWith lead offset cs = .error f)
    (hends : (scanString p offset 0 cs).skipping = none) :
    pairWith lead offset (cs ++ after) = .error f := by
  unfold pairWith at h
  split at h
  · exact absurd hends Pending.not_break
  · exact absurd hends Pending.not_break
  · split at h
    · exact h
    · next digits _ hshort =>
      -- With less than four digits the string itself breaks off here.
      have hbreak : (scanString p offset 0 ('\\' :: 'u' :: digits)).skipping ≠ none := by
        rw [scanString]
        · exact Pending.not_break
        · exact hshort
      exact absurd hends hbreak
  · next e rest hu =>
    rw [List.cons_append, List.cons_append, pairWith]
    · exact h
    · exact hu
  · next c rest hnil hu hother =>
    have hbackslash := ne_of_not_escape hnil hother
    rw [List.cons_append, pairWith]
    · exact h
    · exact fun heq => absurd heq hbackslash
    · exact fun _ heq => absurd heq hbackslash
    · exact fun _ _ heq => absurd heq hbackslash

theorem scanString_extend (h : (scanString p offset owed cs).skipping = none) :
    scanString p offset owed (cs ++ after) = (scanString p offset owed cs).extend after := by
  fun_induction scanString p offset owed cs with
  | case1 | case4 | case5 | case10 | case12 | case13 => exact absurd h Pending.not_break
  | case2 p offset c cs owed ih => exact ih h
  | case3 => rfl
  | case6 p offset a b c d rest code hcode htrail ih =>
    simp only [List.cons_append, scanString, hcode, htrail, if_true]
    exact ih h
  | case7 p offset a b c d rest code hcode htrail hlead pair hpair ih =>
    simp only [List.cons_append, scanString, hcode, htrail, hlead, pairWith_ok hpair]
    exact ih h
  | case8 p offset a b c d rest code hcode htrail hlead f hpair ih =>
    simp only [List.cons_append, scanString, hcode, htrail, hlead, pairWith_error hpair h]
    exact ih h
  | case9 p offset a b c d rest code hcode htrail hlead ih =>
    simp only [List.cons_append, scanString, hcode, htrail, hlead]
    exact ih h
  | case11 p offset e rest hu plain hplain ih =>
    simp only [List.cons_append, scanString, hplain]
    exact ih h
  | case14 p offset c rest hquote hnil hu hother hcontrol ih =>
    rw [List.cons_append, scanString_plain hquote (ne_of_not_escape hnil hother) hcontrol]
    exact ih h

end Strings

section Numbers

variable {cs after : List Char} {offset : Nat} {negative : Bool}

theorem digitsOf_extend (h : afterDigits cs ≠ []) : digitsOf (cs ++ after) = digitsOf cs := by
  have hlength : (digitsOf cs).length ≠ cs.length := by
    intro heq
    have hwhole : digitsOf cs ++ afterDigits cs = cs := List.takeWhile_append_dropWhile
    have hlengths := congrArg List.length hwhole
    rw [List.length_append, heq] at hlengths
    exact h (List.length_eq_zero_iff.mp (by omega))
  exact List.takeWhile_append.trans (if_neg hlength)

theorem afterDigits_extend (h : afterDigits cs ≠ []) :
    afterDigits (cs ++ after) = afterDigits cs ++ after := by
  have hleft : ¬ (afterDigits cs).isEmpty := fun hempty => h (List.isEmpty_iff.mp hempty)
  exact List.dropWhile_append.trans (if_neg hleft)

theorem scanExponent_extend {x : Exponent} (h : scanExponent offset cs = .ok x) (hleft : x.rest ≠ []) :
    scanExponent offset (cs ++ after) = .ok { x with rest := x.rest ++ after } := by
  obtain ⟨sign, negative, c, digits, hsign, rfl, hc, rfl⟩ := scanExponent_cases h
  rw [List.append_assoc, List.cons_append, scanExponent_of_digits offset hsign hc]
  simp only [Exponent.ofDigits] at hleft ⊢
  rw [← List.cons_append, digitsOf_extend hleft, afterDigits_extend hleft]

theorem scanScale_extend {digits : List Char} {places : Nat}
    (h : (scanScale negative digits places offset cs).skipping = none)
    (hleft : (scanScale negative digits places offset cs).rest ≠ []) :
    scanScale negative digits places offset (cs ++ after) =
      (scanScale negative digits places offset cs).extend after := by
  cases cs with
  | nil => exact absurd rfl hleft
  | cons e cs =>
    rw [List.cons_append]
    rw [scanScale] at h hleft ⊢
    rw [scanScale]
    by_cases hletter : (e = 'e' || e = 'E') = true
    · rw [if_pos hletter] at h hleft ⊢
      rw [if_pos hletter]
      cases hx : scanExponent (offset + 1) cs with
      | error f =>
        rw [hx] at h
        cases h
      | ok x =>
        rw [hx] at hleft
        rw [scanExponent_extend hx hleft]
        rfl
    · rw [if_neg hletter, if_neg hletter]
      rfl

theorem scanFraction_extend {whole : List Char}
    (h : (scanFraction negative whole offset cs).skipping = none)
    (hleft : (scanFraction negative whole offset cs).rest ≠ []) :
    scanFraction negative whole offset (cs ++ after) =
      (scanFraction negative whole offset cs).extend after := by
  cases cs with
  | nil => exact absurd rfl hleft
  | cons c cs =>
    rw [List.cons_append]
    by_cases hpoint : c = '.'
    · subst hpoint
      by_cases hplaces : (digitsOf cs).isEmpty
      · exact absurd h (skipping_point hplaces)
      · rw [scanFraction_point hplaces] at h hleft ⊢
        have hdigits : afterDigits cs ≠ [] := by
          intro hnil
          rw [hnil] at hleft
          exact hleft rfl
        rw [scanFraction_point (by rwa [digitsOf_extend hdigits]), digitsOf_extend hdigits,
          afterDigits_extend hdigits]
        exact scanScale_extend h hleft
    · rw [scanFraction_other hpoint] at h hleft ⊢
      rw [scanFraction_other hpoint]
      by_cases hletter : (c = 'e' || c = 'E') = true
      · rw [if_pos hletter] at h hleft ⊢
        rw [if_pos hletter]
        exact scanScale_extend h hleft
      · rw [if_neg hletter, if_neg hletter]
        rfl

theorem scanNumber_extend (h : (scanNumber negative offset cs).skipping = none)
    (hleft : (scanNumber negative offset cs).rest ≠ []) :
    scanNumber negative offset (cs ++ after) = (scanNumber negative offset cs).extend after := by
  cases cs with
  | nil => cases h
  | cons c cs =>
    rw [List.cons_append]
    rw [scanNumber] at h hleft ⊢
    rw [scanNumber]
    by_cases hzero : c = '0'
    · rw [if_pos hzero] at h hleft ⊢
      rw [if_pos hzero]
      by_cases hnone : (digitsOf cs).isEmpty = true
      · rw [if_pos hnone] at h hleft ⊢
        have hdigits : afterDigits cs ≠ [] := by
          intro hnil
          have hcs : digitsOf cs ++ afterDigits cs = cs := List.takeWhile_append_dropWhile
          rw [List.isEmpty_iff.mp hnone, hnil] at hcs
          rw [← hcs] at hleft
          exact hleft rfl
        rw [digitsOf_extend hdigits, if_pos hnone]
        exact scanFraction_extend h hleft
      · rw [if_neg hnone] at h
        cases h
    · rw [if_neg hzero] at h hleft ⊢
      rw [if_neg hzero]
      by_cases hc : c.isDigit = true
      · rw [if_pos hc] at h hleft ⊢
        have hdigits : afterDigits (c :: cs) ≠ [] := by
          intro hnil
          rw [hnil] at hleft
          exact hleft rfl
        rw [if_pos hc, ← List.cons_append, digitsOf_extend hdigits, afterDigits_extend hdigits]
        exact scanFraction_extend h hleft
      · rw [if_neg hc] at h
        cases h

end Numbers

/-! ## Lexemes -/

/-- A bracket that ends a list or an object. -/
def Token.closes : Token → Bool
  | .closeList | .closeObject => true
  | _ => false

section Lexemes

variable {c : Char} {cs after : List Char} {offset : Nat}

theorem Scan.skipping_of_next {α : Type} {s : Scan α} {whole : Except Fault α → Token}
    {part : Fault → Fault → Token} (hpart : ∀ f g, (part f g).isBroken)
    (h : ¬ (s.next whole part).1.isBroken) : s.skipping = none := by
  rw [Scan.next, Scan.token] at h
  split at h
  · assumption
  · exact absurd (hpart _ _) h
  · exact absurd (hpart _ _) h

/-- What is found if this text is left, too. -/
def extendNext (after : List Char) (next : Token × Nat × List Char) : Token × Nat × List Char :=
  (next.1, next.2.1, next.2.2 ++ after)

theorem scalarNext_extend {s s' : Scan Scalar} (h : ¬ (scalarNext s).1.isBroken)
    (hs : s.skipping = none → s' = s.extend after) : scalarNext s' = extendNext after (scalarNext s) := by
  rw [hs (Scan.skipping_of_next (fun _ _ => rfl) h)]
  rfl

theorem numberNext_extend {negative : Bool} (h : ¬ (numberNext (scanNumber negative offset cs)).1.isBroken)
    (hends : (numberNext (scanNumber negative offset cs)).2.2 ≠ [] ∨
      (numberNext (scanNumber negative offset cs)).1.closes) :
    numberNext (scanNumber negative offset (cs ++ after)) =
      extendNext after (numberNext (scanNumber negative offset cs)) := by
  have hcloses : ¬ (numberNext (scanNumber negative offset cs)).1.closes :=
    Scan.next_of_parts (P := fun t => ¬ t.closes) (fun _ => Bool.false_ne_true) fun _ _ => Bool.false_ne_true
  rw [scanNumber_extend (Scan.skipping_of_next (fun _ _ => rfl) h) (hends.resolve_right hcloses)]
  rfl

theorem nextToken_extend (h : ¬ (nextToken offset c cs).1.isBroken)
    (hends : (nextToken offset c cs).2.2 ≠ [] ∨ (nextToken offset c cs).1.closes) :
    nextToken offset c (cs ++ after) = extendNext after (nextToken offset c cs) := by
  by_cases hc : c.isDigit
  · rw [nextToken_digit offset hc] at h hends ⊢
    rw [nextToken_digit offset hc]
    exact numberNext_extend h hends
  · fun_cases nextToken offset c cs with
    | case1 | case2 | case3 | case4 | case5 | case6 => rfl
    | case7 =>
      rw [nextToken, scanString_extend (Scan.skipping_of_next (fun _ _ => rfl) h)]
      rfl
    | case8 | case9 | case10 => exact scalarNext_extend h scanWord_extend
    | case11 => exact numberNext_extend h hends
    | case12 => exact absurd ‹_› hc
    | case13 =>
      rw [nextToken, if_neg hc] at h
      · exact absurd rfl h
      all_goals assumption

theorem Token.not_broken_of_closes {t : Token} (h : t.closes) : ¬ t.isBroken := by
  cases t with
  | closeList | closeObject => exact Bool.false_ne_true
  | _ => cases h

/-- Lexemes up to a closing bracket are the same with anything behind it. -/
theorem lexemes_extend (h : ∀ l ∈ (lexemes offset cs).getLast?, l.token.closes) (after : List Char) :
    ∃ offset', lexemes offset (cs ++ after) = lexemes offset cs ++ lexemes offset' after := by
  fun_induction lexemes offset cs with
  | case1 offset => exact ⟨offset, rfl⟩
  | case2 offset c cs hblank ih =>
    obtain ⟨offset', hcs⟩ := ih h
    refine ⟨offset', ?_⟩
    rw [List.cons_append, lexemes, if_pos hblank, hcs]
  | case3 offset c cs hblank next ih =>
    have hbroken : ¬ next.1.isBroken := by
      intro hbroken
      rw [if_pos hbroken] at h
      exact Token.not_broken_of_closes (h _ rfl) hbroken
    rw [if_neg hbroken] at h ⊢
    rw [List.getLast?_cons] at h
    have hends : next.2.2 ≠ [] ∨ next.1.closes := by
      refine Decidable.or_iff_not_imp_left.mpr fun hnil => ?_
      rw [not_not.mp hnil, lexemes] at h
      exact h _ rfl
    have hlast : ∀ l ∈ (lexemes next.2.1 next.2.2).getLast?, l.token.closes := by
      intro l hl
      rw [hl] at h
      exact h _ rfl
    obtain ⟨offset', hrest⟩ := ih hlast
    refine ⟨offset', ?_⟩
    have hnext : nextToken offset c (cs ++ after) = extendNext after next := nextToken_extend hbroken hends
    rw [List.cons_append, lexemes_cons hblank (by rwa [hnext]), hnext, List.cons_append, ← hrest]
    rfl

end Lexemes

end AgentGraph.Json
