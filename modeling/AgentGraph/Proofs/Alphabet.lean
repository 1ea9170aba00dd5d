import AgentGraph.Proofs.Calculation
import AgentGraph.Proofs.Trimmed

/-! The alphabet of expressions.

The check of an expression admits the blanks and the decimal digits of every script; the reader of it
knows those of ASCII, and among the blanks not even all of these. So an expression whose characters the
reader knows has the value of the same expression in plain ASCII, and in every other one the reader
gets no further than to the first character that is foreign to it.

Both are the same argument. A text is changed, and reading goes along with the change: what is next
stays next, and only where the text would end something else may be found. This is said once for
operands of any kind (`Carries`).

* `factor_carried`: reading goes along with such a change.
* `evaluate_spaced`: every known blank may as well be a space.
* `evaluate_foreign`: what comes of an expression with a foreign character in it.
* `calculate_of_alphabet`: the answers to all expressions that the check admits. -/
namespace AgentGraph.Calculator
set_option autoImplicit false

/-! ## Reading without bounds -/

/-- What an operand makes of a text: a number and what is left, or a problem. -/
abbrev Result := Except Problem (Float × List Char)

def Operand.run (operand : Operand) (cs : List Char) : Result :=
  (operand cs).map fun r => (r.1, r.2.val)

def runChain (operand : Operand) (operation? : Char → Option Operation) (x : Float)
    (cs : List Char) : Result :=
  (chain operand operation? x cs).map fun r => (r.1, r.2.val)

/-- Passes the parenthesis that is due. -/
def closed (r : Float × List Char) : Result :=
  match dropGaps r.2 with
  | ')' :: last => .ok (r.1, last)
  | _ => .error .parenthesisMissing

theorem closed_parenthesis {x : Float} {rest last : List Char} (hdrop : dropGaps rest = ')' :: last) :
    closed (x, rest) = .ok (x, last) := by
  simp only [closed, hdrop]

theorem closed_missing {x : Float} {rest : List Char} (h : ∀ last, dropGaps rest ≠ ')' :: last) :
    closed (x, rest) = .error .parenthesisMissing := by
  unfold closed
  split
  · next last hclose => exact absurd hclose (h last)
  · rfl

section Run

variable {operand : Operand} {operation? : Char → Option Operation} {operation : Operation}
  {room : Nat} {x y : Float} {c : Char} {cs after rest : List Char}

theorem run_length (h : operand.run cs = .ok (y, rest)) : rest.length < cs.length := by
  unfold Operand.run at h
  cases hread : operand cs with
  | error p => rw [hread] at h; cases h
  | ok r =>
    rw [hread] at h
    cases h
    exact r.2.property

theorem runChain_nil (hdrop : dropGaps cs = []) :
    runChain operand operation? x cs = .ok (x, cs) := by
  rw [runChain, chain]
  split
  · rfl
  · next hcons => rw [hdrop] at hcons; cases hcons

theorem runChain_none (hdrop : dropGaps cs = c :: after) (hoperation : operation? c = none) :
    runChain operand operation? x cs = .ok (x, cs) := by
  rw [runChain, chain]
  split
  · next hnil => rw [hdrop] at hnil; cases hnil
  · next c' after' hcons =>
    obtain ⟨rfl, rfl⟩ := List.cons.inj (hdrop.symm.trans hcons)
    simp only [hoperation]
    rfl

theorem runChain_some (hdrop : dropGaps cs = c :: after) (hoperation : operation? c = some operation) :
    runChain operand operation? x cs =
      operand.run after >>= fun r =>
        operation x r.1 >>= fun z => runChain operand operation? z r.2 := by
  rw [runChain, chain]
  split
  · next hnil => rw [hdrop] at hnil; cases hnil
  · next c' after' hcons =>
    obtain ⟨rfl, rfl⟩ := List.cons.inj (hdrop.symm.trans hcons)
    simp only [hoperation, Operand.run]
    cases operand after with
    | error p => rfl
    | ok r =>
      obtain ⟨y, rest, shorter⟩ := r
      simp only [Except.map, bind, Except.bind]
      cases operation x y with
      | error p => rfl
      | ok z =>
        simp only [runChain]
        cases chain operand operation? z rest <;> rfl

theorem run_chained (operand : Operand) (operation? : Char → Option Operation) (cs : List Char) :
    (operand.chained operation?).run cs =
      operand.run cs >>= fun r => runChain operand operation? r.1 r.2 := by
  simp only [Operand.run, Operand.chained]
  cases hread : operand cs with
  | error p => rfl
  | ok r =>
    obtain ⟨x, rest, shorter⟩ := r
    simp only [Except.map, bind, Except.bind, runChain]
    cases chain operand operation? x rest <;> rfl

theorem run_number (c : Char) (after : List Char) : number.run (c :: after) =
    if isNumberChar c then
      match Decimal.literal? (c :: after.takeWhile isNumberChar) with
      | some x => .ok (x, after.dropWhile isNumberChar)
      | none => .error (.invalidNumber (String.ofList (c :: after.takeWhile isNumberChar)))
    else .error .numberExpected := by
  by_cases hc : isNumberChar c
  · rw [Operand.run, number_cons hc, if_pos hc]
    cases Decimal.literal? (c :: after.takeWhile isNumberChar) <;> rfl
  · have hnumber : number (c :: after) = .error .numberExpected := by
      rw [number.eq_def]
      exact if_neg hc
    rw [Operand.run, hnumber, if_neg hc]
    rfl

theorem run_factor_nil (hdrop : dropGaps cs = []) :
    (factor room).run cs = .error .endOfExpression := by
  rw [Operand.run, factor]
  split
  · rfl
  · next hcons => rw [hdrop] at hcons; cases hcons

theorem run_factor_cons (hdrop : dropGaps cs = c :: after) : (factor room).run cs =
    if c = '(' then
      match room with
      | 0 => .error .nestedTooDeep
      | inner + 1 =>
        (Operand.expression (factor inner)).run after >>= closed
    else if c = '+' || c = '-' then
      match room with
      | 0 => .error .nestedTooDeep
      | inner + 1 =>
        (factor inner).run after >>= fun r => .ok (if c = '-' then -r.1 else r.1, r.2)
    else number.run (c :: after) := by
  rw [Operand.run, factor]
  split
  · next hnil => rw [hdrop] at hnil; cases hnil
  · next c' after' hcons =>
    obtain ⟨rfl, rfl⟩ := List.cons.inj (hdrop.symm.trans hcons)
    dsimp only
    by_cases hopen : c = '('
    · rw [if_pos hopen, if_pos hopen]
      cases room with
      | zero => rfl
      | succ inner =>
        simp only [Operand.run]
        cases (Operand.expression (factor inner)) after with
        | error p => rfl
        | ok r =>
          obtain ⟨x, rest, lt⟩ := r
          dsimp only
          change _ = closed (x, rest)
          rw [closed]
          split
          · next hclose => simp only [hclose]; rfl
          · next hother =>
            split
            · next last hclose => exact absurd hclose (hother last)
            · rfl
    · rw [if_neg hopen, if_neg hopen]
      by_cases hsign : (c = '+' || c = '-') = true
      · rw [if_pos hsign, if_pos hsign]
        cases room with
        | zero => rfl
        | succ inner =>
          simp only [Operand.run]
          cases factor inner after <;> rfl
      · rw [if_neg hsign, if_neg hsign]
        simp only [Operand.run]
        cases number (c :: after) <;> rfl

end Run

/-- The end that is due after an expression. -/
def finished (r : Float × List Char) : Except Problem Float :=
  match dropGaps r.2 with
  | [] => .ok r.1
  | c :: _ => .error (.unexpected (leadByte c))

theorem evaluate_eq (text : String) : evaluate text =
    (Operand.expression (factor maxNesting)).run text.toList >>= finished := by
  rw [evaluate, Operand.run]
  cases Operand.expression (factor maxNesting) text.toList <;> rfl

/-! ## Changes of a text -/

/-- The reader has no use for the character. -/
structure Foreign (c : Char) : Prop where
  not_gap : ¬ isGap c
  not_number : ¬ isNumberChar c
  not_symbol : c ∉ symbols

theorem Foreign.ne {c d : Char} (h : Foreign c) (hd : d ∈ symbols) : c ≠ d :=
  fun heq => h.not_symbol (heq ▸ hd)

/-- Reading goes along with a change of the text: what is next stays next, and where the text ends it
still does, or a foreign character is found. What is told of the end is told of that. -/
structure Carries (change : List Char → List Char) (told : Problem → Problem) : Prop where
  next {cs : List Char} {c : Char} {after : List Char} (h : dropGaps cs = c :: after) :
    dropGaps (change cs) = c :: change after
  stop {cs : List Char} (h : dropGaps cs = []) :
    (dropGaps (change cs) = [] ∧ told .endOfExpression = .endOfExpression) ∨
      ∃ c after, dropGaps (change cs) = c :: after ∧ Foreign c ∧
        told .endOfExpression = .numberExpected
  takeNumeral (cs : List Char) : (change cs).takeWhile isNumberChar = cs.takeWhile isNumberChar
  dropNumeral (cs : List Char) :
    (change cs).dropWhile isNumberChar = change (cs.dropWhile isNumberChar)
  other {p : Problem} (h : p ≠ .endOfExpression) : told p = p

/-- The same result for the changed text. -/
def carried (change : List Char → List Char) (told : Problem → Problem) : Result → Result
  | .ok (x, rest) => .ok (x, change rest)
  | .error p => .error (told p)

/-- Operations that no foreign character stands for, and that do not fail for want of text. -/
structure Apt (operation? : Char → Option Operation) : Prop where
  foreign {c : Char} (h : Foreign c) : operation? c = none
  problem {c : Char} {operation : Operation} (h : operation? c = some operation) {x y : Float}
    {p : Problem} (hp : operation x y = .error p) : p ≠ .endOfExpression

theorem apt_product : Apt product? where
  foreign h := by
    refine product?_eq_none fun hmem => h.not_symbol ?_
    have hsub : productChars ⊆ symbols := by decide
    exact hsub hmem
  problem {c operation} h x y p hp := by
    unfold product? at h
    split at h
    · cases h
      cases hp
    · cases h
      -- Only a division fails.
      dsimp only at hp
      by_cases hzero : (y == 0) = true
      · rw [if_pos hzero] at hp
        cases hp
        nofun
      · rw [if_neg hzero] at hp
        cases hp
    · cases h

theorem apt_sum : Apt sum? where
  foreign h := by
    refine sum?_eq_none fun hmem => h.not_symbol ?_
    have hsub : sumChars ⊆ symbols := by decide
    exact hsub hmem
  problem {c operation} h x y p hp := by
    unfold sum? at h
    split at h
    · cases h
      cases hp
    · cases h
      cases hp
    · cases h

section Carried

variable {change : List Char → List Char} {told : Problem → Problem}
  {operand : Operand} {operation? : Char → Option Operation}

theorem error_carried (h : Carries change told) {p : Problem} (hp : p ≠ .endOfExpression) :
    carried change told (.error p) = .error p :=
  congrArg Except.error (h.other hp)

theorem carried_bind {result : Result} {f g : Float × List Char → Result}
    (h : ∀ x rest, result = .ok (x, rest) → g (x, change rest) = carried change told (f (x, rest))) :
    (carried change told result >>= g) = carried change told (result >>= f) := by
  cases result with
  | error p => rfl
  | ok r => exact h r.1 r.2 rfl

/-- The operand reads the changed text as it reads the text. -/
def Operand.Follows (change : List Char → List Char) (told : Problem → Problem)
    (operand : Operand) : Prop :=
  ∀ cs, operand.run (change cs) = carried change told (operand.run cs)

theorem runChain_carried (h : Carries change told) (hoperand : operand.Follows change told)
    (hapt : Apt operation?) (x : Float) (cs : List Char) :
    runChain operand operation? x (change cs) =
      carried change told (runChain operand operation? x cs) := by
  induction hlength : cs.length using Nat.strong_induction_on generalizing x cs with
  | _ n ih =>
    cases hdrop : dropGaps cs with
    | nil =>
      rw [runChain_nil hdrop]
      rcases h.stop hdrop with ⟨hnil, -⟩ | ⟨c, after, hcons, hforeign, -⟩
      · exact runChain_nil hnil
      · exact runChain_none hcons (hapt.foreign hforeign)
    | cons c after =>
      cases hoperation : operation? c with
      | none =>
        rw [runChain_none hdrop hoperation]
        exact runChain_none (h.next hdrop) hoperation
      | some operation =>
        rw [runChain_some hdrop hoperation, runChain_some (h.next hdrop) hoperation, hoperand after]
        refine carried_bind fun y rest hread => ?_
        cases hz : operation x y with
        | error p => exact (error_carried h (hapt.problem hoperation hz)).symm
        | ok z =>
          -- The chain goes on with less text.
          have hafter : rest.length < after.length := run_length hread
          have hgaps := dropGaps_length_le cs
          rw [hdrop, List.length_cons] at hgaps
          exact ih rest.length (by omega) z rest rfl

theorem Operand.Follows.chained (h : Carries change told) (hoperand : operand.Follows change told)
    (hapt : Apt operation?) : (operand.chained operation?).Follows change told := by
  intro cs
  rw [run_chained, run_chained, hoperand cs]
  exact carried_bind fun x rest _ => runChain_carried h hoperand hapt x rest

theorem Operand.Follows.expression (h : Carries change told)
    (hoperand : operand.Follows change told) :
    (Operand.expression operand).Follows change told :=
  (hoperand.chained h apt_product).chained h apt_sum

theorem run_number_carried (h : Carries change told) (c : Char) (after : List Char) :
    number.run (c :: change after) = carried change told (number.run (c :: after)) := by
  rw [run_number, run_number, h.takeNumeral, h.dropNumeral]
  by_cases hc : isNumberChar c
  · rw [if_pos hc, if_pos hc]
    cases Decimal.literal? (c :: after.takeWhile isNumberChar) with
    | some x => rfl
    | none => exact (error_carried h Problem.noConfusion).symm
  · rw [if_neg hc, if_neg hc, error_carried h Problem.noConfusion]

theorem closed_carried (h : Carries change told) (x : Float) (rest : List Char) :
    closed (x, change rest) = carried change told (closed (x, rest)) := by
  cases hdrop : dropGaps rest with
  | nil =>
    have hmissing : closed (x, rest) = .error .parenthesisMissing := closed_missing (by simp [hdrop])
    rw [hmissing, error_carried h Problem.noConfusion]
    rcases h.stop hdrop with ⟨hnil, -⟩ | ⟨c, after, hcons, hforeign, -⟩
    · exact closed_missing (by simp [hnil])
    · have hclose : c ≠ ')' := hforeign.ne (by decide)
      exact closed_missing (by simp [hcons, hclose])
  | cons c after =>
    by_cases hclose : c = ')'
    · subst hclose
      rw [closed_parenthesis hdrop, closed_parenthesis (h.next hdrop)]
      rfl
    · have hmissing : closed (x, rest) = .error .parenthesisMissing :=
        closed_missing (by simp [hdrop, hclose])
      rw [hmissing, error_carried h Problem.noConfusion]
      exact closed_missing (by simp [h.next hdrop, hclose])

theorem factor_carried_stop (h : Carries change told) {room : Nat} {cs : List Char}
    (hdrop : dropGaps cs = []) :
    (factor room).run (change cs) = carried change told ((factor room).run cs) := by
  rw [run_factor_nil hdrop]
  rcases h.stop hdrop with ⟨hnil, htold⟩ | ⟨c, after, hcons, hforeign, htold⟩
  · rw [run_factor_nil hnil, carried, htold]
  · have hopen : c ≠ '(' := hforeign.ne (by decide)
    have hplus : c ≠ '+' := hforeign.ne (by decide)
    have hminus : c ≠ '-' := hforeign.ne (by decide)
    have hsign : ¬ (c = '+' || c = '-') := by simp [hplus, hminus]
    rw [run_factor_cons hcons, if_neg hopen, if_neg hsign, run_number, if_neg hforeign.not_number,
      carried, htold]

/-- A factor of the changed text is read as that of the text. -/
theorem factor_carried (h : Carries change told) (room : Nat) :
    (factor room).Follows change told := by
  induction room using Nat.strong_induction_on with
  | _ room ih =>
    intro cs
    cases hdrop : dropGaps cs with
    | nil => exact factor_carried_stop h hdrop
    | cons c after =>
      rw [run_factor_cons hdrop, run_factor_cons (h.next hdrop)]
      by_cases hopen : c = '('
      · rw [if_pos hopen, if_pos hopen]
        cases room with
        | zero => exact (error_carried h Problem.noConfusion).symm
        | succ inner =>
          have hinside := (ih inner (Nat.lt_succ_self inner)).expression h after
          dsimp only
          rw [hinside]
          exact carried_bind fun x rest _ => closed_carried h x rest
      rw [if_neg hopen, if_neg hopen]
      by_cases hsign : (c = '+' || c = '-') = true
      · rw [if_pos hsign, if_pos hsign]
        cases room with
        | zero => exact (error_carried h Problem.noConfusion).symm
        | succ inner =>
          have hinside := ih inner (Nat.lt_succ_self inner) after
          dsimp only
          rw [hinside]
          exact carried_bind fun x rest _ => rfl
      · rw [if_neg hsign, if_neg hsign, run_number_carried h]

end Carried

/-! ## Blanks as spaces -/

/-- Every blank that the reader knows is a space. -/
def spaced (c : Char) : Char := if isGap c then ' ' else c

theorem isNumberChar_spaced (c : Char) : isNumberChar (spaced c) = isNumberChar c := by
  by_cases hc : isGap c
  · have hnumber : isNumberChar c = false := Bool.eq_false_iff.mpr (not_isNumberChar_of_gap hc)
    rw [spaced, if_pos hc, hnumber]
    rfl
  · rw [spaced, if_neg hc]

theorem isGap_spaced (c : Char) : isGap (spaced c) = isGap c := by
  by_cases hc : isGap c
  · rw [spaced, if_pos hc, hc]
    rfl
  · rw [spaced, if_neg hc]

theorem not_isGap_of_dropGaps {cs after : List Char} {c : Char} (h : dropGaps cs = c :: after) :
    ¬ isGap c := by
  have hfirst := List.head?_dropWhile_not isGap cs
  rw [← dropGaps, h] at hfirst
  exact Bool.eq_false_iff.mp hfirst

theorem dropGaps_spaced (cs : List Char) : dropGaps (cs.map spaced) = (dropGaps cs).map spaced :=
  Text.dropWhile_map_of_same isGap_spaced cs

theorem carries_spaced : Carries (List.map spaced) id where
  next {cs c after} h := by
    have hc : spaced c = c := if_neg (not_isGap_of_dropGaps h)
    rw [dropGaps_spaced, h, List.map_cons, hc]
  stop {cs} h := .inl ⟨by rw [dropGaps_spaced, h, List.map_nil], rfl⟩
  takeNumeral cs := by
    have hcomp : isNumberChar ∘ spaced = isNumberChar := funext isNumberChar_spaced
    have hsame : ∀ c ∈ cs.takeWhile isNumberChar, spaced c = c := fun c hc =>
      if_neg fun hgap => not_isNumberChar_of_gap hgap (List.mem_takeWhile_imp hc)
    rw [List.takeWhile_map, hcomp, List.map_congr_left hsame, List.map_id']
  dropNumeral cs := Text.dropWhile_map_of_same isNumberChar_spaced cs
  other _ := rfl

/-- The blanks of an expression may as well be spaces. -/
theorem evaluate_spaced (cs : List Char) :
    evaluate (String.ofList (cs.map spaced)) = evaluate (String.ofList cs) := by
  have hread := (factor_carried carries_spaced maxNesting).expression carries_spaced cs
  rw [evaluate_eq, evaluate_eq, String.toList_ofList, String.toList_ofList, hread]
  cases (Operand.expression (factor maxNesting)).run cs with
  | error p => rfl
  | ok r =>
    obtain ⟨x, rest⟩ := r
    change finished (x, rest.map spaced) = finished (x, rest)
    cases hdrop : dropGaps rest with
    | nil => simp only [finished, dropGaps_spaced, hdrop, List.map_nil]
    | cons c after => simp only [finished, carries_spaced.next hdrop, hdrop]

/-! ## Foreign characters -/

/-- A character found in place of the end of a text is no number. -/
def pastEnd : Problem → Problem
  | .endOfExpression => .numberExpected
  | p => p

/-- What comes of an expression with a foreign character in it, by what comes of the expression before
that character. -/
def stuck (c : Char) : Except Problem Float → Problem
  | .ok _ => .unexpected (leadByte c)
  | .error p => pastEnd p

section Foreign

variable {c : Char} {q : Char → Bool} {s : List Char}

theorem takeWhile_append_stop (hc : ¬ q c) (cs : List Char) :
    (cs ++ c :: s).takeWhile q = cs.takeWhile q := by
  induction cs with
  | nil => exact List.takeWhile_cons_of_neg hc
  | cons d cs ih =>
    rw [List.cons_append, List.takeWhile_cons, List.takeWhile_cons, ih]

theorem dropWhile_append_stop (hc : ¬ q c) (cs : List Char) :
    (cs ++ c :: s).dropWhile q = cs.dropWhile q ++ c :: s := by
  induction cs with
  | nil => exact List.dropWhile_cons_of_neg hc
  | cons d cs ih =>
    rw [List.cons_append, List.dropWhile_cons, List.dropWhile_cons, ih]
    split <;> rfl

theorem carries_foreign (hc : Foreign c) : Carries (· ++ c :: s) pastEnd where
  next {cs d after} h := by
    rw [dropGaps, dropWhile_append_stop hc.not_gap, ← dropGaps, h, List.cons_append]
  stop {cs} h := by
    refine .inr ⟨c, s, ?_, hc, rfl⟩
    rw [dropGaps, dropWhile_append_stop hc.not_gap, ← dropGaps, h, List.nil_append]
  takeNumeral := takeWhile_append_stop hc.not_number
  dropNumeral := dropWhile_append_stop hc.not_number
  other {p} h := by
    cases p with
    | endOfExpression => exact absurd rfl h
    | _ => rfl

/-- No expression is read past a foreign character. -/
theorem evaluate_foreign (hc : Foreign c) (cs : List Char) :
    evaluate (String.ofList (cs ++ c :: s)) = .error (stuck c (evaluate (String.ofList cs))) := by
  have hcarries : Carries (· ++ c :: s) pastEnd := carries_foreign hc
  have hread := (factor_carried hcarries maxNesting).expression hcarries cs
  rw [evaluate_eq, evaluate_eq, String.toList_ofList, String.toList_ofList, hread]
  cases (Operand.expression (factor maxNesting)).run cs with
  | error p => rfl
  | ok r =>
    obtain ⟨x, rest⟩ := r
    change finished (x, rest ++ c :: s) = .error (stuck c (finished (x, rest)))
    cases hdrop : dropGaps rest with
    | nil =>
      have hnext : dropGaps (rest ++ c :: s) = c :: s := by
        rw [dropGaps, dropWhile_append_stop hc.not_gap, ← dropGaps, hdrop, List.nil_append]
      simp only [finished, hnext, hdrop, stuck]
    | cons d after => simp only [finished, hcarries.next hdrop, hdrop, stuck, pastEnd]

end Foreign

/-! ## The characters of an expression -/

/-- If the character is a blank or a digit, the reader knows it. -/
def isNative (c : Char) : Bool :=
  (!Text.isBlank c || isGap c) && (!Text.isDecimalDigit c || c.isDigit)

/-- A space for every blank, and the digit of ASCII for every digit of the same value. -/
def plainChar (c : Char) : Char :=
  if Text.isBlank c then ' '
  else
    match Text.digitValue? c with
    | some n => Nat.digitChar n
    | none => c

/-- The expression in ASCII. -/
def plain (e : String) : String := String.ofList (e.toList.map plainChar)

section Characters

variable {c : Char}

theorem plainChar_cases (c : Char) : (Text.isBlank c ∧ plainChar c = ' ') ∨
    (¬ Text.isBlank c ∧ Text.isDecimalDigit c ∧ ∃ n < 10, plainChar c = Nat.digitChar n) ∨
      (¬ Text.isBlank c ∧ plainChar c = c) := by
  by_cases hblank : Text.isBlank c
  · exact .inl ⟨hblank, if_pos hblank⟩
  · cases hvalue : Text.digitValue? c with
    | none => exact .inr (.inr ⟨hblank, by simp only [plainChar, if_neg hblank, hvalue]⟩)
    | some n =>
      obtain ⟨z, hz, rfl⟩ := Option.map_eq_some_iff.mp hvalue
      have hdecimal : Text.isDecimalDigit c :=
        List.any_eq_true.mpr ⟨z, List.mem_of_find?_eq_some hz, List.find?_some (a := z) hz⟩
      have hlt : c.toNat - z < 10 := by
        have hrange := List.find?_some (a := z) hz
        simp only [Bool.and_eq_true, decide_eq_true_eq] at hrange
        omega
      refine .inr (.inl ⟨hblank, hdecimal, c.toNat - z, hlt, ?_⟩)
      simp only [plainChar, if_neg hblank, hvalue]

theorem isBlank_plainChar (c : Char) : Text.isBlank (plainChar c) = Text.isBlank c := by
  have hdigit : ∀ n < 10, Text.isBlank (Nat.digitChar n) = false := by decide
  rcases plainChar_cases c with ⟨hblank, h⟩ | ⟨hblank, -, n, hn, h⟩ | ⟨-, h⟩
  · rw [h, hblank]
    rfl
  · rw [h, hdigit n hn, Bool.eq_false_iff.mpr hblank]
  · rw [h]

theorem isExpressionChar_plainChar (hc : isExpressionChar c) : isExpressionChar (plainChar c) := by
  have hdigit : ∀ n < 10, isExpressionChar (Nat.digitChar n) := by decide
  rcases plainChar_cases c with ⟨-, h⟩ | ⟨-, -, n, hn, h⟩ | ⟨-, h⟩
  · rw [h]
    decide
  · rw [h]
    exact hdigit n hn
  · rwa [h]

theorem isBlank_of_isGap (hc : isGap c) : Text.isBlank c := by
  simp only [isGap, Bool.or_eq_true, decide_eq_true_eq] at hc
  rcases hc with (((rfl | rfl) | rfl) | rfl) | rfl <;> decide

theorem plainChar_of_isDigit (hc : c.isDigit) : plainChar c = c := by
  have hall : ∀ n ≤ '9'.toNat, '0'.toNat ≤ n → plainChar (Char.ofNat n) = Char.ofNat n := by decide
  obtain ⟨hlow, hhigh⟩ := Char.isDigit_iff_toNat.mp hc
  have hsame := hall c.toNat hhigh hlow
  rwa [Char.ofNat_toNat] at hsame

theorem plainChar_of_isNative (hc : isNative c) : plainChar c = spaced c := by
  rw [isNative, Bool.and_eq_true, Bool.or_eq_true, Bool.or_eq_true, Bool.not_eq_true',
    Bool.not_eq_true'] at hc
  obtain ⟨hgap, hdigit⟩ := hc
  rcases plainChar_cases c with ⟨hblank, h⟩ | ⟨hblank, hdecimal, -⟩ | ⟨hblank, h⟩
  · have hknown : isGap c := hgap.resolve_left (by simp [hblank])
    rw [h, spaced, if_pos hknown]
  · have hknown : c.isDigit := hdigit.resolve_left (by simp [hdecimal])
    rw [plainChar_of_isDigit hknown, spaced, if_neg (mt isBlank_of_isGap hblank)]
  · rw [h, spaced, if_neg (mt isBlank_of_isGap hblank)]

theorem not_isBlank_of_isNumberChar (hc : isNumberChar c) : ¬ Text.isBlank c := by
  rw [isNumberChar, Bool.or_eq_true, beq_iff_eq] at hc
  rcases hc with hdigit | rfl
  · obtain ⟨hlow, hhigh⟩ := Char.isDigit_iff_toNat.mp hdigit
    exact Text.not_blank_of_range (Nat.le_trans (by decide) hlow) (Nat.le_trans hhigh (by decide))
  · decide

theorem not_isBlank_of_symbol (hc : c ∈ symbols) : ¬ Text.isBlank c := by
  have hall : symbols.all fun c => !Text.isBlank c := by decide
  have hother := List.all_eq_true.mp hall c hc
  simpa using hother

theorem not_isDecimalDigit_of_symbol (hc : c ∈ symbols) : ¬ Text.isDecimalDigit c := by
  have hall : symbols.all fun c => !Text.isDecimalDigit c := by decide
  have hother := List.all_eq_true.mp hall c hc
  simpa using hother

theorem not_isDecimalDigit_of_isGap (hc : isGap c) : ¬ Text.isDecimalDigit c := by
  simp only [isGap, Bool.or_eq_true, decide_eq_true_eq] at hc
  rcases hc with (((rfl | rfl) | rfl) | rfl) | rfl <;> decide

/-- A blank or a digit that the reader does not know is nothing else that it knows. -/
theorem foreign_of_not_isNative (hc : ¬ isNative c) : Foreign c := by
  simp only [isNative, Bool.and_eq_true, Bool.or_eq_true, Bool.not_eq_true', not_and_or, not_or,
    Bool.not_eq_false] at hc
  rcases hc with ⟨hblank, hgap⟩ | ⟨hdecimal, hdigit⟩
  · exact ⟨hgap, fun h => not_isBlank_of_isNumberChar h hblank, fun h => not_isBlank_of_symbol h hblank⟩
  · refine ⟨fun h => not_isDecimalDigit_of_isGap h hdecimal, fun h => ?_,
      fun h => not_isDecimalDigit_of_symbol h hdecimal⟩
    rw [isNumberChar, Bool.or_eq_true, beq_iff_eq] at h
    rcases h with h | rfl
    · exact hdigit h
    · exact absurd hdecimal (by decide)

end Characters

/-! ## Whole expressions -/

section Whole

variable {e : String}

theorem toList_trim_plain (e : String) :
    (Text.trim (plain e)).toList = (Text.trim e).toList.map plainChar := by
  rw [Text.trim, Text.trim, plain, String.toList_ofList, String.toList_ofList, String.toList_ofList,
    Text.trimChars_map isBlank_plainChar]

/-- The check admits the expression. -/
def Admitted (e : String) : Prop := ∀ c ∈ (Text.trim e).toList, isExpressionChar c

instance (e : String) : Decidable (Admitted e) :=
  decidable_of_iff ((Text.trim e).toList.all isExpressionChar = true) List.all_eq_true

/-- The answer to what comes of an expression. -/
def answer : Except Problem Float → String
  | .ok x => Decimal.plainText x
  | .error p => "Error: " ++ p.message

theorem Admitted.plain (h : Admitted e) : Admitted (plain e) := by
  intro c hc
  rw [toList_trim_plain] at hc
  obtain ⟨d, hd, rfl⟩ := List.mem_map.mp hc
  exact isExpressionChar_plainChar (h d hd)

theorem Admitted.calculate (h : Admitted e) : calculate e =
    if (Text.trim e).toList = [] then "Empty expression" else answer (evaluate (Text.trim e)) := by
  have hall : (Text.trim e).toList.all isExpressionChar = true := List.all_eq_true.mpr h
  simp only [Calculator.calculate, hall, String.isEmpty_iff, String.toList_eq_nil_iff, Bool.not_true,
    Bool.false_eq_true, if_false]
  cases evaluate (Text.trim e) <;> rfl

/-- An expression that the check admits has the answer of the same expression in ASCII, if the reader
knows all its blanks and digits. At one that it does not know reading ends: the answer is the problem of
what stands before it, and where that has a value or ends too soon, the character is reported as
unexpected, by its first byte, or as no number. -/
theorem calculate_of_alphabet (e : String) (h : Admitted e) :
    ((∀ c ∈ (Text.trim e).toList, isNative c) → calculate e = calculate (plain e)) ∧
      ∀ (p s : String) (c : Char), Text.trim e = p ++ c.toString ++ s → ¬ isNative c →
        calculate e = "Error: " ++ (stuck c (evaluate p)).message := by
  constructor
  · intro hnative
    have hchars : (Text.trim (plain e)).toList = (Text.trim e).toList.map spaced := by
      rw [toList_trim_plain]
      exact List.map_congr_left fun c hc => plainChar_of_isNative (hnative c hc)
    have hevaluate : evaluate (Text.trim (plain e)) = evaluate (Text.trim e) := by
      have hspaced := evaluate_spaced (Text.trim e).toList
      rwa [← hchars, String.ofList_toList, String.ofList_toList] at hspaced
    rw [h.calculate, h.plain.calculate, hevaluate, hchars]
    simp only [List.map_eq_nil_iff]
  · intro p s c htrim hc
    have hchars : (Text.trim e).toList = p.toList ++ c :: s.toList := by
      rw [htrim]
      simp [Char.toString]
    have hevaluate : evaluate (Text.trim e) = .error (stuck c (evaluate p)) := by
      have hforeign := evaluate_foreign (s := s.toList) (foreign_of_not_isNative hc) p.toList
      rwa [← hchars, String.ofList_toList, String.ofList_toList] at hforeign
    rw [h.calculate, hevaluate, if_neg (by simp [hchars])]
    rfl

end Whole

theorem calculate_of_alphabet_mixed :
    (Admitted " 1 +\t2" ∧ (∀ c ∈ (Text.trim " 1 +\t2").toList, isNative c) ∧
      calculate " 1 +\t2" = calculate (plain " 1 +\t2")) ∧
    Admitted "2 * \u0663" ∧ Text.trim "2 * \u0663" = "2 * " ++ '\u0663'.toString ++ "" ∧
      ¬ isNative '\u0663' ∧ calculate "2 * \u0663" = "Error: expected number" := by
  have hknown : Admitted " 1 +\t2" := by decide +kernel
  have hnative : ∀ c ∈ (Text.trim " 1 +\t2").toList, isNative c :=
    List.all_eq_true.mp (by decide +kernel)
  have hadmitted : Admitted "2 * \u0663" := by decide +kernel
  have htrim : Text.trim "2 * \u0663" = "2 * " ++ '\u0663'.toString ++ "" := by decide +kernel
  have hother : ¬ isNative '\u0663' := by decide
  refine ⟨⟨hknown, hnative, (calculate_of_alphabet " 1 +\t2" hknown).1 hnative⟩, hadmitted, htrim,
    hother, ?_⟩
  -- The factor that is due is missing before the digit.
  have hbefore : stuck '\u0663' (evaluate "2 * ") = .numberExpected := by decide +kernel
  have hanswer := (calculate_of_alphabet "2 * \u0663" hadmitted).2 "2 * " "" '\u0663' htrim hother
  rw [hbefore] at hanswer
  exact hanswer

/-- A no-break space is reported as unexpected, by a byte of it, and the Arabic digit three as no
number, though the check admits both. -/
theorem foreign_characters_refused :
    (Admitted "1\u00a0+ 2" ∧ plain "1\u00a0+ 2" = "1 + 2" ∧
      calculate "1\u00a0+ 2" = "Error: unexpected '\u00c2'" ∧ calculate "1 + 2" = "3") ∧
    Admitted "\u0663 + 1" ∧ plain "\u0663 + 1" = "3 + 1" ∧
      calculate "\u0663 + 1" = "Error: expected number" ∧ calculate "3 + 1" = "4" := by
  decide +kernel

end AgentGraph.Calculator
