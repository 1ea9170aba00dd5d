import AgentGraph.Tool.Calculator
import Mathlib.Data.List.TakeWhile

/-! The grammar of expressions.

    E → T (('+' | '-') T)*
    T → F (('*' | '/') F)*
    F → number | '(' E ')' | ('+' | '-') F

A derivation is a syntax tree, and each kind of tree is an inductive type of its own. A tree has the
tokens it is written with, the depth it nests to, and a value unless a divisor in it is zero. Blanks
may stand around tokens.

* `literal?_eq_some_iff`: the literals that denote a number are the runs of digits and points with at
  least one digit and at most one point.
* `Expression.unique`: no text is derived in two ways. -/
namespace AgentGraph.Calculator
set_option autoImplicit false

/-! ## Numbers -/

/-- A run of digits and points with at least one digit and at most one point. -/
structure Numeral where
  chars : List Char
  isNumber : ∀ c ∈ chars, isNumberChar c
  hasDigit : ∃ c ∈ chars, c.isDigit
  onePoint : chars.count '.' ≤ 1

/-- The double nearest to the number that the digits denote; those after the point are places. -/
def Numeral.value (n : Numeral) : Float :=
  Decimal.nearestFloat (Decimal.digitsValue (n.chars.filter Char.isDigit))
    (-((n.chars.dropWhile Char.isDigit).tail.length : Int))

theorem Numeral.ext {n n' : Numeral} (h : n.chars = n'.chars) : n = n' := by
  cases n
  cases n'
  cases h
  rfl

theorem count_point_eq_zero_iff {cs : List Char} (h : ∀ c ∈ cs, isNumberChar c) :
    cs.count '.' = 0 ↔ ∀ c ∈ cs, c.isDigit := by
  rw [List.count_eq_zero]
  constructor
  · intro hpoint c hc
    have hne : c ≠ '.' := fun heq => hpoint (heq ▸ hc)
    simpa [isNumberChar, hne] using h c hc
  · exact fun hdigits hmem => absurd (hdigits '.' hmem) (by decide)

/-- Digits alone, or digits and a point and whatever follows. -/
theorem digits_or_point {cs : List Char} (h : ∀ c ∈ cs, isNumberChar c) :
    (∀ c ∈ cs, c.isDigit) ∨
      ∃ whole places, cs = whole ++ '.' :: places ∧ ∀ c ∈ whole, c.isDigit := by
  induction cs with
  | nil => exact .inl nofun
  | cons c cs ih =>
    by_cases hc : c.isDigit
    · rcases ih fun d hd => h d (List.mem_cons_of_mem c hd) with hall | ⟨whole, places, rfl, hwhole⟩
      · exact .inl (List.forall_mem_cons.mpr ⟨hc, hall⟩)
      · exact .inr ⟨c :: whole, places, rfl, List.forall_mem_cons.mpr ⟨hc, hwhole⟩⟩
    · have hpoint : c = '.' := by simpa [isNumberChar, hc] using h c List.mem_cons_self
      exact .inr ⟨[], cs, by rw [hpoint]; rfl, nofun⟩

theorem literal?_digits {cs : List Char} (h : ∀ c ∈ cs, c.isDigit) :
    Decimal.literal? cs =
      if cs.isEmpty then none else some (Decimal.nearestFloat (Decimal.digitsValue cs) 0) := by
  rw [Decimal.literal?, List.takeWhile_eq_self_iff.mpr h, List.dropWhile_eq_nil_iff.mpr h]

theorem dropWhile_point {whole places : List Char} (h : ∀ c ∈ whole, c.isDigit) :
    (whole ++ '.' :: places).dropWhile Char.isDigit = '.' :: places := by
  rw [List.dropWhile_append_of_pos h]
  rfl

theorem literal?_point {whole places : List Char} (h : ∀ c ∈ whole, c.isDigit) :
    Decimal.literal? (whole ++ '.' :: places) =
      if places.all Char.isDigit && !(whole.isEmpty && places.isEmpty) then
        some (Decimal.nearestFloat (Decimal.digitsValue (whole ++ places)) (-(places.length : Int)))
      else none := by
  have hwhole : (whole ++ '.' :: places).takeWhile Char.isDigit = whole := by
    rw [List.takeWhile_append_of_pos h]
    exact List.append_nil whole
  rw [Decimal.literal?, hwhole, dropWhile_point h]
  rfl

/-- A literal denotes a number just when it is a numeral, and then it denotes its value. -/
theorem literal?_eq_some_iff {cs : List Char} (h : ∀ c ∈ cs, isNumberChar c) {x : Float} :
    Decimal.literal? cs = some x ↔ ∃ n : Numeral, n.chars = cs ∧ n.value = x := by
  have hnumeral : (∃ n : Numeral, n.chars = cs ∧ n.value = x) ↔
      (∃ c ∈ cs, c.isDigit) ∧ cs.count '.' ≤ 1 ∧
        Decimal.nearestFloat (Decimal.digitsValue (cs.filter Char.isDigit))
          (-((cs.dropWhile Char.isDigit).tail.length : Int)) = x := by
    constructor
    · rintro ⟨n, rfl, hvalue⟩
      exact ⟨n.hasDigit, n.onePoint, hvalue⟩
    · rintro ⟨hdigit, hpoint, hvalue⟩
      exact ⟨⟨cs, h, hdigit, hpoint⟩, rfl, hvalue⟩
  rw [hnumeral]
  rcases digits_or_point h with hall | ⟨whole, places, rfl, hwhole⟩
  · have hcount : cs.count '.' ≤ 1 := by rw [(count_point_eq_zero_iff h).mpr hall]; exact Nat.zero_le 1
    rw [literal?_digits hall, List.filter_eq_self.mpr hall, List.dropWhile_eq_nil_iff.mpr hall]
    cases cs with
    | nil => simp
    | cons c cs => simpa [hcount] using fun _ => .inl (hall c List.mem_cons_self)
  · have hplaces : ∀ c ∈ places, isNumberChar c := fun c hc => h c (by simp [hc])
    have hcount : (whole ++ '.' :: places).count '.' ≤ 1 ↔ ∀ c ∈ places, c.isDigit := by
      rw [List.count_append, (count_point_eq_zero_iff fun c hc => h c (by simp [hc])).mpr hwhole,
        List.count_cons_self, ← count_point_eq_zero_iff hplaces]
      omega
    have hdigit : (∃ c ∈ whole ++ '.' :: places, c.isDigit) ↔ ∃ c ∈ whole ++ places, c.isDigit := by
      refine exists_congr fun c => and_congr_left fun hc => ?_
      have hne : c ≠ '.' := fun heq => absurd (heq ▸ hc) (by decide)
      simp [hne]
    rw [literal?_point hwhole, hcount, hdigit, dropWhile_point hwhole, List.filter_append,
      List.filter_eq_self.mpr hwhole, List.filter_cons_of_neg (by decide), List.tail_cons]
    by_cases hall : ∀ c ∈ places, c.isDigit
    · have hdigits : ∀ c ∈ whole ++ places, c.isDigit := by
        simpa [or_imp, forall_and] using ⟨hwhole, hall⟩
      have hsome : (∃ c ∈ whole ++ places, c.isDigit) ↔ (whole ++ places).isEmpty = false := by
        rw [List.isEmpty_eq_false_iff_exists_mem]
        exact exists_congr fun c => ⟨fun hc => hc.1, fun hc => ⟨hc, hdigits c hc⟩⟩
      rw [hsome, List.filter_eq_self.mpr hall, List.all_eq_true.mpr hall, and_iff_right hall,
        Bool.true_and]
      cases whole <;> cases places <;> simp
    · have hplace : places.all Char.isDigit = false := by simpa using hall
      simp only [hplace, hall, Bool.false_and, Bool.false_eq_true, if_false, reduceCtorEq, false_and,
        and_false]

/-! ## Syntax trees -/

inductive SumSign where
  | plus
  | minus

inductive ProductSign where
  | times
  | dividedBy

mutual

/-- `F → number | '(' E ')' | ('+' | '-') F` -/
inductive Factor where
  | number (n : Numeral)
  | group (e : Expression)
  | signed (s : SumSign) (f : Factor)

/-- `(('*' | '/') F)*` -/
inductive Products where
  | done
  | more (s : ProductSign) (f : Factor) (rest : Products)

/-- `T → F (('*' | '/') F)*` -/
inductive Term where
  | mk (first : Factor) (rest : Products)

/-- `(('+' | '-') T)*` -/
inductive Sums where
  | done
  | more (s : SumSign) (t : Term) (rest : Sums)

/-- `E → T (('+' | '-') T)*` -/
inductive Expression where
  | mk (first : Term) (rest : Sums)

end

/-! ## Nesting -/

mutual

/-- The parentheses and signs around the number that has the most of them. -/
def Factor.nesting : Factor → Nat
  | .number _ => 0
  | .group e => e.nesting + 1
  | .signed _ f => f.nesting + 1

def Products.nesting : Products → Nat
  | .done => 0
  | .more _ f rest => max f.nesting rest.nesting

def Term.nesting : Term → Nat
  | .mk first rest => max first.nesting rest.nesting

def Sums.nesting : Sums → Nat
  | .done => 0
  | .more _ t rest => max t.nesting rest.nesting

def Expression.nesting : Expression → Nat
  | .mk first rest => max first.nesting rest.nesting

end

/-! ## Values -/

def SumSign.signed : SumSign → Float → Float
  | .plus, x => x
  | .minus, x => -x

def SumSign.combine : SumSign → Float → Float → Float
  | .plus, x, y => x + y
  | .minus, x, y => x - y

/-- Nothing can be divided by zero. -/
def ProductSign.combine? : ProductSign → Float → Float → Option Float
  | .times, x, y => some (x * y)
  | .dividedBy, x, y => if y == 0 then none else some (x / y)

mutual

/-- The value, unless a divisor is zero. -/
def Factor.value? : Factor → Option Float
  | .number n => some n.value
  | .group e => e.value?
  | .signed s f => f.value?.map s.signed

/-- What the operations make of `x`, one after the other. -/
def Products.value? : Products → Float → Option Float
  | .done, x => some x
  | .more s f rest, x => f.value?.bind fun y => (s.combine? x y).bind rest.value?

def Term.value? : Term → Option Float
  | .mk first rest => first.value?.bind rest.value?

def Sums.value? : Sums → Float → Option Float
  | .done, x => some x
  | .more s t rest, x => t.value?.bind fun y => rest.value? (s.combine x y)

def Expression.value? : Expression → Option Float
  | .mk first rest => first.value?.bind rest.value?

end

/-! ## Tokens -/

abbrev Token := List Char

def SumSign.char : SumSign → Char
  | .plus => '+'
  | .minus => '-'

def ProductSign.char : ProductSign → Char
  | .times => '*'
  | .dividedBy => '/'

mutual

def Factor.tokens : Factor → List Token
  | .number n => [n.chars]
  | .group e => ['('] :: (e.tokens ++ [[')']])
  | .signed s f => [s.char] :: f.tokens

def Products.tokens : Products → List Token
  | .done => []
  | .more s f rest => [s.char] :: (f.tokens ++ rest.tokens)

def Term.tokens : Term → List Token
  | .mk first rest => first.tokens ++ rest.tokens

def Sums.tokens : Sums → List Token
  | .done => []
  | .more s t rest => [s.char] :: (t.tokens ++ rest.tokens)

def Expression.tokens : Expression → List Token
  | .mk first rest => first.tokens ++ rest.tokens

end

/-- The text is made of the tokens, with blanks before, between and after them. -/
inductive Spaced : List Token → List Char → Prop
  | nil {gap : List Char} (hgap : ∀ c ∈ gap, isGap c) : Spaced [] gap
  | cons {gap token rest : List Char} {ts : List Token} (hgap : ∀ c ∈ gap, isGap c)
      (h : Spaced ts rest) : Spaced (token :: ts) (gap ++ (token ++ rest))

/-- The text is derived by the tree. -/
def Expression.Derives (e : Expression) (text : String) : Prop := Spaced e.tokens text.toList

/-! ## What follows a tree -/

/-- The characters that are tokens of their own. -/
def symbols : List Char := ['+', '-', '*', '/', '(', ')']

/-- The signs that a term, or an expression, would go on with. -/
def productChars : List Char := ['*', '/']

def sumChars : List Char := ['*', '/', '+', '-']

/-- Nothing follows, or a symbol other than `more`. -/
inductive Ends (more : List Char) : List Token → Prop
  | nil : Ends more []
  | cons {c : Char} {ts : List Token} (hsymbol : c ∈ symbols) (hother : c ∉ more) :
    Ends more ([c] :: ts)

theorem Ends.mono {more fewer : List Char} {ts : List Token} (h : Ends more ts)
    (hsub : ∀ c ∈ fewer, c ∈ more) : Ends fewer ts := by
  cases h with
  | nil => exact .nil
  | cons hsymbol hother => exact .cons hsymbol (mt (hsub _) hother)

theorem Products.ends (rest : Products) {ts : List Token} (h : Ends productChars ts) :
    Ends [] (rest.tokens ++ ts) := by
  cases rest with
  | done => exact h.mono nofun
  | more s f rest => cases s <;> exact .cons (by decide) (by decide)

theorem Sums.ends (rest : Sums) {ts : List Token} (h : Ends sumChars ts) :
    Ends productChars (rest.tokens ++ ts) := by
  cases rest with
  | done => exact h.mono fun c hc => List.mem_append_left ['+', '-'] hc
  | more s t rest => cases s <;> exact .cons (by decide) (by decide)

theorem ends_parenthesis {ts : List Token} : Ends sumChars ([')'] :: ts) :=
  .cons (by decide) (by decide)

/-! ## Passing blanks -/

theorem not_isGap_of_symbol {c : Char} (h : c ∈ symbols) : ¬ isGap c := by
  have hall : symbols.all fun c => !isGap c := by decide
  have hc := List.all_eq_true.mp hall c h
  simpa using hc

theorem not_isNumberChar_of_symbol {c : Char} (h : c ∈ symbols) : ¬ isNumberChar c := by
  have hall : symbols.all fun c => !isNumberChar c := by decide
  have hc := List.all_eq_true.mp hall c h
  simpa using hc

theorem not_isNumberChar_of_gap {c : Char} (h : isGap c) : ¬ isNumberChar c := by
  simp only [isGap, Bool.or_eq_true, decide_eq_true_eq] at h
  rcases h with (((rfl | rfl) | rfl) | rfl) | rfl <;> decide

theorem dropGaps_append {gap cs : List Char} (h : ∀ c ∈ gap, isGap c) :
    dropGaps (gap ++ cs) = dropGaps cs :=
  List.dropWhile_append_of_pos h

theorem dropGaps_cons {c : Char} {cs : List Char} (h : ¬ isGap c) :
    dropGaps (c :: cs) = c :: cs :=
  List.dropWhile_cons_of_neg h

/-- The blanks before a text. -/
theorem exists_gap (cs : List Char) : ∃ gap, (∀ c ∈ gap, isGap c) ∧ cs = gap ++ dropGaps cs :=
  ⟨cs.takeWhile isGap, fun _ hc => List.mem_takeWhile_imp hc, List.takeWhile_append_dropWhile.symm⟩

theorem spaced_nil_iff {cs : List Char} : Spaced [] cs ↔ dropGaps cs = [] := by
  constructor
  · rintro ⟨hgap⟩
    exact List.dropWhile_eq_nil_iff.mpr hgap
  · exact fun h => .nil (List.dropWhile_eq_nil_iff.mp h)

/-- A token that begins with no blank is what the blanks are followed by. -/
theorem spaced_cons_iff {c : Char} {token : Token} {ts : List Token} {cs : List Char}
    (hc : ¬ isGap c) : Spaced ((c :: token) :: ts) cs ↔
      ∃ rest, dropGaps cs = c :: (token ++ rest) ∧ Spaced ts rest := by
  constructor
  · intro h
    cases h with
    | @cons gap _ rest _ hgap h =>
      exact ⟨rest, by rw [dropGaps_append hgap, List.cons_append, dropGaps_cons hc], h⟩
  · rintro ⟨rest, hdrop, h⟩
    obtain ⟨gap, hgap, hcs⟩ := exists_gap cs
    rw [hcs, hdrop, ← List.cons_append]
    exact .cons hgap h

theorem Spaced.symbol {c : Char} {ts : List Token} {cs : List Char} (hc : c ∈ symbols)
    (h : Spaced ([c] :: ts) cs) : ∃ rest, dropGaps cs = c :: rest ∧ Spaced ts rest :=
  (spaced_cons_iff (not_isGap_of_symbol hc)).mp h

theorem Spaced.dropGaps_of_ends {more : List Char} {ts : List Token} {cs : List Char}
    (h : Spaced ts cs) (he : Ends more ts) :
    dropGaps cs = [] ∨ ∃ c rest, dropGaps cs = c :: rest ∧ c ∈ symbols ∧ c ∉ more := by
  cases he with
  | nil => exact .inl (spaced_nil_iff.mp h)
  | cons hsymbol hother =>
    obtain ⟨rest, hdrop, -⟩ := h.symbol hsymbol
    exact .inr ⟨_, rest, hdrop, hsymbol, hother⟩

/-- What follows a tree does not go on with a number. -/
theorem Spaced.head_of_ends {more : List Char} {ts : List Token} {cs : List Char}
    (h : Spaced ts cs) (he : Ends more ts) : ∀ c ∈ cs.head?, ¬ isNumberChar c := by
  intro c hc
  obtain ⟨rest, rfl⟩ := List.head?_eq_some_iff.mp hc
  by_cases hgap : isGap c
  · exact not_isNumberChar_of_gap hgap
  · rcases h.dropGaps_of_ends he with hdrop | ⟨d, rest', hdrop, hsymbol, -⟩
    · rw [dropGaps_cons hgap] at hdrop
      cases hdrop
    · rw [dropGaps_cons hgap] at hdrop
      obtain ⟨rfl, -⟩ := List.cons.inj hdrop
      exact not_isNumberChar_of_symbol hsymbol

/-! ## Numerals in a text -/

theorem Numeral.exists_cons (n : Numeral) :
    ∃ c w, n.chars = c :: w ∧ isNumberChar c ∧ ¬ isGap c := by
  obtain ⟨d, hd, -⟩ := n.hasDigit
  cases h : n.chars with
  | nil => rw [h] at hd; cases hd
  | cons c w =>
    have hc : isNumberChar c := n.isNumber c (h ▸ List.mem_cons_self)
    exact ⟨c, w, rfl, hc, fun hgap => not_isNumberChar_of_gap hgap hc⟩

theorem Numeral.spaced {n : Numeral} {ts : List Token} {cs : List Char}
    (h : Spaced (n.chars :: ts) cs) : ∃ rest, dropGaps cs = n.chars ++ rest ∧ Spaced ts rest := by
  obtain ⟨c, w, hchars, -, hgap⟩ := n.exists_cons
  rw [hchars] at h ⊢
  exact (spaced_cons_iff hgap).mp h

/-- A numeral takes in all digits and points that there are. -/
theorem Numeral.takeWhile (n : Numeral) {rest : List Char} (h : ∀ c ∈ rest.head?, ¬ isNumberChar c) :
    (n.chars ++ rest).takeWhile isNumberChar = n.chars ∧
      (n.chars ++ rest).dropWhile isNumberChar = rest := by
  rw [List.takeWhile_append_of_pos n.isNumber, List.dropWhile_append_of_pos n.isNumber]
  cases rest with
  | nil => simp
  | cons c rest =>
    have hc : ¬ isNumberChar c := h c rfl
    rw [List.takeWhile_cons_of_neg hc, List.dropWhile_cons_of_neg hc, List.append_nil]
    exact ⟨rfl, rfl⟩

/-! ## Unique derivations

Two trees that a text begins with are the same, provided that what follows them does not go on with
either; and then what follows begins at the same place. -/

/-- What follows a token of one character. -/
theorem Spaced.symbol_unique {c c' : Char} {ts ts' : List Token} {cs : List Char}
    (hc : c ∈ symbols) (hc' : c' ∈ symbols) (h : Spaced ([c] :: ts) cs)
    (h' : Spaced ([c'] :: ts') cs) : c = c' ∧ ∃ rest, Spaced ts rest ∧ Spaced ts' rest := by
  obtain ⟨rest, hdrop, hrest⟩ := h.symbol hc
  obtain ⟨rest', hdrop', hrest'⟩ := h'.symbol hc'
  obtain ⟨rfl, rfl⟩ := List.cons.inj (hdrop.symm.trans hdrop')
  exact ⟨rfl, rest, hrest, hrest'⟩

theorem Numeral.unique {n n' : Numeral} {ts ts' : List Token} {cs : List Char}
    (h : Spaced (n.chars :: ts) cs) (h' : Spaced (n'.chars :: ts') cs) (he : Ends [] ts)
    (he' : Ends [] ts') : n = n' ∧ ∃ rest, Spaced ts rest ∧ Spaced ts' rest := by
  obtain ⟨rest, hdrop, hrest⟩ := Numeral.spaced h
  obtain ⟨rest', hdrop', hrest'⟩ := Numeral.spaced h'
  obtain ⟨htake, hleft⟩ := n.takeWhile (hrest.head_of_ends he)
  obtain ⟨htake', hleft'⟩ := n'.takeWhile (hrest'.head_of_ends he')
  rw [← hdrop, hdrop'] at htake hleft
  obtain rfl := hleft.symm.trans hleft'
  exact ⟨Numeral.ext (htake.symm.trans htake'), rest, hrest, hrest'⟩

theorem Numeral.not_symbol {n : Numeral} {c : Char} {ts ts' : List Token} {cs : List Char}
    (hc : c ∈ symbols) (h : Spaced (n.chars :: ts) cs) : ¬ Spaced ([c] :: ts') cs := by
  intro h'
  obtain ⟨rest, hdrop, -⟩ := Numeral.spaced h
  obtain ⟨rest', hdrop', -⟩ := h'.symbol hc
  obtain ⟨d, w, hchars, hd, -⟩ := n.exists_cons
  rw [hdrop', hchars] at hdrop
  obtain ⟨rfl, -⟩ := List.cons.inj hdrop
  exact not_isNumberChar_of_symbol hc hd

theorem SumSign.mem_symbols (s : SumSign) : s.char ∈ symbols := by cases s <;> decide

theorem ProductSign.mem_symbols (s : ProductSign) : s.char ∈ symbols := by cases s <;> decide

theorem SumSign.char_injective {s s' : SumSign} (h : s.char = s'.char) : s = s' := by
  cases s <;> cases s' <;> first | rfl | exact absurd h (by decide)

theorem ProductSign.char_injective {s s' : ProductSign} (h : s.char = s'.char) : s = s' := by
  cases s <;> cases s' <;> first | rfl | exact absurd h (by decide)

/-- What ends does not begin with a sign that goes on. -/
theorem Ends.not_spaced {more : List Char} {c : Char} {ts ts' : List Token} {cs : List Char}
    (he : Ends more ts) (hmore : c ∈ more) (hsymbol : c ∈ symbols) (h : Spaced ts cs) :
    ¬ Spaced ([c] :: ts') cs := by
  intro h'
  obtain ⟨rest, hdrop', -⟩ := h'.symbol hsymbol
  rcases h.dropGaps_of_ends he with hdrop | ⟨d, rest', hdrop, -, hd⟩
  · rw [hdrop] at hdrop'
    cases hdrop'
  · obtain ⟨rfl, -⟩ := List.cons.inj (hdrop.symm.trans hdrop')
    exact hd hmore

mutual

theorem Factor.unique (f f' : Factor) {ts ts' : List Token} {cs : List Char}
    (h : Spaced (f.tokens ++ ts) cs) (h' : Spaced (f'.tokens ++ ts') cs) (he : Ends [] ts)
    (he' : Ends [] ts') : f = f' ∧ ∃ rest, Spaced ts rest ∧ Spaced ts' rest := by
  match f, f' with
  | .number n, .number n' =>
    obtain ⟨rfl, hrest⟩ := Numeral.unique h h' he he'
    exact ⟨rfl, hrest⟩
  | .number n, .group e' => exact absurd h' (Numeral.not_symbol (by decide) h)
  | .number n, .signed s' f' => exact absurd h' (Numeral.not_symbol s'.mem_symbols h)
  | .group e, .number n' => exact absurd h (Numeral.not_symbol (by decide) h')
  | .signed s f, .number n' => exact absurd h (Numeral.not_symbol s.mem_symbols h')
  | .group e, .group e' =>
    rw [Factor.tokens, List.cons_append, List.append_assoc] at h h'
    obtain ⟨-, rest, hinside, hinside'⟩ := h.symbol_unique (by decide) (by decide) h'
    obtain ⟨rfl, rest, hclose, hclose'⟩ :=
      Expression.unique e e' hinside hinside' ends_parenthesis ends_parenthesis
    exact ⟨rfl, (hclose.symbol_unique (by decide) (by decide) hclose').2⟩
  | .signed s f, .signed s' f' =>
    obtain ⟨hs, rest, hf, hf'⟩ := Spaced.symbol_unique s.mem_symbols s'.mem_symbols h h'
    obtain ⟨rfl, hrest⟩ := Factor.unique f f' hf hf' he he'
    exact ⟨by rw [SumSign.char_injective hs], hrest⟩
  | .group e, .signed s' f' =>
    have hs := (Spaced.symbol_unique (by decide) s'.mem_symbols h h').1
    cases s' <;> exact absurd hs (by decide)
  | .signed s f, .group e' =>
    have hs := (Spaced.symbol_unique s.mem_symbols (by decide) h h').1
    cases s <;> exact absurd hs (by decide)

theorem Products.unique (fs fs' : Products) {ts ts' : List Token} {cs : List Char}
    (h : Spaced (fs.tokens ++ ts) cs) (h' : Spaced (fs'.tokens ++ ts') cs)
    (he : Ends productChars ts) (he' : Ends productChars ts') :
    fs = fs' ∧ ∃ rest, Spaced ts rest ∧ Spaced ts' rest := by
  match fs, fs' with
  | .done, .done => exact ⟨rfl, cs, h, h'⟩
  | .done, .more s' f' rest' =>
    exact absurd h' (he.not_spaced (by cases s' <;> decide) s'.mem_symbols h)
  | .more s f rest, .done =>
    exact absurd h (he'.not_spaced (by cases s <;> decide) s.mem_symbols h')
  | .more s f rest, .more s' f' rest' =>
    rw [Products.tokens, List.cons_append, List.append_assoc] at h h'
    obtain ⟨hs, _, hf, hf'⟩ := h.symbol_unique s.mem_symbols s'.mem_symbols h'
    obtain ⟨rfl, _, hrest, hrest'⟩ := Factor.unique f f' hf hf' (rest.ends he) (rest'.ends he')
    obtain ⟨rfl, hends⟩ := Products.unique rest rest' hrest hrest' he he'
    exact ⟨by rw [ProductSign.char_injective hs], hends⟩

theorem Term.unique (t t' : Term) {ts ts' : List Token} {cs : List Char}
    (h : Spaced (t.tokens ++ ts) cs) (h' : Spaced (t'.tokens ++ ts') cs)
    (he : Ends productChars ts) (he' : Ends productChars ts') :
    t = t' ∧ ∃ rest, Spaced ts rest ∧ Spaced ts' rest := by
  match t, t' with
  | .mk f rest, .mk f' rest' =>
    rw [Term.tokens, List.append_assoc] at h h'
    obtain ⟨rfl, _, hrest, hrest'⟩ := Factor.unique f f' h h' (rest.ends he) (rest'.ends he')
    obtain ⟨rfl, hends⟩ := Products.unique rest rest' hrest hrest' he he'
    exact ⟨rfl, hends⟩

theorem Sums.unique (us us' : Sums) {ts ts' : List Token} {cs : List Char}
    (h : Spaced (us.tokens ++ ts) cs) (h' : Spaced (us'.tokens ++ ts') cs)
    (he : Ends sumChars ts) (he' : Ends sumChars ts') :
    us = us' ∧ ∃ rest, Spaced ts rest ∧ Spaced ts' rest := by
  match us, us' with
  | .done, .done => exact ⟨rfl, cs, h, h'⟩
  | .done, .more s' t' rest' =>
    exact absurd h' (he.not_spaced (by cases s' <;> decide) s'.mem_symbols h)
  | .more s t rest, .done =>
    exact absurd h (he'.not_spaced (by cases s <;> decide) s.mem_symbols h')
  | .more s t rest, .more s' t' rest' =>
    rw [Sums.tokens, List.cons_append, List.append_assoc] at h h'
    obtain ⟨hs, _, ht, ht'⟩ := h.symbol_unique s.mem_symbols s'.mem_symbols h'
    obtain ⟨rfl, _, hrest, hrest'⟩ := Term.unique t t' ht ht' (rest.ends he) (rest'.ends he')
    obtain ⟨rfl, hends⟩ := Sums.unique rest rest' hrest hrest' he he'
    exact ⟨by rw [SumSign.char_injective hs], hends⟩

theorem Expression.unique (e e' : Expression) {ts ts' : List Token} {cs : List Char}
    (h : Spaced (e.tokens ++ ts) cs) (h' : Spaced (e'.tokens ++ ts') cs)
    (he : Ends sumChars ts) (he' : Ends sumChars ts') :
    e = e' ∧ ∃ rest, Spaced ts rest ∧ Spaced ts' rest := by
  match e, e' with
  | .mk t rest, .mk t' rest' =>
    rw [Expression.tokens, List.append_assoc] at h h'
    obtain ⟨rfl, _, hrest, hrest'⟩ := Term.unique t t' h h' (rest.ends he) (rest'.ends he')
    obtain ⟨rfl, hends⟩ := Sums.unique rest rest' hrest hrest' he he'
    exact ⟨rfl, hends⟩

end

theorem Expression.Derives.unique {e e' : Expression} {text : String} (h : e.Derives text)
    (h' : e'.Derives text) : e = e' := by
  rw [Derives, ← List.append_nil (tokens _)] at h h'
  exact (Expression.unique e e' h h' .nil .nil).1

end AgentGraph.Calculator
