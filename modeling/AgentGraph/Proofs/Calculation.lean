import AgentGraph.Proofs.Grammar

/-! Evaluating decides the grammar.

What an operand takes from a text and what a chain of operations makes of it are said once, by the
equations of `Takes` and `Chains`; the reader of factors is not opened again after that.

* `factor_sound`: whatever a factor is read from is derived by a tree that has the value read.
* `Factor.complete`: whatever begins with a tree that has a value and does not nest too deep is read
  up to the end of the tree.
* `evaluate_eq_ok_iff`: an expression has a value just when the one tree that derives it has. -/
namespace AgentGraph.Calculator
set_option autoImplicit false

/-! ## What is read -/

/-- The operand takes `x` from the beginning of `cs` and leaves `rest`. -/
def Operand.Takes (operand : Operand) (cs : List Char) (x : Float) (rest : List Char) : Prop :=
  ∃ h, operand cs = .ok (x, ⟨rest, h⟩)

/-- The operations at the beginning of `cs` make `y` of `x` and leave `rest`. -/
def Chains (operand : Operand) (operation? : Char → Option Operation) (x : Float) (cs : List Char)
    (y : Float) (rest : List Char) : Prop :=
  ∃ h, chain operand operation? x cs = .ok (y, ⟨rest, h⟩)

section Chains

variable {operand : Operand} {operation? : Char → Option Operation} {x y z w : Float}
  {cs after rest last : List Char} {c : Char} {operation : Operation}

theorem chains_stop (h : ∀ c ∈ (dropGaps cs).head?, operation? c = none) :
    Chains operand operation? x cs x cs := by
  rw [Chains, chain]
  split
  · exact ⟨Nat.le_refl _, rfl⟩
  · next c after hdrop =>
    have hnone : operation? c = none := h c (by rw [hdrop]; rfl)
    simp only [hnone]
    exact ⟨Nat.le_refl _, trivial⟩

theorem chains_step (hdrop : dropGaps cs = c :: after) (hoperation : operation? c = some operation)
    (hy : operand.Takes after y rest) (hz : operation x y = .ok z)
    (h : Chains operand operation? z rest w last) : Chains operand operation? x cs w last := by
  obtain ⟨shorter, hy⟩ := hy
  obtain ⟨le, h⟩ := h
  have hgaps := dropGaps_length_le cs
  rw [hdrop, List.length_cons] at hgaps
  rw [Chains, chain]
  split
  · next hnil => rw [hdrop] at hnil; cases hnil
  · next c' after' hcons =>
    obtain ⟨rfl, rfl⟩ := List.cons.inj (hdrop.symm.trans hcons)
    simp only [hoperation, hy, hz, h]
    exact ⟨by omega, trivial⟩

/-- A chain ends at once, or an operation is applied and the chain goes on. -/
theorem Chains.cases (h : Chains operand operation? x cs y last) :
    (y = x ∧ last = cs) ∨ ∃ c after operation u rest z, dropGaps cs = c :: after ∧
      operation? c = some operation ∧ operand.Takes after u rest ∧ operation x u = .ok z ∧
        rest.length < cs.length ∧ Chains operand operation? z rest y last := by
  obtain ⟨_, h⟩ := h
  rw [chain] at h
  split at h
  · cases h
    exact .inl ⟨rfl, rfl⟩
  · next c after hdrop =>
    split at h
    · cases h
      exact .inl ⟨rfl, rfl⟩
    · next operation hoperation =>
      split at h
      · cases h
      · next u rest shorter hu =>
        have hlt : rest.length < cs.length := by
          have hgaps := dropGaps_length_le cs
          rw [hdrop, List.length_cons] at hgaps
          omega
        split at h
        · cases h
        · next z hz =>
          split at h
          · cases h
          · next w last' le hchain =>
            cases h
            exact .inr ⟨c, after, operation, u, rest, z, hdrop, hoperation, ⟨shorter, hu⟩, hz, hlt,
              le, hchain⟩

/-- What holds where a chain ends, and before an operation if after it, holds where it begins. -/
theorem Chains.backwards {P : Float → List Char → Prop} (h : Chains operand operation? x cs y last)
    (hstop : P y last)
    (hstep : ∀ {x cs c after operation u rest z}, dropGaps cs = c :: after →
      operation? c = some operation → operand.Takes after u rest → operation x u = .ok z →
        P z rest → P x cs) : P x cs := by
  induction hlength : cs.length using Nat.strong_induction_on generalizing x cs with
  | _ n ih =>
    rcases h.cases with ⟨rfl, rfl⟩ | ⟨c, after, operation, u, rest, z, hdrop, hoperation, hu, hz, hlt, h⟩
    · exact hstop
    · exact hstep hdrop hoperation hu hz (ih rest.length (hlength ▸ hlt) h rfl)

end Chains

/-! ## Operands -/

theorem chained_takes_iff {operand : Operand} {operation? : Char → Option Operation}
    {cs last : List Char} {y : Float} : (operand.chained operation?).Takes cs y last ↔
      ∃ x rest, operand.Takes cs x rest ∧ Chains operand operation? x rest y last := by
  constructor
  · rintro ⟨_, h⟩
    rw [Operand.chained] at h
    split at h
    · cases h
    · next x rest shorter hx =>
      split at h
      · cases h
      · next y last le hchain =>
        cases h
        exact ⟨x, rest, ⟨shorter, hx⟩, le, hchain⟩
  · rintro ⟨x, rest, ⟨shorter, hx⟩, ⟨le, hchain⟩⟩
    rw [Operand.Takes, Operand.chained]
    simp only [hx, hchain]
    exact ⟨Nat.lt_of_le_of_lt le shorter, trivial⟩

theorem number_cons {c : Char} (hc : isNumberChar c) (after : List Char) :
    number (c :: after) =
      match Decimal.literal? (c :: after.takeWhile isNumberChar) with
      | some x => .ok (x, ⟨after.dropWhile isNumberChar,
          Nat.lt_succ_of_le (List.dropWhile_sublist _).length_le⟩)
      | none => .error (.invalidNumber (String.ofList (c :: after.takeWhile isNumberChar))) := by
  rw [number.eq_def]
  exact if_pos hc

theorem number_takes_iff {cs rest : List Char} {x : Float} : number.Takes cs x rest ↔
    ∃ n : Numeral, n.value = x ∧ cs = n.chars ++ rest ∧ ∀ c ∈ rest.head?, ¬ isNumberChar c := by
  constructor
  · rintro ⟨_, h⟩
    cases cs with
    | nil => cases h
    | cons c after =>
      by_cases hc : isNumberChar c
      · rw [number_cons hc] at h
        have hchars : ∀ d ∈ c :: after.takeWhile isNumberChar, isNumberChar d :=
          List.forall_mem_cons.mpr ⟨hc, fun _ hd => List.mem_takeWhile_imp hd⟩
        split at h
        · next x hx =>
          cases h
          obtain ⟨n, hn, hvalue⟩ := (literal?_eq_some_iff hchars).mp hx
          refine ⟨n, hvalue, by rw [hn, List.cons_append, List.takeWhile_append_dropWhile], ?_⟩
          intro d hd
          have hhead := List.head?_dropWhile_not isNumberChar after
          rw [Option.mem_def.mp hd] at hhead
          exact Bool.eq_false_iff.mp hhead
        · cases h
      · rw [number.eq_def] at h
        simp only [hc, Bool.false_eq_true, if_false, reduceCtorEq] at h
  · rintro ⟨n, rfl, rfl, hrest⟩
    obtain ⟨c, w, hchars, hc, -⟩ := n.exists_cons
    obtain ⟨htake, hdrop⟩ := n.takeWhile hrest
    have hvalue : Decimal.literal? n.chars = some n.value :=
      (literal?_eq_some_iff n.isNumber).mpr ⟨n, rfl, rfl⟩
    rw [hchars, List.cons_append] at htake hdrop ⊢
    rw [List.takeWhile_cons_of_pos hc] at htake
    rw [List.dropWhile_cons_of_pos hc] at hdrop
    rw [hchars] at hvalue
    rw [Operand.Takes, number_cons hc]
    have hshort : rest.length < (c :: (w ++ rest)).length := by
      rw [List.length_cons, List.length_append]
      omega
    simp only [htake, hvalue, hdrop]
    exact ⟨hshort, trivial⟩

/-! ## Factors -/

section Factors

variable {room : Nat} {cs after rest last : List Char} {x : Float}

theorem factor_takes_number {c : Char} (hdrop : dropGaps cs = c :: after) (hc : isNumberChar c)
    (h : number.Takes (c :: after) x rest) : (factor room).Takes cs x rest := by
  obtain ⟨shorter, h⟩ := h
  have hgaps := dropGaps_length_le cs
  rw [hdrop] at hgaps
  have hopen : c ≠ '(' := fun heq => absurd (heq ▸ hc) (by decide)
  have hsign : ¬ (c = '+' || c = '-') := by
    rw [Bool.or_eq_true, decide_eq_true_eq, decide_eq_true_eq]
    rintro (rfl | rfl) <;> exact absurd hc (by decide)
  rw [Operand.Takes, factor]
  split
  · next hnil => rw [hdrop] at hnil; cases hnil
  · next c' after' hcons =>
    obtain ⟨rfl, rfl⟩ := List.cons.inj (hdrop.symm.trans hcons)
    simp only [if_neg hopen, if_neg hsign, h]
    exact ⟨Nat.lt_of_lt_of_le shorter hgaps, trivial⟩

theorem factor_takes_group (hdrop : dropGaps cs = '(' :: after)
    (h : (Operand.expression (factor room)).Takes after x rest) (hclose : dropGaps rest = ')' :: last) :
    (factor (room + 1)).Takes cs x last := by
  obtain ⟨shorter, h⟩ := h
  have hgaps := dropGaps_length_le cs
  have hgaps' := dropGaps_length_le rest
  rw [hdrop, List.length_cons] at hgaps
  rw [hclose, List.length_cons] at hgaps'
  rw [Operand.Takes, factor]
  split
  · next hnil => rw [hdrop] at hnil; cases hnil
  · next c' after' hcons =>
    obtain ⟨rfl, rfl⟩ := List.cons.inj (hdrop.symm.trans hcons)
    simp only [if_true, h]
    split
    · next last' hlast =>
      obtain ⟨-, rfl⟩ := List.cons.inj (hclose.symm.trans hlast)
      exact ⟨by omega, rfl⟩
    · next hnot => exact absurd hclose (hnot _)

theorem factor_takes_signed (s : SumSign) (hdrop : dropGaps cs = s.char :: after)
    (h : (factor room).Takes after x last) : (factor (room + 1)).Takes cs (s.signed x) last := by
  obtain ⟨shorter, h⟩ := h
  have hgaps := dropGaps_length_le cs
  rw [hdrop, List.length_cons] at hgaps
  rw [Operand.Takes, factor]
  split
  · next hnil => rw [hdrop] at hnil; cases hnil
  · next c' after' hcons =>
    obtain ⟨rfl, rfl⟩ := List.cons.inj (hdrop.symm.trans hcons)
    have hopen : s.char ≠ '(' := by cases s <;> decide
    have hsign : s.char = '+' || s.char = '-' := by cases s <;> decide
    have hvalue : (if s.char = '-' then -x else x) = s.signed x := by cases s <;> rfl
    simp only [if_neg hopen, if_pos hsign, h, hvalue]
    exact ⟨by omega, trivial⟩

/-- A factor is a group, a signed factor or a number. -/
theorem factor_takes_cases (h : (factor room).Takes cs x last) :
    (∃ inner after rest, room = inner + 1 ∧ dropGaps cs = '(' :: after ∧
      (Operand.expression (factor inner)).Takes after x rest ∧ dropGaps rest = ')' :: last) ∨
    (∃ inner s after y, room = inner + 1 ∧ dropGaps cs = SumSign.char s :: after ∧
      (factor inner).Takes after y last ∧ s.signed y = x) ∨
    number.Takes (dropGaps cs) x last := by
  obtain ⟨_, h⟩ := h
  rw [factor] at h
  split at h
  · cases h
  · next c after hdrop =>
    split at h
    · next hopen =>
      split at h
      · cases h
      · next inner =>
        split at h
        · cases h
        · next y rest lt hinside =>
          split at h
          · next last' hclose =>
            cases h
            exact .inl ⟨inner, after, rest, rfl, by rw [hdrop, hopen], ⟨lt, hinside⟩, hclose⟩
          · cases h
    · split at h
      · next hsign =>
        split at h
        · cases h
        · next inner =>
          split at h
          · cases h
          · next y rest lt hinside =>
            cases h
            rw [Bool.or_eq_true, decide_eq_true_eq, decide_eq_true_eq] at hsign
            rcases hsign with rfl | rfl
            · exact .inr (.inl ⟨inner, .plus, after, y, rfl, hdrop, ⟨lt, hinside⟩, rfl⟩)
            · exact .inr (.inl ⟨inner, .minus, after, y, rfl, hdrop, ⟨lt, hinside⟩, rfl⟩)
      · split at h
        · cases h
        · next y rest lt hnumber =>
          cases h
          rw [hdrop]
          exact .inr (.inr ⟨lt, hnumber⟩)

end Factors

/-! ## Operations and signs -/

/-- An operation of a term is that of a sign. -/
theorem product?_eq_some {c : Char} {operation : Operation} (h : product? c = some operation) :
    ∃ s : ProductSign, s.char = c ∧ ∀ x y z, operation x y = .ok z → s.combine? x y = some z := by
  unfold product? at h
  split at h
  · cases h
    exact ⟨.times, rfl, fun x y z hz => congrArg some (Except.ok.inj hz)⟩
  · cases h
    refine ⟨.dividedBy, rfl, fun x y z hz => ?_⟩
    rw [ProductSign.combine?]
    dsimp only at hz
    split at hz
    · cases hz
    · next hzero => rw [if_neg hzero, Except.ok.inj hz]
  · cases h

theorem product?_char (s : ProductSign) : ∃ operation, product? s.char = some operation ∧
    ∀ x y z, s.combine? x y = some z → operation x y = .ok z := by
  cases s with
  | times => exact ⟨_, rfl, fun x y z hz => congrArg Except.ok (Option.some.inj hz)⟩
  | dividedBy =>
    refine ⟨_, rfl, fun x y z hz => ?_⟩
    rw [ProductSign.combine?] at hz
    split at hz
    · cases hz
    · next hzero => rw [if_neg hzero, Option.some.inj hz]

theorem sum?_eq_some {c : Char} {operation : Operation} (h : sum? c = some operation) :
    ∃ s : SumSign, s.char = c ∧ ∀ x y, operation x y = .ok (s.combine x y) := by
  unfold sum? at h
  split at h
  · cases h
    exact ⟨.plus, rfl, fun _ _ => rfl⟩
  · cases h
    exact ⟨.minus, rfl, fun _ _ => rfl⟩
  · cases h

theorem sum?_char (s : SumSign) : ∃ operation, sum? s.char = some operation ∧
    ∀ x y, operation x y = .ok (s.combine x y) := by
  cases s <;> exact ⟨_, rfl, fun _ _ => rfl⟩

theorem product?_eq_none {c : Char} (h : c ∉ productChars) : product? c = none := by
  unfold product?
  split
  · exact absurd (by decide) h
  · exact absurd (by decide) h
  · rfl

theorem sum?_eq_none {c : Char} (h : c ∉ sumChars) : sum? c = none := by
  unfold sum?
  split
  · exact absurd (by decide) h
  · exact absurd (by decide) h
  · rfl

theorem product?_of_ends {ts : List Token} {cs : List Char} (h : Spaced ts cs)
    (he : Ends productChars ts) : ∀ c ∈ (dropGaps cs).head?, product? c = none := by
  intro c hc
  rcases h.dropGaps_of_ends he with hdrop | ⟨d, rest, hdrop, -, hother⟩
  · rw [hdrop] at hc
    cases hc
  · obtain rfl : d = c := by rw [hdrop] at hc; exact Option.some.inj hc
    exact product?_eq_none hother

theorem sum?_of_ends {ts : List Token} {cs : List Char} (h : Spaced ts cs)
    (he : Ends sumChars ts) : ∀ c ∈ (dropGaps cs).head?, sum? c = none := by
  intro c hc
  rcases h.dropGaps_of_ends he with hdrop | ⟨d, rest, hdrop, -, hother⟩
  · rw [hdrop] at hc
    cases hc
  · obtain rfl : d = c := by rw [hdrop] at hc; exact Option.some.inj hc
    exact sum?_eq_none hother

/-! ## What is read is derived -/

/-- A symbol and what follows it. -/
theorem Spaced.of_symbol {c : Char} {ts : List Token} {cs after : List Char} (hc : c ∈ symbols)
    (hdrop : dropGaps cs = c :: after) (h : Spaced ts after) : Spaced ([c] :: ts) cs :=
  (spaced_cons_iff (not_isGap_of_symbol hc)).mpr ⟨after, hdrop, h⟩

/-- Whatever a factor is read from is derived by a tree that has the value read. -/
def SoundAt (room : Nat) : Prop :=
  ∀ {cs rest : List Char} {x : Float}, (factor room).Takes cs x rest →
    ∃ f : Factor, f.nesting ≤ room ∧ f.value? = some x ∧
      ∀ ts, Spaced ts rest → Spaced (f.tokens ++ ts) cs

section Soundness

variable {room : Nat} {cs rest : List Char} {x y : Float}

theorem products_sound (hroom : SoundAt room) (h : Chains (factor room) product? x cs y rest) :
    ∃ fs : Products, fs.nesting ≤ room ∧ fs.value? x = some y ∧
      ∀ ts, Spaced ts rest → Spaced (fs.tokens ++ ts) cs := by
  refine h.backwards (P := fun x cs => ∃ fs : Products, fs.nesting ≤ room ∧ fs.value? x = some y ∧
    ∀ ts, Spaced ts rest → Spaced (fs.tokens ++ ts) cs) ?_ ?_
  · exact ⟨.done, Nat.zero_le _, rfl, fun _ hrest => hrest⟩
  · rintro x cs c after operation u middle z hdrop hoperation hu hz ⟨fs, hnesting, hvalue, htokens⟩
    obtain ⟨s, rfl, happly⟩ := product?_eq_some hoperation
    obtain ⟨f, hf, hfvalue, hftokens⟩ := hroom hu
    refine ⟨.more s f fs, Nat.max_le.mpr ⟨hf, hnesting⟩, ?_, fun ts hts => ?_⟩
    · rw [Products.value?, hfvalue, Option.bind_some, happly x u z hz, Option.bind_some, hvalue]
    · rw [Products.tokens, List.cons_append, List.append_assoc]
      exact .of_symbol s.mem_symbols hdrop (hftokens _ (htokens ts hts))

theorem term_sound (hroom : SoundAt room) (h : ((factor room).chained product?).Takes cs x rest) :
    ∃ t : Term, t.nesting ≤ room ∧ t.value? = some x ∧
      ∀ ts, Spaced ts rest → Spaced (t.tokens ++ ts) cs := by
  obtain ⟨u, middle, hu, hchain⟩ := chained_takes_iff.mp h
  obtain ⟨f, hf, hfvalue, hftokens⟩ := hroom hu
  obtain ⟨fs, hfs, hvalue, htokens⟩ := products_sound hroom hchain
  refine ⟨.mk f fs, Nat.max_le.mpr ⟨hf, hfs⟩, ?_, fun ts hts => ?_⟩
  · rw [Term.value?, hfvalue, Option.bind_some, hvalue]
  · rw [Term.tokens, List.append_assoc]
    exact hftokens _ (htokens ts hts)

theorem sums_sound (hroom : SoundAt room)
    (h : Chains ((factor room).chained product?) sum? x cs y rest) :
    ∃ us : Sums, us.nesting ≤ room ∧ us.value? x = some y ∧
      ∀ ts, Spaced ts rest → Spaced (us.tokens ++ ts) cs := by
  refine h.backwards (P := fun x cs => ∃ us : Sums, us.nesting ≤ room ∧ us.value? x = some y ∧
    ∀ ts, Spaced ts rest → Spaced (us.tokens ++ ts) cs) ?_ ?_
  · exact ⟨.done, Nat.zero_le _, rfl, fun _ hrest => hrest⟩
  · rintro x cs c after operation u middle z hdrop hoperation hu hz ⟨us, hnesting, hvalue, htokens⟩
    obtain ⟨s, rfl, happly⟩ := sum?_eq_some hoperation
    obtain ⟨t, ht, htvalue, httokens⟩ := term_sound hroom hu
    obtain rfl := Except.ok.inj ((happly x u).symm.trans hz)
    refine ⟨.more s t us, Nat.max_le.mpr ⟨ht, hnesting⟩, ?_, fun ts hts => ?_⟩
    · rw [Sums.value?, htvalue, Option.bind_some, hvalue]
    · rw [Sums.tokens, List.cons_append, List.append_assoc]
      exact .of_symbol s.mem_symbols hdrop (httokens _ (htokens ts hts))

theorem expression_sound (hroom : SoundAt room)
    (h : (Operand.expression (factor room)).Takes cs x rest) :
    ∃ e : Expression, e.nesting ≤ room ∧ e.value? = some x ∧
      ∀ ts, Spaced ts rest → Spaced (e.tokens ++ ts) cs := by
  obtain ⟨u, middle, hu, hchain⟩ := chained_takes_iff.mp h
  obtain ⟨t, ht, htvalue, httokens⟩ := term_sound hroom hu
  obtain ⟨us, hus, hvalue, htokens⟩ := sums_sound hroom hchain
  refine ⟨.mk t us, Nat.max_le.mpr ⟨ht, hus⟩, ?_, fun ts hts => ?_⟩
  · rw [Expression.value?, htvalue, Option.bind_some, hvalue]
  · rw [Expression.tokens, List.append_assoc]
    exact httokens _ (htokens ts hts)

theorem number_sound (h : number.Takes (dropGaps cs) x rest) :
    ∃ n : Numeral, n.value = x ∧ ∀ ts, Spaced ts rest → Spaced (n.chars :: ts) cs := by
  obtain ⟨n, hvalue, hchars, -⟩ := number_takes_iff.mp h
  obtain ⟨gap, hgap, hcs⟩ := exists_gap cs
  refine ⟨n, hvalue, fun ts hts => ?_⟩
  rw [hcs, hchars]
  exact .cons hgap hts

theorem factor_sound (room : Nat) : SoundAt room := by
  induction room with
  | zero =>
    intro cs rest x h
    rcases factor_takes_cases h with ⟨inner, _, _, hroom, -⟩ | ⟨inner, _, _, _, hroom, -⟩ | h
    · cases hroom
    · cases hroom
    · obtain ⟨n, rfl, htokens⟩ := number_sound h
      exact ⟨.number n, Nat.le_refl 0, rfl, htokens⟩
  | succ room ih =>
    intro cs rest x h
    rcases factor_takes_cases h with ⟨_, after, middle, hroom, hdrop, hinside, hclose⟩ |
      ⟨_, s, after, y, hroom, hdrop, hinside, rfl⟩ | h
    · obtain rfl := Nat.succ.inj hroom
      obtain ⟨e, he, hvalue, htokens⟩ := expression_sound ih hinside
      refine ⟨.group e, Nat.succ_le_succ he, hvalue, fun ts hts => ?_⟩
      rw [Factor.tokens, List.cons_append, List.append_assoc]
      exact .of_symbol (by decide) hdrop (htokens _ (.of_symbol (by decide) hclose hts))
    · obtain rfl := Nat.succ.inj hroom
      obtain ⟨f, hf, hvalue, htokens⟩ := ih hinside
      refine ⟨.signed s f, Nat.succ_le_succ hf, by rw [Factor.value?, hvalue]; rfl, fun ts hts => ?_⟩
      exact .of_symbol s.mem_symbols hdrop (htokens ts hts)
    · obtain ⟨n, rfl, htokens⟩ := number_sound h
      exact ⟨.number n, Nat.zero_le _, rfl, htokens⟩

end Soundness

/-! ## What is derived is read -/

theorem number_complete {room : Nat} {cs : List Char} {ts : List Token} (n : Numeral)
    (h : Spaced (n.chars :: ts) cs) (he : Ends [] ts) :
    ∃ rest, (factor room).Takes cs n.value rest ∧ Spaced ts rest := by
  obtain ⟨rest, hdrop, hrest⟩ := Numeral.spaced h
  obtain ⟨c, w, hchars, hc, -⟩ := n.exists_cons
  have htakes : number.Takes (c :: (w ++ rest)) n.value rest :=
    number_takes_iff.mpr ⟨n, rfl, by rw [hchars]; rfl, hrest.head_of_ends he⟩
  rw [hchars, List.cons_append] at hdrop
  exact ⟨rest, factor_takes_number hdrop hc htakes, hrest⟩

mutual

theorem Factor.complete {room : Nat} {cs : List Char} {ts : List Token} {x : Float}
    (f : Factor) (hroom : f.nesting ≤ room) (hvalue : f.value? = some x)
    (h : Spaced (f.tokens ++ ts) cs) (he : Ends [] ts) :
    ∃ rest, (factor room).Takes cs x rest ∧ Spaced ts rest := by
  match f, room, hroom with
  | .number n, room, _ =>
    obtain rfl := Option.some.inj hvalue
    exact number_complete n h he
  | .group e, room + 1, hroom =>
    rw [Factor.tokens, List.cons_append, List.append_assoc] at h
    obtain ⟨after, hdrop, hafter⟩ := h.symbol (by decide)
    obtain ⟨middle, hinside, hmiddle⟩ :=
      Expression.complete e (Nat.le_of_succ_le_succ hroom) hvalue hafter ends_parenthesis
    obtain ⟨rest, hclose, hrest⟩ := hmiddle.symbol (by decide)
    exact ⟨rest, factor_takes_group hdrop hinside hclose, hrest⟩
  | .signed s f, room + 1, hroom =>
    obtain ⟨y, hy, rfl⟩ := Option.map_eq_some_iff.mp hvalue
    obtain ⟨after, hdrop, hafter⟩ := Spaced.symbol s.mem_symbols h
    obtain ⟨rest, hinside, hrest⟩ :=
      Factor.complete f (Nat.le_of_succ_le_succ hroom) hy hafter he
    exact ⟨rest, factor_takes_signed s hdrop hinside, hrest⟩

theorem Products.complete {room : Nat} {cs : List Char} {ts : List Token} {x y : Float}
    (fs : Products) (hroom : fs.nesting ≤ room) (hvalue : fs.value? x = some y)
    (h : Spaced (fs.tokens ++ ts) cs) (he : Ends productChars ts) :
    ∃ rest, Chains (factor room) product? x cs y rest ∧ Spaced ts rest := by
  match fs with
  | .done =>
    obtain rfl := Option.some.inj hvalue
    exact ⟨cs, chains_stop (product?_of_ends h he), h⟩
  | .more s f fs =>
    obtain ⟨hf, hfs⟩ := Nat.max_le.mp hroom
    obtain ⟨u, hu, hrest⟩ := Option.bind_eq_some_iff.mp hvalue
    obtain ⟨z, hz, hfsvalue⟩ := Option.bind_eq_some_iff.mp hrest
    rw [Products.tokens, List.cons_append, List.append_assoc] at h
    obtain ⟨after, hdrop, hafter⟩ := h.symbol s.mem_symbols
    obtain ⟨middle, hfactor, hmiddle⟩ := Factor.complete f hf hu hafter (fs.ends he)
    obtain ⟨rest, hchain, hends⟩ := Products.complete fs hfs hfsvalue hmiddle he
    obtain ⟨operation, hoperation, happly⟩ := product?_char s
    exact ⟨rest, chains_step hdrop hoperation hfactor (happly x u z hz) hchain, hends⟩

theorem Term.complete {room : Nat} {cs : List Char} {ts : List Token} {x : Float}
    (t : Term) (hroom : t.nesting ≤ room) (hvalue : t.value? = some x)
    (h : Spaced (t.tokens ++ ts) cs) (he : Ends productChars ts) :
    ∃ rest, ((factor room).chained product?).Takes cs x rest ∧ Spaced ts rest := by
  match t with
  | .mk f fs =>
    obtain ⟨hf, hfs⟩ := Nat.max_le.mp hroom
    obtain ⟨u, hu, hfsvalue⟩ := Option.bind_eq_some_iff.mp hvalue
    rw [Term.tokens, List.append_assoc] at h
    obtain ⟨middle, hfactor, hmiddle⟩ := Factor.complete f hf hu h (fs.ends he)
    obtain ⟨rest, hchain, hends⟩ := Products.complete fs hfs hfsvalue hmiddle he
    exact ⟨rest, chained_takes_iff.mpr ⟨u, middle, hfactor, hchain⟩, hends⟩

theorem Sums.complete {room : Nat} {cs : List Char} {ts : List Token} {x y : Float}
    (us : Sums) (hroom : us.nesting ≤ room) (hvalue : us.value? x = some y)
    (h : Spaced (us.tokens ++ ts) cs) (he : Ends sumChars ts) :
    ∃ rest, Chains ((factor room).chained product?) sum? x cs y rest ∧ Spaced ts rest := by
  match us with
  | .done =>
    obtain rfl := Option.some.inj hvalue
    exact ⟨cs, chains_stop (sum?_of_ends h he), h⟩
  | .more s t us =>
    obtain ⟨ht, hus⟩ := Nat.max_le.mp hroom
    obtain ⟨u, hu, husvalue⟩ := Option.bind_eq_some_iff.mp hvalue
    rw [Sums.tokens, List.cons_append, List.append_assoc] at h
    obtain ⟨after, hdrop, hafter⟩ := h.symbol s.mem_symbols
    obtain ⟨middle, hterm, hmiddle⟩ := Term.complete t ht hu hafter (us.ends he)
    obtain ⟨rest, hchain, hends⟩ := Sums.complete us hus husvalue hmiddle he
    obtain ⟨operation, hoperation, happly⟩ := sum?_char s
    exact ⟨rest, chains_step hdrop hoperation hterm (happly x u) hchain, hends⟩

theorem Expression.complete {room : Nat} {cs : List Char} {ts : List Token} {x : Float}
    (e : Expression) (hroom : e.nesting ≤ room)
    (hvalue : e.value? = some x) (h : Spaced (e.tokens ++ ts) cs) (he : Ends sumChars ts) :
    ∃ rest, (Operand.expression (factor room)).Takes cs x rest ∧ Spaced ts rest := by
  match e with
  | .mk t us =>
    obtain ⟨ht, hus⟩ := Nat.max_le.mp hroom
    obtain ⟨u, hu, husvalue⟩ := Option.bind_eq_some_iff.mp hvalue
    rw [Expression.tokens, List.append_assoc] at h
    obtain ⟨middle, hterm, hmiddle⟩ := Term.complete t ht hu h (us.ends he)
    obtain ⟨rest, hchain, hends⟩ := Sums.complete us hus husvalue hmiddle he
    exact ⟨rest, chained_takes_iff.mpr ⟨u, middle, hterm, hchain⟩, hends⟩

end

/-! ## Whole expressions -/

theorem evaluate_takes_iff {text : String} {x : Float} : evaluate text = .ok x ↔
    ∃ rest, (Operand.expression (factor maxNesting)).Takes text.toList x rest ∧ Spaced [] rest := by
  simp only [spaced_nil_iff]
  constructor
  · intro h
    rw [evaluate] at h
    split at h
    · cases h
    · next y rest shorter hy =>
      split at h
      · next hdrop =>
        cases h
        exact ⟨rest, ⟨shorter, hy⟩, hdrop⟩
      · cases h
  · rintro ⟨rest, ⟨shorter, hx⟩, hdrop⟩
    rw [evaluate]
    simp only [hx, hdrop]

theorem evaluate_eq_ok_iff_derives {text : String} {x : Float} : evaluate text = .ok x ↔
    ∃ e : Expression, e.Derives text ∧ e.nesting ≤ maxNesting ∧ e.value? = some x := by
  rw [evaluate_takes_iff]
  constructor
  · rintro ⟨rest, htakes, hrest⟩
    obtain ⟨e, he, hvalue, htokens⟩ := expression_sound (factor_sound maxNesting) htakes
    have hderives := htokens [] hrest
    rw [List.append_nil] at hderives
    exact ⟨e, hderives, he, hvalue⟩
  · rintro ⟨e, hderives, he, hvalue⟩
    rw [Expression.Derives, ← List.append_nil e.tokens] at hderives
    exact e.complete he hvalue hderives .nil

/-- An expression has a value just when a tree derives it in which no number is nested deeper than 64
levels and no divisor is zero; there is no other tree then, and the value is that of the tree. Every
other text is refused. -/
theorem evaluate_decides (text : String) :
    (∀ x, evaluate text = .ok x ↔ ∃ e : Expression,
      (e.Derives text ∧ ∀ e' : Expression, e'.Derives text → e' = e) ∧
        e.nesting ≤ 64 ∧ e.value? = some x) ∧
    ((∃ p, evaluate text = .error p) ↔
      ∀ e : Expression, e.Derives text → 64 < e.nesting ∨ e.value? = none) := by
  have hiff : ∀ x, evaluate text = .ok x ↔
      ∃ e : Expression, e.Derives text ∧ e.nesting ≤ 64 ∧ e.value? = some x :=
    fun x => evaluate_eq_ok_iff_derives
  constructor
  · intro x
    rw [hiff]
    constructor
    · rintro ⟨e, hderives, he, hvalue⟩
      exact ⟨e, ⟨hderives, fun e' h' => h'.unique hderives⟩, he, hvalue⟩
    · rintro ⟨e, ⟨hderives, -⟩, he, hvalue⟩
      exact ⟨e, hderives, he, hvalue⟩
  · constructor
    · rintro ⟨p, hp⟩ e hderives
      by_contra hgood
      obtain ⟨he, hvalue⟩ := not_or.mp hgood
      obtain ⟨x, hx⟩ := Option.ne_none_iff_exists'.mp hvalue
      rw [(hiff x).mpr ⟨e, hderives, Nat.le_of_not_lt he, hx⟩] at hp
      cases hp
    · intro hbad
      cases hresult : evaluate text with
      | error p => exact ⟨p, rfl⟩
      | ok x =>
        obtain ⟨e, hderives, he, hvalue⟩ := (hiff x).mp hresult
        rcases hbad e hderives with hdeep | hnone
        · exact absurd he (Nat.not_le_of_lt hdeep)
        · rw [hvalue] at hnone
          cases hnone

end AgentGraph.Calculator
