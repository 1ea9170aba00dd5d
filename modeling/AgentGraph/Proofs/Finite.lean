import AgentGraph.Proofs.Assembling
import AgentGraph.Proofs.Doubles

/-! The numbers of a text are finite.

A number that is scanned is a whole number of 64 bits or a double that is not infinite, and no
decimal number is read as something that is no number. Assembling only moves the contents of the
lexemes into a document.

* `integerContent_finite`, `floatContent_finite`: what a number is read as is finite.
* `Doc.ofChars_finite`: every number in the document of a text is finite.
* `legible_ofFloat`: a double whose text alone is read as the double is read so anywhere. -/
namespace AgentGraph

set_option autoImplicit false

/-! ## Doubles and whole numbers -/

namespace Decimal

theorem isNaN_neg {x : Float} (h : x.isNaN = false) : (-x).isNaN = false := by
  have hneg : x.toModel.unpack.neg.isNaN = false := by
    cases hu : x.toModel.unpack with
    | notANumber =>
      have hnan : x.toModel.unpack.isNaN = false := h
      rw [hu] at hnan
      cases hnan
    | infinity | zero | finite => rfl
  exact isNaN_unpack_pack hneg

theorem isFinite_of_isInf {x : Float} (hnan : x.isNaN = false) (hinf : ¬ x.isInf) : x.isFinite := by
  change x.toModel.unpack.isNaN = false at hnan
  change ¬ x.toModel.unpack.isInf at hinf
  change x.toModel.unpack.isFinite
  cases hu : x.toModel.unpack with
  | notANumber =>
    rw [hu] at hnan
    cases hnan
  | infinity =>
    rw [hu] at hinf
    exact absurd rfl hinf
  | zero | finite => rfl

end Decimal

namespace Json

open Decimal

theorem isFinite_floatOfInt {n : Int} (h : n.natAbs < twoTo 64) : (floatOfInt n).isFinite := by
  unfold floatOfInt
  dsimp only
  split
  · exact isFinite_neg (nearestFloat_isFinite h)
  · exact nearestFloat_isFinite h

section Content

variable {negative : Bool} {digits : List Char} {offset stop : Nat} {n : Number}

theorem natAbs_of_ofInteger {size : Nat} {k : Int} (h : Number.ofInteger negative size = .int k) :
    k.natAbs < twoTo 64 := by
  unfold Number.ofInteger at h
  split at h
  · split at h
    · next hsize =>
      simp only [Bool.and_eq_true, decide_eq_true_eq] at hsize
      cases h
      rw [Int.natAbs_neg, Int.natAbs_natCast]
      exact Nat.lt_of_le_of_lt hsize.2 (by decide)
    · cases h
  · split at h
    · next hsize =>
      cases h
      rwa [Int.natAbs_natCast]
    · cases h

theorem isNaN_of_ofInteger {size : Nat} {x : Float} (h : Number.ofInteger negative size = .float x) :
    x.isNaN = false := by
  unfold Number.ofInteger at h
  split at h
  · split at h
    · cases h
    · cases h
      exact isNaN_neg (nearestFloat_isNaN size 0)
  · split at h
    · cases h
    · cases h
      exact nearestFloat_isNaN size 0

theorem integerContent_finite (h : integerContent negative digits stop = .ok n) :
    n.toFloat.isFinite := by
  unfold integerContent at h
  split at h
  · next k hk =>
    cases h
    exact isFinite_floatOfInt (natAbs_of_ofInteger hk)
  · next x hx =>
    split at h
    · cases h
    · next hinf =>
      cases h
      exact isFinite_of_isInf (isNaN_of_ofInteger hx) hinf

theorem floatContent_finite {exponent : Int} {overflow : Option Nat}
    (h : floatContent negative digits exponent overflow stop = .ok n) : n.toFloat.isFinite := by
  unfold floatContent at h
  dsimp only at h
  split at h
  · split at h
    · cases h
    · cases h
      cases negative <;> decide
  · split at h
    · cases h
    · next hinf =>
      have hfinite := isFinite_of_isInf (nearestFloat_isNaN _ exponent) hinf
      cases h
      cases negative
      · exact hfinite
      · exact isFinite_neg hfinite

theorem scanScale_finite {places : Nat} {cs : List Char}
    (h : (scanScale negative digits places offset cs).content = .ok n) : n.toFloat.isFinite := by
  unfold scanScale at h
  split at h
  · split at h
    · split at h
      · cases h
      · dsimp only at h
        exact floatContent_finite h
    · dsimp only at h
      exact floatContent_finite h
  · dsimp only at h
    exact floatContent_finite h

theorem scanFraction_finite {cs : List Char}
    (h : (scanFraction negative digits offset cs).content = .ok n) : n.toFloat.isFinite := by
  unfold scanFraction at h
  split at h
  · dsimp only at h
    split at h
    · split at h <;> cases h
    · exact scanScale_finite h
  · split at h
    · exact scanScale_finite h
    · exact integerContent_finite h
  · exact integerContent_finite h

theorem scanNumber_finite {cs : List Char} (h : (scanNumber negative offset cs).content = .ok n) :
    n.toFloat.isFinite := by
  unfold scanNumber at h
  split at h
  · cases h
  · split at h
    · split at h
      · exact scanFraction_finite h
      · cases h
    · split at h
      · exact scanFraction_finite h
      · cases h

end Content

/-! ## Lexemes -/

/-- If the token is a number it is finite. -/
def Token.Finite (t : Token) : Prop := ∀ n, t = .scalar (.ok (.number n)) → n.toFloat.isFinite

theorem nextToken_finite (offset : Nat) (c : Char) (cs : List Char) :
    (nextToken offset c cs).1.Finite := by
  intro n h
  by_cases hminus : c = '-'
  · subst hminus
    exact scanNumber_finite (finds_of_numberNext h).content
  · by_cases hc : c.isDigit
    · rw [nextToken_digit offset hc] at h
      exact scanNumber_finite (finds_of_numberNext h).content
    · exact absurd h (nextToken_no_number hminus hc)

theorem lexemes_finite (offset : Nat) (cs : List Char) : ∀ l ∈ lexemes offset cs, l.token.Finite := by
  fun_induction lexemes offset cs with
  | case1 => exact List.forall_mem_nil _
  | case2 _ _ _ _ ih => exact ih
  | case3 offset c cs hc next ih =>
    refine List.forall_mem_cons.mpr ⟨nextToken_finite offset c cs, ?_⟩
    split
    · exact List.forall_mem_nil _
    · exact ih

/-! ## Documents -/

/-- Every number that is read from the document is finite. -/
inductive Doc.Finite : Doc → Prop
  | scalar {stop start : Option Nat} {content : Except Fault Scalar}
      (h : ∀ n, content = .ok (.number n) → n.toFloat.isFinite) :
      Doc.Finite (.scalar stop start content)
  | list {start : Option Nat} {items : List Doc} {close : Close} (h : ∀ d ∈ items, Doc.Finite d) :
      Doc.Finite (.list start items close)
  | object {start : Option Nat} {members : List (Key × Doc)} {close : Close}
      (h : ∀ m ∈ members, Doc.Finite m.2) : Doc.Finite (.object start members close)
  | broken {start : Option Nat} {reading skipping : Fault} :
      Doc.Finite (.broken start reading skipping)

def Frame.Finite : Frame → Prop
  | .list _ items => ∀ d ∈ items, d.Finite
  | .object _ members _ => ∀ m ∈ members, m.2.Finite

section Frames

variable {f : Frame} {frames : List Frame} {d : Doc}

theorem Frame.Finite.close (h : f.Finite) (close : Close) : (f.close close).Finite := by
  cases f with
  | list => exact .list fun d hd => h d (List.mem_reverse.mp hd)
  | object => exact .object fun m hm => h m (List.mem_reverse.mp hm)

theorem Frame.Finite.push (h : f.Finite) (hd : d.Finite) : (f.push d).Finite := by
  cases f with
  | list => exact List.forall_mem_cons.mpr ⟨hd, h⟩
  | object _ _ key =>
    cases key with
    | none => exact h
    | some key => exact List.forall_mem_cons.mpr ⟨hd, h⟩

theorem cutOff_finite (hd : d.Finite) (h : ∀ f ∈ frames, f.Finite) : (cutOff d frames).Finite := by
  induction frames generalizing d with
  | nil => exact hd
  | cons f frames ih =>
    obtain ⟨hf, hframes⟩ := List.forall_mem_cons.mp h
    exact ih ((hf.push hd).close .cut) hframes

theorem breakOff_finite (close : Close) (h : ∀ f ∈ frames, f.Finite) :
    (breakOff close frames).Finite := by
  cases frames with
  | nil => exact .broken
  | cons f frames =>
    obtain ⟨hf, hframes⟩ := List.forall_mem_cons.mp h
    exact cutOff_finite (hf.close close) hframes

end Frames

/-! ## Assembling -/

/-- Whatever is assembled of the lexemes is finite. -/
def AssemblesFinite (size : Nat) (rest : List Lexeme) : Prop :=
  ∀ frames due, (∀ f ∈ frames, Frame.Finite f) → (assemble size frames due rest).1.Finite

section Assembling

variable {size : Nat} {frames : List Frame} {l : Lexeme} {rest : List Lexeme}

theorem resume_finite {d : Doc} (h : AssemblesFinite size rest) (hd : d.Finite)
    (hframes : ∀ f ∈ frames, f.Finite) : (resume size d frames rest).1.Finite := by
  cases frames with
  | nil => exact hd
  | cons f frames =>
    obtain ⟨hf, hframes⟩ := List.forall_mem_cons.mp hframes
    exact h _ _ (List.forall_mem_cons.mpr ⟨hf.push hd, hframes⟩)

theorem assemble_open_finite {f : Frame} {due : Due} (h : AssemblesFinite size rest) (hf : f.Finite)
    (hframes : ∀ f ∈ frames, f.Finite) : (assemble size (f :: frames) due rest).1.Finite :=
  h _ _ (List.forall_mem_cons.mpr ⟨hf, hframes⟩)

/-- The first bracket may close the innermost container, if there is one. -/
theorem resume_close_finite {close : Close} (h : AssemblesFinite size rest)
    (hframes : ∀ f ∈ frames, f.Finite) :
    (match frames with
      | [] => (breakOff .cut frames, none)
      | f :: fs => resume size (f.close close) fs rest).1.Finite := by
  cases frames with
  | nil => exact .broken
  | cons f frames =>
    obtain ⟨hf, hframes⟩ := List.forall_mem_cons.mp hframes
    exact resume_finite h (hf.close close) hframes

theorem assemble_value_finite {due : Due} (h : AssemblesFinite size rest) (hl : l.token.Finite)
    (hframes : ∀ f ∈ frames, f.Finite) (hdue : due.TakesValue)
    (hclose : due ≠ .value → l.token ≠ .closeList) :
    (assemble size frames due (l :: rest)).1.Finite := by
  cases htoken : l.token with
  | openList =>
    rw [assemble_openList hdue htoken]
    exact assemble_open_finite h (List.forall_mem_nil _) hframes
  | openObject =>
    rw [assemble_openObject hdue htoken]
    exact assemble_open_finite h (List.forall_mem_nil _) hframes
  | scalar content =>
    rw [assemble_scalar hdue htoken]
    exact resume_finite h (.scalar fun n hn => hl n (by rw [htoken, hn])) hframes
  | string content =>
    rw [assemble_string hdue htoken]
    refine resume_finite h (.scalar fun n hn => ?_) hframes
    cases content <;> cases hn
  | closeList =>
    have hvalue : due = .value := by_contra fun hne => hclose hne htoken
    subst hvalue
    simp only [assemble, htoken]
    exact cutOff_finite .broken hframes
  | closeObject | comma | colon | broken | brokenString =>
    cases due with
    | value | item =>
      simp only [assemble, htoken]
      exact cutOff_finite .broken hframes
    | _ => cases hdue

theorem assemble_item_finite {first : Bool} (h : AssemblesFinite size rest) (hl : l.token.Finite)
    (hframes : ∀ f ∈ frames, f.Finite) :
    (assemble size frames (.item first) (l :: rest)).1.Finite := by
  by_cases hclose : l.token = .closeList
  · cases first with
    | false =>
      simp only [assemble, hclose]
      exact breakOff_finite _ hframes
    | true =>
      simp only [assemble, hclose]
      exact resume_close_finite h hframes
  · exact assemble_value_finite h hl hframes trivial fun _ => hclose

theorem assemble_key_finite {first : Bool} (h : AssemblesFinite size rest)
    (hframes : ∀ f ∈ frames, f.Finite) :
    (assemble size frames (.key first) (l :: rest)).1.Finite := by
  cases htoken : l.token with
  | closeObject =>
    cases first with
    | false =>
      simp only [assemble, htoken]
      exact breakOff_finite _ hframes
    | true =>
      simp only [assemble, htoken]
      exact resume_close_finite h hframes
  | string name =>
    simp only [assemble, htoken]
    split
    · obtain ⟨hf, hframes⟩ := List.forall_mem_cons.mp hframes
      exact assemble_open_finite h hf hframes
    · exact breakOff_finite _ hframes
  | brokenString =>
    simp only [assemble, htoken]
    split
    · obtain ⟨hf, hframes⟩ := List.forall_mem_cons.mp hframes
      exact cutOff_finite .broken (List.forall_mem_cons.mpr ⟨hf, hframes⟩)
    · exact breakOff_finite _ hframes
  | openList | closeList | openObject | comma | colon | scalar | broken =>
    simp only [assemble, htoken]
    exact breakOff_finite _ hframes

theorem assemble_separator_finite (h : AssemblesFinite size rest) (hframes : ∀ f ∈ frames, f.Finite) :
    (assemble size frames .separator (l :: rest)).1.Finite := by
  simp only [assemble]
  split
  · exact h _ _ hframes
  · exact h _ _ hframes
  · obtain ⟨hf, hframes⟩ := List.forall_mem_cons.mp hframes
    exact resume_finite h (hf.close _) hframes
  · obtain ⟨hf, hframes⟩ := List.forall_mem_cons.mp hframes
    exact resume_finite h (hf.close _) hframes
  · exact breakOff_finite _ hframes

/-- Whatever is assembled from finite tokens is finite. -/
theorem assemble_finite (size : Nat) {ls : List Lexeme} (hls : ∀ l ∈ ls, l.token.Finite) :
    AssemblesFinite size ls := by
  induction ls with
  | nil =>
    intro frames due hframes
    cases due with
    | value | colon => exact cutOff_finite .broken hframes
    | item | key | separator => exact breakOff_finite _ hframes
  | cons l rest ih =>
    obtain ⟨hl, hrest⟩ := List.forall_mem_cons.mp hls
    have h := ih hrest
    intro frames due hframes
    cases due with
    | value => exact assemble_value_finite h hl hframes trivial fun hne => absurd rfl hne
    | item => exact assemble_item_finite h hl hframes
    | key => exact assemble_key_finite h hframes
    | colon =>
      simp only [assemble]
      split
      · exact h _ _ hframes
      · exact cutOff_finite .broken hframes
    | separator => exact assemble_separator_finite h hframes

theorem Doc.ofChars_finite (cs : List Char) : (Doc.ofChars cs).1.Finite :=
  assemble_finite _ (lexemes_finite 0 cs) [] .value (List.forall_mem_nil _)

end Assembling

/-! ## Printed doubles -/

section Printed

variable {c : Char}

theorem isNumeral_of_mem_digitChars {n : Nat} (h : c ∈ digitChars n) : isNumeral c :=
  isNumeral_of_isDigit (Nat.isDigit_of_mem_toDigits (by decide) (by decide) h)

theorem isNumeral_of_mem_zeros {n : Nat} (h : c ∈ List.replicate n '0') : isNumeral c := by
  rw [List.eq_of_mem_replicate h]
  decide

theorem isNumeral_of_mem_positional {d : Digits} {wholeFraction : Bool}
    (h : c ∈ d.positional wholeFraction) : isNumeral c := by
  unfold Digits.positional at h
  dsimp only at h
  split at h
  · rcases List.mem_append.mp h with h | h
    · split at h
      · obtain rfl := List.mem_singleton.mp h
        decide
      · exact (List.mem_append.mp h).elim isNumeral_of_mem_digitChars isNumeral_of_mem_zeros
    · split at h
      · rcases List.mem_cons.mp h with rfl | h
        · decide
        · obtain rfl := List.mem_singleton.mp h
          decide
      · cases h
  · split at h
    · rcases List.mem_append.mp h with h | h
      · exact isNumeral_of_mem_digitChars (List.mem_of_mem_take h)
      · rcases List.mem_cons.mp h with rfl | h
        · decide
        · exact isNumeral_of_mem_digitChars (List.mem_of_mem_drop h)
    · rcases List.mem_cons.mp h with rfl | h
      · decide
      · rcases List.mem_cons.mp h with rfl | h
        · decide
        · exact (List.mem_append.mp h).elim isNumeral_of_mem_zeros isNumeral_of_mem_digitChars

theorem isNumeral_of_mem_exponent {magnitude : Int}
    (h : c ∈ 'e' :: (if magnitude < 0 then '-' else '+') :: digitChars magnitude.natAbs) :
    isNumeral c := by
  rcases List.mem_cons.mp h with rfl | h
  · decide
  · rcases List.mem_cons.mp h with rfl | h
    · split <;> decide
    · exact isNumeral_of_mem_digitChars h

theorem isNumeral_of_mem_scientific {d : Digits} (h : c ∈ d.scientific) : isNumeral c := by
  have hdigits {c : Char} := @isNumeral_of_mem_digitChars c d.mantissa
  unfold Digits.scientific at h
  dsimp only at h
  split at h
  · exact isNumeral_of_mem_exponent h
  · next c' hone =>
    rcases List.mem_cons.mp h with rfl | h
    · exact hdigits (hone ▸ List.mem_cons_self)
    · exact isNumeral_of_mem_exponent h
  · next c' cs hmore =>
    rcases List.mem_cons.mp h with rfl | h
    · exact hdigits (hmore ▸ List.mem_cons_self)
    · rcases List.mem_cons.mp h with rfl | h
      · decide
      · rcases List.mem_append.mp h with h | h
        · exact hdigits (hmore ▸ List.mem_cons_of_mem _ h)
        · exact isNumeral_of_mem_exponent h

theorem isNumeral_of_mem_layout {l : Layout} {d : Digits} (h : c ∈ l.chars d) : isNumeral c := by
  unfold Layout.chars at h
  split at h
  · exact isNumeral_of_mem_positional h
  · exact isNumeral_of_mem_scientific h

/-- A double is printed as a numeral or as null. -/
theorem isNumeral_of_mem_jsonText {x : Float} (h : c ∈ (jsonText x).toList) :
    isNumeral c ∨ c ∈ "null".toList := by
  unfold jsonText Layout.text at h
  split at h
  · exact .inr h
  · split at h <;> exact .inr h
  · next negative size =>
    rw [String.toList_ofList] at h
    split at h
    · rcases List.mem_cons.mp h with rfl | h
      · exact .inl (by decide)
      · exact .inl (isNumeral_of_mem_layout h)
    · exact .inl (isNumeral_of_mem_layout h)

/-- A double whose text alone is read as the double is read so anywhere. -/
theorem legible_ofFloat {x : Float} (h : parse (jsonText x) = .ok (.ofFloat x)) :
    (Number.float x).Legible := by
  have hno (c : Char) (hnumeral : ¬ isNumeral c) (hnull : c ∉ "null".toList) :
      c ∉ (Number.float x).chars := fun hc =>
    (isNumeral_of_mem_jsonText hc).elim hnumeral hnull
  refine legible_of_parse ⟨hno _ (by decide) (by decide), hno _ (by decide) (by decide)⟩ ?_
  rw [Number.chars, String.ofList_toList]
  exact h

end Printed

end Json

end AgentGraph
