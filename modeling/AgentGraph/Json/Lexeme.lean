import AgentGraph.Json.Fault

/-! The lexemes of a JSON text.

A lexeme is scanned twice over: once for a reader who wants its content and once for a reader who
skips it. The second one asks less (a skipped number may be too large for a double, a skipped
string may hold half a surrogate pair) and words some faults in its own way, so a lexeme keeps a
verdict for each. A text is cut into lexemes up to the first one that cannot even be skipped. -/
namespace AgentGraph.Json

set_option autoImplicit false

inductive Scalar where
  | null
  | bool (b : Bool)
  | number (n : Number)
  | string (s : String)

inductive Token where
  | openList
  | closeList
  | openObject
  | closeObject
  | comma
  | colon
  /-- A scalar that can be skipped; its content may still be faulty. -/
  | scalar (content : Except Fault Scalar)
  /-- A string that can be skipped; its content may still be faulty. -/
  | string (content : Except Fault String)
  /-- No lexeme of JSON: the fault for one who reads and the fault for one who skips. -/
  | broken (reading skipping : Fault)
  /-- A string that does not end well. -/
  | brokenString (reading skipping : Fault)

def Token.isBroken : Token → Bool
  | .broken _ _ | .brokenString _ _ => true
  | _ => false

/-- A token with the byte offsets it begins at and ends before. -/
structure Lexeme where
  start : Nat
  stop : Nat
  token : Token

def fault (cause : Cause) (offset : Nat) : Fault := ⟨cause, some offset⟩

/-- What a scan finds: the content or the fault in it, the fault of one who skips, the offset
after it and the characters that follow. -/
structure Scan (α : Type) where
  content : Except Fault α
  skipping : Option Fault
  stop : Nat
  rest : List Char

def Scan.broken {α : Type} (reading skipping : Fault) (stop : Nat) (rest : List Char) : Scan α :=
  ⟨.error reading, some skipping, stop, rest⟩

/-- The token of a scan: `whole` of its content when it can be skipped, else `part` of the two
faults. -/
def Scan.token {α : Type} (s : Scan α) (whole : Except Fault α → Token)
    (part : Fault → Fault → Token) : Token :=
  match s.skipping, s.content with
  | none, content => whole content
  | some skipping, .error reading => part reading skipping
  | some skipping, .ok _ => part skipping skipping

def Scan.next {α : Type} (s : Scan α) (whole : Except Fault α → Token)
    (part : Fault → Fault → Token) : Token × Nat × List Char :=
  (s.token whole part, s.stop, s.rest)

/-! ## Words -/

def scanWord (content : Scalar) (offset : Nat) : List Char → List Char → Scan Scalar
  | [], cs => ⟨.ok content, none, offset, cs⟩
  | _ :: _, [] =>
    let f := fault .endInValue offset
    .broken f f offset []
  | e :: es, c :: cs =>
    if c = e then scanWord content (offset + 1) es cs
    else
      let f := fault .wordExpected (offset + 1)
      .broken f f (offset + 1) cs

theorem scanWord_rest_le (content : Scalar) (offset : Nat) (es cs : List Char) :
    (scanWord content offset es cs).rest.length ≤ cs.length := by
  fun_induction scanWord content offset es cs <;> simp_all [Scan.broken]
  omega

/-! ## Strings -/

def hexValue? (c : Char) : Option Nat :=
  let n := c.toNat
  if 0x30 ≤ n && n ≤ 0x39 then some (n - 0x30)
  else if 0x61 ≤ n && n ≤ 0x66 then some (n - 0x61 + 10)
  else if 0x41 ≤ n && n ≤ 0x46 then some (n - 0x41 + 10)
  else none

def hexUnit? (a b c d : Char) : Option Nat := do
  let a ← hexValue? a
  let b ← hexValue? b
  let c ← hexValue? c
  let d ← hexValue? d
  return ((a * 16 + b) * 16 + c) * 16 + d

def byteCount (cs : List Char) : Nat := cs.foldl (fun n c => n + c.utf8Size) 0

/-- The fault of four hexadecimal digits that are not there, `offset` being that of the first. -/
def hexFault (offset : Nat) (cs : List Char) : Fault :=
  let size := byteCount (cs.take 4)
  if size < 4 then fault .endInString (offset + size) else fault .invalidEscape (offset + 4)

/-- What a leading surrogate that ends before `offset` makes of the characters after it: the
character of the pair, or the fault that there is no pair. -/
def pairWith (lead offset : Nat) : List Char → Except Fault Char
  | [] => .error (fault .endInString offset)
  | '\\' :: [] => .error (fault .endInString (offset + 1))
  | '\\' :: 'u' :: cs =>
    match cs with
    | a :: b :: c :: d :: _ =>
      match hexUnit? a b c d with
      | none => .error (hexFault (offset + 2) cs)
      | some trail =>
        if 0xDC00 ≤ trail && trail ≤ 0xDFFF then
          .ok (Char.ofNat (0x10000 + (lead - 0xD800) * 0x400 + (trail - 0xDC00)))
        else .error (fault .loneSurrogate (offset + 6))
    | cs => .error (hexFault (offset + 2) cs)
  | '\\' :: _ :: _ => .error (fault .halfSurrogatePair (offset + 2))
  | _ :: _ => .error (fault .halfSurrogatePair (offset + 1))

def simpleEscape? : Char → Option Char
  | '"' => some '"'
  | '\\' => some '\\'
  | '/' => some '/'
  | 'b' => some '\x08'
  | 'f' => some '\x0c'
  | 'n' => some '\n'
  | 'r' => some '\r'
  | 't' => some '\t'
  | _ => none

/-- Characters read so far, the last one first, or the first fault among them. -/
abbrev Pending := Except Fault (List Char)

def Pending.push (p : Pending) (c : Char) : Pending := p.map (c :: ·)

def Pending.spoil (p : Pending) (f : Fault) : Pending :=
  match p with
  | .error first => .error first
  | .ok _ => .error f

def Pending.break {α : Type} (p : Pending) (reading skipping : Fault) (stop : Nat)
    (rest : List Char) : Scan α :=
  match p.spoil reading with
  | .error first => .broken first skipping stop rest
  | .ok _ => .broken reading skipping stop rest

/-- The inside of a string, from `offset` to its closing quote. A surrogate pair is taken as a
whole by looking past its first half: `owed` counts the characters of the second half that are
still to be passed over. -/
def scanString (p : Pending) (offset owed : Nat) : List Char → Scan String
  | [] => p.break (fault .endInString offset) (fault .endInString offset) offset []
  | c :: cs =>
    match owed with
    | owed + 1 => scanString p (offset + c.utf8Size) owed cs
    | 0 =>
      match c, cs with
      | '"', cs => ⟨p.map fun read => String.ofList read.reverse, none, offset + 1, cs⟩
      | '\\', [] =>
        p.break (fault .endInString (offset + 1)) (fault .endInString (offset + 1)) (offset + 1) []
      | '\\', 'u' :: digits =>
        match digits with
        | a :: b :: c :: d :: after =>
          match hexUnit? a b c d with
          | none =>
            let f := hexFault (offset + 2) digits
            p.break f f (offset + 2) digits
          | some code =>
            if 0xDC00 ≤ code && code ≤ 0xDFFF then
              scanString (p.spoil (fault .loneSurrogate (offset + 6))) (offset + 6) 0 after
            else if 0xD800 ≤ code && code ≤ 0xDBFF then
              match pairWith code (offset + 6) after with
              | .ok pair => scanString (p.push pair) (offset + 6) 6 after
              | .error f => scanString (p.spoil f) (offset + 6) 0 after
            else scanString (p.push (Char.ofNat code)) (offset + 6) 0 after
        | digits =>
          let f := hexFault (offset + 2) digits
          p.break f f (offset + 2) digits
      | '\\', e :: after =>
        match simpleEscape? e with
        | some plain => scanString (p.push plain) (offset + 2) 0 after
        | none =>
          let f := fault .invalidEscape (offset + 2)
          p.break f f (offset + 2) after
      | c, cs =>
        if c.toNat < 0x20 then
          p.break (fault .controlCharacter (offset + 1)) (fault .controlCharacter offset)
            (offset + 1) cs
        else scanString (p.push c) (offset + c.utf8Size) 0 cs

@[simp] theorem Pending.rest_break {α : Type} (p : Pending) (reading skipping : Fault) (stop : Nat)
    (rest : List Char) : (p.break reading skipping stop rest : Scan α).rest = rest := by
  unfold Pending.break
  split <;> rfl

theorem scanString_rest_le (p : Pending) (offset owed : Nat) (cs : List Char) :
    (scanString p offset owed cs).rest.length ≤ cs.length := by
  fun_induction scanString p offset owed cs <;> simp_all <;> omega

/-! ## Numbers -/

/-- The exponent part after its letter: its value, or the fault in it for one who reads and for one
who skips. The value keeps growing without bound; where it passes the largest 32-bit integer is
kept too. -/
structure Exponent where
  value : Int
  overflow : Option Nat
  stop : Nat
  rest : List Char

def maxExponent : Nat := Decimal.twoTo 31 - 1

/-- The offset after the digit with which a run of digits passes `maxExponent`. -/
def overflowAt (offset value : Nat) : List Char → Option Nat
  | [] => none
  | c :: cs =>
    let value := 10 * value + (c.toNat - '0'.toNat)
    if maxExponent < value then some (offset + 1) else overflowAt (offset + 1) value cs

def digitsOf (cs : List Char) : List Char := cs.takeWhile Char.isDigit

def afterDigits (cs : List Char) : List Char := cs.dropWhile Char.isDigit

theorem afterDigits_length_le (cs : List Char) : (afterDigits cs).length ≤ cs.length :=
  (List.dropWhile_sublist _).length_le

def scanExponent (offset : Nat) (cs : List Char) : Except (Fault × Fault) Exponent :=
  let (negative, offset, cs) :=
    match cs with
    | '+' :: cs => (false, offset + 1, cs)
    | '-' :: cs => (true, offset + 1, cs)
    | cs => (false, offset, cs)
  match cs with
  | [] => .error (fault .endInValue offset, fault .invalidNumber offset)
  | c :: _ =>
    if c.isDigit then
      let digits := digitsOf cs
      let size := Decimal.digitsValue digits
      .ok ⟨if negative then -size else size,
        if negative then none else overflowAt offset 0 digits,
        offset + digits.length, afterDigits cs⟩
    else .error (fault .invalidNumber (offset + 1), fault .invalidNumber (offset + 1))

/-- The number that digits without a point and an exponent denote; one too large for a double is
out of range. -/
def integerContent (negative : Bool) (digits : List Char) (stop : Nat) : Except Fault Number :=
  match Number.ofInteger negative (Decimal.digitsValue digits) with
  | .int n => .ok (.int n)
  | .float x => if x.isInf then .error (fault .numberOutOfRange stop) else .ok (.float x)

/-- The double a decimal number with this sign rounds to; one too large is out of range. -/
def floatContent (negative : Bool) (digits : List Char) (exponent : Int) (overflow : Option Nat)
    (stop : Nat) : Except Fault Number :=
  let size := Decimal.digitsValue digits
  let x := Decimal.nearestFloat size exponent
  match overflow with
  | some offset =>
    if size ≠ 0 then .error (fault .numberOutOfRange offset)
    else .ok (.float (if negative then -0.0 else 0.0))
  | none =>
    if x.isInf then .error (fault .numberOutOfRange stop)
    else .ok (.float (if negative then -x else x))

/-- The part of a number from its exponent letter on, if there is one. -/
def scanScale (negative : Bool) (digits : List Char) (places : Nat) (offset : Nat)
    (cs : List Char) : Scan Number :=
  match cs with
  | e :: after =>
    if e = 'e' || e = 'E' then
      match scanExponent (offset + 1) after with
      | .error (reading, skipping) => .broken reading skipping (offset + 1) after
      | .ok x =>
        ⟨floatContent negative digits (x.value - places) x.overflow x.stop, none, x.stop, x.rest⟩
    else ⟨floatContent negative digits (-(places : Int)) none offset, none, offset, cs⟩
  | [] => ⟨floatContent negative digits (-(places : Int)) none offset, none, offset, []⟩

/-- The part of a number after its integer digits. -/
def scanFraction (negative : Bool) (whole : List Char) (offset : Nat) (cs : List Char) :
    Scan Number :=
  match cs with
  | '.' :: after =>
    let places := digitsOf after
    if places.isEmpty then
      match after with
      | [] =>
        .broken (fault .endInValue (offset + 1)) (fault .invalidNumber (offset + 1)) (offset + 1) []
      | _ :: _ =>
        let f := fault .invalidNumber (offset + 2)
        .broken f f (offset + 1) after
    else
      scanScale negative (whole ++ places) places.length (offset + 1 + places.length)
        (afterDigits after)
  | e :: _ =>
    if e = 'e' || e = 'E' then scanScale negative whole 0 offset cs
    else ⟨integerContent negative whole offset, none, offset, cs⟩
  | [] => ⟨integerContent negative whole offset, none, offset, []⟩

/-- A number without its sign. -/
def scanNumber (negative : Bool) (offset : Nat) (cs : List Char) : Scan Number :=
  match cs with
  | [] => .broken (fault .endInValue offset) (fault .invalidNumber offset) offset []
  | c :: after =>
    if c = '0' then
      if (digitsOf after).isEmpty then scanFraction negative ['0'] (offset + 1) after
      else
        let f := fault .invalidNumber (offset + 2)
        .broken f f (offset + 1) after
    else if c.isDigit then
      scanFraction negative (digitsOf cs) (offset + (digitsOf cs).length) (afterDigits cs)
    else
      let f := fault .invalidNumber (offset + 1)
      .broken f f (offset + 1) after

theorem scanExponent_rest_le {offset : Nat} {cs : List Char} {x : Exponent}
    (h : scanExponent offset cs = .ok x) : x.rest.length ≤ cs.length := by
  unfold scanExponent at h
  split at h
  split at h
  · simp at h
  · split at h
    · have hx := Except.ok.inj h
      subst hx
      have := afterDigits_length_le
      grind
    · simp at h

theorem scanScale_rest_le (negative : Bool) (digits : List Char) (places offset : Nat)
    (cs : List Char) : (scanScale negative digits places offset cs).rest.length ≤ cs.length := by
  unfold scanScale
  split
  · split
    · split
      · simp [Scan.broken]
      · next h =>
        have := scanExponent_rest_le h
        simp only [List.length_cons]
        omega
    · simp
  · simp

theorem scanFraction_rest_le (negative : Bool) (whole : List Char) (offset : Nat)
    (cs : List Char) : (scanFraction negative whole offset cs).rest.length ≤ cs.length := by
  unfold scanFraction
  split
  · next after =>
    have h := afterDigits_length_le after
    have h2 := scanScale_rest_le negative (whole ++ digitsOf after) (digitsOf after).length
      (offset + 1 + (digitsOf after).length) (afterDigits after)
    simp only [List.length_cons]
    split
    · split <;> simp [Scan.broken]
    · omega
  · split
    · exact scanScale_rest_le ..
    · simp
  · simp

/-- A scanned number takes at least the character it begins with. -/
theorem scanNumber_cons_rest_le (negative : Bool) (offset : Nat) (c : Char) (cs : List Char) :
    (scanNumber negative offset (c :: cs)).rest.length ≤ cs.length := by
  simp only [scanNumber]
  split
  · split
    · exact scanFraction_rest_le ..
    · simp [Scan.broken]
  · split
    · next h =>
      have h1 : afterDigits (c :: cs) = afterDigits cs := by simp [afterDigits, h]
      have h2 := afterDigits_length_le cs
      have h3 := scanFraction_rest_le negative (digitsOf (c :: cs))
        (offset + (digitsOf (c :: cs)).length) (afterDigits (c :: cs))
      rw [h1] at h3 ⊢
      omega
    · simp [Scan.broken]

theorem scanNumber_rest_le (negative : Bool) (offset : Nat) (cs : List Char) :
    (scanNumber negative offset cs).rest.length ≤ cs.length := by
  cases cs with
  | nil => simp [scanNumber, Scan.broken]
  | cons c cs => exact Nat.le_succ_of_le (scanNumber_cons_rest_le negative offset c cs)

/-! ## The lexemes of a text -/

def isJsonBlank (c : Char) : Bool := c = ' ' || c = '\n' || c = '\t' || c = '\r'

def scalarNext (s : Scan Scalar) : Token × Nat × List Char := s.next .scalar .broken

def numberNext (s : Scan Number) : Token × Nat × List Char :=
  s.next (fun content => .scalar (content.map .number)) .broken

/-- The lexeme that begins with the character `c`, which is no blank. -/
def nextToken (offset : Nat) (c : Char) (cs : List Char) : Token × Nat × List Char :=
  match c with
  | '[' => (.openList, offset + 1, cs)
  | ']' => (.closeList, offset + 1, cs)
  | '\x7b' => (.openObject, offset + 1, cs)
  | '\x7d' => (.closeObject, offset + 1, cs)
  | ',' => (.comma, offset + 1, cs)
  | ':' => (.colon, offset + 1, cs)
  | '"' => (scanString (.ok []) (offset + 1) 0 cs).next .string .brokenString
  | 'n' => scalarNext (scanWord .null (offset + 1) "ull".toList cs)
  | 't' => scalarNext (scanWord (.bool true) (offset + 1) "rue".toList cs)
  | 'f' => scalarNext (scanWord (.bool false) (offset + 1) "alse".toList cs)
  | '-' => numberNext (scanNumber true (offset + 1) cs)
  | c =>
    if c.isDigit then numberNext (scanNumber false offset (c :: cs))
    else
      let f := fault .valueExpected (offset + 1)
      (.broken f f, offset + 1, cs)

theorem nextToken_rest_le (offset : Nat) (c : Char) (cs : List Char) :
    (nextToken offset c cs).2.2.length ≤ cs.length := by
  unfold nextToken
  split <;> try simp only [Scan.next, scalarNext, numberNext, Nat.le_refl]
  · exact scanString_rest_le ..
  · exact scanWord_rest_le ..
  · exact scanWord_rest_le ..
  · exact scanWord_rest_le ..
  · exact scanNumber_rest_le ..
  · split
    · exact scanNumber_cons_rest_le ..
    · exact Nat.le_refl _

/-- The lexemes from `offset` on, up to the end of the text or the first broken one. -/
def lexemes (offset : Nat) (cs : List Char) : List Lexeme :=
  match cs with
  | [] => []
  | c :: cs =>
    if isJsonBlank c then lexemes (offset + 1) cs
    else
      let next := nextToken offset c cs
      ⟨offset, next.2.1, next.1⟩ ::
        if next.1.isBroken then [] else lexemes next.2.1 next.2.2
termination_by cs.length
decreasing_by
  · simp
  · exact Nat.lt_succ_of_le (nextToken_rest_le offset c cs)

end AgentGraph.Json
