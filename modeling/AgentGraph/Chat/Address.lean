import AgentGraph.Decimal.Nearest
import AgentGraph.Host.Number

/-! Network addresses in their normal form.

The scheme is in lower case, the host is in the form that is sent, and the usual service number of
the scheme is left out. The path has no dot segments, and what may not stand in it is written as
percent and two hexadecimal digits for each byte. A user name is no part of the address. -/
namespace AgentGraph.Chat

set_option autoImplicit false

inductive Address where
  /-- Something can be sent there. -/
  | usable (text : String)
  /-- An address that nothing can be sent to. -/
  | unusable (text : String)
  | invalid
deriving DecidableEq, Repr

namespace Address

/-! ## Schemes -/

inductive Scheme where
  /-- A scheme of the web, with its usual service number. -/
  | web (name : String) (usual : Nat)
  | file
  | other (name : String)
deriving DecidableEq, Repr

def webSchemes : List (String × Nat) :=
  [("http", 80), ("https", 443), ("ws", 80), ("wss", 443), ("ftp", 21)]

def Scheme.ofName (name : String) : Scheme :=
  if name = "file" then .file
  else
    match webSchemes.lookup name with
    | some usual => .web name usual
    | none => .other name

def Scheme.name : Scheme → String
  | .web name _ | .other name => name
  | .file => "file"

/-- The schemes that files and pages are named by treat both slashes alike. -/
def Scheme.isOther : Scheme → Bool
  | .other _ => true
  | _ => false

/-- Messages are sent by one protocol, in the open or not. -/
def Scheme.isSending (s : Scheme) : Bool := s.name == "http" || s.name == "https"

/-! ## Encoding -/

def hex (n : Nat) : Char := (Nat.digitChar (n % 16)).toUpper

def encodedByte (b : UInt8) : List Char := ['%', hex (b.toNat / 16), hex b.toNat]

def encodedChar (c : Char) : List Char :=
  (String.toUTF8 c.toString).toList.flatMap encodedByte

/-- Controls and what is not ASCII stand for themselves nowhere. -/
def isUnsafe (c : Char) : Bool := c.toNat < 0x20 || 0x7F ≤ c.toNat

def encoded (special : List Char) (cs : List Char) : List Char :=
  cs.flatMap fun c => if isUnsafe c || special.contains c then encodedChar c else [c]

def fragmentSpecial : List Char := [' ', '"', '<', '>', '\x60']

def pathSpecial : List Char := fragmentSpecial ++ ['#', '?', '\x7b', '\x7d']

def querySpecial (s : Scheme) : List Char :=
  [' ', '"', '#', '<', '>'] ++ if s.isOther then [] else ['\'']

/-- The bytes of a text in which each percent with two hexadecimal digits stands for one byte. -/
def decodedBytes : List Char → List UInt8
  | [] => []
  | '%' :: a :: b :: cs =>
    match Host.numberIn? 16 [a, b] with
    | some n => n.toUInt8 :: decodedBytes cs
    | none => (String.toUTF8 "%").toList ++ decodedBytes (a :: b :: cs)
  | c :: cs => (String.toUTF8 c.toString).toList ++ decodedBytes cs

def decoded? (cs : List Char) : Option (List Char) :=
  (String.fromUTF8? (decodedBytes cs).toByteArray).map String.toList

/-! ## Path -/

def isSlash (s : Scheme) (c : Char) : Bool := c == '/' || (!s.isOther && c == '\\')

/-- The segment with its encoded dots decoded. -/
def dots : List Char → List Char
  | '%' :: '2' :: e :: rest => if e = 'e' || e = 'E' then '.' :: dots rest else '%' :: '2' :: e :: rest
  | c :: rest => c :: dots rest
  | [] => []

/-- A segment that names a drive: a letter and a mark. -/
def isDrive : List Char → Bool
  | [c, mark] => c.isAlpha && (mark == ':' || mark == '|')
  | _ => false

/-- One segment less, the last one being first; a path never leaves a drive. -/
def parent : List (List Char) → List (List Char)
  | [] => []
  | s :: kept => if isDrive s then s :: kept else kept

/-- Takes the dot segments out; `kept` holds the segments before, the last one first. -/
def resolve (kept : List (List Char)) : List (List Char) → List (List Char)
  | [] => kept.reverse
  | s :: rest =>
    if dots s = ['.'] then resolve (if rest.isEmpty then [] :: kept else kept) rest
    else if dots s = ['.', '.'] then
      resolve (if rest.isEmpty then [] :: parent kept else parent kept) rest
    else resolve (s :: kept) rest

/-- The segments of what follows the host up to the query. -/
def segments (s : Scheme) (cs : List Char) : List (List Char) :=
  let rest := match cs with
    | [] => []
    | c :: rest => if isSlash s c then rest else cs
  resolve [] (Host.partsAt (isSlash s) rest)

def joined (segments : List (List Char)) : List Char :=
  segments.flatMap fun part => '/' :: encoded pathSpecial part

/-- The normal form of a query with its mark. -/
def query (s : Scheme) : List Char → List Char
  | '?' :: cs => '?' :: encoded (querySpecial s) cs
  | _ => []

/-- The normal form of a fragment with its mark. -/
def fragment : List Char → List Char
  | '#' :: cs => '#' :: encoded fragmentSpecial cs
  | _ => []

/-- The normal form of what follows the path. -/
def ending (s : Scheme) (cs : List Char) : List Char :=
  query s (cs.takeWhile (· ≠ '#')) ++ fragment (cs.dropWhile (· ≠ '#'))

def endsPath (c : Char) : Bool := c == '?' || c == '#'

def pathAndEnding (s : Scheme) (cs : List Char) : List Char :=
  joined (segments s (cs.takeWhile (!endsPath ·))) ++ ending s (cs.dropWhile (!endsPath ·))

/-! ## Host and service number -/

def bracketed? (cs : List Char) : Option (List Char) := do
  if cs.getLast? ≠ some ']' then none
  let groups ← Host.eightGroups? cs.dropLast
  return '[' :: Host.eightText groups ++ [']']

/-- The host of a scheme of the web. -/
def host? (cs : List Char) : Option (List Char) :=
  match cs with
  | '[' :: rest => bracketed? rest
  | cs => do
    let name ← Host.name? (← decoded? cs)
    if name.isEmpty then none
    else if Host.endsInNumber name then Host.fourBytes? name
    else return name

/-- Hosts of other schemes are taken as they are. -/
def otherHost? (cs : List Char) : Option (List Char) :=
  match cs with
  | '[' :: rest => bracketed? rest
  | cs =>
    if cs.any "\x00 #/:<>?@[\\]^|".toList.contains then none else some (encoded [] cs)

/-- The number after the colon as it is written, unless it is the usual one or there is none. -/
def serviceNumber? (usual : Option Nat) (cs : List Char) : Option (List Char) :=
  if !cs.all Char.isDigit then none
  else
    let n := Decimal.digitsValue cs
    if n > 65535 then none
    else if cs.isEmpty || some n = usual then some []
    else some (':' :: Host.decimal n)

/-- The host and what follows it; colons in brackets belong to the host. -/
def splitHost (inBrackets : Bool) : List Char → List Char × List Char
  | [] => ([], [])
  | c :: cs =>
    if c = ':' && !inBrackets then ([], c :: cs)
    else
      let rest := splitHost (if c = '[' then true else if c = ']' then false else inBrackets) cs
      (c :: rest.1, rest.2)

/-- The normal form of the host and the service number after it. -/
def authority? (s : Scheme) (cs : List Char) : Option (List Char) := do
  let (host, rest) := splitHost false cs
  match s with
  | .web _ usual => return (← host? host) ++ (← serviceNumber? (some usual) (rest.drop 1))
  | _ =>
    if host.isEmpty && !rest.isEmpty then none
    else return (← otherHost? host) ++ (← serviceNumber? none (rest.drop 1))

/-- What follows the last `@`. -/
def withoutUser (cs : List Char) : List Char :=
  (cs.reverse.takeWhile (· ≠ '@')).reverse

/-! ## Whole addresses -/

def endsAuthority (s : Scheme) (c : Char) : Bool := isSlash s c || endsPath c

/-- The normal form of an address, what follows its two slashes being given. -/
def withHost? (s : Scheme) (cs : List Char) : Option (List Char) := do
  let authority ← authority? s (withoutUser (cs.takeWhile (!endsAuthority s ·)))
  let rest := cs.dropWhile (!endsAuthority s ·)
  let tail :=
    if s.isOther && rest.head?.all endsPath then ending s rest else pathAndEnding s rest
  return "//".toList ++ authority ++ tail

/-- The host and the path of a file. A path on a drive is on no host; otherwise it begins with one
slash. -/
def hostAndFilePath (host : List Char) (segments : List (List Char)) : List Char :=
  match segments with
  | [c, mark] :: others =>
    if isDrive [c, mark] then joined ([c, ':'] :: others)
    else host ++ '/' :: (joined segments).dropWhile (· == '/')
  | _ => host ++ '/' :: (joined segments).dropWhile (· == '/')

/-- The normal form of the name of a file on a host. -/
def onHost (host cs : List Char) : List Char :=
  hostAndFilePath host (segments .file (cs.takeWhile (!endsPath ·))) ++
    ending .file (cs.dropWhile (!endsPath ·))

/-- The normal form of what follows `file:`. -/
def fileRest? (cs : List Char) : Option (List Char) := do
  match cs with
  | a :: b :: rest =>
    let host := rest.takeWhile (!endsAuthority .file ·)
    if !isSlash .file a || !isSlash .file b then return "//".toList ++ onHost [] cs
    else if isDrive host then return "//".toList ++ onHost [] rest
    else
      let host ← if host.isEmpty then some [] else host? host
      let host := if host = "localhost".toList then [] else host
      return "//".toList ++ onHost host (rest.dropWhile (!endsAuthority .file ·))
  | cs => return "//".toList ++ onHost [] cs

/-- The normal form of what follows the scheme and its colon. -/
def afterScheme? (s : Scheme) (cs : List Char) : Option (List Char) :=
  match s with
  | .web _ _ => withHost? s (cs.dropWhile (isSlash s))
  | .file => fileRest? cs
  | .other _ =>
    match cs with
    | '/' :: '/' :: rest => withHost? s rest
    | '/' :: _ => some (pathAndEnding s cs)
    | cs =>
      some (encoded [] (cs.takeWhile (!endsPath ·)) ++ ending s (cs.dropWhile (!endsPath ·)))

/-- Names that may be looked up but cannot be written into a request. -/
def hasUnsendable (cs : List Char) : Bool :=
  (cs.takeWhile (!endsAuthority (.other "") ·)).any ['"', '\x60', '\x7b', '\x7d'].contains

def isSchemeChar (c : Char) : Bool := c.isAlphanum || c == '+' || c == '-' || c == '.'

/-- Controls and spaces around are dropped, and so are tabs and line breaks everywhere. -/
def cleaned (text : String) : List Char :=
  let trimLeft (cs : List Char) : List Char := cs.dropWhile fun c => decide (c.toNat ≤ 0x20)
  (trimLeft (trimLeft text.toList).reverse).reverse.filter fun c =>
    c ≠ '\t' && c ≠ '\n' && c ≠ '\r'

/-- The scheme and what follows its colon. -/
def split? (cs : List Char) : Option (Scheme × List Char) :=
  let name := cs.takeWhile isSchemeChar
  match name, cs.dropWhile isSchemeChar with
  | first :: _, ':' :: rest =>
    if first.isAlpha then some (.ofName (String.ofList (name.map Char.toLower)), rest) else none
  | _, _ => none

def ofText (text : String) : Address :=
  match split? (cleaned text) with
  | none => .invalid
  | some (s, cs) =>
    match afterScheme? s cs with
    | none => .invalid
    | some rest =>
      let text := s.name ++ ":" ++ String.ofList rest
      if s.isSending && !hasUnsendable (rest.drop 2) then .usable text else .unusable text

end Address

end AgentGraph.Chat
