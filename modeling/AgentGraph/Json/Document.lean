import AgentGraph.Json.Lexeme

/-! JSON documents: what a reader has before it.

A document is a tree whose leaves may be faulty, cut off where the text stops being JSON. It keeps
every place that a fault may be reported at. Nothing is decided when a document is made: whoever
reads it meets its faults in the order of the text, and whoever skips a part of it meets only the
faults of skipping. A value that is already there is a document without places and without
faults. -/
namespace AgentGraph.Json

set_option autoImplicit false

/-! ## Documents -/

/-- How the items of a list or the members of an object end. -/
inductive Close where
  /-- With the bracket due, and the offset after it. -/
  | closed (stop : Option Nat)
  /-- The last item is cut off. -/
  | cut
  /-- The text ends where a comma or the bracket is due. -/
  | endOfText (offset : Nat)
  /-- The text ends after a comma. -/
  | endAfterComma (offset : Nat)
  /-- Something else stands where a comma or the bracket is due. -/
  | unseparated (offset : Nat)
  /-- The bracket follows a comma. -/
  | trailingComma (offset : Nat)
  /-- Something else stands where a key is due. -/
  | noKey (offset : Nat)

/-- A key, and how far its object is taken in by one who stops at the key: up to what follows it,
and past the bracket if that is what follows. -/
structure Key where
  name : Except Fault String
  stop : Option Nat

inductive Doc where
  | scalar (stop : Option Nat) (start : Option Nat) (content : Except Fault Scalar)
  | list (start : Option Nat) (items : List Doc) (close : Close)
  | object (start : Option Nat) (members : List (Key × Doc)) (close : Close)
  /-- No value: the fault for one who reads it and the fault for one who skips it. -/
  | broken (start : Option Nat) (reading skipping : Fault)

def Doc.start : Doc → Option Nat
  | .scalar _ start _ | .list start _ _ | .object start _ _ | .broken start _ _ => start

def Close.stop : Close → Option Nat
  | .closed stop => stop
  | _ => none

/-! ## Faults of an ending -/

def Close.listFault : Close → Option Fault
  | .closed _ | .cut => none
  | .endOfText offset => some (fault .endInList offset)
  | .endAfterComma offset => some (fault .endInValue offset)
  | .unseparated offset => some (fault .listCommaExpected offset)
  | .trailingComma offset => some (fault .trailingComma offset)
  | .noKey offset => some (fault .valueExpected offset)

def Close.listFaultSkipping : Close → Option Fault
  | .trailingComma offset => some (fault .valueExpected offset)
  | close => close.listFault

def Close.objectFault : Close → Option Fault
  | .closed _ | .cut => none
  | .endOfText offset => some (fault .endInObject offset)
  | .endAfterComma offset => some (fault .endInValue offset)
  | .unseparated offset => some (fault .objectCommaExpected offset)
  | .trailingComma offset => some (fault .trailingComma offset)
  | .noKey offset => some (fault .keyExpected offset)

def Close.objectFaultSkipping : Close → Option Fault
  | .endAfterComma offset => some (fault .endInObject offset)
  | .trailingComma offset => some (fault .keyExpected offset)
  | close => close.objectFault

/-- The fault when all the items that were asked for are there and the list should end. -/
def Close.surplusFault : Close → Option Fault
  | .closed _ | .cut => none
  | .endOfText offset => some (fault .endInList offset)
  | .trailingComma offset => some (fault .trailingComma offset)
  | .endAfterComma offset | .unseparated offset | .noKey offset =>
    some (fault .trailingCharacters offset)

/-! ## Assembling lexemes -/

/-- A container that is still open, with what it holds so far, the last part first. An object
whose member is being read holds the key of that member. -/
inductive Frame where
  | list (start : Nat) (items : List Doc)
  | object (start : Nat) (members : List (Key × Doc)) (key : Option Key)

/-- What may come next. -/
inductive Due where
  /-- A value: at the very beginning, or after a colon. -/
  | value
  /-- An item of the innermost list; `first` while the list is empty. -/
  | item (first : Bool)
  /-- A key of the innermost object; `first` while the object is empty. -/
  | key (first : Bool)
  | colon
  /-- A comma or the bracket of the innermost container. -/
  | separator

def Frame.close (close : Close) : Frame → Doc
  | .list start items => .list (some start) items.reverse close
  | .object start members _ => .object (some start) members.reverse close

/-- The frame with one more value. -/
def Frame.push (d : Doc) : Frame → Frame
  | .list start items => .list start (d :: items)
  | .object start members (some key) => .object start ((key, d) :: members) none
  | .object start members none => .object start members none

/-- The whole document when its innermost part is `d` and nothing can follow. -/
def cutOff (d : Doc) : List Frame → Doc
  | [] => d
  | f :: fs => cutOff ((f.push d).close .cut) fs

/-- The document that breaks off in the innermost container with this ending. -/
def breakOff (close : Close) : List Frame → Doc
  | [] => .broken none (fault .endInValue 0) (fault .endInValue 0)
  | f :: fs => cutOff (f.close close) fs

def brokenAt (cause : Cause) (offset : Nat) : Doc :=
  .broken (some offset) (fault cause offset) (fault cause offset)

/-- The document of the lexemes that are left, with the containers that are open and what is due;
and the offset of the first lexeme after the document. -/
def assemble (size : Nat) (frames : List Frame) (due : Due) : List Lexeme → Doc × Option Nat
  | [] =>
    match due with
    | .value => (cutOff (brokenAt .endInValue size) frames, none)
    | .item first => (breakOff (if first then .endOfText size else .endAfterComma size) frames, none)
    | .key first => (breakOff (if first then .endOfText size else .endAfterComma size) frames, none)
    | .colon => (cutOff (brokenAt .endInObject size) frames, none)
    | .separator => (breakOff (.endOfText size) frames, none)
  | l :: rest =>
    let stop := match rest with
      | [] => size
      | n :: _ =>
        match n.token with
        | .closeObject => n.stop
        | _ => n.start
    let complete (d : Doc) (frames : List Frame) : Doc × Option Nat :=
      match frames with
      | [] => (d, rest.head?.map Lexeme.start)
      | f :: fs => assemble size (f.push d :: fs) .separator rest
    let value (_ : Unit) : Doc × Option Nat :=
      match l.token with
      | .openList => assemble size (.list l.start [] :: frames) (.item true) rest
      | .openObject => assemble size (.object l.start [] none :: frames) (.key true) rest
      | .scalar content => complete (.scalar (some l.stop) (some l.start) content) frames
      | .string content =>
        complete (.scalar (some l.stop) (some l.start) (content.map .string)) frames
      | .broken reading skipping | .brokenString reading skipping =>
        (cutOff (.broken (some l.start) reading skipping) frames, none)
      | .closeList | .closeObject | .comma | .colon =>
        let f := fault .valueExpected (l.start + 1)
        (cutOff (.broken (some l.start) f f) frames, none)
    match due with
    | .value => value ()
    | .item first =>
      match l.token with
      | .closeList =>
        if first then
          match frames with
          | [] => (breakOff .cut frames, none)
          | f :: fs => complete (f.close (.closed (some l.stop))) fs
        else (breakOff (.trailingComma (l.start + 1)) frames, none)
      | _ => value ()
    | .key first =>
      match l.token with
      | .closeObject =>
        if first then
          match frames with
          | [] => (breakOff .cut frames, none)
          | f :: fs => complete (f.close (.closed (some l.stop))) fs
        else (breakOff (.trailingComma (l.start + 1)) frames, none)
      | .string name =>
        match frames with
        | .object start members _ :: fs =>
          assemble size (.object start members (some ⟨name, some stop⟩) :: fs) .colon rest
        | frames => (breakOff .cut frames, none)
      | .brokenString reading skipping =>
        match frames with
        | .object start members _ :: fs =>
          (cutOff (.broken (some l.start) reading skipping)
            (.object start members (some ⟨.error reading, none⟩) :: fs), none)
        | frames => (breakOff .cut frames, none)
      | _ => (breakOff (.noKey (l.start + 1)) frames, none)
    | .colon =>
      match l.token with
      | .colon => assemble size frames .value rest
      | _ => (cutOff (brokenAt .colonExpected (l.start + 1)) frames, none)
    | .separator =>
      match l.token, frames with
      | .comma, .list start items :: fs => assemble size (.list start items :: fs) (.item false) rest
      | .comma, .object start members key :: fs =>
        assemble size (.object start members key :: fs) (.key false) rest
      | .closeList, .list start items :: fs =>
        complete (.list (some start) items.reverse (.closed (some l.stop))) fs
      | .closeObject, .object start members _ :: fs =>
        complete (.object (some start) members.reverse (.closed (some l.stop))) fs
      | _, frames => (breakOff (.unseparated (l.start + 1)) frames, none)

/-- The document of a text, and the offset of what follows it. -/
def Doc.ofChars (cs : List Char) : Doc × Option Nat :=
  assemble (byteCount cs) [] .value (lexemes 0 cs)

/-! ## Documents of values -/

mutual

def Doc.ofJson : Json → Doc
  | .null => .scalar none none (.ok .null)
  | .bool b => .scalar none none (.ok (.bool b))
  | .number n => .scalar none none (.ok (.number n))
  | .string s => .scalar none none (.ok (.string s))
  | .array items => .list none (itemsOfJson items) (.closed none)
  | .object members => .object none (membersOfJson members) (.closed none)

def itemsOfJson : List Json → List Doc
  | [] => []
  | item :: rest => Doc.ofJson item :: itemsOfJson rest

def membersOfJson : List (String × Json) → List (Key × Doc)
  | [] => []
  | (name, value) :: rest => (⟨.ok name, none⟩, Doc.ofJson value) :: membersOfJson rest

end

end AgentGraph.Json
