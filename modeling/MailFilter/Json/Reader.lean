import MailFilter.Json.Lexeme

/-!
# Reading a JSON value

The lexemes of a text are taken one at a time by a machine whose state says what is due next and
which containers are open around it. A state is one of a fixed set of situations, each with the
data that situation has, so a state that makes no sense cannot be written down: there is no key
without an object around it, and no item without a list.

At most 127 containers may be open at once. Reading ends well only in the state in which a
complete value has been read and no container is open.
-/

namespace MailFilter.Json

/-- An open container that waits for a value: a list with the items read so far, newest first,
or an object with its members so far and the key the value is for. -/
inductive Frame where
  | item (items : List Json)
  | member (members : List (String × Json)) (key : String)

/-- What is due. -/
inductive State where
  /-- A value, and nothing else. -/
  | value (outer : List Frame)
  /-- The first item of a list, or its end. -/
  | firstItem (outer : List Frame)
  /-- An item behind a comma. -/
  | nextItem (items : List Json) (outer : List Frame)
  /-- A comma behind an item, or the end of the list. -/
  | afterItem (items : List Json) (outer : List Frame)
  /-- The first key of an object, or its end. -/
  | firstKey (outer : List Frame)
  /-- A key behind a comma. -/
  | nextKey (members : List (String × Json)) (outer : List Frame)
  /-- The colon behind a key. -/
  | colon (members : List (String × Json)) (key : String) (outer : List Frame)
  /-- A comma behind a member, or the end of the object. -/
  | afterMember (members : List (String × Json)) (outer : List Frame)
  /-- Nothing: the value is complete. -/
  | complete (value : Json)

/-- The number of containers that may be open at once. -/
def maxOpen : Nat := 127

/-- The state after a value has been read inside the given containers. -/
def supply (v : Json) : List Frame → State
  | [] => .complete v
  | .item items :: outer => .afterItem (v :: items) outer
  | .member members key :: outer => .afterMember (insert key v members) outer

/-- The state inside a container that is opened inside others, unless too many are open. -/
def openInside (l : Lexeme) (outer : List Frame) (inside : State) : Except Fault State :=
  if outer.length < maxOpen then .ok inside else .error (l.refuse .tooDeep)

/-- Takes the first lexeme of a value. -/
def beginValue (l : Lexeme) (outer : List Frame) : Except Fault State :=
  match l.kind with
  | .beginList => openInside l outer (.firstItem outer)
  | .beginObject => openInside l outer (.firstKey outer)
  | .word value => value.map (supply · outer)
  | .number value => value.map fun n => supply (.number n) outer
  | .string parts close => (stringOf parts close).map fun s => supply (.string s) outer
  | _ => .error (l.refuse .expectedValue)

/-- Takes a lexeme. -/
def State.take (l : Lexeme) : State → Except Fault State
  | .value outer => beginValue l outer
  | .firstItem outer =>
    match l.kind with
    | .endList => .ok (supply (.array []) outer)
    | _ => beginValue l (.item [] :: outer)
  | .nextItem items outer =>
    match l.kind with
    | .endList => .error (l.refuse .trailingComma)
    | _ => beginValue l (.item items :: outer)
  | .afterItem items outer =>
    match l.kind with
    | .comma => .ok (.nextItem items outer)
    | .endList => .ok (supply (.array items.reverse) outer)
    | _ => .error (l.refuse .expectedListSeparator)
  | .firstKey outer =>
    match l.kind with
    | .endObject => .ok (supply (.object []) outer)
    | .string parts close => (stringOf parts close).map (.colon [] · outer)
    | _ => .error (l.refuse .keyNotAString)
  | .nextKey members outer =>
    match l.kind with
    | .endObject => .error (l.refuse .trailingComma)
    | .string parts close => (stringOf parts close).map (.colon members · outer)
    | _ => .error (l.refuse .keyNotAString)
  | .colon members key outer =>
    match l.kind with
    | .colon => .ok (.value (.member members key :: outer))
    | _ => .error (l.refuse .expectedColon)
  | .afterMember members outer =>
    match l.kind with
    | .comma => .ok (.nextKey members outer)
    | .endObject => .ok (supply (.object members) outer)
    | _ => .error (l.refuse .expectedObjectSeparator)
  | .complete _ => .error (l.refuse .trailingCharacters)

/-- The value that has been read when the text ends, or what was missing. -/
def State.finish : State → Except Fault Json
  | .value _ | .nextItem .. | .nextKey .. => .error ⟨.endInValue, 0⟩
  | .firstItem _ | .afterItem .. => .error ⟨.endInList, 0⟩
  | .firstKey _ | .colon .. | .afterMember .. => .error ⟨.endInObject, 0⟩
  | .complete v => .ok v

/-- Takes lexemes in order, up to the first fault. -/
def State.takeAll : List Lexeme → State → Except Fault State
  | [], s => .ok s
  | l :: rest, s =>
    match s.take l with
    | .ok s' => takeAll rest s'
    | .error fault => .error fault

/-- Reads a text as one JSON value. -/
def read (text : String) : Except Fault Json :=
  match State.takeAll (lexemes text.toList) (.value []) with
  | .ok s => s.finish
  | .error fault => .error fault

end MailFilter.Json
