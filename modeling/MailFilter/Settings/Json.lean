import MailFilter.Json.Lexeme
import MailFilter.Settings.Basic

/-!
# Filter settings from JSON text

The filter section may be given as JSON, either as an object of its members or as a list of them
in the order of declaration. What is missing has its default, and members of other names are
passed over. The text is read from front to back and refused at the first thing that is wrong
with it, in one of two ways: it is **malformed** if it stops being JSON or has a form that no
member can have, and **unsuitable** if it is in order so far but says something that the section
cannot hold, such as a negative depth, an unknown name or a second value for a member.
-/

namespace MailFilter.FilterSettings

/-- The two ways in which a text can fail to be filter settings. -/
inductive Misfit where
  | malformed
  | unsuitable
deriving DecidableEq, Repr

/-- The members of the filter section. -/
inductive Member where
  | maxDepth
  | fallback
  | dialect
deriving DecidableEq, Repr

/-- The member that a key names. -/
def Member.ofName? (name : String) : Option Member :=
  if name = "max_depth" then some .maxDepth
  else if name = "field_fallback" then some .fallback
  else if name = "notation" then some .dialect
  else none

/-- What has been given so far. -/
structure Draft where
  maxDepth : Option Nat := none
  fallback : Option Fallback := none
  dialect : Option Dialect := none

/-- The settings when nothing more is given. -/
def Draft.settings (d : Draft) : FilterSettings :=
  { maxDepth := d.maxDepth.getD 32
    fallback := d.fallback.getD .strict
    dialect := d.dialect.getD .polish }

/-- Whether a member has been given. -/
def Draft.has (d : Draft) : Member → Bool
  | .maxDepth => d.maxDepth.isSome
  | .fallback => d.fallback.isSome
  | .dialect => d.dialect.isSome

/-- The fallback of a name, spelled exactly. -/
def fallbackNamed? (name : String) : Option Fallback :=
  [Fallback.permissive, .strict].find? fun f => f.name == name

/-- The dialect of a name, spelled exactly. -/
def dialectNamed? (name : String) : Option Dialect :=
  [Dialect.polish, .searchQuery].find? fun d => d.name == name

/-- How a text fails that has this lexeme where a value of another form is due. -/
def misfit (l : Json.Lexeme) : Misfit :=
  match l.kind with
  | .word (.ok _) | .number (.ok _) | .beginList | .beginObject => .unsuitable
  | .string parts close =>
    match Json.stringOf parts close with
    | .ok _ => .unsuitable
    | .error _ => .malformed
  | _ => .malformed

/-! ## Values of each form -/

/-- A natural number, and what is behind it. -/
def natural : List Json.Lexeme → Except Misfit (Nat × List Json.Lexeme)
  | [] => .error .malformed
  | l :: rest =>
    match l.kind with
    | .number (.ok (.integer i)) =>
      if 0 ≤ i.toInt then .ok (i.toInt.toNat, rest) else .error .unsuitable
    | .number (.ok (.unsigned u _)) => .ok (u.toNat, rest)
    | _ => .error (misfit l)

/-- A string, and what is behind it. -/
def name : List Json.Lexeme → Except Misfit (String × List Json.Lexeme)
  | [] => .error .malformed
  | l :: rest =>
    match l.kind with
    | .string parts close =>
      match Json.stringOf parts close with
      | .ok s => .ok (s, rest)
      | .error _ => .error .malformed
    | _ => .error (misfit l)

/-- One of a set of names, and what is behind it. -/
def choice {α : Type} (named? : String → Option α) (ls : List Json.Lexeme) :
    Except Misfit (α × List Json.Lexeme) := do
  let (s, rest) ← name ls
  match named? s with
  | some a => pure (a, rest)
  | none => throw .unsuitable

/-- Passes over one given lexeme. -/
def expect (wanted : Json.Lexeme.Kind → Bool) :
    List Json.Lexeme → Except Misfit (List Json.Lexeme)
  | [] => .error .malformed
  | l :: rest => if wanted l.kind then .ok rest else .error .malformed

/-- Passes over `null`. -/
def nothing : List Json.Lexeme → Except Misfit (List Json.Lexeme)
  | [] => .error .malformed
  | l :: rest =>
    match l.kind with
    | .word (.ok .null) => .ok rest
    | _ => .error (misfit l)

/-- One of a set of names as the value of a member: the name itself, or an object whose only key
is the name and whose value is `null`. -/
def choiceValue {α : Type} (named? : String → Option α) :
    List Json.Lexeme → Except Misfit (α × List Json.Lexeme)
  | [] => .error .malformed
  | l :: rest =>
    match l.kind with
    | .string .. => choice named? (l :: rest)
    | .beginObject => do
      let (a, rest) ← choice named? rest
      let rest ← expect (· matches .colon) rest
      let rest ← nothing rest
      let rest ← expect (· matches .endObject) rest
      pure (a, rest)
    | _ => .error .malformed

/-- Reads the value of a member into the draft. -/
def readMember (d : Draft) (ls : List Json.Lexeme) :
    Member → Except Misfit (Draft × List Json.Lexeme)
  | .maxDepth => do
    let (n, rest) ← natural ls
    pure ({ d with maxDepth := some n }, rest)
  | .fallback => do
    let (f, rest) ← choiceValue fallbackNamed? ls
    pure ({ d with fallback := some f }, rest)
  | .dialect => do
    let (n, rest) ← choiceValue dialectNamed? ls
    pure ({ d with dialect := some n }, rest)

/-! ## Values that are passed over -/

/-- What is due inside a value that is passed over. -/
inductive Gap where
  | value
  | firstItem
  | firstKey
  | nextKey
  | colon
  | separator

/-- Passes over the rest of a value, given the containers that are open, `true` for a list. It
has to be JSON, but neither the size of numbers nor the pairing of surrogates matters. -/
def skip : Gap → List Bool → List Json.Lexeme → Option (List Json.Lexeme)
  | _, _, [] => none
  | gap, outer, l :: rest =>
    let done := fun outer' : List Bool =>
      if outer'.isEmpty then some rest else skip .separator outer' rest
    let key := fun (_ : Unit) =>
      match l.kind with
      | .string _ (.quote _) => skip .colon outer rest
      | _ => none
    let value := fun (_ : Unit) =>
      match l.kind with
      | .beginList => skip .firstItem (true :: outer) rest
      | .beginObject => skip .firstKey (false :: outer) rest
      | .word (.ok _) | .number (.ok _) | .string _ (.quote _) => done outer
      -- the size of a number is judged only where the number is put to use
      | .number (.error fault) => if fault.reason = .numberOutOfRange then done outer else none
      | _ => none
    match gap, l.kind with
    | .firstItem, .endList => done (outer.drop 1)
    | .value, _ | .firstItem, _ => value ()
    | .firstKey, .endObject => done (outer.drop 1)
    | .firstKey, _ | .nextKey, _ => key ()
    | .colon, .colon => skip .value outer rest
    | .separator, .comma =>
      if outer.headD true then skip .value outer rest else skip .nextKey outer rest
    | .separator, .endList => if outer.headD false then done (outer.drop 1) else none
    | .separator, .endObject => if outer.headD true then none else done (outer.drop 1)
    | _, _ => none

/-! ## The two forms of the section -/

/-- Reads the value behind a key into the draft; a key of another name has a value of any form. -/
def readKeyed (d : Draft) (key : String) (ls : List Json.Lexeme) :
    Except Misfit (Draft × List Json.Lexeme) :=
  match Member.ofName? key with
  | some m =>
    if d.has m then .error .unsuitable
    else do
      let rest ← expect (· matches .colon) ls
      readMember d rest m
  | none => do
    let rest ← expect (· matches .colon) ls
    match skip .value [] rest with
    | some rest => pure (d, rest)
    | none => throw .malformed

/-- A key, behind which its value is read into the draft. Keys have to be strings. -/
def readEntry (d : Draft) : List Json.Lexeme → Except Misfit (Draft × List Json.Lexeme)
  | [] => .error .malformed
  | l :: rest =>
    match l.kind with
    | .string .. => do
      let (key, rest) ← name (l :: rest)
      readKeyed d key rest
    | _ => .error .malformed

/-- Reads the entries of an object, the first of which has been read; every round takes at least
one lexeme, so the number of lexemes bounds the rounds. -/
def readEntries : Nat → Draft → List Json.Lexeme → Except Misfit (Draft × List Json.Lexeme)
  | 0, _, _ => .error .malformed
  | _ + 1, _, [] => .error .malformed
  | rounds + 1, d, l :: rest =>
    match l.kind with
    | .endObject => .ok (d, rest)
    | .comma => do
      let (d, rest) ← readEntry d rest
      readEntries rounds d rest
    | _ => .error .malformed

/-- The members of an object whose opening brace has been read. -/
def readObject (ls : List Json.Lexeme) : Except Misfit (Draft × List Json.Lexeme) :=
  match ls with
  | [] => .error .malformed
  | l :: rest =>
    match l.kind with
    | .endObject => .ok ({}, rest)
    | _ => do
      let (d, rest) ← readEntry {} ls
      readEntries ls.length d rest

/-- The members of a list in order, `opening` until the first has been read; the list ends at its
closing bracket and may leave members out at its end. -/
def readList (opening : Bool) (d : Draft) : List Member → List Json.Lexeme →
    Except Misfit (Draft × List Json.Lexeme)
  | _, [] => .error .malformed
  | [], l :: rest => if l.kind matches .endList then .ok (d, rest) else .error .malformed
  | m :: ms, l :: rest =>
    match l.kind, opening with
    | .endList, _ => .ok (d, rest)
    | .comma, false =>
      match rest with
      | [] => .error .malformed
      | l' :: _ =>
        if l'.kind matches .endList then .error .malformed
        else do
          let (d, rest) ← readMember d rest m
          readList false d ms rest
    | _, true => do
      let (d, rest) ← readMember d (l :: rest) m
      readList false d ms rest
    | _, _ => .error .malformed

/-- Reads filter settings from JSON text. -/
def ofJsonText (text : String) : Except Misfit FilterSettings :=
  match Json.lexemes text.toList with
  | [] => .error .malformed
  | l :: rest => do
    let (d, rest) ←
      match l.kind with
      | .beginObject => readObject rest
      | .beginList => readList true {} [.maxDepth, .fallback, .dialect] rest
      | _ => .error (misfit l)
    if rest.isEmpty then pure d.settings else throw .malformed

end MailFilter.FilterSettings
