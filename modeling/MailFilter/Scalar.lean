import MailFilter.Json.Printer

/-!
# Literal values

A scalar is what a filter compares a field with: null, a boolean, an integer of the signed
64-bit range, an unsigned 64-bit integer, a float or a text.

The unsigned form is meant for integers above the signed range, and that is all a payload can
yield; a filter built by hand may hold a small one, which then prints like the signed integer of
the same value and comes back as that integer from JSON. Likewise a float built by hand may be
infinite or no number at all, for which JSON has only `null`.
-/

namespace MailFilter

/-- A literal value. -/
inductive Scalar where
  | null
  | bool (b : Bool)
  | integer (i : Int64)
  | unsigned (u : UInt64)
  | float (x : Float)
  | string (s : String)
deriving DecidableEq, Inhabited

namespace Scalar

/-- Equality as numbers and texts compare: a float that is no number differs from itself, and
the two zeros are equal. Values of different forms are never equal. -/
def same : Scalar → Scalar → Bool
  | null, null => true
  | bool a, bool b => a == b
  | integer a, integer b => a == b
  | unsigned a, unsigned b => a == b
  | float a, float b => a == b
  | string a, string b => a == b
  | _, _ => false

instance : BEq Scalar := ⟨same⟩

/-- The text shown for a value. Null shows as nothing, a text as itself. -/
def text : Scalar → String
  | null => ""
  | bool true => "true"
  | bool false => "false"
  | integer i => toString i.toInt
  | unsigned u => toString u.toNat
  | float x => Decimal.shown x
  | string s => s

/-- The boolean of a boolean literal. -/
def asBool? : Scalar → Option Bool
  | bool b => some b
  | _ => none

/-- The scalar of an unsigned integer: signed wherever the signed range holds it. -/
def ofUInt64 (u : UInt64) : Scalar :=
  if Decimal.signedEnd ≤ u.toNat then unsigned u else integer u.toInt64

/-! ## Scalars and JSON -/

/-- The scalar of a JSON number. -/
def ofNumber : Json.Number → Scalar
  | .integer i => integer i
  | .unsigned u _ => unsigned u
  | .float x _ => float x

/-- The JSON form of a value; floats that are not finite have only `null`. -/
def toJson : Scalar → Json
  | null => .null
  | bool b => .bool b
  | integer i => .number (.integer i)
  | unsigned u => .number (Json.Number.ofUInt64 u)
  | float x => (Json.Number.ofFloat? x).elim .null .number
  | string s => .string s

end Scalar

end MailFilter
