import MailFilter.Decimal.Reading

/-!
# JSON values

Payloads travel as JSON. A number is kept in the form in which a filter will use it: an integer
of the signed 64-bit range, an unsigned integer above that range, or a finite float; which of
the three a numeral denotes is settled once, when it is read, and the constructors admit no
overlap. The members of an object are a list of pairs, and `insert` is what keeps that list in
**ascending order of its keys, one member a key**: the order of characters by code point, which
is also the order of the bytes of their encoding.
-/

namespace MailFilter

/-- A JSON number. The three forms are disjoint: an unsigned one lies above every signed one,
and a float is finite. -/
inductive Json.Number where
  | integer (i : Int64)
  | unsigned (u : UInt64) (above : Decimal.signedEnd ≤ u.toNat)
  | float (x : Float) (finite : x.isFinite = true)
deriving DecidableEq

/-- A JSON value. -/
inductive Json where
  | null
  | bool (b : Bool)
  | number (n : Json.Number)
  | string (s : String)
  | array (items : List Json)
  | object (members : List (String × Json))
deriving Inhabited

/-- An unsigned integer below the signed end is the same number when it is signed. -/
theorem toInt_toInt64 {u : UInt64} (h : u.toNat < Decimal.signedEnd) :
    u.toInt64.toInt = u.toNat := by
  show u.toBitVec.toInt = u.toBitVec.toNat
  refine BitVec.toInt_eq_toNat_of_lt ?_
  show 2 * u.toNat < 2 ^ 64
  simp only [Decimal.signedEnd] at h
  omega

namespace Json

/-- The number of an unsigned 64-bit integer. -/
def Number.ofUInt64 (u : UInt64) : Number :=
  if h : Decimal.signedEnd ≤ u.toNat then .unsigned u h else .integer u.toInt64

/-- The number of a float, if it is finite. -/
def Number.ofFloat? (x : Float) : Option Number :=
  if h : x.isFinite = true then some (.float x h) else none

/-- Puts a member at its place; a key that is there already gets the new value. -/
def insert (key : String) (value : Json) : List (String × Json) → List (String × Json)
  | [] => [(key, value)]
  | (k, v) :: rest =>
    if key < k then (key, value) :: (k, v) :: rest
    else if key = k then (key, value) :: rest
    else (k, v) :: insert key value rest

/-- An object with a single member. -/
def single (key : String) (value : Json) : Json :=
  .object [(key, value)]

/-! ## Members stay in order -/

/-- Keys strictly ascending, hence also pairwise different. -/
def Ascending (members : List (String × Json)) : Prop :=
  members.Pairwise fun a b => a.1 < b.1

/-- The keys after an insertion are the keys before it and the new one. -/
theorem mem_keys_insert {key k : String} {value : Json} {members : List (String × Json)} :
    k ∈ (insert key value members).map Prod.fst ↔ k = key ∨ k ∈ members.map Prod.fst := by
  induction members with
  | nil => simp [insert]
  | cons m rest ih =>
    obtain ⟨k', v'⟩ := m
    unfold insert
    split
    · simp
    split
    · rename_i h
      subst h
      simp
    · simp only [List.map_cons, List.mem_cons, ih]
      constructor
      · rintro (h | h | h) <;> simp [h]
      · rintro (h | h | h) <;> simp [h]

/-- Insertion keeps the members in order. -/
theorem ascending_insert {key : String} {value : Json} {members : List (String × Json)}
    (h : Ascending members) : Ascending (insert key value members) := by
  induction members with
  | nil => simp [insert, Ascending]
  | cons m rest ih =>
    obtain ⟨k', v'⟩ := m
    have hrest : ∀ p ∈ rest, k' < p.1 := (List.pairwise_cons.mp h).1
    have htail : Ascending rest := (List.pairwise_cons.mp h).2
    unfold insert
    split
    · rename_i hlt
      refine List.pairwise_cons.mpr ⟨?_, h⟩
      intro p hp
      rcases List.mem_cons.mp hp with rfl | hp
      · exact hlt
      · exact String.lt_trans hlt (hrest p hp)
    split
    · rename_i heq
      subst heq
      exact List.pairwise_cons.mpr ⟨hrest, htail⟩
    · rename_i hlt hne
      refine List.pairwise_cons.mpr ⟨?_, ih htail⟩
      intro p hp
      have hk := mem_keys_insert.mp (List.mem_map_of_mem hp)
      rcases hk with hk | hk
      · show k' < p.1
        rw [hk]
        exact Std.not_le.mp fun hle => hlt (Std.lt_of_le_of_ne hle hne)
      · obtain ⟨q, hq, hqe⟩ := List.mem_map.mp hk
        show k' < p.1
        rw [← hqe]
        exact hrest q hq

end Json

end MailFilter
