import SensorLink.Decimal.Layout

/-!
# JSON values

Settings updates come in as free-form JSON and decoded readings go out as such. This is the value
type for both. Numbers keep the three shapes that the readers of settings can tell apart: an integer
that fits in 64 bits, with or without a sign, and everything else as a double.

An object is a list of members in the order in which they are written. A value that was *read* has
each key once and the keys in order (see `Json.normal`); a value that the library builds has its
members in the order in which they are to be shown.
-/

namespace SensorLink

/-- A number of a JSON text. -/
inductive Json.Number where
  /-- A non-negative integer below `2 ^ 64`. -/
  | natural (n : Nat)
  /-- The integer `-n`, for `0 < n ≤ 2 ^ 63`. -/
  | negative (n : Nat)
  /-- Any other number. -/
  | real (x : Binary64)
  deriving DecidableEq, Repr

/-- A JSON value. -/
inductive Json where
  | null
  | bool (b : Bool)
  | number (n : Json.Number)
  | string (s : String)
  | array (items : List Json)
  | object (members : List (String × Json))
  deriving Repr, Inhabited

namespace Json

/-- A natural number as a value. -/
def nat (n : Nat) : Json := .number (.natural n)

/-- An integer as a value. -/
def int (i : Int) : Json :=
  .number (if i < 0 then .negative i.natAbs else .natural i.natAbs)

/-- A double as a value; what is no finite number has no JSON form and becomes `null`. -/
def ofDouble (x : Binary64) : Json :=
  if x.isFinite then .number (.real x) else .null

/-- A value that may be missing. -/
def ofOption (encode : α → Json) : Option α → Json
  | none => .null
  | some a => encode a

/-! ## Members in order -/

/-- Puts a member into a list sorted by key, replacing one of the same key. -/
def insertMember (key : String) (value : β) : List (String × β) → List (String × β)
  | [] => [(key, value)]
  | (k, v) :: rest =>
    if key = k then (key, value) :: rest
    else if key < k then (key, value) :: (k, v) :: rest
    else (k, v) :: insertMember key value rest

/-- The members sorted by key, each key once; of two members with one key the later is kept. -/
def sortMembers (members : List (String × β)) : List (String × β) :=
  members.foldl (fun sorted (k, v) => insertMember k v sorted) []

/-- The value of a key. -/
def member? (key : String) (members : List (String × β)) : Option β :=
  (members.find? fun m => m.1 = key).map (·.2)

theorem member?_insertMember (key other : String) (value : β) (members : List (String × β)) :
    member? other (insertMember key value members)
      = if key = other then some value else member? other members := by
  induction members with
  | nil => by_cases h : key = other <;> simp [insertMember, member?, h]
  | cons m rest ih =>
    obtain ⟨k, v⟩ := m
    simp only [insertMember]
    split
    · rename_i hk
      subst hk
      by_cases h : key = other <;> simp [member?, h]
    · rename_i hk
      split
      · by_cases h : key = other <;> simp [member?, h]
      · by_cases h : k = other
        · subst h
          simp [member?, hk]
        · have ih' := ih
          simp only [member?] at ih' ⊢
          simp [h, ih']

mutual
/-- The same value with the members of every object sorted by key, each key once. -/
def normal : Json → Json
  | .array items => .array (normalItems items)
  | .object members => .object (sortMembers (normalMembers members))
  | .null => .null
  | .bool b => .bool b
  | .number n => .number n
  | .string s => .string s

/-- `normal` of every item. -/
def normalItems : List Json → List Json
  | [] => []
  | item :: rest => normal item :: normalItems rest

/-- `normal` of every member's value. -/
def normalMembers : List (String × Json) → List (String × Json)
  | [] => []
  | (key, value) :: rest => (key, normal value) :: normalMembers rest
end

end Json
end SensorLink
