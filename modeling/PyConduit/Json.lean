import Mathlib.Algebra.Order.Ring.Rat

/-!
# Decoded JSON values

What `json.loads` can return, with the operations the session layer applies to
it before it knows the type: truth, `len`, `get` and use as a dictionary key.
The decoder also accepts the three constants that are not JSON. A number is its
value, so 1 and 1.0 are not told apart. Field names of an object are distinct,
since the decoder keeps the last of equal ones.
-/

namespace PyConduit

set_option autoImplicit false

inductive NonFinite
  | nan
  | infinity
  | negativeInfinity
  deriving DecidableEq

inductive Json
  | null
  | bool (value : Bool)
  | number (value : Rat)
  | nonFinite (value : NonFinite)
  | str (text : String)
  | arr (items : List Json)
  | obj (fields : List (String × Json))

inductive Key
  | none
  | bool (value : Bool)
  | number (value : Rat)
  | nonFinite (value : NonFinite)
  | text (value : String)
  deriving DecidableEq

namespace Json

def truthy : Json → Bool
  | null => false
  | bool value => value
  | number value => value ≠ 0
  | nonFinite _ => true
  | str text => text ≠ ""
  | arr items => !items.isEmpty
  | obj fields => !fields.isEmpty

/-- `len`, which raises a TypeError where there is none. -/
def len : Json → Option Nat
  | str text => some text.length
  | arr items => some items.length
  | obj fields => some fields.length
  | _ => none

/-- The value as a dictionary key; hashing raises a TypeError where there is
none. -/
def key : Json → Option Key
  | null => some .none
  | bool value => some (.bool value)
  | number value => some (.number value)
  | nonFinite value => some (.nonFinite value)
  | str text => some (.text text)
  | arr _ => none
  | obj _ => none

def isText : Json → Bool
  | str _ => true
  | _ => false

/-- `dict.get`: a missing field and a null field read alike. -/
def get (fields : List (String × Json)) (name : String) : Json :=
  (fields.lookup name).getD .null

end Json

namespace Key

def json : Key → Json
  | .none => .null
  | .bool value => .bool value
  | .number value => .number value
  | .nonFinite value => .nonFinite value
  | .text value => .str value

/-- What `==` compares: True is 1 and False is 0. -/
def compared : Key → Key
  | .bool value => .number (if value then 1 else 0)
  | key => key

theorem json_key (key : Key) : key.json.key = some key := by
  cases key with
  | none => rfl
  | bool value => rfl
  | number value => rfl
  | nonFinite value => rfl
  | text value => rfl

theorem json_of_key {value : Json} {key : Key} (hashed : value.key = some key) :
    key.json = value := by
  cases value with
  | arr items => cases hashed
  | obj fields => cases hashed
  | _ =>
      cases hashed
      rfl

theorem compared_text_iff (key : Key) (text : String) :
    key.compared = .text text ↔ key = .text text := by
  cases key with
  | bool value => simp [compared]
  | _ => simp [compared]

end Key

end PyConduit
