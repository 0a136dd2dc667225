import Mathlib.Algebra.BigOperators.Group.List.Basic
import Mathlib.Algebra.Order.Ring.Nat

/-!
# JSON values

`serde_json::Value` with the accessors that never fail: indexing by a key, and the integer views
of a number.
-/

namespace Json

/-- `serde_json::Number`: an integer that fits one of the two types, or the bits of a float. -/
inductive Number where
  | posInt (value : UInt64)
  | negInt (value : Int64)
  | float (bits : UInt64)
  deriving DecidableEq, Repr

/-- An object's entries have distinct keys. -/
inductive Value where
  | null
  | bool (value : Bool)
  | number (value : Number)
  | string (value : String)
  | array (values : List Value)
  | object (entries : List (String × Value))

namespace Value

/-- `value[key]`, which is null for a missing key and for anything but an object. -/
def index (key : String) : Value → Value
  | .object entries => (entries.lookup key).getD .null
  | _ => .null

/-- `Value::as_i64`. -/
def asI64 : Value → Option Int
  | .number (.posInt value) => if value.toNat < 2 ^ 63 then some value.toNat else none
  | .number (.negInt value) => some value.toInt
  | _ => none

/-- `Value::as_u64`. -/
def asU64 : Value → Option UInt64
  | .number (.posInt value) => some value
  | _ => none

/-- The integer that a value is. One too large for the two types is a float. -/
def integer? : Value → Option Int
  | .number (.posInt value) => some value.toNat
  | .number (.negInt value) => some value.toInt
  | _ => none

/-- An unsigned integer is an integer. -/
theorem integer?_of_asU64 {v : Value} {n : UInt64} (h : v.asU64 = some n) :
    v.integer? = some (n.toNat : Int) := by
  unfold asU64 at h
  split at h
  · cases h
    rfl
  · cases h

/-- An object with one entry. -/
def single (key : String) (value : Value) : Value :=
  .object [(key, value)]

/-- An unsigned integer. -/
def ofNat (n : Nat) : Value :=
  .number (.posInt (.ofNat n))

end Value

end Json
