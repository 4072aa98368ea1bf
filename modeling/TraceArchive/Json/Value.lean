import TraceArchive.Number.Double
/-!
JSON values.  An object is the list of its members in order of first appearance; `setMember` keeps
that order.  `same` is equality up to the order of members and the sign of zero.
-/

namespace TraceArchive

namespace Json

/-- The integers a number can hold exactly: those of 64 bits, signed or unsigned. -/
def IntegerFits (n : Int) : Prop :=
  -0x8000000000000000 ≤ n ∧ n < 0x10000000000000000

instance (n : Int) : Decidable (IntegerFits n) :=
  inferInstanceAs (Decidable (_ ∧ _))

/-- A number is an integer of 64 bits or a finite double. -/
inductive Number where
  | integer (value : Int) (fits : IntegerFits value)
  | double (value : Double)
  deriving DecidableEq

/-- A natural below `2 ^ 64` as a number. -/
def Number.ofUInt64 (n : UInt64) : Number :=
  .integer n.toNat ⟨by omega, by have := n.toNat_lt; omega⟩

/-- Equality of numbers: an integer is never a double, and the two zeros are the same. -/
def Number.same : Number → Number → Bool
  | .integer m _, .integer n _ => m == n
  | .double a, .double b => a.denotesSame b
  | _, _ => false

inductive Value where
  | null
  | bool (b : Bool)
  | number (n : Number)
  | string (s : String)
  | array (items : List Value)
  | object (members : List (String × Value))
  deriving Inhabited

/-- Sets a member.  A name already present keeps its place and takes the new value. -/
def setMember (members : List (String × α)) (name : String) (v : α) : List (String × α) :=
  match members with
  | [] => [(name, v)]
  | (k, w) :: rest => if k = name then (k, v) :: rest else (k, w) :: setMember rest name v

namespace Value

/-- The member of a name, if the value is an object that has one. -/
def get? (name : String) : Value → Option Value
  | .object members => members.lookup name
  | _ => none

def asString? : Value → Option String
  | .string s => some s
  | _ => none

mutual

/-- Equality of values: arrays item by item, objects member by member in any order. -/
def same : Value → Value → Bool
  | .null, .null => true
  | .bool a, .bool b => a == b
  | .number m, .number n => m.same n
  | .string s, .string t => s == t
  | .array xs, .array ys => sameItems xs ys
  | .object ms, .object ns => ms.length == ns.length && hasMembers ns ms
  | _, _ => false

def sameItems : List Value → List Value → Bool
  | [], [] => true
  | x :: xs, y :: ys => x.same y && sameItems xs ys
  | _, _ => false

/-- Each of the second members is found, with the same value, among the first. -/
def hasMembers (ns : List (String × Value)) : List (String × Value) → Bool
  | [] => true
  | (name, v) :: ms =>
    (match ns.lookup name with
      | some w => v.same w
      | none => false) && hasMembers ns ms

end

end Value

end Json

end TraceArchive
