import Mathlib.Data.List.Basic

/-!
# JSON values

The values a JSON text denotes, with the accessors that return nothing on a
value of another shape.
-/

namespace Ccbd.Lib

/-- A JSON value. A number that is no integer is known by its text. -/
inductive Json where
  | null
  | bool (b : Bool)
  | num (n : Int)
  | float (text : String)
  | str (s : String)
  | arr (xs : List Json)
  | obj (fields : List (String × Json))
deriving Repr, Inhabited

namespace Json

/-- The field `key` of an object. -/
def get? (v : Json) (key : String) : Option Json :=
  match v with
  | obj fields => fields.lookup key
  | _ => none

/-- The text of a string value. -/
def asStr? : Json → Option String
  | str s => some s
  | _ => none

/-- The number, if it fits into 64 bits with a sign. -/
def asI64? : Json → Option Int
  | num n => if -9223372036854775808 ≤ n ∧ n ≤ 9223372036854775807 then some n else none
  | _ => none

/-- The number, if it fits into 64 bits without a sign. -/
def asU64? : Json → Option Nat
  | num n => if 0 ≤ n ∧ n ≤ 18446744073709551615 then some n.toNat else none
  | _ => none

/-- The value with the field `key` set; `null` becomes an object, and no other value has
fields. -/
def setField? (v : Json) (key : String) (x : Json) : Option Json :=
  match v with
  | obj fields => some (obj (fields.filter (·.1 ≠ key) ++ [(key, x)]))
  | null => some (obj [(key, x)])
  | _ => none

/-- The elements of an array value. -/
def asArray? : Json → Option (List Json)
  | arr xs => some xs
  | _ => none

/-- The string field `key` of an object. -/
def strField? (v : Json) (key : String) : Option String := (v.get? key).bind asStr?

/-- `null` for an absent text. -/
def ofOptStr : Option String → Json
  | none => null
  | some s => str s

/-- A value as a parser builds it: no object has two fields with one key. -/
inductive Valid : Json → Prop
  | null : Valid null
  | bool (b : Bool) : Valid (bool b)
  | num (n : Int) : Valid (num n)
  | float (text : String) : Valid (float text)
  | str (s : String) : Valid (str s)
  | arr {xs : List Json} (elements : ∀ x ∈ xs, Valid x) : Valid (arr xs)
  | obj {fields : List (String × Json)} (distinct : (fields.map Prod.fst).Nodup)
      (values : ∀ f ∈ fields, Valid f.2) : Valid (obj fields)

/-- What stands at a path of keys. -/
def at? (v : Json) : List String → Option Json
  | [] => some v
  | key :: path => (v.get? key).bind (·.at? path)

def isObj : Json → Bool
  | obj _ => true
  | _ => false

end Json

end Ccbd.Lib
