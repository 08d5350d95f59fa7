/-! JSON data, the values that grammars produce and that user states hold. Integers keep the
range of a signed or unsigned 64-bit word, as the JSON reader gives them; every other number is
a double, kept as its bit pattern. Objects list their fields sorted by key, each key once. -/

namespace Descent

inductive Value where
  | null
  | bool (b : Bool)
  | int (n : Int)
  | float (bits : UInt64)
  | str (s : String)
  | arr (xs : List Value)
  | obj (fields : List (String × Value))
  deriving Inhabited, Repr

namespace Value

mutual
def depth : Value → Nat
  | .arr xs => 1 + depthItems xs
  | .obj fs => 1 + depthFields fs
  | _ => 0

def depthItems : List Value → Nat
  | [] => 0
  | x :: xs => max x.depth (depthItems xs)

def depthFields : List (String × Value) → Nat
  | [] => 0
  | (_, v) :: fs => max v.depth (depthFields fs)
end

def i64Min : Int := -9223372036854775808

def i64Max : Int := 9223372036854775807

def u64Max : Int := 18446744073709551615

def fitsI64 (n : Int) : Bool := decide (i64Min ≤ n ∧ n ≤ i64Max)

/-- An integer result of checked 64-bit arithmetic: `none` on overflow. -/
def checkedI64 (n : Int) : Option Int := if fitsI64 n then some n else none

def asI64? : Value → Option Int
  | .int n => checkedI64 n
  | _ => none

def asU64? : Value → Option Nat
  | .int n => if 0 ≤ n ∧ n ≤ u64Max then some n.toNat else none
  | _ => none

def asStr? : Value → Option String
  | .str s => some s
  | _ => none

def asArr? : Value → Option (List Value)
  | .arr xs => some xs
  | _ => none

def asObj? : Value → Option (List (String × Value))
  | .obj fs => some fs
  | _ => none

def field? (v : Value) (k : String) : Option Value :=
  match v with
  | .obj fs => fs.lookup k
  | _ => none

/-- Insert or replace a field, keeping the keys sorted. -/
def insertField (k : String) (v : Value) : List (String × Value) → List (String × Value)
  | [] => [(k, v)]
  | (k', v') :: fs =>
    if k = k' then (k, v) :: fs
    else if k < k' then (k, v) :: (k', v') :: fs
    else (k', v') :: insertField k v fs

/-- An object from fields in any order; a later duplicate key wins. -/
def ofFields (fs : List (String × Value)) : Value :=
  .obj (fs.foldl (fun acc kv => insertField kv.1 kv.2 acc) [])

end Value

end Descent
