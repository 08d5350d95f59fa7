import Descent.Value.Write
import Descent.Unicode.Char
/-! The small functions that grammar descriptions name: maps on values, updates of the state,
and arithmetic on signed 64-bit integers for operator chains. Every function is total: where
its rule does not apply it gives `null` (maps and arithmetic) or leaves the state alone
(updates). -/

namespace Descent

namespace Value

def parseSigned? (s : String) : Option Int :=
  let digitsValue? (ds : List Char) : Option Nat :=
    if ds.isEmpty || !ds.all Char.isDigit then none
    else some (ds.foldl (fun n c => 10 * n + (c.toNat - 48)) 0)
  match s.toList with
  | '-' :: ds => (digitsValue? ds).map fun n => -(n : Int)
  | '+' :: ds => (digitsValue? ds).map fun n => (n : Int)
  | ds => (digitsValue? ds).map fun n => (n : Int)

def parseI64? (s : String) : Option Int := (parseSigned? s).bind checkedI64

def parseU64? (s : String) : Option Nat :=
  match s.toList with
  | '-' :: _ => none
  | _ => (parseSigned? s).bind fun n => if 0 ≤ n ∧ n ≤ u64Max then some n.toNat else none

mutual
/-- Strings of nested arrays joined in order; `null` adds nothing and other values add their
JSON text. -/
def concatText : Value → String
  | .arr xs => concatItems xs
  | .str s => s
  | .null => ""
  | v => v.write

def concatItems : List Value → String
  | [] => ""
  | x :: xs => concatText x ++ concatItems xs
end

def sumI64? : Int → List Value → Option Int
  | acc, [] => some acc
  | acc, x :: xs => do
    let a ← x.asI64?
    let b ← checkedI64 (acc + a)
    sumI64? b xs

/-- The map that a value names, applied to `v`. An object is read by its `const` field, else by
its `tag` field; other fields are ignored. -/
def applyFn (f v : Value) : Value :=
  match f with
  | .str "id" => v
  | .str "len" =>
    match v with
    | .str s => .int s.length
    | .arr xs => .int xs.length
    | _ => .null
  | .str "concat" => .str v.concatText
  | .str "int" =>
    match v with
    | .str s => match parseI64? s with
      | some n => .int n
      | none => .null
    | .int _ | .float _ => v
    | _ => .null
  | .str "neg" =>
    match v.asI64? >>= fun n => checkedI64 (-n) with
    | some n => .int n
    | none => .null
  | .str "upper" =>
    match v with
    | .str s => .str (Unicode.upperString s)
    | _ => v
  | .str "sum" =>
    match v with
    | .arr xs => match sumI64? 0 xs with
      | some n => .int n
      | none => .null
    | _ => .null
  | .str "some" => .arr [v]
  | .obj fs =>
    match fs.lookup "const", fs.lookup "tag" with
    | some c, _ => c
    | none, some t => .arr [t, v]
    | none, none => .arr [f, v]
  | f => .arr [f, v]

def addToState (d : Int) (s : Value) : Value :=
  match s.asI64? >>= fun n => checkedI64 (n + d) with
  | some n => .int n
  | none => s

def pushOnto (x s : Value) : Value :=
  match s with
  | .arr xs => .arr (xs ++ [x])
  | _ => .arr [x]

/-- The state update that a value names. An object is read by an integer `add` field, else by its
`push` field; other fields are ignored. -/
def applyOp (op s : Value) : Value :=
  match op with
  | .str "inc" => addToState 1 s
  | .str "dec" => addToState (-1) s
  | .obj fs =>
    match (fs.lookup "add").bind asI64?, fs.lookup "push" with
    | some d, _ => addToState d s
    | none, some x => pushOnto x s
    | none, none => s
  | .str "pop" =>
    match s with
    | .arr xs => .arr xs.dropLast
    | _ => s
  | .str "clear" => .null
  | _ => s

/-- Checked power of a signed 64-bit integer. Bases other than `0` and `±1` overflow from the
exponent 64 on, and below that the exact power decides. -/
def checkedPow (x : Int) (e : Nat) : Option Int :=
  if x = 0 then some (if e = 0 then 1 else 0)
  else if x = 1 then some 1
  else if x = -1 then some (if e % 2 = 0 then 1 else -1)
  else if 64 ≤ e then none
  else checkedI64 (Int.pow x e)

/-- The operator `o` on signed 64-bit integers: checked `+ - * / % ^`, `max` and `min`.
Division and remainder round toward zero; an exponent must fit 32 unsigned bits. -/
def arith (o a b : Value) : Value :=
  let result : Option Int := do
    let x ← a.asI64?
    let y ← b.asI64?
    match o with
    | .str "+" => checkedI64 (x + y)
    | .str "-" => checkedI64 (x - y)
    | .str "*" => checkedI64 (x * y)
    | .str "/" => if y = 0 then none else checkedI64 (x.tdiv y)
    | .str "%" => if y = 0 ∨ (x = i64Min ∧ y = -1) then none else some (x.tmod y)
    | .str "^" => if 0 ≤ y ∧ y < 4294967296 then checkedPow x y.toNat else none
    | .str "max" => some (max x y)
    | .str "min" => some (min x y)
    | _ => none
  match result with
  | some n => .int n
  | none => .null

def triple (o a b : Value) : Value := .arr [o, a, b]

end Value

end Descent
