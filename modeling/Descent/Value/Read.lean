import Descent.Value.Basic
import Descent.Value.Numeral
/-! Reading JSON text. Integers without a fraction or exponent stay integers while they fit a
signed or unsigned 64-bit word; every other number becomes a double as `Numeral` reads it. A repeated key
keeps its last value, arrays and objects nest fewer than 128 deep, and a lone surrogate escape
is refused. Errors name what was expected and where, by line and byte column. -/

namespace Descent

namespace Value

/-- Why a text is not JSON, and the line and column where reading stopped. -/
structure ReadError where
  message : String
  line : Nat
  column : Nat
  deriving Repr, Inhabited

def ReadError.display (e : ReadError) : String :=
  e.message ++ " at line " ++ toString e.line ++ " column " ++ toString e.column

structure Input where
  chars : List Char
  line : Nat
  column : Nat

namespace Input

def next (i : Input) : Input :=
  match i.chars with
  | [] => i
  | c :: cs => if c = '\n' then ⟨cs, i.line + 1, 0⟩ else ⟨cs, i.line, i.column + c.utf8Size⟩

def peek? (i : Input) : Option Char := i.chars.head?

def fail {α : Type} (i : Input) (m : String) : Except ReadError α := .error ⟨m, i.line, i.column⟩

def failNext {α : Type} (i : Input) (m : String) : Except ReadError α := i.next.fail m

/-- An error just after the first byte of the next character, where a reader that steps
through bytes stops. -/
def failByte {α : Type} (i : Input) (m : String) : Except ReadError α :=
  match i.chars with
  | c :: _ => if c.toNat < 128 then i.failNext m else .error ⟨m, i.line, i.column + 1⟩
  | [] => i.fail m

def skip : Nat → Input → Input
  | 0, i => i
  | n + 1, i => skip n i.next

def skipBlanks : Nat → Input → Input
  | 0, i => i
  | n + 1, i =>
    match i.peek? with
    | some c => if c = ' ' ∨ c = '\n' ∨ c = '\t' ∨ c = '\r' then skipBlanks n i.next else i
    | none => i

end Input

def hexValue? (c : Char) : Option Nat :=
  if '0' ≤ c ∧ c ≤ '9' then some (c.toNat - 48)
  else if 'a' ≤ c ∧ c ≤ 'f' then some (c.toNat - 87)
  else if 'A' ≤ c ∧ c ≤ 'F' then some (c.toNat - 55)
  else none

/-- Four hex digits of a `\u` escape. Fewer than four bytes left in the whole text is the end
of the text inside a string, reported where the text ends. -/
def readHex4 (i : Input) : Except ReadError (Nat × Input) :=
  let rec go : Nat → Nat → Input → Except ReadError (Nat × Input)
    | 0, acc, j => .ok (acc, j)
    | k + 1, acc, j =>
      match j.peek? with
      | none => j.fail "EOF while parsing a string"
      | some c =>
        match hexValue? c with
        | some d => go k (16 * acc + d) j.next
        | none => j.failByte "invalid escape"
  if ((i.chars.take 4).map Char.utf8Size).foldl (· + ·) 0 < 4 then
    (Input.skip i.chars.length i).fail "EOF while parsing a string"
  else go 4 0 i

def readString : Nat → List Char → Input → Except ReadError (String × Input)
  | 0, _, i => i.fail "EOF while parsing a string"
  | fuel + 1, acc, i =>
    match i.peek? with
    | none => i.fail "EOF while parsing a string"
    | some '"' => .ok (String.ofList acc.reverse, i.next)
    | some '\\' =>
      let j := i.next
      match j.peek? with
      | none => j.fail "EOF while parsing a string"
      | some e =>
        let k := j.next
        let simple (c : Char) := readString fuel (c :: acc) k
        if e = '"' then simple '"' else if e = '\\' then simple '\\'
        else if e = '/' then simple '/' else if e = 'b' then simple '\x08'
        else if e = 'f' then simple '\x0c' else if e = 'n' then simple '\n'
        else if e = 'r' then simple '\r' else if e = 't' then simple '\t'
        else if e = 'u' then
          match readHex4 k with
          | .error err => .error err
          | .ok (hi, k') =>
            if 0xDC00 ≤ hi ∧ hi < 0xE000 then k'.fail "lone leading surrogate in hex escape"
            else if 0xD800 ≤ hi ∧ hi < 0xDC00 then
              match k'.chars with
              | '\\' :: 'u' :: _ =>
                match readHex4 k'.next.next with
                | .error err => .error err
                | .ok (lo, k'') =>
                  if 0xDC00 ≤ lo ∧ lo < 0xE000 then
                    readString fuel (Char.ofNat (0x10000 + (hi - 0xD800) * 0x400 + (lo - 0xDC00)) :: acc) k''
                  else k''.fail "lone leading surrogate in hex escape"
              | '\\' :: _ :: _ => k'.next.failByte "unexpected end of hex escape"
              | ['\\'] => k'.next.fail "EOF while parsing a string"
              | _ :: _ => k'.failByte "unexpected end of hex escape"
              | [] => k'.fail "EOF while parsing a string"
            else readString fuel (Char.ofNat hi :: acc) k'
        else k.fail "invalid escape"
    | some c =>
      if c.toNat < 0x20 then i.failNext "control character (\\u0000-\\u001F) found while parsing a string"
      else readString fuel (c :: acc) i.next

def readDigits : Nat → List Char → Input → List Char × Input
  | 0, acc, i => (acc.reverse, i)
  | fuel + 1, acc, i =>
    match i.peek? with
    | some c => if c.isDigit then readDigits fuel (c :: acc) i.next else (acc.reverse, i)
    | none => (acc.reverse, i)

def digitValue (c : Char) : Nat := c.toNat - 48

def scaledNumber (neg : Bool) (sig : Nat) (e : Int) (i : Input) : Except ReadError (Value × Input) :=
  match Numeral.toBits? neg sig e with
  | some bits => .ok (.float bits, i)
  | none => i.fail "number out of range"

/-- The exponent of a number and the number it ends, from the `e` on. An exponent too large
for 32 bits is out of range when it is positive and the significand is not zero, and gives
zero otherwise. -/
def readExponent (fuel : Nat) (neg : Bool) (sig : Nat) (e : Int) (i : Input) :
    Except ReadError (Value × Input) :=
  let i := i.next
  let (eneg, i) :=
    match i.peek? with
    | some '-' => (true, i.next)
    | some '+' => (false, i.next)
    | _ => (false, i)
  match i.peek? with
  | none => i.fail "EOF while parsing a value"
  | some c =>
    if !c.isDigit then i.failNext "invalid number"
    else
      let (es, j) := readDigits fuel [] i
      match Numeral.exponentValue (es.map digitValue) 0 0 with
      | .error k =>
        if sig ≠ 0 ∧ !eneg then (Input.skip (k + 1) i).fail "number out of range"
        else .ok (.float (if neg then 0x8000000000000000 else 0), j)
      | .ok x => scaledNumber neg sig (if eneg then e - x else e + x) j

/-- A number, starting at its sign or first digit. Without a fraction or exponent it is an
integer while it fits a signed or unsigned 64-bit word, `-0` apart, which is a double. -/
def readNumber (fuel : Nat) (i : Input) : Except ReadError (Value × Input) :=
  let (neg, i) := if i.peek? = some '-' then (true, i.next) else (false, i)
  let (intDigits, j) := readDigits fuel [] i
  match intDigits with
  | [] => if i.peek? = none then i.fail "EOF while parsing a value" else i.failNext "invalid number"
  | d0 :: rest =>
    if d0 = '0' ∧ rest ≠ [] then i.next.failNext "invalid number"
    else
      let (sig, e, full) := Numeral.gatherInt (intDigits.map digitValue) 0 0 false
      match j.peek? with
      | some '.' =>
        let (fs, k) := readDigits fuel [] j.next
        if fs = [] then
          if k.peek? = none then k.fail "EOF while parsing a value" else k.failNext "invalid number"
        else
          let (sig, e) := Numeral.gatherFrac (fs.map digitValue) sig e
          match k.peek? with
          | some 'e' | some 'E' => readExponent fuel neg sig e k
          | _ => scaledNumber neg sig e k
      | some 'e' | some 'E' => readExponent fuel neg sig e j
      | _ =>
        if full then scaledNumber neg sig e j
        else if !neg then .ok (.int sig, j)
        else if 1 ≤ sig ∧ sig ≤ 9223372036854775808 then .ok (.int (-(sig : Int)), j)
        else .ok (.float (Numeral.signedBits true (Numeral.nearestOfNat sig)), j)

def readWord (w : List Char) (v : Value) (i : Input) : Except ReadError (Value × Input) :=
  let rec go : List Char → Input → Except ReadError (Value × Input)
    | [], j => .ok (v, j)
    | c :: cs, j =>
      match j.peek? with
      | none => j.fail "EOF while parsing a value"
      | some d => if c = d then go cs j.next else j.failNext "expected ident"
  go w i

mutual
/-- One value, after leading blanks. `depth` is how much deeper arrays and objects may nest. -/
def readValue : Nat → Nat → Input → Except ReadError (Value × Input)
  | 0, _, i => i.fail "EOF while parsing a value"
  | fuel + 1, depth, i =>
    let i := Input.skipBlanks fuel i
    match i.peek? with
    | none => i.fail "EOF while parsing a value"
    | some '"' =>
      match readString fuel [] i.next with
      | .ok (s, j) => .ok (.str s, j)
      | .error e => .error e
    | some '[' =>
      if depth = 0 then i.failNext "recursion limit exceeded"
      else
        let j := Input.skipBlanks fuel i.next
        match j.peek? with
        | some ']' => .ok (.arr [], j.next)
        | none => j.fail "EOF while parsing a list"
        | some _ => readItems fuel (depth - 1) [] j
    | some '{' =>
      if depth = 0 then i.failNext "recursion limit exceeded"
      else
        let j := Input.skipBlanks fuel i.next
        if j.peek? = some '}' then .ok (.obj [], j.next)
        else readFields fuel (depth - 1) [] j
    | some 't' => readWord ['t', 'r', 'u', 'e'] (.bool true) i
    | some 'f' => readWord ['f', 'a', 'l', 's', 'e'] (.bool false) i
    | some 'n' => readWord ['n', 'u', 'l', 'l'] .null i
    | some c => if c = '-' ∨ c.isDigit then readNumber fuel i else i.failNext "expected value"

def readItems : Nat → Nat → List Value → Input → Except ReadError (Value × Input)
  | 0, _, _, i => i.fail "EOF while parsing a list"
  | fuel + 1, depth, acc, i =>
    match readValue fuel depth i with
    | .error e => .error e
    | .ok (v, j) =>
      let j := Input.skipBlanks fuel j
      match j.peek? with
      | some ',' =>
        let k := Input.skipBlanks fuel j.next
        match k.peek? with
        | some ']' => k.failNext "trailing comma"
        | _ => readItems fuel depth (v :: acc) k
      | some ']' => .ok (.arr (v :: acc).reverse, j.next)
      | some _ => j.failNext "expected `,` or `]`"
      | none => j.fail "EOF while parsing a list"

def readFields : Nat → Nat → List (String × Value) → Input → Except ReadError (Value × Input)
  | 0, _, _, i => i.fail "EOF while parsing an object"
  | fuel + 1, depth, acc, i =>
    let i := Input.skipBlanks fuel i
    match i.peek? with
    | some '"' =>
      match readString fuel [] i.next with
      | .error e => .error e
      | .ok (k, j) =>
        let j := Input.skipBlanks fuel j
        match j.peek? with
        | some ':' =>
          match readValue fuel depth j.next with
          | .error e => .error e
          | .ok (v, l) =>
            let l := Input.skipBlanks fuel l
            match l.peek? with
            | some ',' =>
              let m := Input.skipBlanks fuel l.next
              match m.peek? with
              | some '\x7d' => m.failNext "trailing comma"
              | none => m.fail "EOF while parsing a value"
              | some _ => readFields fuel depth ((k, v) :: acc) m
            | some '\x7d' => .ok (ofFields ((k, v) :: acc).reverse, l.next)
            | some _ => l.failNext "expected `,` or `\x7d`"
            | none => l.fail "EOF while parsing an object"
        | some _ => j.failNext "expected `:`"
        | none => j.fail "EOF while parsing an object"
    | some _ => i.failNext "key must be a string"
    | none => i.fail "EOF while parsing an object"
end

/-- Read one JSON value that fills the whole text, blanks around it apart. -/
def read (s : String) : Except ReadError Value :=
  let cs := s.toList
  let fuel := 2 * cs.length + 2
  match readValue fuel 127 ⟨cs, 1, 0⟩ with
  | .error e => .error e
  | .ok (v, i) =>
    let i := Input.skipBlanks fuel i
    if i.chars.isEmpty then .ok v else i.failNext "trailing characters"

end Value

end Descent
