import Descent.Value.Basic
import Descent.Value.Double
/-! Compact JSON text: no blanks, fields in key order, integers in decimal, doubles in their
shortest form. Strings escape the quote, the backslash and the control characters; the five
common controls get their short escapes and the rest `\u00XX` with lowercase hex. -/

namespace Descent

namespace Value

def hexDigit (n : Nat) : Char := if n < 10 then Char.ofNat (48 + n) else Char.ofNat (87 + n)

def escapeChar (c : Char) : List Char :=
  if c = '"' then ['\\', '"']
  else if c = '\\' then ['\\', '\\']
  else if c = '\n' then ['\\', 'n']
  else if c = '\r' then ['\\', 'r']
  else if c = '\t' then ['\\', 't']
  else if c = '\x08' then ['\\', 'b']
  else if c = '\x0c' then ['\\', 'f']
  else if c.toNat < 0x20 then ['\\', 'u', '0', '0', hexDigit (c.toNat / 16), hexDigit (c.toNat % 16)]
  else [c]

def quote (s : String) : String :=
  String.ofList ('"' :: (s.toList.flatMap escapeChar ++ ['"']))

def intText (n : Int) : String := if n < 0 then "-" ++ toString n.natAbs else toString n.natAbs

mutual
/-- `out` followed by the compact JSON text of a value. Text is only ever appended, so writing
takes time in proportion to its length. -/
def writeTo (out : String) : Value → String
  | .null => out ++ "null"
  | .bool b => out ++ (if b then "true" else "false")
  | .int n => out ++ intText n
  | .float bits => out ++ Double.render bits
  | .str s => out ++ quote s
  | .arr xs => (writeItemsTo (out.push '[') xs).push ']'
  | .obj fs => (writeFieldsTo (out.push '\x7b') fs).push '\x7d'

def writeItemsTo (out : String) : List Value → String
  | [] => out
  | [x] => writeTo out x
  | x :: xs => writeItemsTo ((writeTo out x).push ',') xs

def writeFieldsTo (out : String) : List (String × Value) → String
  | [] => out
  | [(k, v)] => writeTo ((out ++ quote k).push ':') v
  | (k, v) :: fs => writeFieldsTo ((writeTo ((out ++ quote k).push ':') v).push ',') fs
end

def write (v : Value) : String := writeTo "" v

/-- A string stands for itself; any other value for its compact text. -/
def key : Value → String
  | .str s => s
  | v => v.write

def keys : Value → List String
  | .arr xs => xs.map key
  | _ => []

end Value

end Descent
