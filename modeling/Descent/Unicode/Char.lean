import Descent.Unicode.CharSet
import Descent.Unicode.Category
import Descent.Unicode.Property
import Descent.Unicode.Case
/-! Character classes by Unicode property: alphabetic, lowercase, uppercase, white space and
numeric characters, the marks that extend a grapheme, the printable characters, and the full
uppercase mapping. Printable are letters, marks, numbers, punctuation and symbols, and the space,
except the code points that are ignorable by default; not printable are the other separators,
controls, format characters, surrogates, private use and unassigned code points, and those
ignorable ones. -/

namespace Descent

namespace Unicode

def propertySet (name : String) : CharSet :=
  match propertyRanges.find? (fun e => e.1.head? == some name) with
  | some (_, t) => decodeTable t
  | none => .empty

def categorySet (short : String) : CharSet :=
  match categoryRanges.lookup short with
  | some t => decodeTable t
  | none => .empty

def categoriesSet (shorts : List String) : CharSet :=
  CharSet.ofRanges (shorts.flatMap fun g => (categorySet g).ranges.toList)

def alphabeticSet : CharSet := propertySet "Alphabetic"

def lowercaseSet : CharSet := propertySet "Lowercase"

def uppercaseSet : CharSet := propertySet "Uppercase"

def whiteSpaceSet : CharSet := propertySet "White_Space"

def graphemeExtendSet : CharSet := propertySet "Grapheme_Extend"

def defaultIgnorableSet : CharSet := propertySet "Default_Ignorable_Code_Point"

def combiningSet : CharSet := categoriesSet ["Mn", "Me"]

def numericSet : CharSet := categoriesSet ["Nd", "Nl", "No"]

def printableSet : CharSet :=
  (categoriesSet ["Lu", "Ll", "Lt", "Lm", "Lo", "Mn", "Mc", "Me", "Nd", "Nl", "No", "Pc", "Pd", "Ps",
    "Pe", "Pi", "Pf", "Po", "Sm", "Sc", "Sk", "So"]).union (.single 0x20)

def isAlphabetic (c : Char) : Bool := alphabeticSet.containsChar c

def isLowercase (c : Char) : Bool := lowercaseSet.containsChar c

def isUppercase (c : Char) : Bool := uppercaseSet.containsChar c

def isWhiteSpace (c : Char) : Bool := whiteSpaceSet.containsChar c

def isNumeric (c : Char) : Bool := numericSet.containsChar c

def isAlphanumeric (c : Char) : Bool := isAlphabetic c || isNumeric c

def isGraphemeExtend (c : Char) : Bool := graphemeExtendSet.containsChar c

/-- A nonspacing or enclosing mark that extends a grapheme: one that only shows on the character
before it. -/
def isExtendingMark (c : Char) : Bool := isGraphemeExtend c && combiningSet.containsChar c

def isPrintable (c : Char) : Bool := printableSet.containsChar c && !defaultIgnorableSet.containsChar c

def decodeCaseTable (s : String) : Array (Nat × List Nat) :=
  let entry (t : List Char) : Option (Nat × List Nat) :=
    let nums := (splitAt '.' t).map fun ds => ds.foldl (fun n d => 36 * n + base36Digit d) 0
    match nums with
    | k :: vs => some (k, vs)
    | [] => none
  ((splitAt ',' s.toList).filterMap entry).toArray

def upperEntries : Array (Nat × List Nat) := decodeCaseTable upperTable

def lookupIn (t : Array (Nat × List Nat)) (c lo hi : Nat) : Option (List Nat) :=
  if _h : lo < hi then
    let mid := (lo + hi) / 2
    match t[mid]? with
    | none => none
    | some (k, v) =>
      if c < k then lookupIn t c lo mid
      else if k < c then lookupIn t c (mid + 1) hi
      else some v
  else none
termination_by hi - lo

/-- The full uppercase of a character: one to three characters. -/
def toUpper (c : Char) : List Char :=
  match lookupIn upperEntries c.toNat 0 upperEntries.size with
  | some cs => cs.map Char.ofNat
  | none => [c]

def upperString (s : String) : String := String.ofList (s.toList.flatMap toUpper)

end Unicode

end Descent
