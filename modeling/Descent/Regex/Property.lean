import Descent.Regex.Error
import Descent.Unicode.Char
import Descent.Regex.Ucd.Category
import Descent.Regex.Ucd.Script
import Descent.Regex.Ucd.Binary
import Descent.Regex.Ucd.Age
import Descent.Regex.Ucd.Break
import Descent.Regex.Ucd.Fold
import Descent.Regex.Ucd.Names
/-! Character sets named by Unicode properties in `\p` classes, from version 16.0 of the
character database. A name is compared loosely: an `is` prefix, blanks, underscores and hyphens
are dropped and ASCII letters lowered. A lone name is a property, else a general category, else a
script; a property must be binary. `name=value` names a general category, script, script
extension, age or break value. Also here are the Perl classes `\d \s \w`, the ASCII classes of
brackets, and the closure of a set under simple case folding. -/
namespace Descent

namespace Regex

open Unicode

def looseName (s : String) : String :=
  let cs := s.toList
  let (hasIs, body) := match cs with
    | a :: b :: rest => if (a = 'i' ∨ a = 'I') ∧ (b = 's' ∨ b = 'S') then (true, rest) else (false, cs)
    | _ => (false, cs)
  let kept := body.filterMap fun c =>
    if c = ' ' ∨ c = '_' ∨ c = '-' then none
    else if 'A' ≤ c ∧ c ≤ 'Z' then some (Char.ofNat (c.toNat + 32))
    else if c.toNat < 128 then some c
    else none
  if hasIs ∧ kept = ['c'] then "isc" else String.ofList kept

def anySet : CharSet := ⟨#[(0, maxCode)]⟩

def asciiSet : CharSet := ⟨#[(0, 0x7F)]⟩

def leafCategory (short : String) : CharSet :=
  match Ucd.categoryRanges.lookup short with
  | some t => decodeTable t
  | none => .empty

def leafCategories (shorts : List String) : CharSet :=
  CharSet.ofRanges (shorts.flatMap fun g => (leafCategory g).ranges.toList)

def assignedSet : CharSet :=
  leafCategories ["Lu", "Ll", "Lt", "Lm", "Lo", "Mn", "Mc", "Me", "Nd", "Nl", "No", "Pc", "Pd", "Ps",
    "Pe", "Pi", "Pf", "Po", "Sm", "Sc", "Sk", "So", "Zs", "Zl", "Zp", "Cc", "Cf", "Co"]

def categoryLeaves (short : String) : List String :=
  match short with
  | "L" => ["Lu", "Ll", "Lt", "Lm", "Lo"]
  | "LC" => ["Lu", "Ll", "Lt"]
  | "M" => ["Mn", "Mc", "Me"]
  | "N" => ["Nd", "Nl", "No"]
  | "P" => ["Pc", "Pd", "Ps", "Pe", "Pi", "Pf", "Po"]
  | "S" => ["Sm", "Sc", "Sk", "So"]
  | "Z" => ["Zs", "Zl", "Zp"]
  | s => [s]

/-- The set of a general category by its short name; `C` and `Cn` include the unassigned. The
surrogates have no set: no text holds one. -/
def categoryByShort (short : String) : Except ErrorKind CharSet :=
  if short = "Cn" then .ok assignedSet.complement
  else if short = "C" then .ok ((leafCategories ["Cc", "Cf", "Co"]).union assignedSet.complement)
  else if short = "Cs" then .error .unicodePropertyValueNotFound
  else .ok (leafCategories (categoryLeaves short))

/-- A general category by its loose name, with the three pseudo categories: `none` when no
category is named so. -/
def category? (loose : String) : Option (Except ErrorKind CharSet) :=
  if loose = "any" then some (.ok anySet)
  else if loose = "assigned" then some (.ok assignedSet)
  else if loose = "ascii" then some (.ok asciiSet)
  else
    match Ucd.categoryNames.find? (fun ns => ns.any fun n => looseName n == loose) with
    | some (short :: _) => some (categoryByShort short)
    | _ => none

def namesMatch (names : List String) (loose : String) : Bool := names.any fun n => looseName n == loose

/-- A script by its loose name: its `Script` and its `Script_Extensions` sets. `none` when no
script is named so; an error for the scripts that hold no ranges. -/
def script? (loose : String) : Option (Except ErrorKind (CharSet × CharSet)) :=
  match Ucd.scriptRanges.find? (fun e => namesMatch e.1 loose) with
  | some (_, sc, scx) => some (.ok (decodeTable sc, decodeTable scx))
  | none =>
    if Ucd.scriptsWithoutRanges.any (namesMatch · loose) then some (.error .unicodePropertyValueNotFound)
    else none

def binary? (loose : String) : Option CharSet :=
  match Ucd.binaryRanges.find? (fun e => namesMatch e.1 loose) with
  | some (_, t) => some (decodeTable t)
  | none => none

def property? (loose : String) : Option String :=
  match Ucd.binaryRanges.find? (fun e => namesMatch e.1 loose) with
  | some (c :: _, _) => some c
  | _ =>
    match Ucd.propertyNames.find? (namesMatch · loose) with
    | some (c :: _) => some c
    | _ => none

/-- What a lone name stands for. A property name must be a binary property. Three short names
that are also names of other properties (`cf`, `sc`, `lc`) are read as general categories. -/
def namedSet (name : String) : Except ErrorKind CharSet :=
  let n := looseName name
  let prop := if n = "cf" ∨ n = "sc" ∨ n = "lc" then none else property? n
  match prop with
  | some _ =>
    match binary? n with
    | some s => .ok s
    | none => .error .unicodePropertyNotFound
  | none =>
    match category? n with
    | some r => r
    | none =>
      match script? n with
      | some r => r.map (·.1)
      | none => .error .unicodePropertyNotFound

def ageSet (loose : String) : Except ErrorKind CharSet :=
  let upTo := Ucd.ageRanges.takeWhile fun e => !namesMatch e.1 loose
  if upTo.length = Ucd.ageRanges.length then .error .unicodePropertyValueNotFound
  else
    let chosen := Ucd.ageRanges.take (upTo.length + 1)
    .ok (CharSet.ofRanges (chosen.flatMap fun e => (decodeTable e.2).ranges.toList))

def breakSet (table : List (List String × String)) (loose : String) : Except ErrorKind CharSet :=
  match table.find? (fun e => namesMatch e.1 loose) with
  | some (_, t) => .ok (decodeTable t)
  | none => .error .unicodePropertyValueNotFound

/-- What `name=value` stands for. The property must exist; only the general category, the
script and script extensions, the age and the three break properties take values here. -/
def valuedSet (name value : String) : Except ErrorKind CharSet :=
  let v := looseName value
  match property? (looseName name) with
  | none => .error .unicodePropertyNotFound
  | some "General_Category" => (category? v).getD (.error .unicodePropertyValueNotFound)
  | some "Script" => ((script? v).getD (.error .unicodePropertyValueNotFound)).map (·.1)
  | some "Script_Extensions" => ((script? v).getD (.error .unicodePropertyValueNotFound)).map (·.2)
  | some "Age" => ageSet v
  | some "Grapheme_Cluster_Break" => breakSet Ucd.graphemeBreakRanges v
  | some "Word_Break" => breakSet Ucd.wordBreakRanges v
  | some "Sentence_Break" => breakSet Ucd.sentenceBreakRanges v
  | some _ => .error .unicodePropertyValueNotFound

def unicodeClassSet (negated : Bool) : UnicodeKind → Except ErrorKind (CharSet × Bool)
  | .oneLetter c => (namedSet (String.singleton c)).map (·, negated)
  | .named n => (namedSet n).map (·, negated)
  | .namedValue ne n v => (valuedSet n v).map (·, negated != ne)

/-- Word characters: alphabetic, marks, decimal digits, connector punctuation, joiners. -/
def wordSet : CharSet :=
  CharSet.ofRanges (((binary? "alphabetic").getD .empty).ranges.toList ++
    (leafCategories ["Mn", "Mc", "Me", "Nd", "Pc"]).ranges.toList ++
    ((binary? "joincontrol").getD .empty).ranges.toList)

def decimalSet : CharSet := leafCategory "Nd"

def spaceSet : CharSet := (binary? "whitespace").getD .empty

def asciiWordSet : CharSet := .ofRanges [(48, 57), (65, 90), (95, 95), (97, 122)]

def perlSet (unicode : Bool) : PerlKind → CharSet
  | .digit => if unicode then decimalSet else .ofRanges [(48, 57)]
  | .space => if unicode then spaceSet else .ofRanges [(9, 13), (32, 32)]
  | .word => if unicode then wordSet else asciiWordSet

def asciiClassSet : AsciiKind → CharSet
  | .alnum => .ofRanges [(48, 57), (65, 90), (97, 122)]
  | .alpha => .ofRanges [(65, 90), (97, 122)]
  | .ascii => .ofRanges [(0, 127)]
  | .blank => .ofRanges [(9, 9), (32, 32)]
  | .cntrl => .ofRanges [(0, 31), (127, 127)]
  | .digit => .ofRanges [(48, 57)]
  | .graph => .ofRanges [(33, 126)]
  | .lower => .ofRanges [(97, 122)]
  | .print => .ofRanges [(32, 126)]
  | .punct => .ofRanges [(33, 47), (58, 64), (91, 96), (123, 126)]
  | .space => .ofRanges [(9, 13), (32, 32)]
  | .upper => .ofRanges [(65, 90)]
  | .word => asciiWordSet
  | .xdigit => .ofRanges [(48, 57), (65, 70), (97, 102)]

/-- The classes of characters that simple case folding makes equal, each with two or more
members. -/
def foldOrbits : List (List Nat) :=
  let pairs := (decodeCaseTable Ucd.foldTable).toList.filterMap fun e =>
    match e.2 with
    | [t] => some (t, e.1)
    | _ => none
  let sorted := pairs.mergeSort fun a b => a.1 ≤ b.1
  let grouped := sorted.splitBy fun a b => a.1 == b.1
  grouped.filterMap fun g =>
    match g with
    | (t, _) :: _ => some (t :: g.map (·.2))
    | [] => none

/-- The set together with every character that simple case folding makes equal to a member. -/
def caseClose (a : CharSet) : CharSet :=
  let extra := foldOrbits.flatMap fun o =>
    if o.any a.contains then o.map fun c => (c, c) else []
  if extra.isEmpty then a else CharSet.ofRanges (a.ranges.toList ++ extra)

end Regex

end Descent
