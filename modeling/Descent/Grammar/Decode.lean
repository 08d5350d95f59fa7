import Descent.Grammar.Basic
import Descent.Grammar.Helpers
import Descent.Request.Fault
import Descent.Regex.Matcher
/-! Reading a grammar from its JSON description. A description is a bare name or an object with
one key naming the combinator; `then` also takes its mode and cases. Every part is read before
parsing starts, in order (object keys in sorted order), and the first malformed part or
pattern that does not compile is the answer. -/

namespace Descent

namespace Grammar

def bad {α : Type} (m : String) : Answer α := .error (.badSpec m)

/-- A character predicate by name, or by the first of the fields `in`, `not_in` (each a set of
characters) and `range` (two characters) that the object holds with a string value. -/
def predicate (v : Value) : Answer (Char → Bool) :=
  match v with
  | .str "digit" => .ok Char.isDigit
  | .str "alpha" => .ok Unicode.isAlphabetic
  | .str "alnum" => .ok Unicode.isAlphanumeric
  | .str "lower" => .ok Unicode.isLowercase
  | .str "upper" => .ok Unicode.isUppercase
  | .str "space" => .ok Unicode.isWhiteSpace
  | .str "ascii" => .ok fun c => c.toNat < 128
  | .str "any" => .ok fun _ => true
  | .str "none" => .ok fun _ => false
  | .str p => bad ("unknown predicate " ++ p)
  | v =>
    match v.field? "in", v.field? "not_in", v.field? "range" with
    | some (.str cs), _, _ => .ok fun c => cs.toList.contains c
    | _, some (.str cs), _ => .ok fun c => !cs.toList.contains c
    | _, _, some (.arr [.str lo, .str hi]) =>
      match lo.toList.head?, hi.toList.head? with
      | some a, some b => .ok fun c => a ≤ c && c ≤ b
      | _, _ => bad "range takes two characters"
    | _, _, _ => bad "predicate must be a string or an object"

/-- The length a `pat_with` matcher reports: none when absent or `null`, the run of ASCII digits
for `"digits"`, and otherwise the value as an unsigned 64-bit integer, zero when it is not one. -/
def fixedMatcher (len : Option Value) (name : String) : Matcher :=
  match len with
  | none | some .null => ⟨name, fun _ _ => none⟩
  | some (.str "digits") =>
    ⟨name, fun t start =>
      let n := Parser.runEnd t Char.isDigit start - start
      if n = 0 then none else some n⟩
  | some v => ⟨name, fun _ _ => some (v.asU64?.getD 0)⟩

/-- The natural number that a bound value selects for `then` in count mode: a number, or a
decimal text, capped at one million; anything else is zero. -/
def countOf (v : Value) : Nat :=
  let n := match v with
    | .str s => (Value.parseU64? s).getD 0
    | v => v.asU64?.getD 0
  min n 1000000

def pickCase (cases : List (String × Grammar)) (dflt : Option Grammar) (missing : String)
    (v : Value) : Grammar :=
  match cases.lookup v.key with
  | some g => g
  | none => dflt.getD (.fail missing)

def locationValue (l : Location) : Value :=
  .obj [("column", .int l.column), ("line", .int l.line), ("source_line", .str l.sourceLine)]

def decodeOpt (sub : Value → Answer Grammar) : Option Value → Answer (Option Grammar)
  | none => .ok none
  | some v => (sub v).map some

def decodeCases (sub : Value → Answer Grammar) : Option Value → Answer (List (String × Grammar))
  | some (.obj fs) => fs.mapM fun kv => (sub kv.2).map fun g => (kv.1, g)
  | _ => .ok []

/-- A `then` description: the first grammar, then the continuation its mode names. A mode that is
not a string stands for `cases`. -/
def decodeThen (sub : Value → Answer Grammar) (p : Value) (fields : List (String × Value)) :
    Answer Grammar := do
  let g ← sub p
  let mode := match fields.lookup "mode" with
    | some (.str m) => m
    | _ => "cases"
  match mode with
  | "cases" =>
    let cases ← decodeCases sub (fields.lookup "cases")
    let dflt ← decodeOpt sub (fields.lookup "default")
    .ok (.bind g (pickCase cases dflt "no case"))
  | "count" =>
    match fields.lookup "body" with
    | some b =>
      let body ← sub b
      .ok (.bind g fun v => .count (countOf v) body)
    | none => bad "then count takes a body"
  | "literal" => .ok (.bind g fun v => .literal v.key)
  | m => bad ("unknown then mode " ++ m)

/-- A `with_state` description: a threshold with its two branches, or cases by the state's key.
Fields are read leniently; a threshold that is not a signed 64-bit integer is zero. -/
def decodeWithState (sub : Value → Answer Grammar) (w : Value) : Answer Grammar := do
  let cases ← decodeCases sub (w.field? "cases")
  let dflt ← decodeOpt sub (w.field? "default")
  let missing : Grammar := .fail "no state case"
  match w.field? "ge" with
  | none | some .null => .ok (.withState (pickCase cases dflt "no state case"))
  | some ge =>
    let thenP ← sub ((w.field? "then_p").getD .null)
    let n := ge.asI64?.getD 0
    .ok (.withState fun s =>
      match s.asI64? with
      | some x => if n ≤ x then thenP else dflt.getD missing
      | none => dflt.getD missing)

def decodeTwo (sub : Value → Answer Grammar) (k : String) (v : Value) : Answer (Grammar × Grammar) :=
  match v with
  | .arr [a, b] => do
    let g ← sub a
    let h ← sub b
    .ok (g, h)
  | _ => bad (k ++ " takes an array of 2")

def decodeKey (sub : Value → Answer Grammar) (known : String → Bool) (k : String) (v : Value) :
    Answer Grammar :=
  let one (f : Grammar → Grammar) : Answer Grammar := (sub v).map f
  let two (f : Grammar → Grammar → Grammar) : Answer Grammar :=
    (decodeTwo sub k v).map fun gh => f gh.1 gh.2
  let withFn (f : Grammar → (Value → Value) → Grammar) : Answer Grammar :=
    match v with
    | .arr [p, fn] => (sub p).map fun g => f g (Value.applyFn fn)
    | _ => bad (k ++ " takes an array of 2")
  let withMsg (f : String → Grammar → Grammar) : Answer Grammar :=
    match v with
    | .arr [.str m, p] => (sub p).map (f m)
    | _ => bad (k ++ " takes a message and a parser")
  let many (f : List Grammar → Grammar) : Answer Grammar :=
    match v with
    | .arr xs => (xs.mapM sub).map f
    | _ => bad (k ++ " takes an array")
  let sep (e t : Bool) := two fun s g => .separated e t s g
  let wrap (o c : String) := one fun g => .between (.literal o) (.literal c) g
  if k = "lit" then
    match v with
    | .str t => .ok (.literal t)
    | _ => bad "lit takes a string"
  else if k = "pat" then
    match v with
    | .str re =>
      match Regex.matcher re with
      | .ok m => .ok (.pattern m)
      | .error msg => .error (.invalidPattern re msg)
    | _ => bad "pat takes a string"
  else if k = "pat_with" then
    .ok (.pattern (fixedMatcher (v.field? "len") (((v.field? "name").bind Value.asStr?).getD "")))
  else if k = "satisfy" then
    match v with
    | .arr [p, .str desc] => (predicate p).map fun f => .satisfy f desc
    | _ => bad "satisfy takes a predicate and a description"
  else if k = "take_while" then (predicate v).map .takeWhile
  else if k = "succeed" then .ok (.succeed v)
  else if k = "fail" then
    match v with
    | .str m => .ok (.fail m)
    | _ => bad "fail takes a string"
  else if k = "put_state" then .ok (.putState v)
  else if k = "modify_state" then .ok (.modifyState (Value.applyOp v))
  else if k = "record" then
    one fun g => .bind g fun x => .ignoreThen (.modifyState (Value.pushOnto x)) (.succeed x)
  else if k = "with_state" then decodeWithState sub v
  else if k = "lexeme" then one .lexeme
  else if k = "map" || k = "shr" then withFn .map
  else if k = "skip" then one .skip
  else if k = "push_msg" then withMsg fun m g => .mapErr g fun e => e.push m
  else if k = "prefix_msgs" then
    match v with
    | .arr [ms, p] => (sub p).map fun g => .mapErr g fun e => ParseError.merge ⟨ms.keys⟩ e
    | _ => bad "prefix_msgs takes messages and a parser"
  else if k = "clear_msgs" then one fun g => .mapErr g fun _ => .empty
  else if k = "label" then withMsg .label
  else if k = "pair" || k = "add" then two .pair
  else if k = "then_ignore" || k = "sub" then two .thenIgnore
  else if k = "ignore_then" || k = "mul" then two .ignoreThen
  else if k = "or" || k = "bitor" then two .orElse
  else if k = "choice" then many .choice
  else if k = "seq" then many .seq
  else if k = "apply" then two fun g h => .apply g h Value.applyFn
  else if k = "chain_left" then two fun o g => .chainLeft o g Value.triple
  else if k = "chain_right" then two fun o g => .chainRight o g Value.triple
  else if k = "chain_left_arith" then two fun o g => .chainLeft o g Value.arith
  else if k = "chain_right_arith" then two fun o g => .chainRight o g Value.arith
  else if k = "many" then one .many
  else if k = "many1" then one .many1
  else if k = "skip_many" then one .skipMany
  else if k = "skip_many1" then one .skipMany1
  else if k = "many_until" then two .manyUntil
  else if k = "sep_by" then sep true false
  else if k = "sep_by1" then sep false false
  else if k = "sep_end_by" then sep true true
  else if k = "sep_end_by1" then sep false true
  else if k = "count" then
    match v with
    | .arr [n, p] =>
      match n.asU64? with
      | some c =>
        if c ≤ 1000000 then (sub p).map (.count c)
        else bad "count must be an integer in 0..=1000000"
      | none => bad "count must be an integer in 0..=1000000"
    | _ => bad "count takes an array of 2"
  else if k = "between" then
    match v with
    | .arr [o, c, p] => do
      let go ← sub o
      let gc ← sub c
      let gp ← sub p
      .ok (.between go gc gp)
    | _ => bad "between takes an array of 3"
  else if k = "parens" then wrap "(" ")"
  else if k = "braces" then wrap "\x7b" "\x7d"
  else if k = "brackets" then wrap "[" "]"
  else if k = "lookahead" then one .lookahead
  else if k = "not_followed_by" then one .notFollowedBy
  else if k = "maybe" then one .maybe
  else if k = "optional" then
    match v with
    | .arr [d, p] => (sub p).map (.optional d)
    | _ => bad "optional takes an array of 2"
  else if k = "spanned" then one .spanned
  else if k = "ref" then
    match v with
    | .str name => if known name then .ok (.ref name) else bad ("unknown rule " ++ name)
    | _ => bad "ref takes a string"
  else bad ("unknown parser " ++ k)

/-- The grammar a description stands for, reading at most `depth` levels of nesting; `known`
tells which rule names exist. -/
def decode (known : String → Bool) : Nat → Value → Answer Grammar
  | 0, _ => bad "parser spec nests too deep"
  | depth + 1, v =>
    match v with
    | .str "any" => .ok .anyChar
    | .str "eoi" => .ok .endOfInput
    | .str "ws" => .ok .whitespace
    | .str "get_state" => .ok .getState
    | .str "location" => .ok (.withLocation fun l => .succeed (locationValue l))
    | .str "line" => .ok (.withLocation fun l => .succeed (.int l.line))
    | .str "column" => .ok (.withLocation fun l => .succeed (.int l.column))
    | .str name => bad ("unknown parser " ++ name)
    | .obj fields =>
      match fields.lookup "then" with
      | some p => decodeThen (decode known depth) p fields
      | none =>
        match fields with
        | [(k, x)] => decodeKey (decode known depth) known k x
        | _ => bad "parser spec must be a string or a one-key object"
    | _ => bad "parser spec must be a string or a one-key object"

def ofValue (known : String → Bool) (v : Value) : Answer Grammar := decode known (v.depth + 1) v

end Grammar

end Descent
