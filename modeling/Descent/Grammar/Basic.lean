import Descent.Parser.Choice
import Descent.Parser.Separated
import Descent.Parser.Until
import Descent.Parser.State
import Descent.Text.Primitive
import Descent.Value.Basic
/-! Grammars as data. A grammar is built from the combinators of the parser library over JSON
values, with user functions where the library takes them (continuations, value maps, state
updates, character predicates and matchers), and with references to named rules. Interpreting a
grammar gives a parser; rules are unfolded to a given depth, so that a reference nested deeper
has no answer. -/

namespace Descent

inductive Grammar where
  | literal (t : String)
  | pattern (m : Matcher)
  | satisfy (pred : Char → Bool) (desc : String)
  | anyChar
  | endOfInput
  | takeWhile (pred : Char → Bool)
  | whitespace
  | succeed (v : Value)
  | fail (m : String)
  | getState
  | putState (v : Value)
  | modifyState (f : Value → Value)
  | withState (k : Value → Grammar)
  | withLocation (k : Location → Grammar)
  | lexeme (g : Grammar)
  | map (g : Grammar) (f : Value → Value)
  | skip (g : Grammar)
  | mapErr (g : Grammar) (f : ParseError → ParseError)
  | label (m : String) (g : Grammar)
  | pair (g h : Grammar)
  | thenIgnore (g h : Grammar)
  | ignoreThen (g h : Grammar)
  | orElse (g h : Grammar)
  | choice (gs : List Grammar)
  | seq (gs : List Grammar)
  | apply (g h : Grammar) (f : Value → Value → Value)
  | bind (g : Grammar) (k : Value → Grammar)
  | chainLeft (op g : Grammar) (f : Value → Value → Value → Value)
  | chainRight (op g : Grammar) (f : Value → Value → Value → Value)
  | many (g : Grammar)
  | many1 (g : Grammar)
  | skipMany (g : Grammar)
  | skipMany1 (g : Grammar)
  | manyUntil (g t : Grammar)
  | separated (allowEmpty allowTrailing : Bool) (sep g : Grammar)
  | count (n : Nat) (g : Grammar)
  | between (o c g : Grammar)
  | lookahead (g : Grammar)
  | notFollowedBy (g : Grammar)
  | maybe (g : Grammar)
  | optional (d : Value) (g : Grammar)
  | spanned (g : Grammar)
  | ref (name : String)
  deriving Inhabited

namespace Grammar

abbrev P := Parser Value Value

def spanValue (sp : Span) : Value := .obj [("end", .int sp.stop), ("start", .int sp.start)]

mutual
/-- The parser of a grammar, with `env` giving the parsers of the rules and `stall` bounding the
steps of each `manyUntil` that do not move the cursor. -/
def interp (env : String → P) (stall : Nat) : Grammar → P
  | .literal t => (Parser.literal t).map .str
  | .pattern m => (Parser.patternWith m).map .str
  | .satisfy pred desc => (Parser.satisfy pred desc).map fun ch => .str (String.singleton ch)
  | .anyChar => Parser.anyChar.map fun ch => .str (String.singleton ch)
  | .endOfInput => Parser.endOfInput.map fun _ => .null
  | .takeWhile pred => (Parser.takeWhile pred).map .str
  | .whitespace => Parser.whitespace.map .str
  | .succeed v => Parser.succeed v
  | .fail m => Parser.fail m
  | .getState => Parser.getState
  | .putState v => (Parser.putState v).map fun _ => .null
  | .modifyState f => (Parser.modifyState f).map fun _ => .null
  | .withState k => Parser.withState fun s => interp env stall (k s)
  | .withLocation k => Parser.withLocation fun l => interp env stall (k l)
  | .lexeme g => Parser.lexeme (interp env stall g)
  | .map g f => (interp env stall g).map f
  | .skip g => (interp env stall g).skip.map fun _ => .null
  | .mapErr g f => (interp env stall g).mapErr f
  | .label m g => Parser.label m (interp env stall g)
  | .pair g h => (Parser.pair (interp env stall g) (interp env stall h)).map fun r => .arr [r.1, r.2]
  | .thenIgnore g h => Parser.thenIgnore (interp env stall g) (interp env stall h)
  | .ignoreThen g h => Parser.ignoreThen (interp env stall g) (interp env stall h)
  | .orElse g h => Parser.orElse (interp env stall g) (interp env stall h)
  | .choice gs => Parser.choice (interpAll env stall gs)
  | .seq gs => (Parser.sequence (interpAll env stall gs)).map .arr
  | .apply g h f => Parser.apply ((interp env stall g).map f) (interp env stall h)
  | .bind g k => Parser.bind (interp env stall g) fun v => interp env stall (k v)
  | .chainLeft op g f => Parser.chainLeft ((interp env stall op).map f) (interp env stall g)
  | .chainRight op g f => Parser.chainRight ((interp env stall op).map f) (interp env stall g)
  | .many g => (Parser.many (interp env stall g)).map .arr
  | .many1 g => (Parser.many1 (interp env stall g)).map .arr
  | .skipMany g => (Parser.skipMany (interp env stall g)).map fun _ => .null
  | .skipMany1 g => (Parser.skipMany1 (interp env stall g)).map fun _ => .null
  | .manyUntil g t => (Parser.manyUntil stall (interp env stall g) (interp env stall t)).map .arr
  | .separated e t sep g => (Parser.separated e t (interp env stall sep) (interp env stall g)).map .arr
  | .count n g => (Parser.count n (interp env stall g)).map .arr
  | .between o c g => Parser.between (interp env stall o) (interp env stall c) (interp env stall g)
  | .lookahead g => Parser.lookahead (interp env stall g)
  | .notFollowedBy g => (Parser.notFollowedBy (interp env stall g)).map fun _ => .null
  | .maybe g => (Parser.maybe (interp env stall g)).map fun o =>
      match o with
      | some v => .arr [v]
      | none => .null
  | .optional d g => Parser.optional d (interp env stall g)
  | .spanned g => (Parser.spanned (interp env stall g)).map fun r => .arr [r.1, spanValue r.2]
  | .ref name => ⟨fun s c => (env name).run s c⟩

def interpAll (env : String → P) (stall : Nat) : List Grammar → List P
  | [] => []
  | g :: gs => interp env stall g :: interpAll env stall gs
end

/-- A parser that never answers: a reference nested deeper than the unfolding allows. -/
def unfinished : P := ⟨fun _ _ => none⟩

def unfold (rules : String → Option Grammar) (stall : Nat) : Nat → String → P
  | 0, _ => unfinished
  | depth + 1, name =>
    match rules name with
    | some g => interp (unfold rules stall depth) stall g
    | none => unfinished

/-- The parser of a grammar over named rules, with references unfolded `fuel` deep and at most
`fuel` standing steps in each `manyUntil`. -/
def parser (rules : String → Option Grammar) (fuel : Nat) (g : Grammar) : P :=
  interp (unfold rules fuel fuel) fuel g

end Grammar

end Descent
