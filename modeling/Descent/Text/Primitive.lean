import Descent.Parser.Basic
import Descent.Text.Quoted
/-! Parsers that read text. Each either fails where it stands, with the state unchanged, or
succeeds with the text it read and moves the cursor by exactly that many bytes. A matcher is any
rule that says how many bytes at the start of the remaining text it takes; a length past the end
or inside a character counts as no match. A matcher is given the whole source and the offset
where the remaining text starts, so that nothing is copied to ask it. -/

namespace Descent

/-- A rule that takes some bytes at the start of a text, named by its pattern for messages.
`matchLen t start` is how many bytes it takes of the text that begins at byte `start` of `t`. -/
structure Matcher where
  name : String
  matchLen : String → Nat → Option Nat

namespace Parser

variable {σ : Type}

def literal (t : String) : Parser σ String :=
  ⟨fun s c =>
    if c.startsWith t then some ⟨s, c.advance t.utf8ByteSize, .ok t⟩
    else some ⟨s, c, .error (.new ("expected " ++ Quoted.quote t))⟩⟩

def patternWith (m : Matcher) : Parser σ String :=
  ⟨fun s c =>
    let miss : Option (Reply σ String) :=
      some ⟨s, c, .error (.new ("expected input matching /" ++ m.name ++ "/"))⟩
    match m.matchLen c.source c.pos with
    | some k =>
      if String.Pos.Raw.isValid c.source ⟨c.pos + k⟩ then
        some ⟨s, c.advance k, .ok (String.Pos.Raw.extract c.source ⟨c.pos⟩ ⟨c.pos + k⟩)⟩
      else miss
    | none => miss⟩

def satisfy (pred : Char → Bool) (desc : String) : Parser σ Char :=
  ⟨fun s c =>
    match c.peek? with
    | some ch => if pred ch then some ⟨s, c.advance ch.utf8Size, .ok ch⟩
      else some ⟨s, c, .error (.new ("expected " ++ desc))⟩
    | none => some ⟨s, c, .error (.new ("expected " ++ desc))⟩⟩

def anyChar : Parser σ Char :=
  ⟨fun s c =>
    match c.peek? with
    | some ch => some ⟨s, c.advance ch.utf8Size, .ok ch⟩
    | none => some ⟨s, c, .error (.new "unexpected end of input")⟩⟩

def runEnd (s : String) (pred : Char → Bool) (p : Nat) : Nat :=
  if _h : p < s.utf8ByteSize then
    match String.Pos.Raw.get? s ⟨p⟩ with
    | some ch => if pred ch then runEnd s pred (p + ch.utf8Size) else p
    | none => p
  else p
termination_by s.utf8ByteSize - p
decreasing_by have := ch.utf8Size_pos; omega

/-- The longest run of characters satisfying `pred`; it may be empty. -/
def takeWhile (pred : Char → Bool) : Parser σ String :=
  ⟨fun s c =>
    let stop := runEnd c.source pred c.pos
    some ⟨s, c.advance (stop - c.pos), .ok (String.Pos.Raw.extract c.source ⟨c.pos⟩ ⟨stop⟩)⟩⟩

/-- Blanks are spaces, tabs, carriage returns and line feeds. -/
def isBlank (ch : Char) : Bool := ch = ' ' || ch = '\t' || ch = '\r' || ch = '\n'

def whitespace : Parser σ String := takeWhile isBlank

def lexeme {α : Type} (p : Parser σ α) : Parser σ α := thenIgnore p whitespace

def endOfInput : Parser σ Unit :=
  ⟨fun s c =>
    if c.eos then some ⟨s, c, .ok ()⟩ else some ⟨s, c, .error (.new "expected end of input")⟩⟩

end Parser

end Descent
