/-! A cursor is a source text and a byte offset into it. Parsers move cursors forward only,
and positions, columns and spans all count UTF-8 bytes. `locate` turns an offset into the line,
column and line text that failure reports show. The list view `dropBytes` is what statements
about cursors are phrased in: the text after a well-formed cursor is
`dropBytes c.pos c.source.toList`. -/

namespace Descent

def utf8Len : List Char → Nat
  | [] => 0
  | c :: cs => c.utf8Size + utf8Len cs

/-- Drop a prefix of exactly `n` bytes, or `none` when `n` falls inside a character or past
the end. -/
def dropBytes : Nat → List Char → Option (List Char)
  | 0, cs => some cs
  | _ + 1, [] => none
  | n + 1, c :: cs => if c.utf8Size ≤ n + 1 then dropBytes (n + 1 - c.utf8Size) cs else none

structure Cursor where
  source : String
  pos : Nat
  deriving DecidableEq, Repr, Inhabited

/-- Line number, 1-based column in bytes, and the text of the line without its newline. -/
structure Location where
  line : Nat
  column : Nat
  sourceLine : String
  deriving DecidableEq, Repr, Inhabited

namespace Cursor

def new (s : String) : Cursor := ⟨s, 0⟩

def len (c : Cursor) : Nat := c.source.utf8ByteSize

/-- Move `n` bytes on, stopping at the end of the source. -/
def advance (c : Cursor) (n : Nat) : Cursor := { c with pos := min (c.pos + n) c.len }

def eos (c : Cursor) : Bool := c.len ≤ c.pos

def onBoundary (c : Cursor) : Bool := String.Pos.Raw.isValid c.source ⟨c.pos⟩

/-- Well-formed cursors stand on a character boundary of their source. -/
def WellFormed (c : Cursor) : Prop := String.Pos.Raw.IsValid c.source ⟨c.pos⟩

def peek? (c : Cursor) : Option Char := String.Pos.Raw.get? c.source ⟨c.pos⟩

def rest (c : Cursor) : String := String.Pos.Raw.extract c.source ⟨c.pos⟩ ⟨c.len⟩

/-- The text after the cursor; `none` when the offset splits a character. -/
def remaining? (c : Cursor) : Option String := if c.onBoundary then some c.rest else none

def occursAt (s : String) (p : Nat) : List Char → Bool
  | [] => true
  | ch :: r => String.Pos.Raw.get? s ⟨p⟩ == some ch && occursAt s (p + ch.utf8Size) r

def startsWith (c : Cursor) (t : String) : Bool := occursAt c.source c.pos t.toList

/-- Line count and line start after reading the characters `cs` that begin at byte `i`,
counting only the newlines that start before byte `p`. -/
def scanLines (p : Nat) : List Char → Nat → Nat × Nat → Nat × Nat
  | [], _, acc => acc
  | ch :: cs, i, (line, start) =>
    if p ≤ i then (line, start)
    else if ch = '\n' then scanLines p cs (i + 1) (line + 1, i + 1)
    else scanLines p cs (i + ch.utf8Size) (line, start)

/-- Line, column and line text of the cursor. The line is one more than the newlines before the
offset; the column counts bytes from the line start; the line text is empty at the end. -/
def locate (c : Cursor) : Location :=
  let cs := c.source.toList
  let (line, start) := scanLines c.pos cs 0 (1, 0)
  let column := c.pos - start + 1
  if c.eos then ⟨line, column, ""⟩
  else
    let text := ((dropBytes start cs).getD []).takeWhile (· ≠ '\n')
    ⟨line, column, String.ofList text⟩

end Cursor

def Location.display (l : Location) : String :=
  "line " ++ toString l.line ++ ", column " ++ toString l.column

end Descent
