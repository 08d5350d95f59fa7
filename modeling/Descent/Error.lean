import Descent.Text.Cursor
/-! Parse errors are ordered lists of messages: alternatives append theirs, labels replace them.
A failure report adds where parsing stopped and renders the caret display. -/

namespace Descent

structure ParseError where
  messages : List String
  deriving DecidableEq, Repr, Inhabited

namespace ParseError

def new (m : String) : ParseError := ⟨[m]⟩

def empty : ParseError := ⟨[]⟩

def push (e : ParseError) (m : String) : ParseError := ⟨e.messages ++ [m]⟩

/-- Messages of `e` first, then those of `f`. -/
def merge (e f : ParseError) : ParseError := ⟨e.messages ++ f.messages⟩

def isEmpty (e : ParseError) : Bool := e.messages.isEmpty

def display (e : ParseError) : String := String.intercalate "; " e.messages

@[simp] theorem messages_merge (e f : ParseError) : (e.merge f).messages = e.messages ++ f.messages :=
  rfl

theorem merge_assoc (e f g : ParseError) : (e.merge f).merge g = e.merge (f.merge g) := by
  simp [merge]

@[simp] theorem empty_merge (e : ParseError) : empty.merge e = e := rfl

@[simp] theorem merge_empty (e : ParseError) : e.merge empty = e := by simp [merge, empty]

end ParseError

/-- Where a failed parse stopped and why. -/
structure Failure where
  location : Location
  position : Nat
  error : ParseError
  deriving Repr, Inhabited

namespace Failure

def ofCursor (c : Cursor) (e : ParseError) : Failure := ⟨c.locate, c.pos, e⟩

def gutter (f : Failure) : String := "  > " ++ toString f.location.line ++ " | "

def display (f : Failure) : String :=
  "Syntax error at " ++ f.location.display ++ ": " ++ f.error.display ++ "\n\n" ++
    f.gutter ++ f.location.sourceLine ++ "\n" ++
    String.ofList (List.replicate (f.gutter.length + f.location.column - 1) ' ') ++ "^--- here\n"

end Failure

end Descent
