import Descent.Text.Cursor
/-! A span is the pair of byte offsets where a parser started and stopped. Its length and its
slice of a source exist only when the offsets are in order and cut the source at character
boundaries, which spans made by parsers always do. -/

namespace Descent

structure Span where
  start : Nat
  stop : Nat
  deriving DecidableEq, Repr, Inhabited

namespace Span

/-- Bytes covered, when the span does not run backwards. -/
def len? (sp : Span) : Option Nat := if sp.start ≤ sp.stop then some (sp.stop - sp.start) else none

def isEmpty (sp : Span) : Bool := sp.start == sp.stop

/-- The covered text of `s`, when both ends lie on boundaries of `s` in order. -/
def slice? (sp : Span) (s : String) : Option String :=
  if sp.start ≤ sp.stop ∧ String.Pos.Raw.isValid s ⟨sp.start⟩ ∧ String.Pos.Raw.isValid s ⟨sp.stop⟩ then
    some (String.Pos.Raw.extract s ⟨sp.start⟩ ⟨sp.stop⟩)
  else none

end Span

end Descent
