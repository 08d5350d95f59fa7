import Descent.Value.Basic
/-! Requests that cannot be answered: a malformed request, a pattern that does not compile, and
an operation that has no answer because a byte offset splits a character or a span runs
backwards. -/

namespace Descent

inductive Fault where
  | badSpec (message : String)
  | invalidPattern (pattern message : String)
  | panic
  deriving Repr, Inhabited

namespace Fault

def toValue : Fault → Value
  | .badSpec m => .obj [("error", .str "BadSpec"), ("message", .str m)]
  | .invalidPattern p m => .obj [("error", .str "InvalidPattern"), ("message", .str m), ("pattern", .str p)]
  | .panic => .obj [("error", .str "panic")]

end Fault

/-- A computation of a request's answer that may stop at a fault. -/
abbrev Answer := Except Fault

end Descent
