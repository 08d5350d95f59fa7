import Descent.Regex.Syntax
import Descent.Unicode.CharSet
/-! Why a pattern does not compile, and how the report shows it: the pattern, a row of carets
under the offending span (one caret for an empty span), and the reason. Patterns of several
lines are numbered and framed by rows of tildes, and spans that cross lines are listed by line
and column. Columns count characters from 1. -/

namespace Descent

namespace Regex

inductive ErrorKind where
  | classEscapeInvalid | classRangeInvalid | classRangeLiteral | classUnclosed
  | decimalEmpty | decimalInvalid
  | escapeHexEmpty | escapeHexInvalid | escapeHexInvalidDigit | escapeUnexpectedEof | escapeUnrecognized
  | flagDanglingNegation | flagDuplicate | flagRepeatedNegation | flagUnexpectedEof | flagUnrecognized
  | groupNameDuplicate | groupNameEmpty | groupNameInvalid | groupNameUnexpectedEof
  | groupUnclosed | groupUnopened
  | nestLimitExceeded (limit : Nat)
  | repetitionCountInvalid | repetitionCountDecimalEmpty | repetitionCountUnclosed | repetitionMissing
  | specialWordBoundaryUnclosed | specialWordBoundaryUnrecognized | specialWordOrRepetitionUnexpectedEof
  | unicodeClassInvalid | unsupportedBackreference | unsupportedLookAround
  | unicodeNotAllowed | invalidUtf8 | unicodePropertyNotFound | unicodePropertyValueNotFound
  deriving DecidableEq, Repr, Inhabited

def ErrorKind.message : ErrorKind → String
  | .classEscapeInvalid => "invalid escape sequence found in character class"
  | .classRangeInvalid => "invalid character class range, the start must be <= the end"
  | .classRangeLiteral => "invalid range boundary, must be a literal"
  | .classUnclosed => "unclosed character class"
  | .decimalEmpty => "decimal literal empty"
  | .decimalInvalid => "decimal literal invalid"
  | .escapeHexEmpty => "hexadecimal literal empty"
  | .escapeHexInvalid => "hexadecimal literal is not a Unicode scalar value"
  | .escapeHexInvalidDigit => "invalid hexadecimal digit"
  | .escapeUnexpectedEof => "incomplete escape sequence, reached end of pattern prematurely"
  | .escapeUnrecognized => "unrecognized escape sequence"
  | .flagDanglingNegation => "dangling flag negation operator"
  | .flagDuplicate => "duplicate flag"
  | .flagRepeatedNegation => "flag negation operator repeated"
  | .flagUnexpectedEof => "expected flag but got end of regex"
  | .flagUnrecognized => "unrecognized flag"
  | .groupNameDuplicate => "duplicate capture group name"
  | .groupNameEmpty => "empty capture group name"
  | .groupNameInvalid => "invalid capture group character"
  | .groupNameUnexpectedEof => "unclosed capture group name"
  | .groupUnclosed => "unclosed group"
  | .groupUnopened => "unopened group"
  | .nestLimitExceeded n => "exceed the maximum number of nested parentheses/brackets (" ++ toString n ++ ")"
  | .repetitionCountInvalid => "invalid repetition count range, the start must be <= the end"
  | .repetitionCountDecimalEmpty => "repetition quantifier expects a valid decimal"
  | .repetitionCountUnclosed => "unclosed counted repetition"
  | .repetitionMissing => "repetition operator missing expression"
  | .specialWordBoundaryUnclosed =>
    "special word boundary assertion is either unclosed or contains an invalid character"
  | .specialWordBoundaryUnrecognized =>
    "unrecognized special word boundary assertion, valid choices are: start, end, start-half or end-half"
  | .specialWordOrRepetitionUnexpectedEof =>
    "found either the beginning of a special word boundary or a bounded repetition on a \\b with an opening brace, but no closing brace"
  | .unicodeClassInvalid => "invalid Unicode character class"
  | .unsupportedBackreference => "backreferences are not supported"
  | .unsupportedLookAround => "look-around, including look-ahead and look-behind, is not supported"
  | .unicodeNotAllowed => "Unicode not allowed here"
  | .invalidUtf8 => "pattern can match invalid UTF-8"
  | .unicodePropertyNotFound => "Unicode property not found"
  | .unicodePropertyValueNotFound => "Unicode property value not found"

/-- An error with the span it points at, and for a duplicate the span of the first occurrence. -/
structure Error where
  kind : ErrorKind
  span : Span
  aux : Option Span
  deriving Repr, Inhabited

def lineColumn (pat : List Char) (p : Nat) : Nat × Nat :=
  (pat.take p).foldl (fun (lc : Nat × Nat) ch => if ch = '\n' then (lc.1 + 1, 1) else (lc.1, lc.2 + 1)) (1, 1)

structure Placed where
  startLine : Nat
  startCol : Nat
  endLine : Nat
  endCol : Nat
  start : Nat

def place (pat : List Char) (sp : Span) : Placed :=
  let a := lineColumn pat sp.start
  let b := lineColumn pat sp.stop
  ⟨a.1, a.2, b.1, b.2, sp.start⟩

/-- The lines of a pattern; a line feed ends a line, and a carriage return before it is dropped. -/
def patternLines (pat : List Char) : List (List Char) :=
  let raw := Unicode.splitAt '\n' pat
  let raw := if raw.getLast? = some [] then raw.dropLast else raw
  raw.map fun l => if l.getLast? = some '\r' then l.dropLast else l

def caretRow (pad : Nat) (spans : List Placed) : String :=
  let step (acc : Nat × List Char) (sp : Placed) :=
    let (pos, out) := acc
    let blanks := (sp.startCol - 1) - pos
    let carets := max 1 (sp.endCol - sp.startCol)
    (pos + blanks + carets, out ++ List.replicate blanks ' ' ++ List.replicate carets '^')
  String.ofList (List.replicate pad ' ' ++ (spans.foldl step (0, [])).2)

def Error.render (e : Error) (pat : String) : String :=
  let cs := pat.toList
  let lines := patternLines cs
  let lineCount := lines.length + (if cs.getLast? = some '\n' then 1 else 0)
  let width := if lineCount ≤ 1 then 0 else (toString lineCount).length
  let spans := (e.span :: e.aux.toList).map (place cs)
  let oneLine := (spans.filter fun s => s.startLine = s.endLine).mergeSort fun a b => a.start ≤ b.start
  let multi := (spans.filter fun s => s.startLine ≠ s.endLine).mergeSort fun a b => a.start ≤ b.start
  let pad := if width = 0 then 4 else 2 + width
  let numbered (i : Nat) : String :=
    if width = 0 then "    "
    else
      let n := toString i
      String.ofList (List.replicate (width - n.length) ' ') ++ n ++ ": "
  let notated := String.join ((lines.zipIdx 1).map fun (l, i) =>
    let here := oneLine.filter fun s => s.startLine = i
    numbered i ++ String.ofList l ++ "\n" ++ (if here.isEmpty then "" else caretRow pad here ++ "\n"))
  if cs.contains '\n' then
    let divider := String.ofList (List.replicate 79 '~')
    let notes := multi.map fun s =>
      "on line " ++ toString s.startLine ++ " (column " ++ toString s.startCol ++ ") through line " ++
        toString s.endLine ++ " (column " ++ toString (s.endCol - 1) ++ ")"
    "regex parse error:\n" ++ divider ++ "\n" ++ notated ++ divider ++ "\n" ++
      (if notes.isEmpty then "" else String.intercalate "\n" notes ++ "\n") ++ "error: " ++ e.kind.message
  else "regex parse error:\n" ++ notated ++ "error: " ++ e.kind.message

end Regex

end Descent
