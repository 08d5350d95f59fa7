import Descent.Regex.Parse
import Descent.Regex.Search
import Descent.Regex.Size
import Descent.Text.Primitive
/-! Patterns as matchers. A pattern is anchored by wrapping it as `\A(?:pattern)`, and what it
takes is the text up to the end of its first match. A pattern that closes the wrapping group
early escapes the anchor, and its first match may then begin further on. A pattern that does not compile is
reported with the report of its wrapped form; one whose automaton would be too large, with the
size limit. -/

namespace Descent

namespace Regex

/-- The matcher of a pattern, or the text that says why it does not compile. -/
def matcher (pattern : String) : Except String Matcher :=
  let wrapped := "\\A(?:" ++ pattern ++ ")"
  let refuse (e : Error) : Except String Matcher :=
    .error ("invalid pattern /" ++ pattern ++ "/: " ++ e.render wrapped)
  match parsePattern wrapped with
  | .error e => refuse e
  | .ok ast =>
    match translate {} ast with
    | .error e => refuse e
    | .ok (h, _) =>
      if h.tooBig then
        .error ("invalid pattern /" ++ pattern ++ "/: Compiled regex exceeds size limit of " ++
          toString sizeLimit ++ " bytes.")
      else .ok ⟨pattern, (Program.ofHir h).find h.startsAnchored⟩

end Regex

end Descent
