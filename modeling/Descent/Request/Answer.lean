import Descent.Value.Read
import Descent.Request.Parse
/-! A request line is a JSON object whose `op` names the operation, `parse` when it is missing or
is not a string.
Its answer is one line of compact JSON: the operation's result or the fault that stopped it. -/

namespace Descent

namespace Request

def respond (req : Value) : Value :=
  let result : Answer Value :=
    match req.field? "op" with
    | some (.str "locate") => locate req
    | some (.str "failure") => failure req
    | some (.str "span") => span req
    | some (.str "error") => errorSteps req
    | some (.str "parse") => parse req
    | some (.str op) => .error (.badSpec ("unknown op " ++ op))
    | _ => parse req
  match result with
  | .ok v => v
  | .error f => f.toValue

def isBlankLine (line : String) : Bool := line.toList.all Char.isWhitespace

/-- A line without its terminator: a final line feed, and a carriage return before it. -/
def lineBody (line : String) : String :=
  match line.toList.reverse with
  | '\n' :: '\r' :: rest => String.ofList rest.reverse
  | '\n' :: rest => String.ofList rest.reverse
  | _ => line

def answerLine (line : String) : String :=
  match Value.read (lineBody line) with
  | .ok req => (respond req).write
  | .error e => (Value.obj [("error", .str "BadInput"), ("message", .str e.display)]).write

end Request

end Descent
