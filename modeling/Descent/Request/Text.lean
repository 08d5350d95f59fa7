import Descent.Error
import Descent.Text.Span
import Descent.Value.Write
import Descent.Request.Fault
/-! The requests about text alone: locating a byte offset, rendering a failure report, measuring
a span, and replaying a sequence of operations on a parse error. -/

namespace Descent

namespace Request

def stringField (req : Value) (k : String) : Answer String :=
  match req.field? k with
  | some (.str s) => .ok s
  | _ => .error (.badSpec (k ++ " takes a string"))

/-- An offset field: its value as an unsigned 64-bit integer, 0 when it is missing or is not
one. -/
def offsetField (req : Value) (k : String) : Nat := ((req.field? k).bind Value.asU64?).getD 0

def strings (ms : List String) : Value := .arr (ms.map .str)

def locationFields (l : Location) : List (String × Value) :=
  [("column", .int l.column), ("line", .int l.line), ("source_line", .str l.sourceLine)]

def locate (req : Value) : Answer Value := do
  let s ← stringField req "input"
  let c := (Cursor.new s).advance (offsetField req "position")
  match c.remaining? with
  | none => .error .panic
  | some rest =>
    let l := c.locate
    .ok (Value.ofFields ([("position", .int c.pos), ("eos", .bool c.eos), ("remaining", .str rest),
      ("display", .str l.display)] ++ locationFields l))

/-- The report of a failure at byte `position` of the input, with the keys of the items of
`messages` as its messages. -/
def failure (req : Value) : Answer Value := do
  let s ← stringField req "input"
  let ms := ((req.field? "messages").map Value.keys).getD []
  let c := (Cursor.new s).advance (offsetField req "position")
  let f := Failure.ofCursor c ⟨ms⟩
  .ok (Value.ofFields [("line", .int f.location.line), ("column", .int f.location.column),
    ("position", .int f.position), ("messages", strings ms), ("display", .str f.display)])

def span (req : Value) : Answer Value := do
  let sp : Span := ⟨offsetField req "start", offsetField req "end"⟩
  let some n := sp.len? | .error .panic
  let base := [("len", Value.int n), ("is_empty", .bool sp.isEmpty)]
  match req.field? "source" with
  | some (.str s) =>
    match sp.slice? s with
    | some t => .ok (Value.ofFields (("slice", .str t) :: base))
    | none => .error .panic
  | _ => .ok (Value.ofFields base)

/-- One operation on a parse error, named by the first key of the step in sorted order.
Messages are keys of values, and a message list that is not an array is empty. -/
def errorStep (e : ParseError) (step : Value) : Answer ParseError :=
  match step with
  | .obj ((k, v) :: _) =>
    if k = "new" then .ok (ParseError.new v.key)
    else if k = "empty" then .ok ParseError.empty
    else if k = "push" then .ok (e.push v.key)
    else if k = "merge" then .ok (e.merge ⟨v.keys⟩)
    else if k = "merge_into" then .ok (ParseError.merge ⟨v.keys⟩ e)
    else .error (.badSpec ("unknown error step " ++ k))
  | _ => .error (.badSpec "error step must be a non-empty object")

def errorSteps (req : Value) : Answer Value := do
  let steps ← match req.field? "steps" with
    | some (.arr xs) => .ok xs
    | _ => .error (.badSpec "steps takes an array")
  let rec go : ParseError → List Value → Answer (List Value)
    | _, [] => .ok []
    | e, s :: ss => do
      let e' ← errorStep e s
      let rest ← go e' ss
      .ok (Value.ofFields [("messages", strings e'.messages), ("is_empty", .bool e'.isEmpty),
        ("display", .str e'.display)] :: rest)
  let out ← go ParseError.empty steps
  .ok (.arr out)

end Request

end Descent
