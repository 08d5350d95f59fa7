import Descent.Grammar.Decode
import Descent.Request.Text
/-! The parse request: read the rules and the grammar, run the grammar over the input, or over
several inputs in turn with the state carried from each run to the next, and report where each
run stopped. -/

namespace Descent

namespace Request

/-- How deep rules unfold and how many standing steps a `manyUntil` may take. -/
def budget : Nat := 1000000

/-- The report of one run: the value on success; the messages and the failure report
otherwise; in both cases the state and where the cursor stopped. -/
def runReport (r : Reply Value Value) : Value :=
  let rest := r.cursor.rest
  match r.outcome with
  | .ok v => Value.ofFields [("ok", .bool true), ("value", v), ("state", r.state),
      ("position", .int r.cursor.pos), ("remaining", .str rest)]
  | .error e =>
    let f := Failure.ofCursor r.cursor e
    Value.ofFields [("ok", .bool false), ("messages", strings e.messages), ("state", r.state),
      ("position", .int r.cursor.pos), ("remaining", .str rest), ("line", .int f.location.line),
      ("column", .int f.location.column), ("error_display", .str e.display),
      ("display", .str f.display)]

def runOnce (p : Grammar.P) (state : Value) (input : String) : Answer (Reply Value Value) :=
  match p.run state (Cursor.new input) with
  | some r => .ok r
  | none => .error .panic

def runAll (p : Grammar.P) : Value → List Value → Answer (List Value)
  | _, [] => .ok []
  | state, x :: xs => do
    let input ← match x with
      | .str s => .ok s
      | _ => .error (.badSpec "inputs takes an array of strings")
    let r ← runOnce p state input
    let rest ← runAll p r.state xs
    .ok (runReport r :: rest)

def parse (req : Value) : Answer Value := do
  let rules ← match req.field? "rules" with
    | none | some .null => .ok []
    | some (.obj fs) => .ok fs
    | some _ => .error (.badSpec "rules must be an object")
  let known := fun n => rules.any (·.1 == n)
  let decoded ← rules.mapM fun kv => (Grammar.ofValue known kv.2).map fun g => (kv.1, g)
  let g ← Grammar.ofValue known ((req.field? "grammar").getD .null)
  let state := (req.field? "state").getD .null
  let p := Grammar.parser (fun n => decoded.lookup n) budget g
  match req.field? "inputs" with
  | some (.arr xs) => do
    let results ← runAll p state xs
    .ok (.obj [("results", .arr results)])
  | some _ => .error (.badSpec "inputs takes an array of strings")
  | none => do
    let input ← stringField req "input"
    let r ← runOnce p state input
    .ok (runReport r)

end Request

end Descent
