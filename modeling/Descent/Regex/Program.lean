import Descent.Regex.Hir
/-! Patterns compiled to automata with ordered choices. Each node reads a character of a set,
tests an anchor, jumps, or splits into a preferred and a second branch; the preferred branch of a
greedy repetition takes one more round. A starred part that can match the empty text is built as
an optional plus, so that its preferences rank an empty round below leaving the loop. -/

namespace Descent

namespace Regex

open Unicode

inductive Node where
  | chars (set : CharSet) (next : Nat)
  | split (first second : Nat)
  | goto (next : Nat)
  | look (k : Look) (next : Nat)
  | accept
  deriving Inhabited

abbrev Build := StateM (Array Node)

def emit (n : Node) : Build Nat := modifyGet fun a => (a.size, a.push n)

def patch (i : Nat) (n : Node) : Build Unit := modify fun a => a.setIfInBounds i n

/-- A choice between a body and an exit, the body preferred when greedy. -/
def choose (greedy : Bool) (body exit : Nat) : Node :=
  if greedy then .split body exit else .split exit body

def chain (piece : Nat → Build Nat) : Nat → Nat → Build Nat
  | 0, next => pure next
  | k + 1, next => do
    let s ← piece next
    chain piece k s

def optionals (piece : Nat → Build Nat) (greedy : Bool) : Nat → Nat → Build Nat
  | 0, next => pure next
  | k + 1, next => do
    let rest ← optionals piece greedy k next
    let s ← piece rest
    emit (choose greedy s next)

def loopBack (piece : Nat → Build Nat) (greedy : Bool) (next : Nat) : Build (Nat × Nat) := do
  let u ← emit (.goto next)
  let s ← piece u
  patch u (choose greedy s next)
  pure (s, u)

mutual
/-- The entry node of a meaning compiled in front of the node `next`. -/
def compile (h : Hir) (next : Nat) : Build Nat :=
  match h with
  | .empty => pure next
  | .chars set => emit (.chars set next)
  | .look k => emit (.look k next)
  | .group sub => compile sub next
  | .concat items => compileSeq items next
  | .alt alts => compileAlts alts next
  | .rep lo hi greedy sub =>
    let piece := fun nxt => compile sub nxt
    match hi with
    | some m =>
      if lo = m then chain piece lo next
      else do
        let tail ← optionals piece greedy (m - lo) next
        chain piece lo tail
    | none =>
      if lo = 0 then
        if !sub.matchesEmpty then do
          let (_, u) ← loopBack piece greedy next
          pure u
        else do
          let (s, _) ← loopBack piece greedy next
          emit (choose greedy s next)
      else do
        let (s, _) ← loopBack piece greedy next
        chain piece (lo - 1) s

def compileSeq (items : List Hir) (next : Nat) : Build Nat :=
  match items with
  | [] => pure next
  | h :: hs => do
    let rest ← compileSeq hs next
    compile h rest

def compileAlts (alts : List Hir) (next : Nat) : Build Nat :=
  match alts with
  | [] => emit (.chars .empty next)
  | [h] => compile h next
  | h :: hs => do
    let first ← compile h next
    let rest ← compileAlts hs next
    emit (.split first rest)
end

structure Program where
  nodes : Array Node
  start : Nat
  deriving Inhabited

def Program.ofHir (h : Hir) : Program :=
  let (start, nodes) := (do
    let acc ← emit .accept
    compile h acc).run #[]
  ⟨nodes, start⟩

end Regex

end Descent
