import Std.Data.HashSet
import Descent.Regex.Program
/-! Running an automaton over a text. From each starting point in turn the search follows branches
depth first in order of preference and never visits a node at a position twice, so the first
accepting path it finds is the preferred match of the earliest start, and the work is bounded by
nodes times positions. Positions are
byte offsets of the whole source; the text searched begins at an offset `lo`, and anchors and
boundaries see nothing before it. -/

namespace Descent

namespace Regex

open Unicode

def charAtByte? (t : String) (p : Nat) : Option Char := String.Pos.Raw.get? t ⟨p⟩

def charBefore? (t : String) (lo p : Nat) : Option Char :=
  if p ≤ lo then none else String.Pos.Raw.get? t (String.Pos.Raw.prev t ⟨p⟩)

def isWordChar (unicode : Bool) (c : Option Char) : Bool :=
  match c with
  | some ch => if unicode then wordSet.containsChar ch else asciiWordSet.containsChar ch
  | none => false

/-- Whether an anchor or boundary holds at byte `p` of the text that begins at byte `lo` of `t`. -/
def Look.holds (k : Look) (t : String) (lo p : Nat) : Bool :=
  let before := charBefore? t lo p
  let after := charAtByte? t p
  let atEnd := t.utf8ByteSize ≤ p
  match k with
  | .start => p ≤ lo
  | .stop => atEnd
  | .startLine => p ≤ lo || before == some '\n'
  | .endLine => atEnd || after == some '\n'
  | .startLineCrlf => p ≤ lo || before == some '\n' || (before == some '\r' && after != some '\n')
  | .endLineCrlf => atEnd || after == some '\r' || (after == some '\n' && before != some '\r')
  | .word u => isWordChar u before != isWordChar u after
  | .notWord u => isWordChar u before == isWordChar u after
  | .wordStart u => !isWordChar u before && isWordChar u after
  | .wordEnd u => isWordChar u before && !isWordChar u after
  | .wordStartHalf u => !isWordChar u before
  | .wordEndHalf u => !isWordChar u after

/-- Depth-first search from the branches `stack`, `seen` holding visited node and position pairs;
a `floating` search begins again at the next character, keeping `seen`, which led to no match. -/
def Program.explore (prog : Program) (t : String) (lo width : Nat) (floating : Bool) :
    Nat → Nat → List (Nat × Nat) → Std.HashSet Nat → Option Nat
  | 0, _, _, _ => none
  | fuel + 1, first, [], seen =>
    if floating then
      match charAtByte? t first with
      | some c =>
        let next := first + c.utf8Size
        prog.explore t lo width floating fuel next [(prog.start, next)] seen
      | none => none
    else none
  | fuel + 1, first, (s, p) :: rest, seen =>
    let key := s * width + p
    if seen.contains key then prog.explore t lo width floating fuel first rest seen
    else
      let seen := seen.insert key
      match prog.nodes[s]? with
      | some .accept => some p
      | some (.chars set next) =>
        match charAtByte? t p with
        | some c =>
          if set.containsChar c then
            prog.explore t lo width floating fuel first ((next, p + c.utf8Size) :: rest) seen
          else prog.explore t lo width floating fuel first rest seen
        | none => prog.explore t lo width floating fuel first rest seen
      | some (.split a b) => prog.explore t lo width floating fuel first ((a, p) :: (b, p) :: rest) seen
      | some (.goto n) => prog.explore t lo width floating fuel first ((n, p) :: rest) seen
      | some (.look k next) =>
        if k.holds t lo p then prog.explore t lo width floating fuel first ((next, p) :: rest) seen
        else prog.explore t lo width floating fuel first rest seen
      | none => prog.explore t lo width floating fuel first rest seen

/-- The end of the preferred match in the text that begins at byte `lo` of `t`, as a length from
`lo`: the match that begins first, and of those that begin there the preferred one. Unless
`anchored` says that every match begins at `lo`, each character boundary is tried in turn. -/
def Program.find (prog : Program) (anchored : Bool) (t : String) (lo : Nat) : Option Nat :=
  let width := t.utf8ByteSize + 1
  let room := width - lo
  (prog.explore t lo width (!anchored) (3 * (prog.nodes.size + 1) * (room + 1) + room + 1) lo
    [(prog.start, lo)] {}).map (· - lo)

end Regex

end Descent
