/-! Sets of code points as sorted lists of disjoint inclusive ranges, with the set algebra that
character classes need, and the reader for the compact range tables of the character database
(`gap.length` pairs in base 36, comma separated). Membership is a binary search. -/

namespace Descent

namespace Unicode

def maxCode : Nat := 0x10FFFF

/-- Sorted, disjoint, non-touching inclusive ranges of code points. -/
structure CharSet where
  ranges : Array (Nat × Nat)
  deriving BEq, Inhabited, Repr

namespace CharSet

def empty : CharSet := ⟨#[]⟩

def mergeSorted : List (Nat × Nat) → List (Nat × Nat)
  | [] => []
  | [r] => [r]
  | r :: q :: rs =>
    if q.1 ≤ r.2 + 1 then mergeSorted ((r.1, max r.2 q.2) :: rs) else r :: mergeSorted (q :: rs)
termination_by rs => rs.length

/-- The set of the given ranges, in any order; a range with its ends swapped is empty. -/
def ofRanges (rs : List (Nat × Nat)) : CharSet :=
  ⟨(mergeSorted ((rs.filter fun r => r.1 ≤ r.2).mergeSort fun a b => a.1 ≤ b.1)).toArray⟩

def single (c : Nat) : CharSet := ⟨#[(c, c)]⟩

def union (a b : CharSet) : CharSet := ofRanges (a.ranges.toList ++ b.ranges.toList)

def gapsFrom : Nat → List (Nat × Nat) → List (Nat × Nat)
  | start, [] => if start ≤ maxCode then [(start, maxCode)] else []
  | start, (lo, hi) :: rs => (if start < lo then [(start, lo - 1)] else []) ++ gapsFrom (hi + 1) rs

def complement (a : CharSet) : CharSet := ⟨(gapsFrom 0 a.ranges.toList).toArray⟩

def inter (a b : CharSet) : CharSet := (union a.complement b.complement).complement

def diff (a b : CharSet) : CharSet := inter a b.complement

def symmDiff (a b : CharSet) : CharSet := diff (union a b) (inter a b)

def searchIn (rs : Array (Nat × Nat)) (c : Nat) (lo hi : Nat) : Bool :=
  if _h : lo < hi then
    let mid := (lo + hi) / 2
    match rs[mid]? with
    | none => false
    | some (a, b) =>
      if c < a then searchIn rs c lo mid
      else if b < c then searchIn rs c (mid + 1) hi
      else true
  else false
termination_by hi - lo

def contains (a : CharSet) (c : Nat) : Bool := searchIn a.ranges c 0 a.ranges.size

def containsChar (a : CharSet) (c : Char) : Bool := a.contains c.toNat

def isEmpty (a : CharSet) : Bool := a.ranges.isEmpty

end CharSet

def splitAt (sep : Char) : List Char → List (List Char)
  | [] => [[]]
  | c :: cs =>
    if c = sep then [] :: splitAt sep cs
    else match splitAt sep cs with
      | p :: ps => (c :: p) :: ps
      | [] => [[c]]

def base36Digit (c : Char) : Nat :=
  if c.isDigit then c.toNat - 48 else c.toNat - 87

/-- Decode a table: each entry `gap.length` is a range that starts `gap` after the end of the
previous range and holds `length + 1` code points. -/
def decodeTable (s : String) : CharSet :=
  -- reading state: end of the previous range, the gap read so far, the number being read
  let step (acc : Nat × Option Nat × Nat × List (Nat × Nat)) (c : Char) :=
    let (prev, gap, n, out) := acc
    if c = '.' then (prev, some n, 0, out)
    else if c = ',' then
      let lo := prev + gap.getD 0
      (lo + n + 1, none, 0, (lo, lo + n) :: out)
    else (prev, gap, 36 * n + base36Digit c, out)
  let (prev, gap, n, out) := s.toList.foldl step (0, none, 0, [])
  let out := match gap with
    | some g => (prev + g, prev + g + n) :: out
    | none => out
  ⟨out.reverse.toArray⟩

end Unicode

end Descent
