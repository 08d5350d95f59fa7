import Descent.Regex.Hir
import Std.Data.HashMap
/-! The size of a pattern's compiled automata, and the limit of 10485760 bytes on them. A pattern
is compiled over bytes twice, forwards with its capturing groups and backwards without them; a
state takes 32 bytes, 8 more per byte range and 4 more per branch of a choice. The count follows
the compiler state by state over the normal form it sees (`Shape`), with the caches that share
equal class states, and stops as soon as it passes the limit. -/

namespace Descent

namespace Regex

open Unicode

def sizeLimit : Nat := 10485760

def utf8Encode (c : Nat) : List Nat :=
  if c < 0x80 then [c]
  else if c < 0x800 then [0xC0 + c / 64, 0x80 + c % 64]
  else if c < 0x10000 then [0xE0 + c / 4096, 0x80 + c / 64 % 64, 0x80 + c % 64]
  else [0xF0 + c / 262144, 0x80 + c / 4096 % 64, 0x80 + c / 64 % 64, 0x80 + c % 64]

def utf8Len (c : Nat) : Nat := (utf8Encode c).length

def surrogates : CharSet := ⟨#[(0xD800, 0xDFFF)]⟩

/-- Where a range of code points must be cut before its UTF-8 sequences are uniform: around the
surrogates, where the encoding length changes, and where a continuation byte would not run over
its full span. The first part comes back first. -/
def utf8Cut (s e : Nat) : Option ((Nat × Nat) × (Nat × Nat)) :=
  if s < 0xE000 ∧ 0xD7FF < e then some ((s, 0xD7FF), (0xE000, e))
  else
    let byLength := [0x7F, 0x7FF, 0xFFFF].find? fun m => s ≤ m ∧ m < e
    match byLength with
    | some m => some ((s, m), (m + 1, e))
    | none =>
      if e ≤ 0x7F then none
      else
        let cut := [64, 4096, 262144].findSome? fun w =>
          if s / w = e / w then none
          else if s % w ≠ 0 then some ((s, s - s % w + (w - 1)), (s - s % w + w, e))
          else if e % w ≠ w - 1 then some ((s, e - e % w - 1), (e - e % w, e))
          else none
        cut

def utf8SeqsFrom : Nat → List (Nat × Nat) → List (List (Nat × Nat))
  | 0, _ => []
  | _, [] => []
  | fuel + 1, (s, e) :: stack =>
    if e < s then utf8SeqsFrom fuel stack
    else
      match utf8Cut s e with
      | some (first, second) => utf8SeqsFrom fuel (first :: second :: stack)
      | none => (utf8Encode s).zip (utf8Encode e) :: utf8SeqsFrom fuel stack

/-- The UTF-8 sequences of a range of code points, in order: each a list of byte ranges, one per
byte. A range splits into fewer than a hundred sequences, so the fuel is never spent. -/
def utf8Sequences (s e : Nat) : List (List (Nat × Nat)) := utf8SeqsFrom 1000 [(s, e)]

/-- A meaning in the normal form that the automaton compiler sees. -/
inductive Shape where
  | empty
  | lit (chars : List Nat)
  | cls (set : CharSet) (seqs : List (List (Nat × Nat)))
  | look (k : Look)
  | rep (min : Nat) (max : Option Nat) (greedy : Bool) (sub : Shape)
  | cap (index : Nat) (sub : Shape)
  | concat (items : List Shape)
  | alt (alts : List Shape)
  deriving BEq, Inhabited

namespace Shape

def ofSet (s : CharSet) : Shape :=
  let s := s.diff surrogates
  match s.ranges.toList with
  | [(a, b)] => if a = b then .lit [a] else .cls s (utf8Sequences a b)
  | rs => .cls s (rs.flatMap fun r => utf8Sequences r.1 r.2)

def sumLens : List (Option Nat) → Option Nat
  | [] => some 0
  | x :: xs => do
    let a ← x
    let b ← sumLens xs
    pure (a + b)

def pickLens (better : Nat → Nat → Bool) : List (Option Nat) → Option Nat
  | [] => none
  | [x] => x
  | x :: xs => do
    let a ← x
    let b ← pickLens better xs
    pure (if better a b then a else b)

mutual
def minLen : Shape → Option Nat
  | .empty => some 0
  | .lit cs => some (cs.map utf8Len).sum
  | .cls s _ => s.ranges[0]?.map fun r => utf8Len r.1
  | .look _ => some 0
  | .rep lo _ _ sub => sub.minLen.map (· * lo)
  | .cap _ sub => sub.minLen
  | .concat items => sumLens (minLens items)
  | .alt alts => pickLens (· < ·) (minLens alts)

def minLens : List Shape → List (Option Nat)
  | [] => []
  | x :: xs => x.minLen :: minLens xs
end

mutual
/-- The most bytes a match takes; `none` when there is no bound or nothing matches. -/
def maxLen : Shape → Option Nat
  | .empty => some 0
  | .lit cs => some (cs.map utf8Len).sum
  | .cls s _ => s.ranges.back?.map fun r => utf8Len r.2
  | .look _ => some 0
  | .rep _ hi _ sub => hi.bind fun m => sub.maxLen.map (· * m)
  | .cap _ sub => sub.maxLen
  | .concat items => sumLens (maxLens items)
  | .alt alts => pickLens (· > ·) (maxLens alts)

def maxLens : List Shape → List (Option Nat)
  | [] => []
  | x :: xs => x.maxLen :: maxLens xs
end

mutual
/-- Whether every match must start at the start of the text: the anchor `\A` comes first on
every path, before anything that takes a byte. -/
def startsAtStart : Shape → Bool
  | .look k => k == .start
  | .rep lo _ _ sub => 0 < lo && sub.startsAtStart
  | .cap _ sub => sub.startsAtStart
  | .concat items => prefixStarts items
  | .alt alts => allStart alts
  | _ => false

def prefixStarts : List Shape → Bool
  | [] => false
  | x :: xs => x.startsAtStart || (x.maxLen == some 0 && prefixStarts xs)

def allStart : List Shape → Bool
  | [] => false
  | [x] => x.startsAtStart
  | x :: xs => x.startsAtStart && allStart xs
end

mutual
def endsAtEnd : Shape → Bool
  | .look k => k == .stop
  | .rep lo _ _ sub => 0 < lo && sub.endsAtEnd
  | .cap _ sub => sub.endsAtEnd
  | .concat items => suffixEnds items
  | .alt alts => allEnd alts
  | _ => false

def suffixEnds : List Shape → Bool
  | [] => false
  | x :: xs => suffixEnds xs || (x.endsAtEnd && (maxLens xs).all (· == some 0))

def allEnd : List Shape → Bool
  | [] => false
  | [x] => x.endsAtEnd
  | x :: xs => x.endsAtEnd && allEnd xs
end

def mergeLits : List Shape → List Shape
  | [] => []
  | .lit a :: rest =>
    match mergeLits rest with
    | .lit b :: more => .lit (a ++ b) :: more
    | more => .lit a :: more
  | x :: rest => x :: mergeLits rest

/-- A sequence: nested sequences spliced in, empty items dropped, literals merged. -/
def concatOf (items : List Shape) : Shape :=
  let flat := items.flatMap fun
    | .concat xs => xs
    | .empty => []
    | x => [x]
  match mergeLits flat with
  | [] => .empty
  | [x] => x
  | xs => .concat xs

def seqItems : Shape → Option (List Shape)
  | .concat xs => some xs
  | _ => none

def commonPrefixLen : List Shape → List Shape → Nat
  | x :: xs, y :: ys => if x == y then commonPrefixLen xs ys + 1 else 0
  | _, _ => 0

def singleChar : Shape → Option Nat
  | .lit [c] => some c
  | _ => none

def classSet : Shape → Option CharSet
  | .cls s _ => some s
  | _ => none

/-- An alternation: nested alternations spliced in; single characters or classes joined into
one class; otherwise sequences with a common beginning factored. The factoring recurses on the
remaining parts, at most `fuel` times. -/
def altOfFuel : Nat → List Shape → Shape
  | fuel, alts =>
    let flat := alts.flatMap fun
      | .alt xs => xs
      | x => [x]
    match flat with
    | [] => .cls .empty []
    | [x] => x
    | _ =>
      match flat.mapM singleChar with
      | some cs => ofSet (CharSet.ofRanges (cs.map fun c => (c, c)))
      | none =>
        match flat.mapM classSet with
        | some ss => ofSet (CharSet.ofRanges (ss.flatMap fun s => s.ranges.toList))
        | none =>
          match fuel, flat.mapM seqItems with
          | fuel + 1, some (first :: rest) =>
            let len := rest.foldl (fun n xs => min n (commonPrefixLen first xs)) first.length
            if len = 0 then .alt flat
            else
              let suffixes := (first :: rest).map fun xs => concatOf (xs.drop len)
              concatOf (first.take len ++ [altOfFuel fuel suffixes])
          | _, _ => .alt flat

/-- An alternation in normal form. Each factoring shortens every alternative, so the longest
alternative bounds how often it can happen. -/
def altOf (alts : List Shape) : Shape :=
  altOfFuel (alts.foldl (fun n a => max n ((seqItems a).map List.length |>.getD 0)) 0 + 1) alts

/-- A repetition in normal form: what only matches the empty text repeats at most once, no
round is the empty text and exactly one round is the contents. -/
def repOf (lo : Nat) (hi : Option Nat) (greedy : Bool) (sub : Shape) : Shape :=
  let (lo, hi) := if sub.maxLen == some 0 then (min lo 1, some ((hi.map (min · 1)).getD 1)) else (lo, hi)
  if lo = 0 ∧ hi = some 0 then .empty
  else if lo = 1 ∧ hi = some 1 then sub
  else .rep lo hi greedy sub

end Shape

mutual
/-- The normal form of a meaning, numbering its capturing groups from `n` in the order they
open; with the next free number. -/
def Hir.shapeAt : Hir → Nat → Shape × Nat
  | .empty, n => (.empty, n)
  | .chars s, n => (Shape.ofSet s, n)
  | .look k, n => (.look k, n)
  | .rep lo hi greedy sub, n =>
    let (s, n) := sub.shapeAt n
    (Shape.repOf lo hi greedy s, n)
  | .group sub, n =>
    let (s, n') := sub.shapeAt (n + 1)
    (.cap n s, n')
  | .concat items, n =>
    let (ss, n) := shapesAt items n
    (Shape.concatOf ss, n)
  | .alt alts, n =>
    let (ss, n) := shapesAt alts n
    (Shape.altOf ss, n)

def shapesAt : List Hir → Nat → List Shape × Nat
  | [], n => ([], n)
  | h :: hs, n =>
    let (s, n) := h.shapeAt n
    let (ss, n) := shapesAt hs n
    (s :: ss, n)
end

/-- The count so far: states, and the bytes they hold beyond their own 32. -/
structure Tally where
  states : Nat
  extra : Nat

/-- Compilation steps that count; `none` once the automaton passes the limit. -/
abbrev Counting := StateT Tally Option

def addStates (n extra : Nat) : Counting Nat := fun t =>
  let t' : Tally := ⟨t.states + n, t.extra + extra⟩
  if sizeLimit < 32 * t'.states + t'.extra then none else some (t.states, t')

def addState (extra : Nat) : Counting Nat := addStates 1 extra

def link (endIsChoice : Bool) : Counting Unit :=
  if endIsChoice then do let _ ← addStates 0 4 else pure ()

structure Trans where
  lo : Nat
  hi : Nat
  next : Nat
  deriving BEq

/-- A state of a class automaton not yet added: its transitions, and a last one whose target is
not known yet. -/
structure Pending where
  trans : Array Trans
  last : Option (Nat × Nat)

/-- A class automaton under construction: the pending states from the start down, and the
cache of added states by hash slot. -/
structure ClassBuild where
  pending : Array Pending
  cache : Std.HashMap Nat (Array Trans × Nat)

def fnvSlot (slots : Nat) (words : List Nat) : Nat :=
  let prime : UInt64 := 1099511628211
  let step (h : UInt64) (w : Nat) : UInt64 := (h ^^^ w.toUInt64) * prime
  (words.foldl step 14695981039346656037 % slots.toUInt64).toNat

def slotOf (key : Array Trans) : Nat :=
  fnvSlot 10000 (key.toList.flatMap fun t => [t.lo, t.hi, t.next])

def Pending.freeze (p : Pending) (next : Nat) : Array Trans :=
  match p.last with
  | some (lo, hi) => p.trans.push ⟨lo, hi, next⟩
  | none => p.trans

def ClassBuild.state (b : ClassBuild) (key : Array Trans) : Counting (ClassBuild × Nat) := do
  let slot := slotOf key
  match b.cache.get? slot with
  | some (k, id) => if k == key then return (b, id) else pure ()
  | none => pure ()
  let id ← addState (8 * key.size)
  return ({ b with cache := b.cache.insert slot (key, id) }, id)

/-- Add the `k` deepest pending states, each leading to the one added before it, starting
from `next`; the state the chain begins at comes back. -/
def ClassBuild.popStates : Nat → ClassBuild → Nat → Counting (ClassBuild × Nat)
  | 0, b, next => pure (b, next)
  | k + 1, b, next =>
    match b.pending.back? with
    | none => pure (b, next)
    | some p => do
      let (b, id) ← ({ b with pending := b.pending.pop } : ClassBuild).state (p.freeze next)
      popStates k b id

/-- Add every pending state below depth `depth`, and send the last transition of the one at
that depth to them (or to `target`). -/
def ClassBuild.settle (b : ClassBuild) (target depth : Nat) : Counting ClassBuild := do
  let (b, next) ← b.popStates (b.pending.size - (depth + 1)) target
  match b.pending.back? with
  | some p => pure { b with pending := b.pending.pop.push ⟨p.freeze next, none⟩ }
  | none => pure b

def sharedLen : List (Nat × Nat) → List Pending → Nat
  | r :: rs, p :: ps => if p.last == some r then sharedLen rs ps + 1 else 0
  | _, _ => 0

def ClassBuild.addSeq (target : Nat) (b : ClassBuild) (seq : List (Nat × Nat)) :
    Counting ClassBuild := do
  let shared := sharedLen seq b.pending.toList
  let b ← b.settle target shared
  match seq.drop shared with
  | [] => pure b
  | r :: rest =>
    let pending := match b.pending.back? with
      | some p => b.pending.pop.push { p with last := some r }
      | none => b.pending
    pure { b with pending := rest.foldl (fun ps r => ps.push ⟨#[], some r⟩) pending }

/-- The states of a class: a state with its ranges and an exit when it is ASCII; otherwise an
exit and the automaton of its UTF-8 sequences. The end is never a choice. -/
def classStates (s : CharSet) (seqs : List (List (Nat × Nat))) : Counting Bool := do
  if s.ranges.all (·.2 ≤ 0x7F) then
    let _ ← addStates 2 (8 * s.ranges.size)
    return false
  let target ← addState 0
  let start : ClassBuild := ⟨#[⟨#[], none⟩], {}⟩
  let b ← seqs.foldlM (ClassBuild.addSeq target) start
  let b ← b.settle target 0
  let root := (b.pending[0]?.map (·.trans)).getD #[]
  let _ ← b.state root
  return false

/-- The states of a wider class read backwards: a choice and an exit, and for each UTF-8
sequence a chain of byte states from its first byte, leading to the exit. A byte state is shared
when the cache still holds the same byte range leading to the same state. -/
def backwardClassStates (seqs : List (List (Nat × Nat))) : Counting Bool := do
  let _ ← addState 0
  let exit ← addState 0
  let chain (cache : Std.HashMap Nat ((Nat × Nat × Nat) × Nat)) (seq : List (Nat × Nat)) :
      Counting (Std.HashMap Nat ((Nat × Nat × Nat) × Nat)) := do
    let step (acc : Std.HashMap Nat ((Nat × Nat × Nat) × Nat) × Nat) (r : Nat × Nat) :
        Counting (Std.HashMap Nat ((Nat × Nat × Nat) × Nat) × Nat) := do
      let (cache, toward) := acc
      let key := (toward, r.1, r.2)
      let slot := fnvSlot 1000 [toward, r.1, r.2]
      match cache.get? slot with
      | some (k, id) => if k == key then return (cache, id) else pure ()
      | none => pure ()
      let id ← addState 0
      return (cache.insert slot (key, id), id)
    let (cache, _) ← seq.foldlM step (cache, exit)
    let _ ← addStates 0 4
    return cache
  let _ ← seqs.foldlM chain {}
  return false

/-- A node of a trie of literals: transitions by byte, and its runs of transitions that end
where a literal ends. -/
structure TrieNode where
  trans : Array (Nat × Nat)
  chunks : Array (Nat × Nat)
  deriving Inhabited

def TrieNode.activeStart (n : TrieNode) : Nat := match n.chunks.back? with
  | some (_, e) => e
  | none => 0

def trieEnd (ns : Array TrieNode) (i : Nat) : Array TrieNode :=
  let n := ns.getD i default
  if n.trans.isEmpty && !n.chunks.isEmpty then ns
  else ns.modify i fun m => { m with chunks := m.chunks.push (m.activeStart, m.trans.size) }

/-- Insert the bytes of a literal from node `i`. Only the transitions after the last ending at a
node are shared: a literal that goes on past an earlier one ranks below it, so it gets its own
branch after that ending. -/
def trieInsert (ns : Array TrieNode) : Nat → List Nat → Array TrieNode
  | i, [] => trieEnd ns i
  | i, b :: bs =>
    let n := ns.getD i default
    match (n.trans.extract n.activeStart n.trans.size).find? (·.1 == b) with
    | some (_, j) => trieInsert ns j bs
    | none =>
      let j := ns.size
      let ns := (ns.modify i fun m => { m with trans := m.trans.push (b, j) }).push default
      trieInsert ns j bs

/-- States and extra bytes of the automaton of a trie node: for each run of transitions, the
nodes it leads to and a state with the run's bytes; then a choice among the runs and the
endings between them. `fuel` bounds the depth. -/
def trieTally (ns : Array TrieNode) : Nat → Nat → Nat × Nat
  | 0, _ => (0, 0)
  | fuel + 1, i =>
    let n := ns.getD i default
    let runs := n.chunks.toList.map (fun c => (n.trans.extract c.1 c.2).toList) ++
      [(n.trans.extract n.activeStart n.trans.size).toList]
    let perRun := runs.map fun run =>
      let inner := run.map fun t =>
        if (ns.getD t.2 default).trans.isEmpty then (0, 0) else trieTally ns fuel t.2
      let states := (inner.map (·.1)).sum
      let extra := (inner.map (·.2)).sum
      if run.isEmpty then (states, extra, 0)
      else (states + 1, extra + (if run.length = 1 then 0 else 8 * run.length), 1)
    let branches := runs.length - 1 + (perRun.map (·.2.2)).sum
    ((perRun.map (·.1)).sum + 1, (perRun.map (·.2.1)).sum + 4 * branches)

def trieStates (backward : Bool) (lits : List (List Nat)) : Counting Bool := do
  let bytes (l : List Nat) : List Nat :=
    if backward then (l.flatMap utf8Encode).reverse else l.flatMap utf8Encode
  let ns := lits.foldl (fun ns l => trieInsert ns 0 (bytes l)) #[default]
  let (states, extra) := trieTally ns ns.size 0
  let _ ← addStates (1 + states) extra
  return false

def copiesAfter (piece : Counting Bool) : Nat → Bool → Counting Bool
  | 0, e => pure e
  | k + 1, e => do
    let e' ← piece
    link e
    copiesAfter piece k e'

def exactly (piece : Counting Bool) : Nat → Counting Bool
  | 0 => do let _ ← addState 0; return false
  | n + 1 => do
    let e ← piece
    copiesAfter piece n e

def optionalCopies (piece : Counting Bool) : Nat → Bool → Counting Bool
  | 0, e => pure e
  | k + 1, e => do
    let _ ← addState 0
    let e' ← piece
    link e
    let _ ← addStates 0 8
    optionalCopies piece k e'

def repeatStates (lo : Nat) (hi : Option Nat) (subMin : Option Nat) (piece : Counting Bool) :
    Counting Bool :=
  match lo, hi with
  | 0, some 1 => do
    let _ ← addState 0
    let e ← piece
    let _ ← addState 0
    let _ ← addStates 0 8
    link e
    return false
  | 0, none =>
    if subMin.any (0 < ·) then do
      let _ ← addState 0
      let e ← piece
      let _ ← addStates 0 4
      link e
      return true
    else do
      let e ← piece
      let _ ← addState 0
      link e
      let _ ← addStates 0 4
      let _ ← addStates 2 0
      let _ ← addStates 0 12
      return false
  | 1, none => do
    let e ← piece
    let _ ← addState 0
    link e
    let _ ← addStates 0 4
    return true
  | n + 2, none => do
    let e ← exactly piece (n + 1)
    let e' ← piece
    let _ ← addState 0
    link e
    link e'
    let _ ← addStates 0 4
    return true
  | n, some m =>
    if n = m then exactly piece n
    else do
      let e ← exactly piece n
      let _ ← addState 0
      let e ← optionalCopies piece (m - n) e
      link e
      return false

mutual
/-- The states of a shape in the automaton that reads forwards or backwards; whether its end is
a choice. -/
def Shape.states (backward : Bool) : Shape → Counting Bool
  | .empty => do let _ ← addState 0; return false
  | .lit cs => do let _ ← addStates (cs.map utf8Len).sum 0; return false
  | .cls s seqs =>
    if backward && !s.ranges.all (·.2 ≤ 0x7F) then backwardClassStates seqs
    else classStates s seqs
  | .look _ => do let _ ← addState 0; return false
  | .rep lo hi _ sub => repeatStates lo hi sub.minLen (sub.states backward)
  | .cap _ sub =>
    if backward then sub.states backward
    else do
      let _ ← addState 0
      let e ← sub.states backward
      let _ ← addState 0
      link e
      return false
  | .concat items => if backward then seqStatesBack items else seqStates items
  | .alt alts =>
    match alts.mapM fun | .lit cs => some cs | _ => none with
    | some lits => if 2 ≤ lits.length then trieStates backward lits else altStates backward alts
    | none => altStates backward alts

def seqStates : List Shape → Counting Bool
  | [] => do let _ ← addState 0; return false
  | x :: xs => do
    let e ← x.states false
    seqStatesAfter e xs

def seqStatesAfter (e : Bool) : List Shape → Counting Bool
  | [] => pure e
  | x :: xs => do
    let e' ← x.states false
    link e
    seqStatesAfter e' xs

def seqStatesBack : List Shape → Counting Bool
  | [] => do let _ ← addState 0; return false
  | [x] => x.states true
  | x :: xs => do
    let e ← seqStatesBack xs
    let e' ← x.states true
    link e
    return e'

/-- The states of an alternation: the first two alternatives, a choice and an exit, then the
others, each a branch of the choice leading to the exit. -/
def altStates (backward : Bool) : List Shape → Counting Bool
  | [] => do let _ ← addState 0; return false
  | [x] => x.states backward
  | x :: y :: rest => do
    let e ← x.states backward
    let e' ← y.states backward
    let _ ← addStates 2 8
    link e
    link e'
    altStatesAfter backward rest

def altStatesAfter (backward : Bool) : List Shape → Counting Bool
  | [] => return false
  | x :: xs => do
    let e ← x.states backward
    let _ ← addStates 0 4
    link e
    altStatesAfter backward xs
end

/-- The automaton of a whole pattern, read forwards or backwards. It begins with a loop over
any byte unless every match is tied to the end it starts reading from; going forwards the
pattern sits in the capturing group 0; it ends in a match state. -/
def wholeStates (s : Shape) (backward : Bool) : Counting Unit := do
  let tied := if backward then s.endsAtEnd else s.startsAtStart
  let lead ← if tied then (do let _ ← addState 0; pure false)
    else (do let _ ← addStates 3 12; pure true)
  if backward then
    let e ← s.states true
    let _ ← addState 0
    link e
  else
    let _ ← addState 0
    let e ← s.states false
    let _ ← addState 0
    link e
    let _ ← addState 0
  link lead

/-- Whether one of the automata of a pattern passes the size limit. -/
def Hir.tooBig (h : Hir) : Bool :=
  let s := (h.shapeAt 1).1
  ((wholeStates s false).run ⟨0, 0⟩).isNone || ((wholeStates s true).run ⟨0, 0⟩).isNone

end Regex

end Descent
