import Descent.Regex.Property
/-! The meaning of a syntax tree: sets of characters, anchors and word boundaries, repetitions,
concatenations and alternatives. Flags are applied here. An inline flag group changes the flags
for the rest of its enclosing group, alternatives after it included; a group restores the flags
it started with. Case-insensitive items add every character that simple case folding makes
equal; every class is folded before it is negated. Without the Unicode flag the classes are
ASCII, and each part of a class that could match a byte outside ASCII is refused where it
stands. -/

namespace Descent

namespace Regex

open Unicode

/-- What an anchor or boundary tests at a position. -/
inductive Look where
  | start | stop | startLine | endLine | startLineCrlf | endLineCrlf
  | word (unicode : Bool) | notWord (unicode : Bool)
  | wordStart (unicode : Bool) | wordEnd (unicode : Bool)
  | wordStartHalf (unicode : Bool) | wordEndHalf (unicode : Bool)
  deriving DecidableEq, Repr, Inhabited

inductive Hir where
  | empty
  | chars (set : CharSet)
  | look (k : Look)
  | rep (min : Nat) (max : Option Nat) (greedy : Bool) (sub : Hir)
  | group (sub : Hir)
  | concat (items : List Hir)
  | alt (alts : List Hir)
  deriving Inhabited

structure Flags where
  caseInsensitive : Bool := false
  multiLine : Bool := false
  dotAll : Bool := false
  swapGreed : Bool := false
  unicode : Bool := true
  crlf : Bool := false
  deriving Inhabited

def Flags.apply (f : Flags) (items : List FlagItem) : Flags :=
  let step (acc : Flags × Bool) (item : FlagItem) : Flags × Bool :=
    let (g, on) := acc
    match item with
    | .negation => (g, false)
    | .flag .caseInsensitive => ({ g with caseInsensitive := on }, on)
    | .flag .multiLine => ({ g with multiLine := on }, on)
    | .flag .dotAll => ({ g with dotAll := on }, on)
    | .flag .swapGreed => ({ g with swapGreed := on }, on)
    | .flag .unicode => ({ g with unicode := on }, on)
    | .flag .crlf => ({ g with crlf := on }, on)
    | .flag .ignoreSpace => (g, on)
  (items.foldl step (f, true)).1

def meaningError {α : Type} (kind : ErrorKind) (span : Span) : Except Error α := .error ⟨kind, span, none⟩

def asciiCaseClose (s : CharSet) : CharSet :=
  let swapped := s.ranges.toList.flatMap fun (lo, hi) =>
    let up := if max lo 97 ≤ min hi 122 then [(max lo 97 - 32, min hi 122 - 32)] else []
    let down := if max lo 65 ≤ min hi 90 then [(max lo 65 + 32, min hi 90 + 32)] else []
    up ++ down
  CharSet.ofRanges (s.ranges.toList ++ swapped)

def fold (f : Flags) (s : CharSet) : CharSet :=
  if !f.caseInsensitive then s else if f.unicode then caseClose s else asciiCaseClose s

def checkBytes (f : Flags) (span : Span) (s : CharSet) : Except Error CharSet :=
  if !f.unicode && s.ranges.any (fun r => 0x80 ≤ r.2) then meaningError .invalidUtf8 span else .ok s

def unicodeSet (f : Flags) (span : Span) (negated : Bool) (kind : UnicodeKind) : Except Error CharSet :=
  if !f.unicode then meaningError .unicodeNotAllowed span
  else
    match unicodeClassSet negated kind with
    | .error k => meaningError k span
    | .ok (s, neg) =>
      let s := fold f s
      .ok (if neg then s.complement else s)

def perlClassSet (f : Flags) (kind : PerlKind) (negated : Bool) : CharSet :=
  let s := perlSet f.unicode kind
  if negated then s.complement else s

/-- A set folded, then negated when asked; without the Unicode flag it must then stay inside
ASCII, or the part at `span` is refused. Folding comes first, so that `(?i)[^x]` leaves out
both cases of `x`. -/
def foldNegate (f : Flags) (span : Span) (negated : Bool) (s : CharSet) : Except Error CharSet :=
  let s := fold f s
  checkBytes f span (if negated then s.complement else s)

/-- A literal inside brackets. Without the Unicode flag it must name an ASCII character: the
escape `\xNN` above `7F` names a byte that is not a character, and any other character past
ASCII is refused. -/
def classLiteral (f : Flags) (l : LitChar) : Except Error Nat :=
  if f.unicode || l.c.toNat < 0x80 then .ok l.c.toNat
  else if l.hexByte then meaningError .invalidUtf8 l.span
  else meaningError .unicodeNotAllowed l.span

mutual
/-- The set of a bracketed class item. Literals and ranges join their class unfolded; every
other item is complete on its own: folded, negated and checked at its span. -/
def itemSet (f : Flags) : ClassItem → Except Error CharSet
  | .literal l => do
    let c ← classLiteral f l
    .ok (.single c)
  | .range lo hi => do
    let a ← classLiteral f lo
    let b ← classLiteral f hi
    .ok (.ofRanges [(a, b)])
  | .ascii span k negated => foldNegate f span negated (asciiClassSet k)
  | .unicode span negated kind => unicodeSet f span negated kind
  | .perl span kind negated => checkBytes f span (perlClassSet f kind negated)
  | .bracketed span negated set => do
    let s ← setOf f set
    foldNegate f span negated s
  | .union _ items => itemsSet f items

def itemsSet (f : Flags) : List ClassItem → Except Error CharSet
  | [] => .ok .empty
  | i :: is => do
    let a ← itemSet f i
    let b ← itemsSet f is
    .ok (a.union b)

def setOf (f : Flags) : ClassSet → Except Error CharSet
  | .item i => itemSet f i
  | .op _ kind lhs rhs => do
    let l ← setOf f lhs
    let r ← setOf f rhs
    let l := fold f l
    let r := fold f r
    .ok (match kind with
      | .inter => l.inter r
      | .diff => l.diff r
      | .symmDiff => l.symmDiff r)
end

def lookOf (f : Flags) (span : Span) : AssertKind → Except Error Look
  | .startText => .ok .start
  | .endText => .ok .stop
  | .startLine => .ok (if !f.multiLine then .start else if f.crlf then .startLineCrlf else .startLine)
  | .endLine => .ok (if !f.multiLine then .stop else if f.crlf then .endLineCrlf else .endLine)
  | .wordBoundary => .ok (.word f.unicode)
  | .notWordBoundary => if f.unicode then .ok (.notWord true) else meaningError .invalidUtf8 span
  | .wordStart => .ok (.wordStart f.unicode)
  | .wordEnd => .ok (.wordEnd f.unicode)
  | .wordStartHalf => .ok (.wordStartHalf f.unicode)
  | .wordEndHalf => .ok (.wordEndHalf f.unicode)

def RepKind.bounds : RepKind → Nat × Option Nat
  | .zeroOrOne => (0, some 1)
  | .zeroOrMore => (0, none)
  | .oneOrMore => (1, none)
  | .exactly n => (n, some n)
  | .atLeast n => (n, none)
  | .bounded lo hi => (lo, some hi)

mutual
/-- The meaning of a tree under flags, with the flags that hold after it. -/
def translate (f : Flags) : Ast → Except Error (Hir × Flags)
  | .empty => .ok (.empty, f)
  | .setFlags items => .ok (.empty, f.apply items)
  | .literal l =>
    if !f.unicode && l.hexByte && 0x80 ≤ l.c.toNat then meaningError .invalidUtf8 l.span
    else .ok (.chars (fold f (.single l.c.toNat)), f)
  | .dot span => do
    let s : CharSet :=
      if f.dotAll then anySet
      else if f.crlf then (CharSet.ofRanges [(10, 10), (13, 13)]).complement
      else (CharSet.single 10).complement
    let s ← checkBytes f span s
    .ok (.chars s, f)
  | .assertion span k => do
    let l ← lookOf f span k
    .ok (.look l, f)
  | .unicodeClass span negated kind => do
    let s ← unicodeSet f span negated kind
    .ok (.chars s, f)
  | .perlClass span kind negated => do
    let s ← checkBytes f span (perlClassSet f kind negated)
    .ok (.chars s, f)
  | .bracketed span negated set => do
    let s ← setOf f set
    let s ← foldNegate f span negated s
    .ok (.chars s, f)
  | .repetition _ kind greedy sub => do
    let (h, _) ← translate f sub
    let (lo, hi) := kind.bounds
    .ok (.rep lo hi (if f.swapGreed then !greedy else greedy) h, f)
  | .group _ kind sub => do
    let inner := match kind with
      | .nonCapturing items => f.apply items
      | _ => f
    let (h, _) ← translate inner sub
    match kind with
    | .nonCapturing _ => .ok (h, f)
    | _ => .ok (.group h, f)
  | .alternation _ alts => do
    let (hs, f') ← translateSeq f alts
    .ok (.alt hs, f')
  | .concat _ items => do
    let (hs, f') ← translateSeq f items
    .ok (.concat hs, f')

def translateSeq (f : Flags) : List Ast → Except Error (List Hir × Flags)
  | [] => .ok ([], f)
  | a :: as => do
    let (h, f') ← translate f a
    let (hs, f'') ← translateSeq f' as
    .ok (h :: hs, f'')
end

mutual
def Hir.matchesEmpty : Hir → Bool
  | .empty => true
  | .chars _ => false
  | .look _ => true
  | .rep lo _ _ sub => lo == 0 || sub.matchesEmpty
  | .group sub => sub.matchesEmpty
  | .concat items => allMatchEmpty items
  | .alt alts => anyMatchesEmpty alts

def allMatchEmpty : List Hir → Bool
  | [] => true
  | h :: hs => h.matchesEmpty && allMatchEmpty hs

def anyMatchesEmpty : List Hir → Bool
  | [] => false
  | h :: hs => h.matchesEmpty || anyMatchesEmpty hs
end

mutual
/-- Whether every match must begin at the start of the text: the meaning opens with the
anchor `\A` on every path. The test is cautious and may answer `false` for an anchored
meaning; the search then only tries more starting points in vain. -/
def Hir.startsAnchored : Hir → Bool
  | .look .start => true
  | .rep lo _ _ sub => lo != 0 && sub.startsAnchored
  | .group sub => sub.startsAnchored
  | .concat (h :: _) => h.startsAnchored
  | .alt alts => allStartAnchored alts
  | _ => false

def allStartAnchored : List Hir → Bool
  | [] => true
  | h :: hs => h.startsAnchored && allStartAnchored hs
end

end Regex

end Descent
