/-! The syntax tree of a regular expression, as the pattern spells it. Positions are character
offsets into the pattern; a span runs from its start up to, not including, its end. Every part
that an error or the limit on nesting can point at keeps its span. -/

namespace Descent

namespace Regex

structure Span where
  start : Nat
  stop : Nat
  deriving DecidableEq, Repr, Inhabited

def Span.point (p : Nat) : Span := ⟨p, p⟩

inductive Flag where
  | caseInsensitive | multiLine | dotAll | swapGreed | unicode | crlf | ignoreSpace
  deriving DecidableEq, Repr, Inhabited

inductive FlagItem where
  | negation
  | flag (f : Flag)
  deriving DecidableEq, Repr, Inhabited

inductive AssertKind where
  | startLine | endLine | startText | endText
  | wordBoundary | notWordBoundary
  | wordStart | wordEnd | wordStartHalf | wordEndHalf
  deriving DecidableEq, Repr, Inhabited

inductive PerlKind where
  | digit | space | word
  deriving DecidableEq, Repr, Inhabited

inductive UnicodeKind where
  | oneLetter (c : Char)
  | named (name : String)
  | namedValue (negate : Bool) (name value : String)
  deriving Repr, Inhabited

inductive AsciiKind where
  | alnum | alpha | ascii | blank | cntrl | digit | graph | lower | print | punct | space | upper
  | word | xdigit
  deriving DecidableEq, Repr, Inhabited

inductive ClassOp where
  | inter | diff | symmDiff
  deriving DecidableEq, Repr, Inhabited

/-- A character written in the pattern, with its span, and whether it was written as a
two-digit hex escape `\xNN`: the one spelling that names a byte when the Unicode flag is off. -/
structure LitChar where
  span : Span
  c : Char
  hexByte : Bool := false
  deriving Repr, Inhabited

mutual
/-- An item of a bracketed class. A union holds no items (the empty item) or at least two. -/
inductive ClassItem where
  | literal (lit : LitChar)
  | range (lo hi : LitChar)
  | ascii (span : Span) (kind : AsciiKind) (negated : Bool)
  | unicode (span : Span) (negated : Bool) (kind : UnicodeKind)
  | perl (span : Span) (kind : PerlKind) (negated : Bool)
  | bracketed (span : Span) (negated : Bool) (set : ClassSet)
  | union (span : Span) (items : List ClassItem)

inductive ClassSet where
  | item (i : ClassItem)
  | op (span : Span) (kind : ClassOp) (lhs rhs : ClassSet)
end

instance : Inhabited ClassItem := ⟨.union ⟨0, 0⟩ []⟩

instance : Inhabited ClassSet := ⟨.item (.union ⟨0, 0⟩ [])⟩

def ClassItem.span : ClassItem → Span
  | .literal l => l.span
  | .range lo hi => ⟨lo.span.start, hi.span.stop⟩
  | .ascii sp _ _ | .unicode sp _ _ | .perl sp _ _ | .bracketed sp _ _ | .union sp _ => sp

def ClassSet.span : ClassSet → Span
  | .item i => i.span
  | .op sp _ _ _ => sp

inductive RepKind where
  | zeroOrOne | zeroOrMore | oneOrMore
  | exactly (n : Nat) | atLeast (n : Nat) | bounded (lo hi : Nat)
  deriving DecidableEq, Repr, Inhabited

inductive GroupKind where
  | capture
  | named (name : String)
  | nonCapturing (flags : List FlagItem)
  deriving Repr, Inhabited

/-- A syntax tree. Repetitions, groups, alternations and concatenations keep their spans:
a repetition from its operand to the end of its operator, a group from its opening to its
closing parenthesis, and a concatenation or alternation over its items. -/
inductive Ast where
  | empty
  | setFlags (flags : List FlagItem)
  | literal (lit : LitChar)
  | dot (span : Span)
  | assertion (span : Span) (kind : AssertKind)
  | unicodeClass (span : Span) (negated : Bool) (kind : UnicodeKind)
  | perlClass (span : Span) (kind : PerlKind) (negated : Bool)
  | bracketed (span : Span) (negated : Bool) (set : ClassSet)
  | repetition (span : Span) (kind : RepKind) (greedy : Bool) (sub : Ast)
  | group (span : Span) (kind : GroupKind) (sub : Ast)
  | alternation (span : Span) (alts : List Ast)
  | concat (span : Span) (items : List Ast)
  deriving Inhabited

/-- Where a tree stands in the pattern; the empty tree and flag settings have no span of their
own and answer the empty span at the start. -/
def Ast.span : Ast → Span
  | .empty | .setFlags _ => ⟨0, 0⟩
  | .literal l => l.span
  | .dot sp | .assertion sp _ | .unicodeClass sp _ _ | .perlClass sp _ _ | .bracketed sp _ _
  | .repetition sp _ _ _ | .group sp _ _ | .alternation sp _ | .concat sp _ => sp

end Regex

end Descent
