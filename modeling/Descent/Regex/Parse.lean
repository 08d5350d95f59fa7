import Descent.Regex.Error
import Descent.Unicode.Char
/-! Reading a pattern into its syntax tree. The reader walks the pattern once, keeping open
groups and open classes on stacks; every error points at the part of the pattern that causes
it. A tree that nests deeper than the limit is refused after it is read, at its first node
below the limit. In verbose mode (flag `x`) blanks and `#` comments between items are skipped. Counted
repetitions allow blanks around their numbers, and an empty pair of flags `(?)` is a repetition
operator without an operand. -/

namespace Descent

namespace Regex

structure Reader where
  pat : Array Char
  pos : Nat
  ignoreSpace : Bool
  captures : Nat
  names : List (String × Span)

abbrev ReadM := StateT Reader (Except Error)

namespace Reader

def failAt {α : Type} (kind : ErrorKind) (span : Span) : ReadM α := throw ⟨kind, span, none⟩

def failWith {α : Type} (kind : ErrorKind) (span aux : Span) : ReadM α := throw ⟨kind, span, some aux⟩

def here : ReadM Nat := do return (← get).pos

def charAt? (i : Nat) : ReadM (Option Char) := do return (← get).pat[i]?

def cur? : ReadM (Option Char) := do charAt? (← here)

def isEof : ReadM Bool := do
  let r ← get
  return r.pat.size ≤ r.pos

def at? (c : Char) : ReadM Bool := do return (← cur?) == some c

def setPos (p : Nat) : ReadM Unit := modify fun r => { r with pos := p }

def bump : ReadM Bool := do
  let r ← get
  if r.pat.size ≤ r.pos then return false
  set { r with pos := r.pos + 1 }
  return r.pos + 1 < r.pat.size

def spanChar : ReadM Span := do
  let p ← here
  return if (← isEof) then ⟨p, p⟩ else ⟨p, p + 1⟩

def bumpIf (s : List Char) : ReadM Bool := do
  let r ← get
  if (r.pat.extract r.pos (r.pos + s.length)).toList == s then
    set { r with pos := r.pos + s.length }
    return true
  return false

/-- The first of `ss` that follows: step over it. Later ones are not tried. -/
def bumpFirst : List (List Char) → ReadM Bool
  | [] => return false
  | s :: ss => do
    if ← bumpIf s then return true
    bumpFirst ss

def peek? : ReadM (Option Char) := do charAt? ((← here) + 1)

def skipComment : Nat → ReadM Unit
  | 0 => return
  | n + 1 => do
    match ← cur? with
    | none => return
    | some c =>
      let _ ← bump
      if c = '\n' then return else skipComment n

def bumpSpace : ReadM Unit := do
  if !(← get).ignoreSpace then return
  let rec loop : Nat → ReadM Unit
    | 0 => return
    | n + 1 => do
      match ← cur? with
      | none => return
      | some c =>
        if Unicode.isWhiteSpace c then
          let _ ← bump
          loop n
        else if c = '#' then
          let _ ← bump
          skipComment (← get).pat.size
          loop n
        else return
  loop ((← get).pat.size + 1)

def bumpAndSpace : ReadM Bool := do
  if !(← bump) then return false
  bumpSpace
  return !(← isEof)

/-- The next character after the current one that verbose mode does not skip. A character
inside a comment ends the search as well. -/
def peekSpace? : ReadM (Option Char) := do
  let r ← get
  if !r.ignoreSpace then return r.pat[r.pos + 1]?
  if r.pat.size ≤ r.pos then return none
  let rest := (r.pat.extract (r.pos + 1) r.pat.size).toList
  let rec go : List Char → Bool → Option Char
    | [], _ => r.pat[r.pos + 1]?
    | c :: cs, inComment =>
      if Unicode.isWhiteSpace c then go cs inComment
      else if !inComment && c = '#' then go cs true
      else if inComment && c = '\n' then go cs false
      else some c
  return go rest false

end Reader

open Reader

/-- Characters that an escape turns into themselves as operators. -/
def isMeta (c : Char) : Bool := "\\.+*?()|[]\x7b\x7d^$#&-~".toList.contains c

/-- Characters that may be escaped without meaning anything more. -/
def isEscapable (c : Char) : Bool :=
  isMeta c || (c.toNat < 128 && !c.isAlphanum && c ≠ '<' && c ≠ '>')

def isHexDigit (c : Char) : Bool :=
  c.isDigit || ('a' ≤ c && c ≤ 'f') || ('A' ≤ c && c ≤ 'F')

def hexValue (cs : List Char) : Nat :=
  cs.foldl (fun n c =>
    16 * n + if c.isDigit then c.toNat - 48 else if c ≤ 'F' then c.toNat - 55 else c.toNat - 87) 0

def scalar? (n : Nat) : Option Char :=
  if n < 0xD800 ∨ (0xDFFF < n ∧ n ≤ 0x10FFFF) then some (Char.ofNat n) else none

/-- What an escape or a plain character reads as. -/
inductive Primitive where
  | literal (lit : LitChar)
  | assertion (span : Span) (kind : AssertKind)
  | dot (span : Span)
  | unicode (span : Span) (negated : Bool) (kind : UnicodeKind)
  | perl (span : Span) (kind : PerlKind) (negated : Bool)

def Primitive.span : Primitive → Span
  | .literal l => l.span
  | .assertion s _ | .dot s | .unicode s _ _ | .perl s _ _ => s

def Primitive.toAst : Primitive → Ast
  | .literal l => .literal l
  | .assertion s k => .assertion s k
  | .dot s => .dot s
  | .unicode s n k => .unicodeClass s n k
  | .perl s k n => .perlClass s k n

def parseHexBrace : ReadM Char := do
  let bracePos ← here
  let start := bracePos + 1
  let rec loop : Nat → List Char → ReadM (List Char)
    | 0, acc => return acc
    | n + 1, acc => do
      if (← bumpAndSpace) && !(← at? '\x7d') then
        let c := (← cur?).getD ' '
        if !isHexDigit c then failAt .escapeHexInvalidDigit (← spanChar)
        loop n (acc ++ [c])
      else return acc
  let digits ← loop ((← get).pat.size + 1) []
  if ← isEof then failAt .escapeUnexpectedEof ⟨bracePos, ← here⟩
  let stop ← here
  let _ ← bumpAndSpace
  if digits.isEmpty then failAt .escapeHexEmpty ⟨bracePos, ← here⟩
  match scalar? (hexValue digits) with
  | some c => return c
  | none => failAt .escapeHexInvalid ⟨start, stop⟩

def parseHexDigits (count : Nat) : ReadM Char := do
  let start ← here
  let rec loop : Nat → Nat → List Char → ReadM (List Char)
    | 0, _, acc => return acc
    | k + 1, i, acc => do
      if i > 0 then
        if !(← bumpAndSpace) then failAt .escapeUnexpectedEof (Span.point (← here))
      let c := (← cur?).getD ' '
      if !isHexDigit c then failAt .escapeHexInvalidDigit (← spanChar)
      loop k (i + 1) (acc ++ [c])
  let digits ← loop count 0 []
  let _ ← bumpAndSpace
  match scalar? (hexValue digits) with
  | some c => return c
  | none => failAt .escapeHexInvalid ⟨start, ← here⟩

/-- A hex escape, at its `x`, `u` or `U`, and whether it is the two-digit form `\xNN`. -/
def parseHex : ReadM (Char × Bool) := do
  let count := match ← cur? with
    | some 'x' => 2
    | some 'u' => 4
    | _ => 8
  if !(← bumpAndSpace) then failAt .escapeUnexpectedEof (Span.point (← here))
  if ← at? '\x7b' then return (← parseHexBrace, false)
  else return (← parseHexDigits count, count == 2)

def parseUnicodeClass (escStart : Nat) : ReadM Primitive := do
  let negated ← at? 'P'
  if !(← bumpAndSpace) then failAt .escapeUnexpectedEof (Span.point (← here))
  if ← at? '\x7b' then
    let rec loop : Nat → List Char → ReadM (List Char)
      | 0, acc => return acc
      | n + 1, acc => do
        if (← bumpAndSpace) && !(← at? '\x7d') then loop n (acc ++ [(← cur?).getD ' '])
        else return acc
    let name ← loop ((← get).pat.size + 1) []
    if ← isEof then failAt .escapeUnexpectedEof (Span.point (← here))
    let _ ← bump
    let span : Span := ⟨escStart, ← here⟩
    let text := String.ofList name
    let kind : UnicodeKind :=
      match (text.splitOn "!=") with
      | [n, v] => .namedValue true n v
      | n :: v :: rest => .namedValue true n (String.intercalate "!=" (v :: rest))
      | _ =>
        match name.findIdx? (· = ':') with
        | some i => .namedValue false (String.ofList (name.take i)) (String.ofList (name.drop (i + 1)))
        | none =>
          match name.findIdx? (· = '=') with
          | some i => .namedValue false (String.ofList (name.take i)) (String.ofList (name.drop (i + 1)))
          | none => .named text
    return .unicode span negated kind
  else
    let c := (← cur?).getD ' '
    if c = '\\' then failAt .unicodeClassInvalid (← spanChar)
    let _ ← bumpAndSpace
    return .unicode ⟨escStart, ← here⟩ negated (.oneLetter c)

/-- A special word boundary `\b{...}` after `\b`, at its brace; `none` when the braces hold no
name, which leaves them to be read as a counted repetition. -/
def parseSpecialBoundary (wbStart : Nat) : ReadM (Option AssertKind) := do
  let isName (c : Char) := c.isAlpha || c = '-'
  let start ← here
  if !(← bumpAndSpace) then failAt .specialWordOrRepetitionUnexpectedEof ⟨wbStart, ← here⟩
  let contentStart ← here
  if !isName ((← cur?).getD ' ') then
    setPos start
    return none
  let rec loop : Nat → List Char → ReadM (List Char)
    | 0, acc => return acc
    | n + 1, acc => do
      match ← cur? with
      | some c =>
        if isName c then
          let _ ← bumpAndSpace
          loop n (acc ++ [c])
        else return acc
      | none => return acc
  let name ← loop ((← get).pat.size + 1) []
  if (← isEof) || !(← at? '\x7d') then failAt .specialWordBoundaryUnclosed ⟨start, ← here⟩
  let stop ← here
  let _ ← bump
  match String.ofList name with
  | "start" => return some .wordStart
  | "end" => return some .wordEnd
  | "start-half" => return some .wordStartHalf
  | "end-half" => return some .wordEndHalf
  | _ => failAt .specialWordBoundaryUnrecognized ⟨contentStart, stop⟩

def parseEscape : ReadM Primitive := do
  let start ← here
  if !(← bump) then failAt .escapeUnexpectedEof ⟨start, ← here⟩
  let c := (← cur?).getD ' '
  if c.isDigit then failAt .unsupportedBackreference ⟨start, (← here) + 1⟩
  if c = 'x' || c = 'u' || c = 'U' then
    let (ch, hexByte) ← parseHex
    return .literal ⟨⟨start, ← here⟩, ch, hexByte⟩
  if c = 'p' || c = 'P' then return ← parseUnicodeClass start
  if c = 'd' || c = 's' || c = 'w' || c = 'D' || c = 'S' || c = 'W' then
    let _ ← bump
    let kind : PerlKind := if c = 'd' || c = 'D' then .digit else if c = 's' || c = 'S' then .space else .word
    return .perl ⟨start, ← here⟩ kind c.isUpper
  let _ ← bump
  let span : Span := ⟨start, ← here⟩
  if isEscapable c then return .literal ⟨span, c, false⟩
  match c with
  | 'a' => return .literal ⟨span, '\x07', false⟩
  | 'f' => return .literal ⟨span, '\x0c', false⟩
  | 't' => return .literal ⟨span, '\t', false⟩
  | 'n' => return .literal ⟨span, '\n', false⟩
  | 'r' => return .literal ⟨span, '\r', false⟩
  | 'v' => return .literal ⟨span, '\x0b', false⟩
  | 'A' => return .assertion span .startText
  | 'z' => return .assertion span .endText
  | 'b' =>
    if (← at? '\x7b') then
      match ← parseSpecialBoundary start with
      | some k => return .assertion ⟨start, ← here⟩ k
      | none => return .assertion span .wordBoundary
    else return .assertion span .wordBoundary
  | 'B' => return .assertion span .notWordBoundary
  | '<' => return .assertion span .wordStart
  | '>' => return .assertion span .wordEnd
  | _ => failAt .escapeUnrecognized span

/-- An item outside brackets: an escape, a dot, an anchor or a literal. -/
def parsePrimitive : ReadM Primitive := do
  let span ← spanChar
  match ← cur? with
  | some '\\' => parseEscape
  | some '.' => do
    let _ ← bump
    return .dot span
  | some '^' => do
    let _ ← bump
    return .assertion span .startLine
  | some '$' => do
    let _ ← bump
    return .assertion span .endLine
  | some c => do
    let _ ← bump
    return .literal ⟨span, c, false⟩
  | none => return .literal ⟨span, ' ', false⟩

def parseDecimal : ReadM (Except (ErrorKind × Span) Nat) := do
  let size := (← get).pat.size
  let rec skipWs : Nat → ReadM Unit
    | 0 => return
    | n + 1 => do
      match ← cur? with
      | some c =>
        if Unicode.isWhiteSpace c then
          let _ ← bump
          skipWs n
        else return
      | none => return
  let rec digitsLoop : Nat → List Char → ReadM (List Char)
    | 0, acc => return acc
    | n + 1, acc => do
      match ← cur? with
      | some c =>
        if c.isDigit then
          let _ ← bumpAndSpace
          digitsLoop n (acc ++ [c])
        else return acc
      | none => return acc
  let rec skipWs2 : Nat → ReadM Unit
    | 0 => return
    | n + 1 => do
      match ← cur? with
      | some c =>
        if Unicode.isWhiteSpace c then
          let _ ← bumpAndSpace
          skipWs2 n
        else return
      | none => return
  skipWs (size + 1)
  let start ← here
  let ds ← digitsLoop (size + 1) []
  let span : Span := ⟨start, ← here⟩
  skipWs2 (size + 1)
  if ds.isEmpty then return .error (.repetitionCountDecimalEmpty, span)
  let n := ds.foldl (fun n c => 10 * n + (c.toNat - 48)) 0
  if n < 4294967296 then return .ok n else return .error (.decimalInvalid, span)

/-- A counted repetition `{...}` applying to the last item of `items`. -/
def parseCounted (items : List Ast) : ReadM (List Ast) := do
  let start ← here
  let sub ← match items.getLast? with
    | none | some .empty | some (.setFlags _) => failAt .repetitionMissing (Span.point (← here))
    | some a => pure a
  let unclosed {α : Type} : ReadM α := do failAt .repetitionCountUnclosed ⟨start, ← here⟩
  if !(← bumpAndSpace) then unclosed
  let lo ← parseDecimal
  if ← isEof then unclosed
  let kind ← if ← at? ',' then do
      if !(← bumpAndSpace) then unclosed
      if !(← at? '\x7d') then
        let a ← match lo with
          | .ok n => pure n
          | .error (k, sp) => failAt k sp
        match ← parseDecimal with
        | .ok b => pure (RepKind.bounded a b)
        | .error (k, sp) => failAt k sp
      else
        match lo with
        | .ok n => pure (RepKind.atLeast n)
        | .error (k, sp) => failAt k sp
    else
      match lo with
      | .ok n => pure (RepKind.exactly n)
      | .error (k, sp) => failAt k sp
  if (← isEof) || !(← at? '\x7d') then unclosed
  let mut greedy := true
  if (← bumpAndSpace) && (← at? '?') then
    greedy := false
    let _ ← bump
  let opSpan : Span := ⟨start, ← here⟩
  match kind with
  | .bounded a b => if b < a then failAt .repetitionCountInvalid opSpan
  | _ => pure ()
  return items.dropLast ++ [.repetition ⟨sub.span.start, opSpan.stop⟩ kind greedy sub]

def parseUncounted (items : List Ast) (kind : RepKind) : ReadM (List Ast) := do
  let sub ← match items.getLast? with
    | none | some .empty | some (.setFlags _) => failAt .repetitionMissing (Span.point (← here))
    | some a => pure a
  let mut greedy := true
  if (← bump) && (← at? '?') then
    greedy := false
    let _ ← bump
  return items.dropLast ++ [.repetition ⟨sub.span.start, ← here⟩ kind greedy sub]

def parseCaptureName : ReadM String := do
  if ← isEof then failAt .groupNameUnexpectedEof (Span.point (← here))
  let start ← here
  let rec loop : Nat → ReadM Unit
    | 0 => return
    | n + 1 => do
      match ← cur? with
      | some '>' => return
      | some c =>
        let first := (← here) == start
        let ok := if first then c = '_' || Unicode.isAlphabetic c
          else c = '_' || c = '.' || c = '[' || c = ']' || Unicode.isAlphanumeric c
        if !ok then failAt .groupNameInvalid (← spanChar)
        if ← bump then loop n else return
      | none => return
  loop ((← get).pat.size + 1)
  let stop ← here
  if ← isEof then failAt .groupNameUnexpectedEof (Span.point (← here))
  let _ ← bump
  let r ← get
  let name := String.ofList (r.pat.extract start stop).toList
  if name.isEmpty then failAt .groupNameEmpty (Span.point start)
  let span : Span := ⟨start, stop⟩
  match r.names.lookup name with
  | some orig => failWith .groupNameDuplicate span orig
  | none => set { r with names := (name, span) :: r.names }
  return name

def parseFlag : ReadM Flag := do
  match ← cur? with
  | some 'i' => return .caseInsensitive
  | some 'm' => return .multiLine
  | some 's' => return .dotAll
  | some 'U' => return .swapGreed
  | some 'u' => return .unicode
  | some 'R' => return .crlf
  | some 'x' => return .ignoreSpace
  | _ => failAt .flagUnrecognized (← spanChar)

def parseFlags : ReadM (List FlagItem) := do
  let rec loop : Nat → List (FlagItem × Span) → Option Span → ReadM (List (FlagItem × Span) × Option Span)
    | 0, items, neg => return (items, neg)
    | n + 1, items, neg => do
      if (← at? ':') || (← at? ')') then return (items, neg)
      let sp ← spanChar
      let (item, neg') ← if ← at? '-' then
          match items.find? (·.1 == .negation) with
          | some (_, orig) => failWith .flagRepeatedNegation sp orig
          | none => pure (FlagItem.negation, some sp)
        else do
          let f ← parseFlag
          match items.find? (·.1 == .flag f) with
          | some (_, orig) => failWith .flagDuplicate sp orig
          | none => pure (FlagItem.flag f, none)
      if !(← bump) then failAt .flagUnexpectedEof (Span.point (← here))
      loop n (items ++ [(item, sp)]) neg'
  let (items, neg) ← loop ((← get).pat.size + 1) [] none
  match neg with
  | some sp => failAt .flagDanglingNegation sp
  | none => return items.map (·.1)

def spaceFlag (items : List FlagItem) : Option Bool :=
  let rec go : List FlagItem → Bool → Option Bool → Option Bool
    | [], _, acc => acc
    | .negation :: r, _, acc => go r false acc
    | .flag .ignoreSpace :: r, on, _ => go r on (some on)
    | .flag _ :: r, on, acc => go r on acc
  go items true none

/-- An open group with the items before it and where their concatenation began, or the
alternatives read so far and where the first began. -/
inductive Frame where
  | group (before : List Ast) (beforeStart : Nat) (kind : GroupKind) (openSpan : Span)
    (ignoreSpace : Bool)
  | alternation (start : Nat) (alts : List Ast)

def concatAst (span : Span) : List Ast → Ast
  | [] => .empty
  | [a] => a
  | items => .concat span items

def altAst (span : Span) : List Ast → Ast
  | [] => .empty
  | [a] => a
  | alts => .alternation span alts

/-- What an opening parenthesis starts: flags for the rest of the group, or a new group. -/
inductive Opened where
  | flags (items : List FlagItem)
  | group (kind : GroupKind) (openSpan : Span)

def parseGroup : ReadM Opened := do
  let openSpan ← spanChar
  let _ ← bump
  bumpSpace
  if ← bumpFirst [['?', '='], ['?', '!'], ['?', '<', '='], ['?', '<', '!']] then
    failAt .unsupportedLookAround ⟨openSpan.start, ← here⟩
  let innerSpan := Span.point (← here)
  if ← bumpFirst [['?', 'P', '<'], ['?', '<']] then
    modify fun r => { r with captures := r.captures + 1 }
    let name ← parseCaptureName
    return .group (.named name) openSpan
  if ← bumpIf ['?'] then
    if ← isEof then failAt .groupUnclosed innerSpan
    let flags ← parseFlags
    let closing ← at? ')'
    let _ ← bump
    if closing then
      if flags.isEmpty then failAt .repetitionMissing innerSpan
      return .flags flags
    return .group (.nonCapturing flags) openSpan
  modify fun r => { r with captures := r.captures + 1 }
  return .group .capture openSpan

def asciiKind? : String → Option AsciiKind
  | "alnum" => some .alnum | "alpha" => some .alpha | "ascii" => some .ascii | "blank" => some .blank
  | "cntrl" => some .cntrl | "digit" => some .digit | "graph" => some .graph | "lower" => some .lower
  | "print" => some .print | "punct" => some .punct | "space" => some .space | "upper" => some .upper
  | "word" => some .word | "xdigit" => some .xdigit | _ => none

/-- An ASCII class `[:name:]` inside brackets, at its first bracket; the reader stays put when
none is there. -/
def parseAsciiClass? : ReadM (Option ClassItem) := do
  let start ← here
  let back : ReadM (Option ClassItem) := do setPos start; return none
  if !(← bump) || !(← at? ':') then return ← back
  if !(← bump) then return ← back
  let mut negated := false
  if ← at? '^' then
    negated := true
    if !(← bump) then return ← back
  let nameStart ← here
  let rec loop : Nat → ReadM Unit
    | 0 => return
    | n + 1 => do
      if ← at? ':' then return
      if ← bump then loop n else return
  loop ((← get).pat.size + 1)
  if ← isEof then return ← back
  let nameStop ← here
  if !(← bumpIf [':', ']']) then return ← back
  let r ← get
  match asciiKind? (String.ofList (r.pat.extract nameStart nameStop).toList) with
  | some k => return some (.ascii ⟨start, ← here⟩ k negated)
  | none => back

/-- An open bracket and the union it interrupted, or a pending set operation. -/
inductive ClassFrame where
  | opened (parent : List ClassItem) (negated : Bool) (span : Span)
  | op (kind : ClassOp) (lhs : ClassSet)

def unionItem (pos : Nat) : List ClassItem → ClassItem
  | [] => .union ⟨pos, pos⟩ []
  | [i] => i
  | i :: is => .union ⟨i.span.start, ((i :: is).getLast?.map (·.span.stop)).getD i.span.stop⟩ (i :: is)

def popClassOp (stack : List ClassFrame) (rhs : ClassSet) : List ClassFrame × ClassSet :=
  match stack with
  | .op kind lhs :: rest => (rest, .op ⟨lhs.span.start, rhs.span.stop⟩ kind lhs rhs)
  | _ => (stack, rhs)

/-- The error for a class left open: at the innermost open bracket. -/
def unclosedClass {α : Type} (stack : List ClassFrame) : ReadM α :=
  match stack.find? (fun f => match f with | .opened .. => true | _ => false) with
  | some (.opened _ _ sp) => failAt .classUnclosed sp
  | _ => failAt .classUnclosed (Span.point 0)

/-- An opening bracket: its negation, and the leading `-` and `]` that stand for themselves. -/
def parseClassOpen : ReadM (Bool × Span × List ClassItem) := do
  let start ← here
  if !(← bumpAndSpace) then failAt .classUnclosed ⟨start, ← here⟩
  let mut negated := false
  if ← at? '^' then
    negated := true
    if !(← bumpAndSpace) then failAt .classUnclosed ⟨start, ← here⟩
  let rec dashes : Nat → List ClassItem → ReadM (List ClassItem)
    | 0, acc => return acc
    | n + 1, acc => do
      if ← at? '-' then
        let sp ← spanChar
        if !(← bumpAndSpace) then failAt .classUnclosed ⟨start, start⟩
        dashes n (acc ++ [.literal ⟨sp, '-', false⟩])
      else return acc
  let mut items ← dashes ((← get).pat.size + 1) []
  if items.isEmpty && (← at? ']') then
    items := [.literal ⟨← spanChar, ']', false⟩]
    if !(← bumpAndSpace) then failAt .classUnclosed ⟨start, ← here⟩
  return (negated, ⟨start, ← here⟩, items)

def parseClassPrimitive : ReadM Primitive := do
  if ← at? '\\' then parseEscape
  else
    let span ← spanChar
    let c := (← cur?).getD ' '
    let _ ← bump
    return .literal ⟨span, c, false⟩

def Primitive.toClassItem : Primitive → ReadM ClassItem
  | .literal l => return .literal l
  | .unicode s n k => return .unicode s n k
  | .perl s k n => return .perl s k n
  | p => failAt .classEscapeInvalid p.span

def parseClassRange (stack : List ClassFrame) : ReadM ClassItem := do
  let first ← parseClassPrimitive
  bumpSpace
  if ← isEof then unclosedClass stack
  let nxt ← peekSpace?
  if !(← at? '-') || nxt == some ']' || nxt == some '-' then return ← first.toClassItem
  if !(← bumpAndSpace) then unclosedClass stack
  let second ← parseClassPrimitive
  let span : Span := ⟨first.span.start, second.span.stop⟩
  let lo ← match first with
    | .literal l => pure l
    | p => failAt .classRangeLiteral p.span
  let hi ← match second with
    | .literal l => pure l
    | p => failAt .classRangeLiteral p.span
  if hi.c < lo.c then failAt .classRangeInvalid span
  return .range lo hi

def parseClass : ReadM Ast := do
  let (neg, sp, items) ← parseClassOpen
  let rec loop : Nat → List ClassFrame → List ClassItem → ReadM Ast
    | 0, stack, _ => unclosedClass stack
    | n + 1, stack, union => do
      bumpSpace
      if ← isEof then unclosedClass stack
      let c := (← cur?).getD ' '
      if c = '[' then
        match ← parseAsciiClass? with
        | some item => loop n stack (union ++ [item])
        | none =>
          let (neg', sp', items') ← parseClassOpen
          loop n (.opened union neg' sp' :: stack) items'
      else if c = ']' then
        let (stack', set) := popClassOp stack (.item (unionItem (← here) union))
        match stack' with
        | .opened parent negd osp :: rest =>
          let _ ← bump
          let closedSpan : Span := ⟨osp.start, ← here⟩
          match rest with
          | [] => return .bracketed closedSpan negd set
          | _ => loop n rest (parent ++ [.bracketed closedSpan negd set])
        | _ => unclosedClass stack
      else
        let nxt ← peek?
        let opKind : Option (ClassOp × List Char) :=
          if c = '&' && nxt == some '&' then some (.inter, ['&', '&'])
          else if c = '-' && nxt == some '-' then some (.diff, ['-', '-'])
          else if c = '~' && nxt == some '~' then some (.symmDiff, ['~', '~'])
          else none
        match opKind with
        | some (k, s) =>
          let (stack', lhs) := popClassOp stack (.item (unionItem (← here) union))
          let _ ← bumpIf s
          loop n (.op k lhs :: stack') []
        | none =>
          let item ← parseClassRange stack
          loop n stack (union ++ [item])
  loop ((← get).pat.size + 1) [.opened [] neg sp] items

/-- The whole pattern, up to its end. The loop keeps the open groups, the items of the current
concatenation and where that concatenation began. -/
def parseAll : ReadM Ast := do
  let rec loop : Nat → List Frame → List Ast → Nat → ReadM (List Frame × List Ast × Nat)
    | 0, stack, items, origin => return (stack, items, origin)
    | n + 1, stack, items, origin => do
      bumpSpace
      match ← cur? with
      | none => return (stack, items, origin)
      | some '(' =>
        match ← parseGroup with
        | .flags fl =>
          match spaceFlag fl with
          | some v => modify fun r => { r with ignoreSpace := v }
          | none => pure ()
          loop n stack (items ++ [.setFlags fl]) origin
        | .group kind sp =>
          let old := (← get).ignoreSpace
          let flags := match kind with
            | .nonCapturing fl => fl
            | _ => []
          let now := (spaceFlag flags).getD old
          modify fun r => { r with ignoreSpace := now }
          loop n (.group items origin kind sp old :: stack) [] (← here)
      | some ')' =>
        let stop ← here
        let (top, alts) := match stack with
          | .alternation altStart alts :: rest => (rest, some (altStart, alts))
          | rest => (rest, none)
        match top with
        | .group before beforeStart kind osp ws :: rest =>
          modify fun r => { r with ignoreSpace := ws }
          let _ ← bump
          let inner := match alts with
            | some (altStart, a) => altAst ⟨altStart, stop⟩ (a ++ [concatAst ⟨origin, stop⟩ items])
            | none => concatAst ⟨origin, stop⟩ items
          loop n rest (before ++ [.group ⟨osp.start, ← here⟩ kind inner]) beforeStart
        | _ => failAt .groupUnopened (← spanChar)
      | some '|' =>
        let stop ← here
        let stack' := match stack with
          | .alternation altStart alts :: rest =>
            .alternation altStart (alts ++ [concatAst ⟨origin, stop⟩ items]) :: rest
          | rest => .alternation origin [concatAst ⟨origin, stop⟩ items] :: rest
        let _ ← bump
        loop n stack' [] (← here)
      | some '[' =>
        let cls ← parseClass
        loop n stack (items ++ [cls]) origin
      | some '?' => loop n stack (← parseUncounted items .zeroOrOne) origin
      | some '*' => loop n stack (← parseUncounted items .zeroOrMore) origin
      | some '+' => loop n stack (← parseUncounted items .oneOrMore) origin
      | some '\x7b' => loop n stack (← parseCounted items) origin
      | some _ =>
        let p ← parsePrimitive
        loop n stack (items ++ [p.toAst]) origin
  let (stack, items, origin) ← loop ((← get).pat.size + 1) [] [] 0
  let stop ← here
  match stack with
  | [] => return concatAst ⟨origin, stop⟩ items
  | [.alternation altStart alts] => return altAst ⟨altStart, stop⟩ (alts ++ [concatAst ⟨origin, stop⟩ items])
  | .alternation _ _ :: .group _ _ _ sp _ :: _ => failAt .groupUnclosed sp
  | .group _ _ _ sp _ :: _ => failAt .groupUnclosed sp
  | _ => return concatAst ⟨origin, stop⟩ items

mutual
/-- The span of the first node, in written order, more than `limit` levels deep below `depth`
levels; repetitions, groups, alternations, concatenations and classes each make a level. -/
def Ast.tooDeep (limit depth : Nat) : Ast → Option Span
  | .bracketed sp _ set => if limit ≤ depth then some sp else set.tooDeep limit (depth + 1)
  | .repetition sp _ _ sub => if limit ≤ depth then some sp else sub.tooDeep limit (depth + 1)
  | .group sp _ sub => if limit ≤ depth then some sp else sub.tooDeep limit (depth + 1)
  | .alternation sp alts => if limit ≤ depth then some sp else firstTooDeep limit (depth + 1) alts
  | .concat sp items => if limit ≤ depth then some sp else firstTooDeep limit (depth + 1) items
  | _ => none

def firstTooDeep (limit depth : Nat) : List Ast → Option Span
  | [] => none
  | a :: as => (a.tooDeep limit depth).orElse fun _ => firstTooDeep limit depth as

def ClassSet.tooDeep (limit depth : Nat) : ClassSet → Option Span
  | .item i => i.tooDeep limit depth
  | .op sp _ lhs rhs =>
    if limit ≤ depth then some sp
    else (lhs.tooDeep limit (depth + 1)).orElse fun _ => rhs.tooDeep limit (depth + 1)

def ClassItem.tooDeep (limit depth : Nat) : ClassItem → Option Span
  | .bracketed sp _ set => if limit ≤ depth then some sp else set.tooDeep limit (depth + 1)
  | .union _ [] => none
  | .union sp items => if limit ≤ depth then some sp else firstItemTooDeep limit (depth + 1) items
  | _ => none

def firstItemTooDeep (limit depth : Nat) : List ClassItem → Option Span
  | [] => none
  | i :: is => (i.tooDeep limit depth).orElse fun _ => firstItemTooDeep limit depth is
end

def nestLimit : Nat := 250

/-- The syntax tree of a pattern. -/
def parsePattern (pat : String) : Except Error Ast := do
  let (ast, _) ← parseAll.run ⟨pat.toList.toArray, 0, false, 0, []⟩
  match ast.tooDeep nestLimit 0 with
  | some sp => .error ⟨.nestLimitExceeded nestLimit, sp, none⟩
  | none => .ok ast

end Regex

end Descent
