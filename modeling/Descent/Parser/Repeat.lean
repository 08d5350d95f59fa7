import Descent.Parser.Basic
/-! Repetition. `repeatFrom` applies a parser while it succeeds and moves the cursor; the attempt
that fails or stands still is dropped together with any state it changed, so the loop ends where
the last moving application left off. Each pass moves the cursor forward inside its source,
which bounds the passes by the bytes left. `count` and `sequence` run a fixed list of parsers
and stop at the first failure, which keeps the state and cursor of the part that failed. -/

namespace Descent

namespace Parser

variable {σ α β : Type}

/-- One application moved the cursor forward within the same source. -/
def Advances (c c' : Cursor) : Prop := c'.source = c.source ∧ c.pos < c'.pos ∧ c'.pos ≤ c.len

instance (c c' : Cursor) : Decidable (Advances c c') := by
  unfold Advances; infer_instance

theorem Advances.measure_lt {c c' : Cursor} (h : Advances c c') : c'.len - c'.pos < c.len - c.pos := by
  have hl : c'.len = c.len := by simp only [Cursor.len, h.1]
  have := h.2
  omega

/-- The values `acc`, then those of `p` applied while it succeeds and moves. A step that
changes the cursor without moving it forward has no answer. -/
def repeatFrom (p : Parser σ α) (acc : Array α) (s : σ) (c : Cursor) : Option (Reply σ (List α)) :=
  match p.run s c with
  | none => none
  | some ⟨_, _, .error _⟩ => some ⟨s, c, .ok acc.toList⟩
  | some ⟨s', c', .ok v⟩ =>
    if c' = c then some ⟨s, c, .ok acc.toList⟩
    else if _h : Advances c c' then repeatFrom p (acc.push v) s' c'
    else none
termination_by c.len - c.pos
decreasing_by exact _h.measure_lt

def many (p : Parser σ α) : Parser σ (List α) := ⟨repeatFrom p #[]⟩

/-- One or more; the first application may stand still. -/
def many1 (p : Parser σ α) : Parser σ (List α) :=
  ⟨fun s c =>
    match p.run s c with
    | none => none
    | some ⟨s', c', .error e⟩ => some ⟨s', c', .error e⟩
    | some ⟨s', c', .ok v⟩ => repeatFrom p #[v] s' c'⟩

def skipMany (p : Parser σ α) : Parser σ Unit := (many p).skip

def skipMany1 (p : Parser σ α) : Parser σ Unit := (many1 p).skip

def sequenceFrom : List (Parser σ α) → Array α → σ → Cursor → Option (Reply σ (List α))
  | [], acc, s, c => some ⟨s, c, .ok acc.toList⟩
  | p :: ps, acc, s, c =>
    match p.run s c with
    | none => none
    | some ⟨s', c', .ok v⟩ => sequenceFrom ps (acc.push v) s' c'
    | some ⟨s', c', .error e⟩ => some ⟨s', c', .error e⟩

def sequence (ps : List (Parser σ α)) : Parser σ (List α) := ⟨sequenceFrom ps #[]⟩

def countFrom (p : Parser σ α) : Nat → Array α → σ → Cursor → Option (Reply σ (List α))
  | 0, acc, s, c => some ⟨s, c, .ok acc.toList⟩
  | n + 1, acc, s, c =>
    match p.run s c with
    | none => none
    | some ⟨s', c', .ok v⟩ => countFrom p n (acc.push v) s' c'
    | some ⟨s', c', .error e⟩ => some ⟨s', c', .error e⟩

def count (n : Nat) (p : Parser σ α) : Parser σ (List α) := ⟨countFrom p n #[]⟩

end Parser

end Descent
