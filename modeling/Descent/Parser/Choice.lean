import Descent.Parser.Basic
/-! Alternatives and looking ahead. Every alternative starts from the same state and cursor, and
a failed alternative leaves no trace but its messages: when all fail, the failure stands at the
starting state and cursor with the messages of each alternative in order. -/

namespace Descent

namespace Parser

variable {σ α β : Type}

def orElse (p q : Parser σ α) : Parser σ α :=
  ⟨fun s c =>
    match p.run s c with
    | none => none
    | some ⟨s₁, c₁, .ok v⟩ => some ⟨s₁, c₁, .ok v⟩
    | some ⟨_, _, .error e₁⟩ =>
      match q.run s c with
      | none => none
      | some ⟨s₂, c₂, .ok v⟩ => some ⟨s₂, c₂, .ok v⟩
      | some ⟨_, _, .error e₂⟩ => some ⟨s, c, .error (e₁.merge e₂)⟩⟩

/-- The first of `ps` that succeeds, each tried from `s` and `c`; the messages of the failed
ones gather after `err`. -/
def choiceFrom (err : ParseError) : List (Parser σ α) → σ → Cursor → Option (Reply σ α)
  | [], s, c => some ⟨s, c, .error err⟩
  | p :: ps, s, c =>
    match p.run s c with
    | none => none
    | some ⟨s₁, c₁, .ok v⟩ => some ⟨s₁, c₁, .ok v⟩
    | some ⟨_, _, .error e⟩ => choiceFrom (err.merge e) ps s c

def choice (ps : List (Parser σ α)) : Parser σ α := ⟨choiceFrom .empty ps⟩

def maybe (p : Parser σ α) : Parser σ (Option α) :=
  ⟨fun s c =>
    match p.run s c with
    | none => none
    | some ⟨s₁, c₁, .ok v⟩ => some ⟨s₁, c₁, .ok (some v)⟩
    | some ⟨_, _, .error _⟩ => some ⟨s, c, .ok none⟩⟩

def optional (d : α) (p : Parser σ α) : Parser σ α := orElse p (succeed d)

/-- Runs `p` and, on success, puts the cursor back; the state `p` left is kept. -/
def lookahead (p : Parser σ α) : Parser σ α :=
  ⟨fun s c =>
    match p.run s c with
    | none => none
    | some ⟨s₁, _, .ok v⟩ => some ⟨s₁, c, .ok v⟩
    | some ⟨s₁, c₁, .error e⟩ => some ⟨s₁, c₁, .error e⟩⟩

/-- Succeeds exactly when `p` fails, and never moves or changes the state. -/
def notFollowedBy (p : Parser σ α) : Parser σ Unit :=
  ⟨fun s c =>
    match p.run s c with
    | none => none
    | some ⟨_, _, .ok _⟩ => some ⟨s, c, .error (.new "unexpected input")⟩
    | some ⟨_, _, .error _⟩ => some ⟨s, c, .ok ()⟩⟩

end Parser

end Descent
