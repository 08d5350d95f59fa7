import Descent.Error
/-! Parsers over a user state `σ`. A parser is run from a state and a cursor and replies with
the state and cursor it stopped at and either a value or a parse error; `none` means that it
did not finish within the budget its loops were given. Sequencing never rewinds: a failure
reports the state and cursor of the part that failed. -/

namespace Descent

/-- What a parser leaves behind. -/
structure Reply (σ α : Type) where
  state : σ
  cursor : Cursor
  outcome : Except ParseError α

/-- The state and value of a success, or else the failure report at the cursor where parsing
stopped: its location, its byte offset and the error. -/
def Reply.finish {σ α : Type} (r : Reply σ α) : Except Failure (σ × α) :=
  match r.outcome with
  | .ok v => .ok (r.state, v)
  | .error e => .error (Failure.ofCursor r.cursor e)

structure Parser (σ α : Type) where
  run : σ → Cursor → Option (Reply σ α)

namespace Parser

variable {σ α β γ : Type}

/-- Two parsers are equivalent when they give the same reply, state, cursor and outcome with
its exact messages, from every state and cursor. -/
def Equiv (p q : Parser σ α) : Prop := ∀ s c, p.run s c = q.run s c

theorem Equiv.refl (p : Parser σ α) : p.Equiv p := fun _ _ => rfl

theorem Equiv.symm {p q : Parser σ α} (h : p.Equiv q) : q.Equiv p := fun s c => (h s c).symm

theorem Equiv.trans {p q r : Parser σ α} (h₁ : p.Equiv q) (h₂ : q.Equiv r) : p.Equiv r :=
  fun s c => (h₁ s c).trans (h₂ s c)

def succeed (v : α) : Parser σ α := ⟨fun s c => some ⟨s, c, .ok v⟩⟩

def failWith (e : ParseError) : Parser σ α := ⟨fun s c => some ⟨s, c, .error e⟩⟩

def fail (m : String) : Parser σ α := failWith (.new m)

/-- Runs `p`, then the parser that its value selects, from where `p` stopped. -/
def bind (p : Parser σ α) (f : α → Parser σ β) : Parser σ β :=
  ⟨fun s c =>
    match p.run s c with
    | none => none
    | some ⟨s', c', .ok v⟩ => (f v).run s' c'
    | some ⟨s', c', .error e⟩ => some ⟨s', c', .error e⟩⟩

def map (p : Parser σ α) (f : α → β) : Parser σ β :=
  ⟨fun s c =>
    match p.run s c with
    | none => none
    | some ⟨s', c', .ok v⟩ => some ⟨s', c', .ok (f v)⟩
    | some ⟨s', c', .error e⟩ => some ⟨s', c', .error e⟩⟩

def skip (p : Parser σ α) : Parser σ Unit := p.map fun _ => ()

def mapErr (p : Parser σ α) (f : ParseError → ParseError) : Parser σ α :=
  ⟨fun s c =>
    match p.run s c with
    | none => none
    | some ⟨s', c', .ok v⟩ => some ⟨s', c', .ok v⟩
    | some ⟨s', c', .error e⟩ => some ⟨s', c', .error (f e)⟩⟩

def label (m : String) (p : Parser σ α) : Parser σ α := p.mapErr fun _ => .new m

def pair (p : Parser σ α) (q : Parser σ β) : Parser σ (α × β) :=
  ⟨fun s c =>
    match p.run s c with
    | none => none
    | some ⟨s₁, c₁, .error e⟩ => some ⟨s₁, c₁, .error e⟩
    | some ⟨s₁, c₁, .ok a⟩ =>
      match q.run s₁ c₁ with
      | none => none
      | some ⟨s₂, c₂, .error e⟩ => some ⟨s₂, c₂, .error e⟩
      | some ⟨s₂, c₂, .ok b⟩ => some ⟨s₂, c₂, .ok (a, b)⟩⟩

def thenIgnore (p : Parser σ α) (q : Parser σ β) : Parser σ α :=
  ⟨fun s c =>
    match p.run s c with
    | none => none
    | some ⟨s₁, c₁, .error e⟩ => some ⟨s₁, c₁, .error e⟩
    | some ⟨s₁, c₁, .ok a⟩ =>
      match q.run s₁ c₁ with
      | none => none
      | some ⟨s₂, c₂, .error e⟩ => some ⟨s₂, c₂, .error e⟩
      | some ⟨s₂, c₂, .ok _⟩ => some ⟨s₂, c₂, .ok a⟩⟩

def ignoreThen (p : Parser σ α) (q : Parser σ β) : Parser σ β :=
  ⟨fun s c =>
    match p.run s c with
    | none => none
    | some ⟨s₁, c₁, .error e⟩ => some ⟨s₁, c₁, .error e⟩
    | some ⟨s₁, c₁, .ok _⟩ => q.run s₁ c₁⟩

def between (o : Parser σ β) (cl : Parser σ γ) (p : Parser σ α) : Parser σ α :=
  ⟨fun s c =>
    match o.run s c with
    | none => none
    | some ⟨s₁, c₁, .error e⟩ => some ⟨s₁, c₁, .error e⟩
    | some ⟨s₁, c₁, .ok _⟩ =>
      match p.run s₁ c₁ with
      | none => none
      | some ⟨s₂, c₂, .error e⟩ => some ⟨s₂, c₂, .error e⟩
      | some ⟨s₂, c₂, .ok v⟩ =>
        match cl.run s₂ c₂ with
        | none => none
        | some ⟨s₃, c₃, .error e⟩ => some ⟨s₃, c₃, .error e⟩
        | some ⟨s₃, c₃, .ok _⟩ => some ⟨s₃, c₃, .ok v⟩⟩

def apply (f : Parser σ (α → β)) (p : Parser σ α) : Parser σ β :=
  ⟨fun s c =>
    match f.run s c with
    | none => none
    | some ⟨s₁, c₁, .error e⟩ => some ⟨s₁, c₁, .error e⟩
    | some ⟨s₁, c₁, .ok g⟩ =>
      match p.run s₁ c₁ with
      | none => none
      | some ⟨s₂, c₂, .error e⟩ => some ⟨s₂, c₂, .error e⟩
      | some ⟨s₂, c₂, .ok v⟩ => some ⟨s₂, c₂, .ok (g v)⟩⟩

end Parser

end Descent
