import Descent.Parser.Basic
import Descent.Text.Span
/-! Parsers that read or write the user state, or look at where the cursor stands. None of them
fails or moves the cursor, except through the parser they run. -/

namespace Descent

namespace Parser

variable {σ α : Type}

def getState : Parser σ σ := ⟨fun s c => some ⟨s, c, .ok s⟩⟩

def putState (v : σ) : Parser σ Unit := ⟨fun _ c => some ⟨v, c, .ok ()⟩⟩

def modifyState (f : σ → σ) : Parser σ Unit := ⟨fun s c => some ⟨f s, c, .ok ()⟩⟩

def withState (f : σ → Parser σ α) : Parser σ α := ⟨fun s c => (f s).run s c⟩

def withLocation (f : Location → Parser σ α) : Parser σ α := ⟨fun s c => (f c.locate).run s c⟩

def withLine (f : Nat → Parser σ α) : Parser σ α := withLocation fun l => f l.line

def withColumn (f : Nat → Parser σ α) : Parser σ α := withLocation fun l => f l.column

/-- The value of `p` with the span from where it started to where it stopped. -/
def spanned (p : Parser σ α) : Parser σ (α × Span) :=
  ⟨fun s c =>
    match p.run s c with
    | none => none
    | some ⟨s', c', .ok v⟩ => some ⟨s', c', .ok (v, ⟨c.pos, c'.pos⟩)⟩
    | some ⟨s', c', .error e⟩ => some ⟨s', c', .error e⟩⟩

end Parser

end Descent
