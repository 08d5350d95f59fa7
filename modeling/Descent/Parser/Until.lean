import Descent.Parser.Repeat
/-! Items up to a terminator. Each step first tries the terminator; when it fails, the item
parser runs from the same place, not from where the terminator stopped. A failing item ends the
loop with the terminator's failure. Items that do not move the cursor may still change the
state, so steps that stand still are counted against a limit `stall`, and the loop has no answer
once that is spent. -/

namespace Descent

namespace Parser

variable {σ α β : Type}

/-- The loop after the items `acc`, with `stall` standing steps left. -/
def manyUntilFrom (p : Parser σ α) (t : Parser σ β) (stall : Nat) (acc : Array α) (s : σ) (c : Cursor) :
    Option (Reply σ (List α)) :=
  match t.run s c with
  | none => none
  | some ⟨s₁, c₁, .ok _⟩ => some ⟨s₁, c₁, .ok acc.toList⟩
  | some ⟨s₁, c₁, .error e⟩ =>
    match p.run s c with
    | none => none
    | some ⟨_, _, .error _⟩ => some ⟨s₁, c₁, .error e⟩
    | some ⟨s', c', .ok v⟩ =>
      if _h : Advances c c' then manyUntilFrom p t stall (acc.push v) s' c'
      else if _h' : c' = c then
        match stall with
        | 0 => none
        | k + 1 => manyUntilFrom p t k (acc.push v) s' c'
      else none
termination_by (c.len - c.pos, stall)
decreasing_by
  · exact Prod.Lex.left _ _ _h.measure_lt
  · subst _h'; exact Prod.Lex.right _ (Nat.lt_succ_self k)

def manyUntil (stall : Nat) (p : Parser σ α) (t : Parser σ β) : Parser σ (List α) :=
  ⟨manyUntilFrom p t stall #[]⟩

end Parser

end Descent
