import Descent.Parser.Repeat
/-! Lists with separators, and operator chains. Both read a first item and then repeat a
separator or operator followed by an item, so a separator or operator that no item follows is
given back together with its state changes. A trailing separator is taken only after at least
one item. Chains combine their operands from the left or from the right. -/

namespace Descent

namespace Parser

variable {σ α β : Type}

/-- Items of `p` separated by `sep`. With `allowEmpty` a missing first item gives the empty
list where the list started; with `allowTrailing` one more separator may end the list. -/
def separated (allowEmpty allowTrailing : Bool) (sep : Parser σ β) (p : Parser σ α) :
    Parser σ (List α) :=
  ⟨fun s c =>
    match p.run s c with
    | none => none
    | some ⟨s₁, c₁, .error e⟩ => if allowEmpty then some ⟨s, c, .ok []⟩ else some ⟨s₁, c₁, .error e⟩
    | some ⟨s₁, c₁, .ok v⟩ =>
      match repeatFrom (ignoreThen sep p) #[v] s₁ c₁ with
      | none => none
      | some list =>
        if allowTrailing then
          match sep.run list.state list.cursor with
          | none => none
          | some ⟨s₂, c₂, .ok _⟩ => some ⟨s₂, c₂, list.outcome⟩
          | some ⟨_, _, .error _⟩ => some list
        else some list⟩

def sepBy (sep : Parser σ β) (p : Parser σ α) : Parser σ (List α) := separated true false sep p

def sepBy1 (sep : Parser σ β) (p : Parser σ α) : Parser σ (List α) := separated false false sep p

def sepEndBy (sep : Parser σ β) (p : Parser σ α) : Parser σ (List α) := separated true true sep p

def sepEndBy1 (sep : Parser σ β) (p : Parser σ α) : Parser σ (List α) := separated false true sep p

/-- The first operand, then operator and operand pairs as long as both follow. -/
def operands (op : Parser σ β) (p : Parser σ α) : Parser σ (α × List (β × α)) :=
  ⟨fun s c =>
    match p.run s c with
    | none => none
    | some ⟨s₁, c₁, .error e⟩ => some ⟨s₁, c₁, .error e⟩
    | some ⟨s₁, c₁, .ok a⟩ =>
      match repeatFrom (pair op p) #[] s₁ c₁ with
      | none => none
      | some ⟨s₂, c₂, .ok rest⟩ => some ⟨s₂, c₂, .ok (a, rest)⟩
      | some ⟨s₂, c₂, .error e⟩ => some ⟨s₂, c₂, .error e⟩⟩

def foldLeftOps (first : α) (rest : List ((α → α → α) × α)) : α :=
  rest.foldl (fun acc fa => fa.1 acc fa.2) first

/-- `a₀ f₁ a₁ … fₙ aₙ` combined from the right: `f₁ a₀ (f₂ a₁ (… (fₙ aₙ₋₁ aₙ)))`. The pairs are
walked from the last, each operator keeping the operand on its left until the next one comes. -/
def foldRightOps (first : α) (rest : List ((α → α → α) × α)) : α :=
  match rest.reverse with
  | [] => first
  | last :: more =>
    let top := more.foldl (fun (acc : (α → α → α) × α) fa => (fa.1, acc.1 fa.2 acc.2)) last
    top.1 first top.2

def chainLeft (op : Parser σ (α → α → α)) (p : Parser σ α) : Parser σ α :=
  (operands op p).map fun r => foldLeftOps r.1 r.2

def chainRight (op : Parser σ (α → α → α)) (p : Parser σ α) : Parser σ α :=
  (operands op p).map fun r => foldRightOps r.1 r.2

end Parser

end Descent
