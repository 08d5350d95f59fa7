import Descent.Parser.Choice
/-! The algebra of alternatives. `choice` is a right fold of `orElse` ending in the empty
choice, a choice over two lists is the alternative of the two choices, and `orElse` is
associative; each up to `Parser.Equiv`, so the messages agree too. All three rest on one fact:
every failure of an alternative stands at the state and cursor it started from, and carries the
messages gathered so far followed by those of the failed alternatives. -/

namespace Descent

namespace Parser

variable {σ α : Type}

/-- A choice started with messages `err` is the choice started with none, `err` put in front
of its messages on failure, at the starting state and cursor. -/
theorem choiceFrom_eq_merge (err : ParseError) (ps : List (Parser σ α)) (s : σ) (c : Cursor) :
    choiceFrom err ps s c =
      match choiceFrom .empty ps s c with
      | some ⟨_, _, .error e⟩ => some ⟨s, c, .error (err.merge e)⟩
      | r => r := by
  induction ps generalizing err with
  | nil => simp [choiceFrom]
  | cons p ps ih =>
    simp only [choiceFrom, ParseError.empty_merge]
    rcases hp : p.run s c with _ | ⟨s₁, c₁, e | _⟩
    · rfl
    · dsimp only
      rw [ih (err.merge e), ih e]
      rcases choiceFrom .empty ps s c with _ | ⟨s₂, c₂, e₂ | _⟩
      · rfl
      · simp [ParseError.merge_assoc]
      · rfl
    · rfl

/-- A choice over `ps ++ qs` goes on with `qs` and the messages of `ps` when `ps` fails. -/
theorem choiceFrom_append (err : ParseError) (ps qs : List (Parser σ α)) (s : σ) (c : Cursor) :
    choiceFrom err (ps ++ qs) s c =
      match choiceFrom err ps s c with
      | some ⟨_, _, .error e⟩ => choiceFrom e qs s c
      | r => r := by
  induction ps generalizing err with
  | nil => rfl
  | cons p ps ih =>
    simp only [List.cons_append, choiceFrom]
    rcases p.run s c with _ | ⟨s₁, c₁, e | _⟩
    · rfl
    · exact ih (err.merge e)
    · rfl

/-- `orElse p q` spelled out when `p` has failed with messages `e`. -/
theorem orElse_run_of_error (p q : Parser σ α) (s : σ) (c : Cursor) (s₁ : σ) (c₁ : Cursor)
    (e : ParseError) (hp : p.run s c = some ⟨s₁, c₁, .error e⟩) :
    (orElse p q).run s c =
      match q.run s c with
      | some ⟨_, _, .error e₂⟩ => some ⟨s, c, .error (e.merge e₂)⟩
      | r => r := by
  simp only [orElse, hp]
  rcases q.run s c with _ | ⟨s₂, c₂, e₂ | _⟩ <;> rfl

theorem choice_equiv_foldr (ps : List (Parser σ α)) :
    (choice ps).Equiv (ps.foldr orElse (choice [])) := by
  intro s c
  induction ps with
  | nil => rfl
  | cons p ps ih =>
    rcases hp : p.run s c with _ | ⟨s₁, c₁, e | _⟩
    · simp [choice, choiceFrom, orElse, hp]
    · rw [List.foldr_cons, orElse_run_of_error p _ s c s₁ c₁ e hp, ← ih]
      simp only [choice, choiceFrom, hp, ParseError.empty_merge]
      exact choiceFrom_eq_merge e ps s c
    · simp [choice, choiceFrom, orElse, hp]

theorem choice_append_equiv (ps qs : List (Parser σ α)) :
    (choice (ps ++ qs)).Equiv (orElse (choice ps) (choice qs)) := by
  intro s c
  simp only [choice]
  rw [choiceFrom_append]
  rcases h : choiceFrom .empty ps s c with _ | ⟨s₁, c₁, e | _⟩
  · simp [orElse, h]
  · dsimp only
    exact (choiceFrom_eq_merge e qs s c).trans
      (orElse_run_of_error ⟨choiceFrom .empty ps⟩ ⟨choiceFrom .empty qs⟩ s c s₁ c₁ e h).symm
  · simp [orElse, h]

theorem orElse_assoc (p q r : Parser σ α) : (orElse (orElse p q) r).Equiv (orElse p (orElse q r)) := by
  intro s c
  simp only [orElse]
  rcases p.run s c with _ | ⟨s₁, c₁, e₁ | _⟩
  · rfl
  · rcases q.run s c with _ | ⟨s₂, c₂, e₂ | _⟩
    · rfl
    · rcases r.run s c with _ | ⟨s₃, c₃, e₃ | _⟩
      · rfl
      · simp [ParseError.merge_assoc]
      · rfl
    · rfl
  · rfl

theorem choice_orElse_laws :
    (∀ ps : List (Parser σ α), (choice ps).Equiv (ps.foldr orElse (choice []))) ∧
    (∀ ps qs : List (Parser σ α), (choice (ps ++ qs)).Equiv (orElse (choice ps) (choice qs))) ∧
    (∀ p q r : Parser σ α, (orElse (orElse p q) r).Equiv (orElse p (orElse q r))) :=
  ⟨choice_equiv_foldr, choice_append_equiv, orElse_assoc⟩

end Parser

end Descent
