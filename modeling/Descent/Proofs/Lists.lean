import Descent.Proofs.Repetition
/-! Lists with separators, and operator chains, as compositions of the sequencing and repetition
combinators. A list is its first item followed by `many` separator-and-item pairs; it is empty
only through `optional`, and it takes a trailing separator only through a `maybe` after its last
item. So a separator that no item follows is given back together with its state, at most one
trailing separator is taken and only after an item, and a list fails only where its first item
fails, with that item's own state and cursor. A chain is the same loop over operator-and-operand
pairs; its value groups the operands to the left or to the right. -/

namespace Descent

namespace Parser

variable {σ α β : Type} {sep : Parser σ β} {p : Parser σ α} {s s' : σ} {c c' : Cursor}

theorem sepBy1_equiv_bind (sep : Parser σ β) (p : Parser σ α) :
    (sepBy1 sep p).Equiv (p.bind fun v => ⟨repeatFrom (ignoreThen sep p) #[v]⟩) := by
  intro s c
  rcases h : p.run s c with _ | ⟨s₁, c₁, e | v⟩ <;>
    simp only [sepBy1, separated, bind, h, Bool.false_eq_true, if_false]
  rcases repeatFrom (ignoreThen sep p) #[v] s₁ c₁ <;> rfl

theorem sepEndBy1_equiv (sep : Parser σ β) (p : Parser σ α) :
    (sepEndBy1 sep p).Equiv (thenIgnore (sepBy1 sep p) (maybe sep)) := by
  intro s c
  rcases h : p.run s c with _ | ⟨s₁, c₁, e | v⟩ <;>
    simp only [sepEndBy1, sepBy1, separated, thenIgnore, h, Bool.false_eq_true, if_false, if_true]
  rcases hl : repeatFrom (ignoreThen sep p) #[v] s₁ c₁ with _ | ⟨sₗ, cₗ, o⟩
  · rfl
  · -- the loop never fails, so the list's outcome is a success to keep
    obtain ⟨vs, rfl, -⟩ := repeats_of_repeatFrom hl
    rcases hs : sep.run sₗ cₗ with _ | ⟨s₂, c₂, e₂ | t⟩ <;> simp [maybe, hs]

theorem sepBy1_run_eq_error {e : ParseError} :
    (sepBy1 sep p).run s c = some ⟨s', c', .error e⟩ ↔ p.run s c = some ⟨s', c', .error e⟩ := by
  rw [sepBy1_equiv_bind sep p s c]
  exact bind_run_eq_error_of_neverFails fun v => neverFails_repeatFrom _ #[v]

theorem sepEndBy1_run_eq_error {e : ParseError} :
    (sepEndBy1 sep p).run s c = some ⟨s', c', .error e⟩ ↔ p.run s c = some ⟨s', c', .error e⟩ := by
  rw [sepEndBy1_equiv sep p s c, thenIgnore_equiv_bind _ _ s c,
    bind_run_eq_error_of_neverFails fun a => (neverFails_maybe sep).map fun _ => a]
  exact sepBy1_run_eq_error

theorem separated_run_eq_error (allowTrailing : Bool) {e : ParseError} :
    (separated false allowTrailing sep p).run s c = some ⟨s', c', .error e⟩ ↔
      p.run s c = some ⟨s', c', .error e⟩ := by
  cases allowTrailing
  · exact sepBy1_run_eq_error
  · exact sepEndBy1_run_eq_error

theorem separated_run_of_not_error (allowTrailing : Bool)
    (h : ∀ s' c' e, p.run s c ≠ some ⟨s', c', .error e⟩) :
    (separated true allowTrailing sep p).run s c = (separated false allowTrailing sep p).run s c := by
  rcases hp : p.run s c with _ | ⟨s₁, c₁, e | v⟩
  · simp only [separated, hp]
  · exact absurd hp (h s₁ c₁ e)
  · simp only [separated, hp]

theorem separated_equiv_optional (allowTrailing : Bool) (sep : Parser σ β) (p : Parser σ α) :
    (separated true allowTrailing sep p).Equiv (optional [] (separated false allowTrailing sep p)) := by
  intro s c
  by_cases hp : ∃ s₁ c₁ e, p.run s c = some ⟨s₁, c₁, .error e⟩
  · obtain ⟨s₁, c₁, e, hp⟩ := hp
    rw [separated_run_of_error true allowTrailing sep hp, if_pos rfl]
    exact (optional_run_of_fails [] ⟨s₁, c₁, (separated_run_eq_error allowTrailing).2 hp⟩).symm
  · -- the first item does not fail, so neither does the list and `optional` passes it on
    have hne : ∀ s₁ c₁ e, p.run s c ≠ some ⟨s₁, c₁, .error e⟩ := fun s₁ c₁ e h => hp ⟨s₁, c₁, e, h⟩
    rw [separated_run_of_not_error allowTrailing hne, optional, orElse_run_of_not_error]
    exact fun s₁ c₁ e h => hne s₁ c₁ e ((separated_run_eq_error allowTrailing).1 h)

/-- A list that needs an item is that item, then a run of separator-and-item pairs, ending where the
last complete pair did. -/
theorem sepBy1_run_eq_ok {xs : List α} (h : (sepBy1 sep p).run s c = some ⟨s', c', .ok xs⟩) :
    ∃ s₁ c₁ x vs, p.run s c = some ⟨s₁, c₁, .ok x⟩ ∧
      Repeats (ignoreThen sep p) s₁ c₁ vs s' c' ∧ xs = x :: vs := by
  rw [sepBy1_equiv_bind sep p s c, bind_run_eq_ok] at h
  obtain ⟨s₁, c₁, x, hp, hl⟩ := h
  obtain ⟨vs, hxs, hr⟩ := repeats_of_repeatFrom hl
  exact ⟨s₁, c₁, x, vs, hp, hr, by simpa using hxs⟩

theorem sepEndBy1_run_eq_ok {xs : List α} (h : (sepEndBy1 sep p).run s c = some ⟨s', c', .ok xs⟩) :
    ∃ sₘ cₘ, (sepBy1 sep p).run s c = some ⟨sₘ, cₘ, .ok xs⟩ ∧
      (s' = sₘ ∧ c' = cₘ ∨ ∃ t, sep.run sₘ cₘ = some ⟨s', c', .ok t⟩) := by
  rw [sepEndBy1_equiv sep p s c, thenIgnore_equiv_bind _ _ s c, bind_run_eq_ok] at h
  obtain ⟨sₘ, cₘ, a, hl, ht⟩ := h
  obtain ⟨o, ho, rfl⟩ := map_run_eq_ok.1 ht
  refine ⟨sₘ, cₘ, hl, ?_⟩
  simp only [maybe] at ho
  rcases hs : sep.run sₘ cₘ with _ | ⟨s₂, c₂, e₂ | t⟩ <;> simp only [hs] at ho
  · cases ho
  · cases ho
    exact Or.inl ⟨rfl, rfl⟩
  · cases ho
    exact Or.inr ⟨t, rfl⟩

theorem separated_run_ne_nil (allowTrailing : Bool) :
    (separated false allowTrailing sep p).run s c ≠ some ⟨s', c', .ok []⟩ := by
  intro h
  cases allowTrailing
  · obtain ⟨_, _, _, _, -, -, hxs⟩ := sepBy1_run_eq_ok h
    cases hxs
  · obtain ⟨_, _, hl, -⟩ := sepEndBy1_run_eq_ok h
    obtain ⟨_, _, _, _, -, -, hxs⟩ := sepBy1_run_eq_ok hl
    cases hxs

theorem separated_run_eq_nil (allowTrailing : Bool)
    (h : (separated true allowTrailing sep p).run s c = some ⟨s', c', .ok []⟩) : s' = s ∧ c' = c := by
  by_cases hp : ∃ s₁ c₁ e, p.run s c = some ⟨s₁, c₁, .error e⟩
  · obtain ⟨s₁, c₁, e, hp⟩ := hp
    rw [separated_run_of_error true allowTrailing sep hp, if_pos rfl] at h
    cases h
    exact ⟨rfl, rfl⟩
  · rw [separated_run_of_not_error allowTrailing fun s₁ c₁ e h => hp ⟨s₁, c₁, e, h⟩] at h
    exact absurd h (separated_run_ne_nil allowTrailing)

/-- The four separated lists are their compositional definitions, so a dangling separator is given
back with its state and a list that needs an item fails exactly where that item fails. -/
theorem separated_lists_compose (sep : Parser σ β) (p : Parser σ α) :
    (sepBy1 sep p).Equiv ((pair p (many (ignoreThen sep p))).map fun r => r.1 :: r.2) ∧
    (sepBy sep p).Equiv (optional [] (sepBy1 sep p)) ∧
    (sepEndBy1 sep p).Equiv (thenIgnore (sepBy1 sep p) (maybe sep)) ∧
    (sepEndBy sep p).Equiv (optional [] (sepEndBy1 sep p)) ∧
    (∀ s c s' c' xs, (sepBy1 sep p).run s c = some ⟨s', c', .ok xs⟩ →
      ∃ s₁ c₁ x vs, p.run s c = some ⟨s₁, c₁, .ok x⟩ ∧
        Repeats (ignoreThen sep p) s₁ c₁ vs s' c' ∧ xs = x :: vs) ∧
    (∀ s c s' c', (sepBy sep p).run s c = some ⟨s', c', .ok []⟩ → s' = s ∧ c' = c) ∧
    (∀ s c s' c' xs, (sepEndBy1 sep p).run s c = some ⟨s', c', .ok xs⟩ →
      ∃ sₘ cₘ, (sepBy1 sep p).run s c = some ⟨sₘ, cₘ, .ok xs⟩ ∧
        (s' = sₘ ∧ c' = cₘ ∨ ∃ t, sep.run sₘ cₘ = some ⟨s', c', .ok t⟩)) ∧
    (∀ s c s' c', (sepEndBy sep p).run s c = some ⟨s', c', .ok []⟩ → s' = s ∧ c' = c) ∧
    (∀ s c s' c' e,
      ((sepBy1 sep p).run s c = some ⟨s', c', .error e⟩ ↔ p.run s c = some ⟨s', c', .error e⟩) ∧
      ((sepEndBy1 sep p).run s c = some ⟨s', c', .error e⟩ ↔ p.run s c = some ⟨s', c', .error e⟩)) :=
  ⟨(sepBy1_equiv_bind sep p).trans (bind_repeatFrom_equiv p _), separated_equiv_optional false sep p,
    sepEndBy1_equiv sep p, separated_equiv_optional true sep p, fun _ _ _ _ _ => sepBy1_run_eq_ok,
    fun _ _ _ _ => separated_run_eq_nil false, fun _ _ _ _ _ => sepEndBy1_run_eq_ok,
    fun _ _ _ _ => separated_run_eq_nil true,
    fun _ _ _ _ _ => ⟨sepBy1_run_eq_error, sepEndBy1_run_eq_error⟩⟩

/-- On `a,a,` the list of `a`s separated by commas stops before the last comma, which no item
follows. -/
theorem sepBy1_gives_back_trailing_comma :
    (sepBy1 (literal ",") (literal "a") : Parser Unit (List String)).run () ⟨"a,a,", 0⟩ =
        some ⟨(), ⟨"a,a,", 3⟩, .ok ["a", "a"]⟩ ∧
      ∃ s₁ c₁ x vs, (literal "a" : Parser Unit String).run () ⟨"a,a,", 0⟩ = some ⟨s₁, c₁, .ok x⟩ ∧
        Repeats (ignoreThen (literal ",") (literal "a")) s₁ c₁ vs () ⟨"a,a,", 3⟩ ∧
        ["a", "a"] = x :: vs := by
  have hr : Repeats (ignoreThen (literal ",") (literal "a") : Parser Unit String) () ⟨"a,a,", 1⟩
      ["a"] () ⟨"a,a,", 3⟩ :=
    .step rfl (by decide) (.stop (.inl ⟨(), ⟨"a,a,", 4⟩, _, rfl⟩))
  have h : (sepBy1 (literal ",") (literal "a") : Parser Unit (List String)).run () ⟨"a,a,", 0⟩ =
      some ⟨(), ⟨"a,a,", 3⟩, .ok ["a", "a"]⟩ := by
    rw [sepBy1_equiv_bind _ _ () _, bind_run_eq_ok]
    exact ⟨(), ⟨"a,a,", 1⟩, "a", rfl, repeatFrom_of_repeats hr #["a"]⟩
  exact ⟨h, (separated_lists_compose _ _).2.2.2.2.1 _ _ _ _ _ h⟩

/-- `a₀ f₁ a₁ … fₙ aₙ` grouped to the left: `fₙ (… (f₁ a₀ a₁) …) aₙ`. -/
def groupLeft : α → List ((α → α → α) × α) → α
  | a, [] => a
  | a, (f, b) :: rest => groupLeft (f a b) rest

/-- `a₀ f₁ a₁ … fₙ aₙ` grouped to the right: `f₁ a₀ (f₂ a₁ (… (fₙ aₙ₋₁ aₙ)))`. -/
def groupRight : α → List ((α → α → α) × α) → α
  | a, [] => a
  | a, (f, b) :: rest => f a (groupRight b rest)

example (f g : Nat → Nat → Nat) (a b c : Nat) :
    groupLeft a [(f, b), (g, c)] = g (f a b) c ∧ groupRight a [(f, b), (g, c)] = f a (g b c) :=
  ⟨rfl, rfl⟩

theorem foldLeftOps_eq_groupLeft (a : α) (rest : List ((α → α → α) × α)) :
    foldLeftOps a rest = groupLeft a rest := by
  induction rest generalizing a with
  | nil => rfl
  | cons fa rest ih =>
    obtain ⟨f, b⟩ := fa
    exact ih (f a b)

theorem foldr_pairs_groupRight (ys : List ((α → α → α) × α)) (last : (α → α → α) × α) (a : α) :
    (ys.foldr (fun fa (acc : (α → α → α) × α) => (fa.1, acc.1 fa.2 acc.2)) last).1 a
        (ys.foldr (fun fa (acc : (α → α → α) × α) => (fa.1, acc.1 fa.2 acc.2)) last).2 =
      groupRight a (ys ++ [last]) := by
  obtain ⟨g, b⟩ := last
  induction ys generalizing a with
  | nil => rfl
  | cons fa ys ih =>
    obtain ⟨f, a₁⟩ := fa
    simp only [List.foldr_cons, List.cons_append, groupRight]
    rw [ih a₁]

/-- Folding the reversed pairs as `foldRightOps` does groups the operands to the right. -/
theorem foldRightOps_eq_groupRight (a : α) (rest : List ((α → α → α) × α)) :
    foldRightOps a rest = groupRight a rest := by
  rcases h : rest.reverse with _ | ⟨last, more⟩
  · rw [List.reverse_eq_nil_iff.1 h]
    rfl
  · -- `rest` is `more.reverse ++ [last]`, and a left fold over `more` is a right fold over its
    -- reverse
    simp only [foldRightOps, h]
    rw [List.reverse_eq_cons_iff.1 h, ← foldr_pairs_groupRight, ← List.foldl_reverse,
      List.reverse_reverse]

section Chains

variable {op : Parser σ (α → α → α)} {s₁ : σ} {c₁ : Cursor} {a : α}
  {rest : List ((α → α → α) × α)}

theorem operands_run_of_error (op : Parser σ β) {e : ParseError}
    (hp : p.run s c = some ⟨s', c', .error e⟩) : (operands op p).run s c = some ⟨s', c', .error e⟩ := by
  simp only [operands, hp]

theorem operands_run_of_ok {op : Parser σ β} {rest : List (β × α)}
    (hp : p.run s c = some ⟨s₁, c₁, .ok a⟩)
    (hm : (many (pair op p)).run s₁ c₁ = some ⟨s', c', .ok rest⟩) :
    (operands op p).run s c = some ⟨s', c', .ok (a, rest)⟩ := by
  simp only [operands, hp]
  rw [show repeatFrom (pair op p) #[] s₁ c₁ = _ from hm]

theorem chainLeft_run_of_ok (hp : p.run s c = some ⟨s₁, c₁, .ok a⟩)
    (hm : (many (pair op p)).run s₁ c₁ = some ⟨s', c', .ok rest⟩) :
    (chainLeft op p).run s c = some ⟨s', c', .ok (groupLeft a rest)⟩ := by
  rw [← foldLeftOps_eq_groupLeft]
  exact map_run_of_ok (operands_run_of_ok hp hm)

theorem chainRight_run_of_ok (hp : p.run s c = some ⟨s₁, c₁, .ok a⟩)
    (hm : (many (pair op p)).run s₁ c₁ = some ⟨s', c', .ok rest⟩) :
    (chainRight op p).run s c = some ⟨s', c', .ok (groupRight a rest)⟩ := by
  rw [← foldRightOps_eq_groupRight]
  exact map_run_of_ok (operands_run_of_ok hp hm)

end Chains

/-- Chains stop where the loop over operator and operand pairs stopped and group the operands to
the left and to the right; a failing first operand is their failure as it is. -/
theorem chains_fold_operands (op : Parser σ (α → α → α)) (p : Parser σ α) (s : σ) (c : Cursor) :
    (∀ s' c' e, p.run s c = some ⟨s', c', .error e⟩ →
      (chainLeft op p).run s c = some ⟨s', c', .error e⟩ ∧
      (chainRight op p).run s c = some ⟨s', c', .error e⟩) ∧
    (∀ s₁ c₁ a₀ rest s' c', p.run s c = some ⟨s₁, c₁, .ok a₀⟩ →
      (many (pair op p)).run s₁ c₁ = some ⟨s', c', .ok rest⟩ →
      (chainLeft op p).run s c = some ⟨s', c', .ok (groupLeft a₀ rest)⟩ ∧
      (chainRight op p).run s c = some ⟨s', c', .ok (groupRight a₀ rest)⟩) := by
  refine ⟨fun s' c' e hp => ?_, fun _ _ _ _ _ _ hp hm => ⟨chainLeft_run_of_ok hp hm,
    chainRight_run_of_ok hp hm⟩⟩
  -- both chains are maps of the operands, which give the first operand's failure as it is
  have ho := operands_run_of_error op hp
  exact ⟨map_run_of_error ho, map_run_of_error ho⟩

/-- `2^3^2` read one digit at a time: `2 ^ (3 ^ 2)` to the right, `(2 ^ 3) ^ 2` to the left. -/
theorem chains_power_tower :
    (chainRight ((literal "^").map fun _ => Nat.pow) (anyChar.map fun ch => ch.toNat - 48) :
        Parser Unit Nat).run () ⟨"2^3^2", 0⟩ = some ⟨(), ⟨"2^3^2", 5⟩, .ok 512⟩ ∧
      (chainLeft ((literal "^").map fun _ => Nat.pow) (anyChar.map fun ch => ch.toNat - 48) :
        Parser Unit Nat).run () ⟨"2^3^2", 0⟩ = some ⟨(), ⟨"2^3^2", 5⟩, .ok 64⟩ := by
  have hr : Repeats (pair ((literal "^").map fun _ => Nat.pow) (anyChar.map fun ch => ch.toNat - 48) :
      Parser Unit ((Nat → Nat → Nat) × Nat)) () ⟨"2^3^2", 1⟩
      [(Nat.pow, 3), (Nat.pow, 2)] () ⟨"2^3^2", 5⟩ :=
    .step rfl (by decide) (.step rfl (by decide) (.stop (.inl ⟨(), ⟨"2^3^2", 5⟩, _, rfl⟩)))
  obtain ⟨hl, hr⟩ := (chains_fold_operands _ _ () ⟨"2^3^2", 0⟩).2 () ⟨"2^3^2", 1⟩ 2 _ () _ rfl
    (repeatFrom_of_repeats hr #[])
  exact ⟨hr, hl⟩

end Parser

end Descent
