import Descent.Proofs.Sequencing
import Descent.Text.Primitive
/-! Runs of a fixed list of parsers. `sequence` runs its parsers in turn, each from where the last
one stopped, and `count n p` is `sequence` over `n` copies of `p`. A run over `ps ++ qs` is the
run over `ps` followed by the run over `qs` from where it stopped, so `sequence` splits at any
point into a `pair` whose values are joined, and `count (n + m)` into `count n` and `count m`.
Nothing is rewound: a run fails exactly where the first parser to fail stopped, with the state
and cursor it left (`FirstFails`). -/

namespace Descent

namespace Parser

variable {σ α : Type}

theorem sequenceFrom_append_acc (ps : List (Parser σ α)) (pre acc : Array α) (s : σ) (c : Cursor) :
    sequenceFrom ps (pre ++ acc) s c =
      ((⟨sequenceFrom ps acc⟩ : Parser σ (List α)).map (pre.toList ++ ·)).run s c := by
  rw [map_run]
  dsimp only
  induction ps generalizing acc s c with
  | nil =>
    show some _ = some _
    rw [Array.toList_append]
    rfl
  | cons p ps ih =>
    rcases h : p.run s c with _ | ⟨s₁, c₁, e | v⟩ <;> simp only [sequenceFrom, h]
    · rfl
    · rfl
    · rw [Array.push_append, ih]

theorem sequenceFrom_equiv_map (ps : List (Parser σ α)) (acc : Array α) :
    (⟨sequenceFrom ps acc⟩ : Parser σ (List α)).Equiv ((sequence ps).map (acc.toList ++ ·)) := by
  intro s c
  have h := sequenceFrom_append_acc ps acc #[] s c
  rwa [Array.append_empty] at h

/-- The run over `ps ++ qs` is the run over `ps`, then the run over `qs` after its values. -/
theorem sequenceFrom_append_equiv (ps qs : List (Parser σ α)) (acc : Array α) :
    (⟨sequenceFrom (ps ++ qs) acc⟩ : Parser σ (List α)).Equiv
      ((⟨sequenceFrom ps acc⟩ : Parser σ (List α)).bind fun xs => ⟨sequenceFrom qs xs.toArray⟩) := by
  induction ps generalizing acc with
  | nil =>
    intro s c
    show sequenceFrom qs acc s c = sequenceFrom qs acc.toList.toArray s c
    rw [Array.toArray_toList]
  | cons p ps ih =>
    calc (⟨sequenceFrom (p :: (ps ++ qs)) acc⟩ : Parser σ (List α))
      Equiv _ (p.bind fun v => ⟨sequenceFrom (ps ++ qs) (acc.push v)⟩) :=
        sequenceFrom_cons_equiv p _ acc
      Equiv _ (p.bind fun v => (⟨sequenceFrom ps (acc.push v)⟩ : Parser σ (List α)).bind
          fun xs => ⟨sequenceFrom qs xs.toArray⟩) := .bind (.refl p) fun v => ih (acc.push v)
      Equiv _ ((p.bind fun v => ⟨sequenceFrom ps (acc.push v)⟩).bind
          fun xs => ⟨sequenceFrom qs xs.toArray⟩) := (bind_assoc p _ _).symm
      Equiv _ ((⟨sequenceFrom (p :: ps) acc⟩ : Parser σ (List α)).bind
          fun xs => ⟨sequenceFrom qs xs.toArray⟩) :=
        .bind (sequenceFrom_cons_equiv p ps acc).symm fun _ => .refl _

theorem sequence_append_equiv (ps qs : List (Parser σ α)) :
    (sequence (ps ++ qs)).Equiv ((pair (sequence ps) (sequence qs)).map fun r => r.1 ++ r.2) :=
  calc sequence (ps ++ qs)
    Equiv _ ((sequence ps).bind fun xs => ⟨sequenceFrom qs xs.toArray⟩) :=
      sequenceFrom_append_equiv ps qs #[]
    Equiv _ ((sequence ps).bind fun xs => (sequence qs).map (xs ++ ·)) := by
      refine .bind (.refl _) fun xs => ?_
      have h := sequenceFrom_equiv_map qs xs.toArray
      rwa [List.toList_toArray] at h
    Equiv _ ((pair (sequence ps) (sequence qs)).map fun r => r.1 ++ r.2) :=
      (pair_map_equiv_bind _ _ _).symm

theorem countFrom_equiv_sequenceFrom (p : Parser σ α) (n : Nat) (acc : Array α) :
    (⟨countFrom p n acc⟩ : Parser σ (List α)).Equiv ⟨sequenceFrom (List.replicate n p) acc⟩ := by
  induction n generalizing acc with
  | zero => exact fun _ _ => rfl
  | succ n ih =>
    calc (⟨countFrom p (n + 1) acc⟩ : Parser σ (List α))
      Equiv _ (p.bind fun v => ⟨countFrom p n (acc.push v)⟩) := countFrom_succ_equiv p n acc
      Equiv _ (p.bind fun v => ⟨sequenceFrom (List.replicate n p) (acc.push v)⟩) :=
        .bind (.refl p) fun v => ih (acc.push v)
      Equiv _ ⟨sequenceFrom (List.replicate (n + 1) p) acc⟩ := (sequenceFrom_cons_equiv p _ acc).symm

theorem count_equiv_sequence (n : Nat) (p : Parser σ α) :
    (count n p).Equiv (sequence (List.replicate n p)) :=
  countFrom_equiv_sequenceFrom p n #[]

theorem count_add_equiv (n m : Nat) (p : Parser σ α) :
    (count (n + m) p).Equiv ((pair (count n p) (count m p)).map fun r => r.1 ++ r.2) :=
  calc count (n + m) p
    Equiv _ (sequence (List.replicate n p ++ List.replicate m p)) := by
      rw [List.replicate_append_replicate]
      exact count_equiv_sequence (n + m) p
    Equiv _ ((pair (sequence (List.replicate n p)) (sequence (List.replicate m p))).map
        fun r => r.1 ++ r.2) := sequence_append_equiv _ _
    Equiv _ ((pair (count n p) (count m p)).map fun r => r.1 ++ r.2) :=
      ((count_equiv_sequence n p).symm.pair (count_equiv_sequence m p).symm).map _

/-- Running `ps` in turn from `s` and `c`, the first parser to fail stops at `s'` and `c'` with
`e`: each parser before it succeeded from where the one before had stopped. -/
inductive FirstFails : List (Parser σ α) → σ → Cursor → σ → Cursor → ParseError → Prop
  | here {p : Parser σ α} {ps : List (Parser σ α)} {s₀ s₁ : σ} {c₀ c₁ : Cursor} {e : ParseError} :
      p.run s₀ c₀ = some ⟨s₁, c₁, .error e⟩ → FirstFails (p :: ps) s₀ c₀ s₁ c₁ e
  | later {p : Parser σ α} {ps : List (Parser σ α)} {s₀ s₁ s₂ : σ} {c₀ c₁ c₂ : Cursor} {w : α}
      {e : ParseError} :
      p.run s₀ c₀ = some ⟨s₁, c₁, .ok w⟩ → FirstFails ps s₁ c₁ s₂ c₂ e →
      FirstFails (p :: ps) s₀ c₀ s₂ c₂ e

variable {ps : List (Parser σ α)} {p : Parser σ α} {s s' : σ} {c c' : Cursor} {e : ParseError}

theorem firstFails_cons_iff :
    FirstFails (p :: ps) s c s' c' e ↔ p.run s c = some ⟨s', c', .error e⟩ ∨
      ∃ s₁ c₁ v, p.run s c = some ⟨s₁, c₁, .ok v⟩ ∧ FirstFails ps s₁ c₁ s' c' e := by
  constructor
  · rintro (hp | ⟨hp, hr⟩)
    · exact .inl hp
    · exact .inr ⟨_, _, _, hp, hr⟩
  · rintro (hp | ⟨s₁, c₁, v, hp, hr⟩)
    · exact .here hp
    · exact .later hp hr

theorem sequenceFrom_eq_error_iff {acc : Array α} :
    sequenceFrom ps acc s c = some ⟨s', c', .error e⟩ ↔ FirstFails ps s c s' c' e := by
  induction ps generalizing acc s c with
  | nil =>
    -- the empty run succeeds, and no parser of it fails
    exact ⟨nofun, nofun⟩
  | cons p ps ih =>
    change (⟨sequenceFrom (p :: ps) acc⟩ : Parser σ (List α)).run s c = _ ↔ _
    rw [sequenceFrom_cons_equiv p ps acc s c, bind_run_eq_error, firstFails_cons_iff]
    -- the rest of the run starts where `p` stopped, with the values after `p`'s
    exact or_congr Iff.rfl (exists₃_congr fun _ _ _ => and_congr Iff.rfl ih)

theorem sequence_run_eq_error_iff :
    (sequence ps).run s c = some ⟨s', c', .error e⟩ ↔ FirstFails ps s c s' c' e :=
  sequenceFrom_eq_error_iff

theorem count_run_eq_error_iff {n : Nat} :
    (count n p).run s c = some ⟨s', c', .error e⟩ ↔ FirstFails (List.replicate n p) s c s' c' e := by
  rw [count_equiv_sequence n p s c]
  exact sequence_run_eq_error_iff

-- three `a`s on `aab`: the third fails at byte 2, where the two before it stopped
example : (count 3 (literal "a") : Parser Unit (List String)).run () ⟨"aab", 0⟩ =
    some ⟨(), ⟨"aab", 2⟩, .error (.new ("expected " ++ Quoted.quote "a"))⟩ := rfl

/-- `sequence` and `count` split at any point into a `pair` whose values are joined, and fail
exactly where their first failing parser stopped. -/
theorem sequence_count_split :
    (∀ ps qs : List (Parser σ α),
      (sequence (ps ++ qs)).Equiv ((pair (sequence ps) (sequence qs)).map fun r => r.1 ++ r.2)) ∧
    (∀ (n : Nat) (p : Parser σ α), (count n p).Equiv (sequence (List.replicate n p))) ∧
    (∀ (n m : Nat) (p : Parser σ α),
      (count (n + m) p).Equiv ((pair (count n p) (count m p)).map fun r => r.1 ++ r.2)) ∧
    (∀ (ps : List (Parser σ α)) (s : σ) (c : Cursor) (s' : σ) (c' : Cursor) (e : ParseError),
      (sequence ps).run s c = some ⟨s', c', .error e⟩ ↔ FirstFails ps s c s' c' e) ∧
    (∀ (n : Nat) (p : Parser σ α) (s : σ) (c : Cursor) (s' : σ) (c' : Cursor) (e : ParseError),
      (count n p).run s c = some ⟨s', c', .error e⟩ ↔
        FirstFails (List.replicate n p) s c s' c' e) :=
  ⟨sequence_append_equiv, count_equiv_sequence, count_add_equiv,
    fun _ _ _ _ _ _ => sequence_run_eq_error_iff, fun _ _ _ _ _ _ _ => count_run_eq_error_iff⟩

end Parser

end Descent
