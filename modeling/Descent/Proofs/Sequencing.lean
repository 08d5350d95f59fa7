import Descent.Parser.Repeat
import Descent.Parser.Choice
/-! The sequencing combinators are binds. `pair`, `thenIgnore`, `ignoreThen`, `between` and
`apply` each stop at the first failure with the state and cursor that part left, so each is `bind`
followed by `map` up to `Parser.Equiv`; so is the first step of `many1`, `sequence` and `count`.
`bind` and `succeed` obey the monad laws, `Parser.Equiv` is a congruence for `bind`, `map` and
`pair`, and the laws of `map` are derived from these rather than from another case split. -/

namespace Descent

namespace Parser

variable {σ α β γ : Type}

/-- `bind` after a reply of the first parser. -/
theorem bind_run (p : Parser σ α) (f : α → Parser σ β) (s : σ) (c : Cursor) :
    (p.bind f).run s c =
      match p.run s c with
      | none => none
      | some ⟨s', c', .ok v⟩ => (f v).run s' c'
      | some ⟨s', c', .error e⟩ => some ⟨s', c', .error e⟩ := rfl

theorem map_equiv_bind (p : Parser σ α) (f : α → β) : (p.map f).Equiv (p.bind fun v => succeed (f v)) := by
  intro s c
  simp only [map, bind]
  rcases p.run s c with _ | ⟨s', c', e | v⟩ <;> rfl

/-- `map` changes the value of a success and nothing else. -/
theorem map_run (p : Parser σ α) (f : α → β) (s : σ) (c : Cursor) :
    (p.map f).run s c = (p.run s c).map fun r => ⟨r.state, r.cursor, r.outcome.map f⟩ := by
  simp only [map]
  rcases p.run s c with _ | ⟨s', c', e | v⟩ <;> rfl

/-- A bind succeeds exactly when its first parser succeeds and the continuation then succeeds from
where the first one stopped. -/
theorem bind_run_eq_ok {p : Parser σ α} {f : α → Parser σ β} {s s' : σ} {c c' : Cursor} {w : β} :
    (p.bind f).run s c = some ⟨s', c', .ok w⟩ ↔
      ∃ s₁ c₁ v, p.run s c = some ⟨s₁, c₁, .ok v⟩ ∧ (f v).run s₁ c₁ = some ⟨s', c', .ok w⟩ := by
  rw [bind_run]
  rcases p.run s c with _ | ⟨s₁, c₁, e | v⟩ <;> simp [and_assoc]

/-- A bind fails where its first parser fails, or where the continuation fails after it. -/
theorem bind_run_eq_error {p : Parser σ α} {f : α → Parser σ β} {s s' : σ} {c c' : Cursor}
    {e : ParseError} :
    (p.bind f).run s c = some ⟨s', c', .error e⟩ ↔
      p.run s c = some ⟨s', c', .error e⟩ ∨
        ∃ s₁ c₁ v, p.run s c = some ⟨s₁, c₁, .ok v⟩ ∧ (f v).run s₁ c₁ = some ⟨s', c', .error e⟩ := by
  rw [bind_run]
  rcases p.run s c with _ | ⟨s₁, c₁, e₁ | v⟩ <;> simp [and_assoc]

theorem map_run_of_ok {p : Parser σ α} {f : α → β} {s s' : σ} {c c' : Cursor} {v : α}
    (h : p.run s c = some ⟨s', c', .ok v⟩) : (p.map f).run s c = some ⟨s', c', .ok (f v)⟩ := by
  rw [map_run, h]
  rfl

theorem map_run_of_error {p : Parser σ α} {f : α → β} {s s' : σ} {c c' : Cursor} {e : ParseError}
    (h : p.run s c = some ⟨s', c', .error e⟩) : (p.map f).run s c = some ⟨s', c', .error e⟩ := by
  rw [map_run, h]
  rfl

theorem map_run_eq_ok {p : Parser σ α} {f : α → β} {s s' : σ} {c c' : Cursor} {w : β} :
    (p.map f).run s c = some ⟨s', c', .ok w⟩ ↔ ∃ v, p.run s c = some ⟨s', c', .ok v⟩ ∧ f v = w := by
  rw [map_run]
  rcases p.run s c with _ | ⟨s₁, c₁, e | v⟩ <;> simp [Except.map, and_assoc]

/-- Whenever `p` answers, it succeeds. -/
def NeverFails (p : Parser σ α) : Prop := ∀ s c s' c' e, p.run s c ≠ some ⟨s', c', .error e⟩

theorem NeverFails.map {p : Parser σ α} (hp : p.NeverFails) (f : α → β) : (p.map f).NeverFails := by
  intro s c s' c' e h
  rw [map_run] at h
  rcases hr : p.run s c with _ | ⟨s₁, c₁, e₁ | v⟩ <;> rw [hr] at h
  · cases h
  · exact hp s c s₁ c₁ e₁ hr
  · cases h

theorem neverFails_maybe (p : Parser σ α) : (maybe p).NeverFails := by
  intro s c s' c' e h
  simp only [maybe] at h
  rcases hr : p.run s c with _ | ⟨s₁, c₁, e₁ | v⟩ <;> simp only [hr] at h <;> cases h

/-- Behind a continuation that never fails, a bind fails exactly where its first parser fails. -/
theorem bind_run_eq_error_of_neverFails {p : Parser σ α} {f : α → Parser σ β}
    (hf : ∀ v, (f v).NeverFails) {s s' : σ} {c c' : Cursor} {e : ParseError} :
    (p.bind f).run s c = some ⟨s', c', .error e⟩ ↔ p.run s c = some ⟨s', c', .error e⟩ := by
  rw [bind_run_eq_error]
  constructor
  · rintro (h | ⟨s₁, c₁, v, -, hv⟩)
    · exact h
    · exact absurd hv (hf v s₁ c₁ s' c' e)
  · exact Or.inl

instance : @Trans (Parser σ α) (Parser σ α) (Parser σ α) Equiv Equiv Equiv := ⟨Equiv.trans⟩

theorem succeed_bind (v : α) (f : α → Parser σ β) : ((succeed v).bind f).Equiv (f v) :=
  fun _ _ => rfl

theorem bind_succeed (p : Parser σ α) : (p.bind succeed).Equiv p := by
  intro s c
  rw [bind_run]
  rcases p.run s c with _ | ⟨s', c', e | v⟩ <;> rfl

/-- A failure of either stage ends both sides where that stage stopped. -/
theorem bind_assoc (p : Parser σ α) (f : α → Parser σ β) (g : β → Parser σ γ) :
    ((p.bind f).bind g).Equiv (p.bind fun v => (f v).bind g) := by
  intro s c
  rw [bind_run, bind_run, bind_run]
  rcases p.run s c with _ | ⟨s', c', e | v⟩
  · rfl
  · rfl
  · exact (bind_run (f v) g s' c').symm

theorem Equiv.bind {p p' : Parser σ α} {f f' : α → Parser σ β} (hp : p.Equiv p')
    (hf : ∀ v, (f v).Equiv (f' v)) : (p.bind f).Equiv (p'.bind f') := by
  intro s c
  rw [bind_run, bind_run, hp s c]
  rcases p'.run s c with _ | ⟨s', c', e | v⟩
  · rfl
  · rfl
  · exact hf v s' c'

theorem Equiv.map {p p' : Parser σ α} (hp : p.Equiv p') (f : α → β) : (p.map f).Equiv (p'.map f) :=
  calc p.map f
    Equiv _ (p.bind fun v => succeed (f v)) := map_equiv_bind p f
    Equiv _ (p'.bind fun v => succeed (f v)) := hp.bind fun _ => .refl _
    Equiv _ (p'.map f) := (map_equiv_bind p' f).symm

theorem map_bind (p : Parser σ α) (f : α → Parser σ β) (g : β → γ) :
    ((p.bind f).map g).Equiv (p.bind fun v => (f v).map g) :=
  calc (p.bind f).map g
    Equiv _ ((p.bind f).bind fun w => succeed (g w)) := map_equiv_bind _ g
    Equiv _ (p.bind fun v => (f v).bind fun w => succeed (g w)) := bind_assoc p f _
    Equiv _ (p.bind fun v => (f v).map g) := .bind (.refl p) fun v => (map_equiv_bind (f v) g).symm

theorem map_map (p : Parser σ α) (f : α → β) (g : β → γ) :
    ((p.map f).map g).Equiv (p.map fun v => g (f v)) :=
  calc (p.map f).map g
    Equiv _ ((p.bind fun v => succeed (f v)).map g) := (map_equiv_bind p f).map g
    Equiv _ (p.bind fun v => (succeed (f v)).map g) := map_bind p _ g
    Equiv _ (p.map fun v => g (f v)) := (map_equiv_bind p _).symm

theorem pair_equiv_bind (p : Parser σ α) (q : Parser σ β) :
    (pair p q).Equiv (p.bind fun a => q.map fun b => (a, b)) := by
  intro s c
  simp only [pair, bind, map]
  rcases p.run s c with _ | ⟨s₁, c₁, e | a⟩
  · rfl
  · rfl
  · dsimp only
    rcases q.run s₁ c₁ with _ | ⟨s₂, c₂, e | b⟩ <;> rfl

/-- A pair whose two values are then combined is a bind whose continuation maps. -/
theorem pair_map_equiv_bind (p : Parser σ α) (q : Parser σ β) (f : α → β → γ) :
    ((pair p q).map fun r => f r.1 r.2).Equiv (p.bind fun a => q.map (f a)) :=
  calc (pair p q).map (fun r => f r.1 r.2)
    Equiv _ ((p.bind fun a => q.map fun b => (a, b)).map fun r => f r.1 r.2) :=
      (pair_equiv_bind p q).map _
    Equiv _ (p.bind fun a => (q.map fun b => (a, b)).map fun r => f r.1 r.2) := map_bind p _ _
    Equiv _ (p.bind fun a => q.map (f a)) := .bind (.refl p) fun _ => map_map q _ _

theorem Equiv.pair {p p' : Parser σ α} {q q' : Parser σ β} (hp : p.Equiv p') (hq : q.Equiv q') :
    (Parser.pair p q).Equiv (Parser.pair p' q') :=
  calc Parser.pair p q
    Equiv _ (p.bind fun a => q.map fun b => (a, b)) := pair_equiv_bind p q
    Equiv _ (p'.bind fun a => q'.map fun b => (a, b)) := .bind hp fun _ => hq.map _
    Equiv _ (Parser.pair p' q') := (pair_equiv_bind p' q').symm

theorem thenIgnore_equiv_bind (p : Parser σ α) (q : Parser σ β) :
    (thenIgnore p q).Equiv (p.bind fun a => q.map fun _ => a) := by
  intro s c
  simp only [thenIgnore, bind, map]
  rcases p.run s c with _ | ⟨s₁, c₁, e | a⟩
  · rfl
  · rfl
  · dsimp only
    rcases q.run s₁ c₁ with _ | ⟨s₂, c₂, e | b⟩ <;> rfl

theorem ignoreThen_equiv_bind (p : Parser σ α) (q : Parser σ β) :
    (ignoreThen p q).Equiv (p.bind fun _ => q) := by
  intro s c
  simp only [ignoreThen, bind]
  rcases p.run s c with _ | ⟨s₁, c₁, e | a⟩ <;> rfl

theorem between_equiv (o : Parser σ β) (cl : Parser σ γ) (p : Parser σ α) :
    (between o cl p).Equiv (thenIgnore (ignoreThen o p) cl) := by
  intro s c
  simp only [between, thenIgnore, ignoreThen]
  rcases o.run s c with _ | ⟨s₁, c₁, e | _⟩ <;> rfl

theorem apply_equiv_bind (f : Parser σ (α → β)) (p : Parser σ α) :
    (apply f p).Equiv (f.bind fun g => p.map g) := by
  intro s c
  simp only [apply, bind, map]
  rcases f.run s c with _ | ⟨s₁, c₁, e | g⟩
  · rfl
  · rfl
  · dsimp only
    rcases p.run s₁ c₁ with _ | ⟨s₂, c₂, e | v⟩ <;> rfl

/-- The default of `optional` is the value `maybe` gives for a failure, both at the start. -/
theorem optional_equiv_map_maybe (d : α) (p : Parser σ α) :
    (optional d p).Equiv ((maybe p).map fun x => x.getD d) := by
  intro s c
  rcases h : p.run s c with _ | ⟨s₁, c₁, e | v⟩ <;>
    simp only [optional, orElse, maybe, map, succeed, h, Option.getD_none, Option.getD_some]

theorem many1_equiv_bind (p : Parser σ α) :
    (many1 p).Equiv (p.bind fun v => ⟨repeatFrom p #[v]⟩) := by
  intro s c
  rcases h : p.run s c with _ | ⟨s₁, c₁, e | v⟩ <;> simp only [many1, bind, h]

theorem sequenceFrom_cons_equiv (p : Parser σ α) (ps : List (Parser σ α)) (acc : Array α) :
    (⟨sequenceFrom (p :: ps) acc⟩ : Parser σ (List α)).Equiv
      (p.bind fun v => ⟨sequenceFrom ps (acc.push v)⟩) := by
  intro s c
  rcases h : p.run s c with _ | ⟨s₁, c₁, e | v⟩ <;> simp only [sequenceFrom, bind, h]

theorem countFrom_succ_equiv (p : Parser σ α) (n : Nat) (acc : Array α) :
    (⟨countFrom p (n + 1) acc⟩ : Parser σ (List α)).Equiv
      (p.bind fun v => ⟨countFrom p n (acc.push v)⟩) := by
  intro s c
  rcases h : p.run s c with _ | ⟨s₁, c₁, e | v⟩ <;> simp only [countFrom, bind, h]

/-- The sequencing combinators are the binds they spell out, and `bind` with `succeed` is a
monad: each law holds for the state, cursor and outcome of every run, failures included. -/
theorem sequencing_monad_laws :
    (∀ (v : α) (f : α → Parser σ β), ((succeed v).bind f).Equiv (f v)) ∧
    (∀ p : Parser σ α, (p.bind succeed).Equiv p) ∧
    (∀ (p : Parser σ α) (f : α → Parser σ β) (g : β → Parser σ γ),
      ((p.bind f).bind g).Equiv (p.bind fun v => (f v).bind g)) ∧
    (∀ (p : Parser σ α) (f : α → β), (p.map f).Equiv (p.bind fun v => succeed (f v))) ∧
    (∀ (p : Parser σ α) (q : Parser σ β), (pair p q).Equiv (p.bind fun a => q.map fun b => (a, b))) ∧
    (∀ (p : Parser σ α) (q : Parser σ β), (thenIgnore p q).Equiv (p.bind fun a => q.map fun _ => a)) ∧
    (∀ (p : Parser σ α) (q : Parser σ β), (ignoreThen p q).Equiv (p.bind fun _ => q)) ∧
    (∀ (o : Parser σ β) (cl : Parser σ γ) (p : Parser σ α),
      (between o cl p).Equiv (thenIgnore (ignoreThen o p) cl)) ∧
    (∀ (f : Parser σ (α → β)) (p : Parser σ α), (apply f p).Equiv (f.bind fun g => p.map g)) ∧
    (∀ (d : α) (p : Parser σ α), (optional d p).Equiv ((maybe p).map fun x => x.getD d)) :=
  ⟨succeed_bind, bind_succeed, bind_assoc, map_equiv_bind, pair_equiv_bind, thenIgnore_equiv_bind,
    ignoreThen_equiv_bind, between_equiv, apply_equiv_bind, optional_equiv_map_maybe⟩

end Parser

end Descent
