import Descent.Proofs.Backtracking
import Descent.Proofs.Halting
/-! The repetition loop, pass by pass. A pass that fails or succeeds without moving ends the loop
where the last moving pass left off, its state dropped, so the loop never fails and its runs are
the chains of moving passes that `Repeats` names. Values put before the loop stay in front, which
makes `many1` its body followed by `many`. For a body that never moves back (`Onward`) the loop
always answers, after at most one pass per byte left plus the one that stalls. -/

namespace Descent

namespace Parser

variable {σ α : Type} {p : Parser σ α} {acc : Array α} {s s' : σ} {c c' : Cursor} {v : α}

theorem Advances.ne (h : Advances c c') : c' ≠ c := by
  rintro rfl
  exact Nat.lt_irrefl _ h.2.1

theorem repeatFrom_of_none (h : p.run s c = none) : repeatFrom p acc s c = none := by
  rw [repeatFrom]
  simp only [h]

theorem repeatFrom_of_error {e : ParseError} (h : p.run s c = some ⟨s', c', .error e⟩) :
    repeatFrom p acc s c = some ⟨s, c, .ok acc.toList⟩ := by
  rw [repeatFrom]
  simp only [h]

theorem repeatFrom_of_stays (h : p.run s c = some ⟨s', c, .ok v⟩) :
    repeatFrom p acc s c = some ⟨s, c, .ok acc.toList⟩ := by
  rw [repeatFrom]
  simp only [h, if_true]

theorem repeatFrom_of_advances (h : p.run s c = some ⟨s', c', .ok v⟩) (ha : Advances c c') :
    repeatFrom p acc s c = repeatFrom p (acc.push v) s' c' := by
  rw [repeatFrom]
  simp only [h, if_neg ha.ne, dif_pos ha]

/-- A success that changes the cursor without moving it forward has no answer; parsers never
give one (`Cursor.Forward.eq_or_advances`). -/
theorem repeatFrom_of_jumps (h : p.run s c = some ⟨s', c', .ok v⟩) (hc : c' ≠ c) (ha : ¬Advances c c') :
    repeatFrom p acc s c = none := by
  rw [repeatFrom]
  simp only [h, if_neg hc, dif_neg ha]

/-- The loop after the values `pre ++ acc` is the loop after `acc` with `pre` put in front. -/
theorem repeatFrom_append (p : Parser σ α) (pre acc : Array α) (s : σ) (c : Cursor) :
    repeatFrom p (pre ++ acc) s c =
      ((⟨repeatFrom p acc⟩ : Parser σ (List α)).map (pre.toList ++ ·)).run s c := by
  rw [map_run]
  dsimp only
  -- each branch of the loop on `acc` is the same branch on `pre ++ acc`
  fun_induction repeatFrom p acc s c with
  | case1 acc s c h => rw [repeatFrom_of_none h, Option.map_none]
  | case2 acc s c s₁ c₁ e h =>
    rw [repeatFrom_of_error h, Option.map_some, Array.toList_append]
    rfl
  | case3 acc s c s₁ v h =>
    rw [repeatFrom_of_stays h, Option.map_some, Array.toList_append]
    rfl
  | case4 acc s c s₁ c₁ v h _ ha ih => rw [repeatFrom_of_advances h ha, Array.push_append, ih]
  | case5 acc s c s₁ c₁ v h hc ha => rw [repeatFrom_of_jumps h hc ha, Option.map_none]

theorem repeatFrom_equiv_map_many (p : Parser σ α) (acc : Array α) :
    (⟨repeatFrom p acc⟩ : Parser σ (List α)).Equiv ((many p).map (acc.toList ++ ·)) := by
  intro s c
  have h := repeatFrom_append p acc #[] s c
  rwa [Array.append_empty] at h

/-- The loop stops at `s` and `c`: the next pass fails, or succeeds without moving. -/
def Stalls (p : Parser σ α) (s : σ) (c : Cursor) : Prop :=
  (∃ s' c' e, p.run s c = some ⟨s', c', .error e⟩) ∨ ∃ s' v, p.run s c = some ⟨s', c, .ok v⟩

/-- The runs of the loop: passes that each succeed and move forward give the values `vs`, and the
last of them leaves `s'` and `c'`, where the next pass stalls. -/
inductive Repeats (p : Parser σ α) : σ → Cursor → List α → σ → Cursor → Prop
  | stop {s₀ : σ} {c₀ : Cursor} : Stalls p s₀ c₀ → Repeats p s₀ c₀ [] s₀ c₀
  | step {s₀ s₁ s₂ : σ} {c₀ c₁ c₂ : Cursor} {w : α} {ws : List α} :
      p.run s₀ c₀ = some ⟨s₁, c₁, .ok w⟩ → Advances c₀ c₁ → Repeats p s₁ c₁ ws s₂ c₂ →
      Repeats p s₀ c₀ (w :: ws) s₂ c₂

theorem repeatFrom_of_repeats {vs : List α} (h : Repeats p s c vs s' c') (acc : Array α) :
    repeatFrom p acc s c = some ⟨s', c', .ok (acc.toList ++ vs)⟩ := by
  induction h generalizing acc with
  | stop hs =>
    rcases hs with ⟨_, _, _, he⟩ | ⟨_, _, hv⟩
    · rw [repeatFrom_of_error he, List.append_nil]
    · rw [repeatFrom_of_stays hv, List.append_nil]
  | step hp ha _ ih =>
    rw [repeatFrom_of_advances hp ha, ih, Array.toList_push, List.append_assoc, List.singleton_append]

theorem repeats_of_repeatFrom {o : Except ParseError (List α)}
    (h : repeatFrom p acc s c = some ⟨s', c', o⟩) :
    ∃ vs, o = .ok (acc.toList ++ vs) ∧ Repeats p s c vs s' c' := by
  fun_induction repeatFrom p acc s c with
  | case1 => cases h
  | case2 acc s c s₁ c₁ e hp =>
    cases h
    exact ⟨[], by rw [List.append_nil], .stop (.inl ⟨_, _, _, hp⟩)⟩
  | case3 acc s c s₁ v hp =>
    cases h
    exact ⟨[], by rw [List.append_nil], .stop (.inr ⟨_, _, hp⟩)⟩
  | case4 acc s c s₁ c₁ v hp _ ha ih =>
    obtain ⟨vs, rfl, hr⟩ := ih h
    refine ⟨v :: vs, ?_, .step hp ha hr⟩
    rw [Array.toList_push, List.append_assoc, List.singleton_append]
  | case5 => cases h

/-- What the loop answers, when it answers: the values gathered by one of its runs, after `acc`,
at the state and cursor where that run ends. -/
theorem repeatFrom_eq_some_iff {o : Except ParseError (List α)} :
    repeatFrom p acc s c = some ⟨s', c', o⟩ ↔
      ∃ vs, o = .ok (acc.toList ++ vs) ∧ Repeats p s c vs s' c' :=
  ⟨repeats_of_repeatFrom, fun ⟨_, ho, hr⟩ => ho ▸ repeatFrom_of_repeats hr acc⟩

theorem neverFails_repeatFrom (p : Parser σ α) (acc : Array α) :
    (⟨repeatFrom p acc⟩ : Parser σ (List α)).NeverFails := by
  intro s c s' c' e h
  obtain ⟨_, ho, -⟩ := repeats_of_repeatFrom h
  cases ho

theorem neverFails_many (p : Parser σ α) : (many p).NeverFails := neverFails_repeatFrom p #[]

theorem orElse_run_of_not_error (q : Parser σ α)
    (h : ∀ s' c' e, p.run s c ≠ some ⟨s', c', .error e⟩) : (orElse p q).run s c = p.run s c := by
  simp only [orElse]
  rcases hp : p.run s c with _ | ⟨s₁, c₁, e | w⟩
  · rfl
  · exact absurd hp (h s₁ c₁ e)
  · rfl

theorem bind_repeatFrom_equiv (p q : Parser σ α) :
    (p.bind fun v => ⟨repeatFrom q #[v]⟩).Equiv ((pair p (many q)).map fun r => r.1 :: r.2) :=
  calc p.bind (fun v => ⟨repeatFrom q #[v]⟩)
    Equiv _ (p.bind fun v => (many q).map ([v] ++ ·)) :=
      .bind (.refl p) fun v => repeatFrom_equiv_map_many q #[v]
    Equiv _ ((pair p (many q)).map fun r => r.1 :: r.2) := (pair_map_equiv_bind p (many q) _).symm

theorem many1_equiv_pair_many (p : Parser σ α) :
    (many1 p).Equiv ((pair p (many p)).map fun r => r.1 :: r.2) :=
  (many1_equiv_bind p).trans (bind_repeatFrom_equiv p p)

theorem many_run_eq_optional_many1 (s : σ) (c : Cursor)
    (hp : ∀ s' c' v, p.run s c = some ⟨s', c', .ok v⟩ → Advances c c') :
    (many p).run s c = (optional [] (many1 p)).run s c := by
  -- `many1` is the body's first pass and then the loop; split on that first pass
  have h1 := many1_equiv_bind p s c
  rw [bind_run] at h1
  show repeatFrom p #[] s c = _
  rcases h : p.run s c with _ | ⟨s₁, c₁, e | v⟩ <;> rw [h] at h1
  · rw [repeatFrom_of_none h, optional, orElse_run_of_not_error _ (by simp [h1])]
    exact h1.symm
  · -- `many` stops at once, and `optional` falls back to its default at the start
    rw [repeatFrom_of_error h]
    exact (optional_run_of_fails [] ⟨s₁, c₁, h1⟩).symm
  · -- the success moves forward, so `many` goes on with the loop that `many1` runs
    rw [repeatFrom_of_advances h (hp _ _ _ h), optional,
      orElse_run_of_not_error _ fun _ _ _ => h1 ▸ neverFails_repeatFrom p #[v] _ _ _ _ _]
    exact h1.symm

theorem many_equiv_optional_many1
    (hp : ∀ s c s' c' v, p.run s c = some ⟨s', c', .ok v⟩ → Advances c c') :
    (many p).Equiv (optional [] (many1 p)) :=
  fun s c => many_run_eq_optional_many1 s c (hp s c)

theorem many_run_eq_optional_many1_of_moves (hf : p.Forward) (hm : p.Moves) {c : Cursor}
    (hc : c.WellFormed) (s : σ) : (many p).run s c = (optional [] (many1 p)).run s c := by
  refine many_run_eq_optional_many1 s c fun s' c' v h => ?_
  have hfw := hf.stop hc h
  exact ⟨hfw.source, hm s c s' c' v hc h, hfw.le_len⟩

theorem many1_succeed (v : α) (s : σ) (c : Cursor) :
    (many1 (succeed v : Parser σ α)).run s c = some ⟨s, c, .ok [v]⟩ :=
  repeatFrom_of_stays rfl

/-- `many1` is its body followed by `many`; `many` is `many1` or else the empty list for a body
whose every success moves, which `many (succeed v)` shows is needed. -/
theorem many_many1_laws :
    (∀ p : Parser σ α, (many1 p).Equiv ((pair p (many p)).map fun r => r.1 :: r.2)) ∧
    (∀ p : Parser σ α, (∀ s c s' c' v, p.run s c = some ⟨s', c', .ok v⟩ → Advances c c') →
      (many p).Equiv (optional [] (many1 p))) ∧
    (∀ p : Parser σ α, p.Forward → p.Moves → ∀ (s : σ) (c : Cursor), c.WellFormed →
      (many p).run s c = (optional [] (many1 p)).run s c) ∧
    (∀ (v : α) (s : σ) (c : Cursor), (many (succeed v)).run s c = some ⟨s, c, .ok []⟩ ∧
      (many1 (succeed v)).run s c = some ⟨s, c, .ok [v]⟩) :=
  ⟨many1_equiv_pair_many, fun _ hp => many_equiv_optional_many1 hp,
    fun _ hf hm s _ hc => many_run_eq_optional_many1_of_moves hf hm hc s,
    fun v s c => ⟨many_succeed v s c, many1_succeed v s c⟩⟩

theorem anyChar_advances (s : σ) (c : Cursor) (s' : σ) (c' : Cursor) (ch : Char)
    (h : (anyChar : Parser σ Char).run s c = some ⟨s', c', .ok ch⟩) : Advances c c' := by
  simp only [anyChar] at h
  split at h
  · rename_i ch' hch
    cases h
    have hf := Cursor.fits_of_peek? hch
    rw [hf.advance_eq]
    exact ⟨rfl, Nat.lt_add_of_pos_right (Char.utf8Size_pos _), hf.le_len⟩
  · cases h

/-- `many anyChar` is `many1 anyChar` or else the empty list. -/
theorem many_anyChar_optional_many1 :
    (∀ (s : Unit) c s' c' ch, (anyChar : Parser Unit Char).run s c = some ⟨s', c', .ok ch⟩ →
      Advances c c') ∧
    (many (anyChar : Parser Unit Char)).Equiv (optional [] (many1 anyChar)) ∧
    (anyChar : Parser Unit Char).Forward ∧ (anyChar : Parser Unit Char).Moves ∧
    (many (anyChar : Parser Unit Char)).run () ⟨"ab", 0⟩ =
      (optional [] (many1 anyChar)).run () ⟨"ab", 0⟩ :=
  ⟨anyChar_advances, many_many1_laws.2.1 anyChar anyChar_advances, forward_anyChar, moves_anyChar,
    many_many1_laws.2.2.1 anyChar forward_anyChar moves_anyChar () ⟨"ab", 0⟩
      (show String.Pos.Raw.IsValid _ _ by decide)⟩

theorem Advances.len_eq (h : Advances c c') : c'.len = c.len := by simp only [Cursor.len, h.1]

theorem Advances.le_len (h : Advances c c') : c'.pos ≤ c'.len := h.len_eq ▸ h.2.2

theorem Repeats.length_add_le {vs : List α} (h : Repeats p s c vs s' c') :
    vs.length + c.pos ≤ c'.pos := by
  induction h with
  | stop => simp
  | step _ ha _ ih =>
    have := ha.2.1
    rw [List.length_cons]
    omega

theorem Repeats.pos_le_len {vs : List α} (h : Repeats p s c vs s' c') :
    c.pos ≤ c.len → c'.pos ≤ c.len := by
  induction h with
  | stop => exact id
  | step _ ha _ ih =>
    intro _
    rw [← ha.len_eq]
    exact ih ha.le_len

/-- From every cursor within its source `p` answers, and stops on the same source, not before
that cursor and not past the end, on success and on failure alike. -/
def Onward (p : Parser σ α) : Prop :=
  ∀ s c, c.pos ≤ c.len → ∃ r, p.run s c = some r ∧
    r.cursor.source = c.source ∧ c.pos ≤ r.cursor.pos ∧ r.cursor.pos ≤ c.len

theorem repeatFrom_answers (hp : p.Onward) (acc : Array α) (s : σ) (c : Cursor) :
    c.pos ≤ c.len → ∃ r, repeatFrom p acc s c = some r := by
  refine repeatFrom_answers_of_step (W := fun c => c.pos ≤ c.len) (fun s c hc => ?_) acc s c
  obtain ⟨r, hr, hs, hle, hlen⟩ := hp s c hc
  exact ⟨r, hr, (Cursor.eq_or_advances_of_le hs hle hlen).imp_right fun ha => ⟨ha, ha.le_len⟩⟩

/-- For an onward body the loop succeeds along a run of moving passes: at most one pass per byte
left plus the one that stalls, and `acc` only put in front of the values. -/
theorem repeatFrom_runs_moving_passes (hp : p.Onward) (acc : Array α) (s : σ) (c : Cursor)
    (hc : c.pos ≤ c.len) :
    (∃ vs s' c', repeatFrom p acc s c = some ⟨s', c', .ok (acc.toList ++ vs)⟩ ∧
      Repeats p s c vs s' c' ∧ vs.length + 1 ≤ c.len - c.pos + 1 ∧ vs.length ≤ c'.pos - c.pos) ∧
    repeatFrom p acc s c = ((many p).map (acc.toList ++ ·)).run s c := by
  obtain ⟨⟨s', c', o⟩, hr⟩ := repeatFrom_answers hp acc s c hc
  obtain ⟨vs, rfl, hrep⟩ := repeats_of_repeatFrom hr
  have hmoved := hrep.length_add_le
  have hend := hrep.pos_le_len hc
  exact ⟨⟨vs, s', c', hr, hrep, by omega, by omega⟩, repeatFrom_equiv_map_many p acc s c⟩

theorem onward_anyChar : (anyChar : Parser σ Char).Onward := by
  intro s c hc
  simp only [anyChar]
  split
  · rename_i ch hch
    have hf := Cursor.fits_of_peek? hch
    refine ⟨_, rfl, ?_⟩
    rw [hf.advance_eq]
    exact ⟨rfl, Nat.le_add_right _ _, hf.le_len⟩
  · exact ⟨_, rfl, rfl, Nat.le_refl _, hc⟩

/-- The loop over single characters from the start of `ab`, after the value `x`. -/
theorem anyChar_loop_passes :
    (anyChar : Parser Unit Char).Onward ∧ (⟨"ab", 0⟩ : Cursor).pos ≤ (⟨"ab", 0⟩ : Cursor).len ∧
    ((∃ vs s' c', repeatFrom anyChar #['x'] () ⟨"ab", 0⟩ = some ⟨s', c', .ok (['x'] ++ vs)⟩ ∧
        Repeats anyChar () ⟨"ab", 0⟩ vs s' c' ∧
        vs.length + 1 ≤ (⟨"ab", 0⟩ : Cursor).len - (⟨"ab", 0⟩ : Cursor).pos + 1 ∧
        vs.length ≤ c'.pos - (⟨"ab", 0⟩ : Cursor).pos) ∧
      repeatFrom anyChar #['x'] () ⟨"ab", 0⟩ = ((many anyChar).map (['x'] ++ ·)).run () ⟨"ab", 0⟩) :=
  ⟨onward_anyChar, Nat.zero_le _,
    repeatFrom_runs_moving_passes onward_anyChar #['x'] () ⟨"ab", 0⟩ (Nat.zero_le _)⟩

end Parser

end Descent
