import Descent.Proofs.Repetition
/-! Items up to a terminator, step by step. Each step runs the terminator first, and its success
ends the loop with the terminator's own state and cursor and the items read so far; otherwise the
item parser runs from the same state and cursor, not from where the terminator stopped. An item
hands its state and cursor on, also when it did not move, and a failed item ends the loop with
the terminator's failure, its messages, state and cursor. `Until` names these runs, and the loop
answers exactly them: whatever it answers is one of its runs, and from a well-formed cursor a
forward item parser gets every run answered once the loop may stand still often enough. -/

namespace Descent

namespace Reply

variable {σ α : Type}

def prepend (pre : List α) (r : Reply σ (List α)) : Reply σ (List α) :=
  ⟨r.state, r.cursor, r.outcome.map (pre ++ ·)⟩

@[simp] theorem prepend_nil (r : Reply σ (List α)) : r.prepend [] = r := by
  obtain ⟨s, c, o | o⟩ := r <;> rfl

@[simp] theorem prepend_ok (pre : List α) (s : σ) (c : Cursor) (l : List α) :
    prepend pre ⟨s, c, .ok l⟩ = ⟨s, c, .ok (pre ++ l)⟩ := rfl

theorem prepend_prepend (pre pre' : List α) (r : Reply σ (List α)) :
    (r.prepend pre').prepend pre = r.prepend (pre ++ pre') := by
  obtain ⟨s, c, o | o⟩ := r
  · rfl
  · simp only [prepend, Except.map, List.append_assoc]

end Reply

namespace Parser

variable {σ α β : Type} {p : Parser σ α} {t : Parser σ β} {stall : Nat} {acc : Array α}
  {s s₁ s₂ : σ} {c c₁ c₂ : Cursor}

/-- The runs of the loop of `p` up to `t`: the terminator first, then the item from the same place;
a failed item ends the run with the terminator's failure, state and cursor. -/
inductive Until (p : Parser σ α) (t : Parser σ β) : σ → Cursor → Reply σ (List α) → Prop
  | done {s₀ s₁ : σ} {c₀ c₁ : Cursor} {w : β} :
      t.run s₀ c₀ = some ⟨s₁, c₁, .ok w⟩ → Until p t s₀ c₀ ⟨s₁, c₁, .ok []⟩
  | fail {s₀ s₁ s₂ : σ} {c₀ c₁ c₂ : Cursor} {e e₂ : ParseError} :
      t.run s₀ c₀ = some ⟨s₁, c₁, .error e⟩ → p.run s₀ c₀ = some ⟨s₂, c₂, .error e₂⟩ →
      Until p t s₀ c₀ ⟨s₁, c₁, .error e⟩
  | item {s₀ s₁ s₂ : σ} {c₀ c₁ c₂ : Cursor} {e : ParseError} {v : α} {r : Reply σ (List α)} :
      t.run s₀ c₀ = some ⟨s₁, c₁, .error e⟩ → p.run s₀ c₀ = some ⟨s₂, c₂, .ok v⟩ →
      Until p t s₂ c₂ r → Until p t s₀ c₀ (r.prepend [v])

theorem manyUntilFrom_of_done {w : β} (ht : t.run s c = some ⟨s₁, c₁, .ok w⟩) :
    manyUntilFrom p t stall acc s c = some ⟨s₁, c₁, .ok acc.toList⟩ := by
  rw [manyUntilFrom]
  simp only [ht]

theorem manyUntilFrom_of_fail {e e₂ : ParseError} (ht : t.run s c = some ⟨s₁, c₁, .error e⟩)
    (hp : p.run s c = some ⟨s₂, c₂, .error e₂⟩) :
    manyUntilFrom p t stall acc s c = some ⟨s₁, c₁, .error e⟩ := by
  rw [manyUntilFrom]
  simp only [ht, hp]

theorem manyUntilFrom_of_advances {e : ParseError} {v : α}
    (ht : t.run s c = some ⟨s₁, c₁, .error e⟩) (hp : p.run s c = some ⟨s₂, c₂, .ok v⟩)
    (ha : Advances c c₂) :
    manyUntilFrom p t stall acc s c = manyUntilFrom p t stall (acc.push v) s₂ c₂ := by
  rw [manyUntilFrom]
  simp only [ht, hp, dif_pos ha]

theorem manyUntilFrom_of_stays {e : ParseError} {v : α} (k : Nat)
    (ht : t.run s c = some ⟨s₁, c₁, .error e⟩) (hp : p.run s c = some ⟨s₂, c, .ok v⟩) :
    manyUntilFrom p t (k + 1) acc s c = manyUntilFrom p t k (acc.push v) s₂ c := by
  rw [manyUntilFrom]
  simp only [ht, hp]
  rw [dif_neg (fun ha : Advances c c => ha.ne rfl)]
  exact dif_pos trivial

theorem until_of_manyUntilFrom {r : Reply σ (List α)}
    (h : manyUntilFrom p t stall acc s c = some r) :
    ∃ r₀, Until p t s c r₀ ∧ r = r₀.prepend acc.toList := by
  fun_induction manyUntilFrom p t stall acc s c with
  | case1 => cases h
  | case2 stall acc s c s₁ c₁ w ht =>
    cases h
    exact ⟨_, .done ht, by rw [Reply.prepend_ok, List.append_nil]⟩
  | case3 => cases h
  | case4 stall acc s c s₁ c₁ e ht s₂ c₂ e₂ hp =>
    cases h
    exact ⟨_, .fail ht hp, rfl⟩
  | case5 stall acc s c s₁ c₁ e ht s₂ c₂ v hp _ ih =>
    obtain ⟨r₀, hr₀, rfl⟩ := ih h
    refine ⟨r₀.prepend [v], .item ht hp hr₀, ?_⟩
    rw [Reply.prepend_prepend, Array.toList_push]
  | case6 => cases h
  | case7 acc s s₁ c₁ e s₂ c v k ht hp _ ih =>
    obtain ⟨r₀, hr₀, rfl⟩ := ih h
    refine ⟨r₀.prepend [v], .item ht hp hr₀, ?_⟩
    rw [Reply.prepend_prepend, Array.toList_push]
  | case8 => cases h

/-- A run of a forward item parser from a well-formed cursor is what the loop answers, after any
items, as soon as it may stand still as often as the run does. -/
theorem manyUntilFrom_of_until (hp : p.Forward) {r : Reply σ (List α)} (h : Until p t s c r)
    (hc : c.WellFormed) :
    ∃ k, ∀ stall, k ≤ stall → ∀ acc, manyUntilFrom p t stall acc s c = some (r.prepend acc.toList) := by
  induction h with
  | done ht =>
    refine ⟨0, fun _ _ acc => ?_⟩
    rw [manyUntilFrom_of_done ht, Reply.prepend_ok, List.append_nil]
  | fail ht hpf => exact ⟨0, fun _ _ _ => manyUntilFrom_of_fail ht hpf⟩
  | @item s₀ _ s₂ c₀ _ c₂ _ v r ht hpv _ ih =>
    have hf := hp.stop hc hpv
    obtain ⟨k, hk⟩ := ih hf.wf
    -- an item moves forward or stands still; only the second spends a standing step
    rcases hf.eq_or_advances with rfl | ha
    · refine ⟨k + 1, fun stall hs acc => ?_⟩
      obtain ⟨j, rfl⟩ : ∃ j, stall = j + 1 := ⟨stall - 1, by omega⟩
      rw [manyUntilFrom_of_stays j ht hpv, hk j (by omega), Reply.prepend_prepend, Array.toList_push]
    · refine ⟨k, fun stall hs acc => ?_⟩
      rw [manyUntilFrom_of_advances ht hpv ha, hk stall hs, Reply.prepend_prepend, Array.toList_push]

/-- The loop of items up to a terminator answers exactly its `Until` runs: every answer is a run,
and for a forward item parser every run is answered once the loop may stand still often enough. -/
theorem manyUntil_runs_terminator_first (p : Parser σ α) (t : Parser σ β) :
    (∀ stall s c r, (manyUntil stall p t).run s c = some r → Until p t s c r) ∧
    (p.Forward → ∀ s c r, c.WellFormed → Until p t s c r →
      ∃ k, ∀ stall, k ≤ stall → (manyUntil stall p t).run s c = some r) := by
  refine ⟨fun stall s c r h => ?_, fun hp s c r hc hr => ?_⟩
  · obtain ⟨r₀, hr₀, rfl⟩ := until_of_manyUntilFrom h
    rwa [Array.toList_empty, Reply.prepend_nil]
  · obtain ⟨k, hk⟩ := manyUntilFrom_of_until hp hr hc
    refine ⟨k, fun stall hs => ?_⟩
    have := hk stall hs #[]
    rwa [Array.toList_empty, Reply.prepend_nil] at this

/-- On `aab;` the item that fails on `b` ends the loop with the terminator's failure. -/
theorem manyUntil_reports_terminator_failure :
    Until (literal "a") (literal ";") () ⟨"aab;", 0⟩
        ⟨(), ⟨"aab;", 2⟩, .error (.new ("expected " ++ Quoted.quote ";"))⟩ ∧
      ∃ k, ∀ stall, k ≤ stall →
        (manyUntil stall (literal "a") (literal ";") : Parser Unit (List String)).run () ⟨"aab;", 0⟩ =
          some ⟨(), ⟨"aab;", 2⟩, .error (.new ("expected " ++ Quoted.quote ";"))⟩ := by
  have h₂ : Until (literal "a") (literal ";") () ⟨"aab;", 2⟩
      ⟨(), ⟨"aab;", 2⟩, .error (.new ("expected " ++ Quoted.quote ";"))⟩ := .fail rfl rfl
  have h₁ : Until (literal "a") (literal ";") () ⟨"aab;", 1⟩ _ := .item rfl rfl h₂
  have hr : Until (literal "a") (literal ";") () ⟨"aab;", 0⟩
      ⟨(), ⟨"aab;", 2⟩, .error (.new ("expected " ++ Quoted.quote ";"))⟩ := .item rfl rfl h₁
  exact ⟨hr, (manyUntil_runs_terminator_first _ _).2 (forward_literal "a") () _ _
    (show String.Pos.Raw.IsValid _ _ by decide) hr⟩

end Parser

end Descent
