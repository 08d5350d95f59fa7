import Mathlib.Data.List.Forall2
import Descent.Parser.Choice
import Descent.Parser.Separated
import Descent.Text.Primitive
/-! Backtracking leaves no trace of a failed attempt. Each combinator that may rewind returns one
of three places: where it started, where its successful attempt stopped, or, for look-ahead and
the lists' first item, where its attempt failed. A failed alternative contributes its messages
and nothing else: the state and cursor it reached are dropped, so a choice in which every
alternative fails stands at its starting state and cursor with the messages in order. -/

namespace Descent

def ParseError.concat (es : List ParseError) : ParseError := ⟨es.flatMap ParseError.messages⟩

namespace Parser

variable {σ α β : Type} {p q : Parser σ α} {s s' : σ} {c c' : Cursor} {v : α}

/-- `p` fails from `s` and `c` with the messages `e`, wherever it stopped. -/
def FailsWith (p : Parser σ α) (s : σ) (c : Cursor) (e : ParseError) : Prop :=
  ∃ s' c', p.run s c = some ⟨s', c', .error e⟩

theorem orElse_run_of_ok (hp : p.run s c = some ⟨s', c', .ok v⟩) :
    (orElse p q).run s c = some ⟨s', c', .ok v⟩ := by
  simp [orElse, hp]

theorem orElse_run_of_fails_ok {e : ParseError} (hp : p.FailsWith s c e)
    (hq : q.run s c = some ⟨s', c', .ok v⟩) : (orElse p q).run s c = some ⟨s', c', .ok v⟩ := by
  obtain ⟨s₁, c₁, hp⟩ := hp
  simp [orElse, hp, hq]

theorem orElse_run_of_fails {e₁ e₂ : ParseError} (hp : p.FailsWith s c e₁) (hq : q.FailsWith s c e₂) :
    (orElse p q).run s c = some ⟨s, c, .error (e₁.merge e₂)⟩ := by
  obtain ⟨s₁, c₁, hp⟩ := hp
  obtain ⟨s₂, c₂, hq⟩ := hq
  simp [orElse, hp, hq]

/-- Alternatives that all fail from the same place, each with its messages. -/
abbrev AllFail (ps : List (Parser σ α)) (s : σ) (c : Cursor) (es : List ParseError) : Prop :=
  List.Forall₂ (fun p e => p.FailsWith s c e) ps es

theorem choiceFrom_of_ok {pre post : List (Parser σ α)} {es : List ParseError}
    (hpre : AllFail pre s c es) (hp : p.run s c = some ⟨s', c', .ok v⟩) (err : ParseError) :
    choiceFrom err (pre ++ p :: post) s c = some ⟨s', c', .ok v⟩ := by
  induction hpre generalizing err with
  | nil => simp [choiceFrom, hp]
  | @cons q e qs es hq _ ih =>
    obtain ⟨s₁, c₁, hq⟩ := hq
    simp only [List.cons_append, choiceFrom, hq]
    exact ih (err.merge e)

theorem choiceFrom_of_fails {ps : List (Parser σ α)} {es : List ParseError} (h : AllFail ps s c es)
    (err : ParseError) :
    choiceFrom err ps s c = some ⟨s, c, .error (err.merge (ParseError.concat es))⟩ := by
  induction h generalizing err with
  | nil => simp [choiceFrom, ParseError.concat, ParseError.merge]
  | @cons q e qs es hq _ ih =>
    obtain ⟨s₁, c₁, hq⟩ := hq
    simp only [choiceFrom, hq]
    rw [ih (err.merge e)]
    simp [ParseError.concat, ParseError.merge]

theorem choice_run_of_ok {pre post : List (Parser σ α)} {es : List ParseError}
    (hpre : AllFail pre s c es) (hp : p.run s c = some ⟨s', c', .ok v⟩) :
    (choice (pre ++ p :: post)).run s c = some ⟨s', c', .ok v⟩ :=
  choiceFrom_of_ok hpre hp .empty

/-- When every alternative fails, the choice fails where it started with all their messages;
with no alternative at all it fails with none. -/
theorem choice_run_of_fails {ps : List (Parser σ α)} {es : List ParseError} (h : AllFail ps s c es) :
    (choice ps).run s c = some ⟨s, c, .error (ParseError.concat es)⟩ := by
  rw [choice, show (⟨choiceFrom .empty ps⟩ : Parser σ α).run s c = choiceFrom .empty ps s c from rfl,
    choiceFrom_of_fails h, ParseError.empty_merge]

theorem maybe_run_of_ok (hp : p.run s c = some ⟨s', c', .ok v⟩) :
    (maybe p).run s c = some ⟨s', c', .ok (some v)⟩ := by
  simp [maybe, hp]

theorem maybe_run_of_fails {e : ParseError} (hp : p.FailsWith s c e) :
    (maybe p).run s c = some ⟨s, c, .ok none⟩ := by
  obtain ⟨s₁, c₁, hp⟩ := hp
  simp [maybe, hp]

theorem optional_run_of_ok (d : α) (hp : p.run s c = some ⟨s', c', .ok v⟩) :
    (optional d p).run s c = some ⟨s', c', .ok v⟩ :=
  orElse_run_of_ok hp

theorem optional_run_of_fails (d : α) {e : ParseError} (hp : p.FailsWith s c e) :
    (optional d p).run s c = some ⟨s, c, .ok d⟩ :=
  orElse_run_of_fails_ok hp rfl

theorem notFollowedBy_run_of_ok (hp : p.run s c = some ⟨s', c', .ok v⟩) :
    (notFollowedBy p).run s c = some ⟨s, c, .error (.new "unexpected input")⟩ := by
  simp [notFollowedBy, hp]

theorem notFollowedBy_run_of_fails {e : ParseError} (hp : p.FailsWith s c e) :
    (notFollowedBy p).run s c = some ⟨s, c, .ok ()⟩ := by
  obtain ⟨s₁, c₁, hp⟩ := hp
  simp [notFollowedBy, hp]

theorem lookahead_run_of_ok (hp : p.run s c = some ⟨s', c', .ok v⟩) :
    (lookahead p).run s c = some ⟨s', c, .ok v⟩ := by
  simp [lookahead, hp]

theorem lookahead_run_of_error {e : ParseError} (hp : p.run s c = some ⟨s', c', .error e⟩) :
    (lookahead p).run s c = some ⟨s', c', .error e⟩ := by
  simp [lookahead, hp]

theorem separated_run_of_error (allowEmpty allowTrailing : Bool) (sep : Parser σ β) {e : ParseError}
    (hp : p.run s c = some ⟨s', c', .error e⟩) :
    (separated allowEmpty allowTrailing sep p).run s c =
      if allowEmpty then some ⟨s, c, .ok []⟩ else some ⟨s', c', .error e⟩ := by
  simp [separated, hp]

/-- A failed attempt leaves no trace: alternatives, `maybe`, `optional`, `notFollowedBy` and a
list's first item answer at the start or as the success stopped; look-ahead rewinds only the cursor. -/
theorem backtracking_leaves_no_trace :
    (∀ (σ α : Type) (p q : Parser σ α) (s s' : σ) (c c' : Cursor) (v : α) (e₁ e₂ : ParseError),
      (p.run s c = some ⟨s', c', .ok v⟩ → (orElse p q).run s c = some ⟨s', c', .ok v⟩) ∧
      (p.FailsWith s c e₁ → q.run s c = some ⟨s', c', .ok v⟩ →
        (orElse p q).run s c = some ⟨s', c', .ok v⟩) ∧
      (p.FailsWith s c e₁ → q.FailsWith s c e₂ →
        (orElse p q).run s c = some ⟨s, c, .error (e₁.merge e₂)⟩)) ∧
    (∀ (σ α : Type) (pre post : List (Parser σ α)) (p : Parser σ α) (s s' : σ) (c c' : Cursor)
        (v : α) (es : List ParseError), AllFail pre s c es → p.run s c = some ⟨s', c', .ok v⟩ →
      (choice (pre ++ p :: post)).run s c = some ⟨s', c', .ok v⟩) ∧
    (∀ (σ α : Type) (ps : List (Parser σ α)) (s : σ) (c : Cursor) (es : List ParseError),
      AllFail ps s c es → (choice ps).run s c = some ⟨s, c, .error (ParseError.concat es)⟩) ∧
    (∀ (σ α : Type) (p : Parser σ α) (d : α) (s s' : σ) (c c' : Cursor) (v : α) (e : ParseError),
      (p.run s c = some ⟨s', c', .ok v⟩ → (maybe p).run s c = some ⟨s', c', .ok (some v)⟩ ∧
        (optional d p).run s c = some ⟨s', c', .ok v⟩) ∧
      (p.FailsWith s c e → (maybe p).run s c = some ⟨s, c, .ok none⟩ ∧
        (optional d p).run s c = some ⟨s, c, .ok d⟩)) ∧
    (∀ (σ α : Type) (p : Parser σ α) (s s' : σ) (c c' : Cursor) (v : α) (e : ParseError),
      (p.run s c = some ⟨s', c', .ok v⟩ →
        (notFollowedBy p).run s c = some ⟨s, c, .error (.new "unexpected input")⟩) ∧
      (p.FailsWith s c e → (notFollowedBy p).run s c = some ⟨s, c, .ok ()⟩)) ∧
    (∀ (σ α : Type) (p : Parser σ α) (s s' : σ) (c c' : Cursor) (v : α) (e : ParseError),
      (p.run s c = some ⟨s', c', .ok v⟩ → (lookahead p).run s c = some ⟨s', c, .ok v⟩) ∧
      (p.run s c = some ⟨s', c', .error e⟩ → (lookahead p).run s c = some ⟨s', c', .error e⟩)) ∧
    (∀ (σ α β : Type) (sep : Parser σ β) (p : Parser σ α) (s s' : σ) (c c' : Cursor)
        (e : ParseError), p.run s c = some ⟨s', c', .error e⟩ →
      (sepBy sep p).run s c = some ⟨s, c, .ok []⟩ ∧ (sepEndBy sep p).run s c = some ⟨s, c, .ok []⟩ ∧
        (sepBy1 sep p).run s c = some ⟨s', c', .error e⟩ ∧
        (sepEndBy1 sep p).run s c = some ⟨s', c', .error e⟩) := by
  refine ⟨fun _ _ _ _ _ _ _ _ _ _ _ => ⟨orElse_run_of_ok, orElse_run_of_fails_ok, orElse_run_of_fails⟩,
    fun _ _ _ _ _ _ _ _ _ _ _ => choice_run_of_ok, fun _ _ _ _ _ _ => choice_run_of_fails, ?_, ?_, ?_, ?_⟩
  · intro σ α p d s s' c c' v e
    exact ⟨fun h => ⟨maybe_run_of_ok h, optional_run_of_ok d h⟩,
      fun h => ⟨maybe_run_of_fails h, optional_run_of_fails d h⟩⟩
  · intro σ α p s s' c c' v e
    exact ⟨notFollowedBy_run_of_ok, notFollowedBy_run_of_fails⟩
  · intro σ α p s s' c c' v e
    exact ⟨lookahead_run_of_ok, lookahead_run_of_error⟩
  · intro σ α β sep p s s' c c' e h
    exact ⟨separated_run_of_error true false sep h, separated_run_of_error true true sep h,
      separated_run_of_error false false sep h, separated_run_of_error false true sep h⟩

/-- An attempt that reads `a` and then fails leaves nothing behind when its alternative fails too. -/
theorem orElse_drops_moved_failure :
    (ignoreThen (literal "a") (fail "no b") : Parser Unit String).run () ⟨"ac", 0⟩ =
        some ⟨(), ⟨"ac", 1⟩, .error (.new "no b")⟩ ∧
      (orElse (ignoreThen (literal "a") (fail "no b")) (fail "no x") : Parser Unit String).run ()
        ⟨"ac", 0⟩ = some ⟨(), ⟨"ac", 0⟩, .error ((ParseError.new "no b").merge (.new "no x"))⟩ := by
  have hp : (ignoreThen (literal "a") (fail "no b") : Parser Unit String).run () ⟨"ac", 0⟩ =
      some ⟨(), ⟨"ac", 1⟩, .error (.new "no b")⟩ := rfl
  exact ⟨hp, (backtracking_leaves_no_trace.1 Unit String _ (fail "no x") () () ⟨"ac", 0⟩ ⟨"ac", 1⟩
    "" (.new "no b") (.new "no x")).2.2 ⟨_, _, hp⟩ ⟨_, _, rfl⟩⟩

end Parser

end Descent
