import Descent.Proofs.Boundary
import Descent.Proofs.Sequencing
import Descent.Parser.Choice
import Descent.Parser.Separated
import Descent.Parser.Until
import Descent.Parser.State
/-! Parsers move cursors forward. From a well-formed cursor every combinator stops on the same
source, not before where it started and at a character boundary, on success and on failure
alike. Each combinator keeps this when its parts do: sequencing chains the steps, alternatives
and look-ahead return a cursor of one of their attempts or the starting one, and loops chain
one pass after another. The text primitives are where cursors move, and each moves by a length
that ends on a boundary inside the source, so `advance` never has to clamp. -/

namespace Descent

namespace Cursor

variable {c c' : Cursor} {n : Nat}

theorem WellFormed.pos_le_len (h : c.WellFormed) : c.pos ≤ c.len := h.le_utf8ByteSize

/-- The text after a well-formed cursor is cut at a character boundary. -/
theorem WellFormed.remaining? (h : c.WellFormed) : c.remaining? = some c.rest := by
  simp [Cursor.remaining?, onBoundary, String.Pos.Raw.isValid_eq_true_iff.2 h]

/-- Where a parser started at `c` may stop: on the same source, not before `c`, and at a
character boundary, hence not past the end. -/
structure Forward (c c' : Cursor) : Prop where
  source : c'.source = c.source
  le : c.pos ≤ c'.pos
  wf : c'.WellFormed

theorem Forward.refl (h : c.WellFormed) : c.Forward c := ⟨rfl, Nat.le_refl _, h⟩

theorem Forward.trans {a b c : Cursor} (h₁ : a.Forward b) (h₂ : b.Forward c) : a.Forward c :=
  ⟨h₂.source.trans h₁.source, Nat.le_trans h₁.le h₂.le, h₂.wf⟩

theorem Forward.len_eq (h : c.Forward c') : c'.len = c.len := by simp only [len, h.source]

theorem Forward.le_len (h : c.Forward c') : c'.pos ≤ c.len := h.len_eq ▸ h.wf.pos_le_len

/-- A cursor on the same source, not before `c` and not past its end, is `c` itself or strictly
further on: what the loops compare. -/
theorem eq_or_advances_of_le (hs : c'.source = c.source) (hle : c.pos ≤ c'.pos)
    (hlen : c'.pos ≤ c.len) : c' = c ∨ Parser.Advances c c' := by
  by_cases hp : c'.pos = c.pos
  · left
    obtain ⟨src, pos⟩ := c
    obtain ⟨src', pos'⟩ := c'
    simp only at hs hp
    rw [hs, hp]
  · exact Or.inr ⟨hs, by omega, hlen⟩

theorem Forward.eq_or_advances (h : c.Forward c') : c' = c ∨ Parser.Advances c c' :=
  eq_or_advances_of_le h.source h.le h.le_len

/-- Moving `n` bytes on from `c` lands on a character boundary of the source. -/
def Fits (c : Cursor) (n : Nat) : Prop := WellFormed ⟨c.source, c.pos + n⟩

theorem Fits.le_len (h : c.Fits n) : c.pos + n ≤ c.len := WellFormed.pos_le_len h

/-- A move that fits is not clamped. -/
theorem Fits.advance_eq (h : c.Fits n) : c.advance n = ⟨c.source, c.pos + n⟩ := by
  simp only [advance, Nat.min_eq_left h.le_len]

theorem Fits.forward (h : c.Fits n) : c.Forward (c.advance n) := by
  rw [h.advance_eq]
  exact ⟨rfl, Nat.le_add_right _ _, h⟩

/-- A literal found at a well-formed cursor ends on a boundary. -/
theorem fits_of_startsWith {t : String} (hc : c.WellFormed) (h : c.startsWith t = true) :
    c.Fits t.utf8ByteSize := by
  have := isValid_of_occursAt t.toList c.pos h hc
  rwa [utf8Len_toList] at this

/-- The character at a cursor ends on a boundary. -/
theorem fits_of_peek? {ch : Char} (h : c.peek? = some ch) : c.Fits ch.utf8Size :=
  isValid_add_of_get? h

/-- A length a matcher reports, once checked to end on a boundary. -/
theorem fits_of_isValid {k : Nat} (h : String.Pos.Raw.isValid c.source ⟨c.pos + k⟩ = true) :
    c.Fits k :=
  String.Pos.Raw.isValid_eq_true_iff.1 h

/-- The run of characters from a well-formed cursor ends on a boundary. -/
theorem fits_runEnd (hc : c.WellFormed) (pred : Char → Bool) :
    c.Fits (Parser.runEnd c.source pred c.pos - c.pos) := by
  obtain ⟨hle, hv⟩ := runEnd_spec c.source pred c.pos hc
  unfold Fits
  rwa [Nat.add_sub_cancel' hle]

end Cursor

namespace Parser

variable {σ α β γ : Type}

/-- From a well-formed cursor every reply of `p` stops forward of it. -/
def Forward (p : Parser σ α) : Prop :=
  ∀ s c r, c.WellFormed → p.run s c = some r → c.Forward r.cursor

/-- Where a reply of a forward parser stops. -/
theorem Forward.stop {p : Parser σ α} (hp : p.Forward) {s s' : σ} {c c' : Cursor}
    {o : Except ParseError α} (hc : c.WellFormed) (h : p.run s c = some ⟨s', c', o⟩) :
    c.Forward c' :=
  hp s c _ hc h

theorem Forward.of_equiv {p q : Parser σ α} (hp : p.Forward) (h : p.Equiv q) : q.Forward :=
  fun s c r hc hq => hp s c r hc ((h s c).trans hq)

/-- A reply at the starting cursor, as parsers that consume nothing give. -/
theorem Forward.of_stays {p : Parser σ α} (h : ∀ s c r, p.run s c = some r → r.cursor = c) :
    p.Forward :=
  fun s c r hc hr => by rw [h s c r hr]; exact .refl hc

theorem forward_succeed (v : α) : (succeed v : Parser σ α).Forward :=
  .of_stays fun _ _ _ h => by cases h; rfl

theorem forward_failWith (e : ParseError) : (failWith e : Parser σ α).Forward :=
  .of_stays fun _ _ _ h => by cases h; rfl

theorem forward_fail (m : String) : (fail m : Parser σ α).Forward := forward_failWith _

theorem Forward.bind {p : Parser σ α} {f : α → Parser σ β} (hp : p.Forward)
    (hf : ∀ v, (f v).Forward) : (p.bind f).Forward := by
  intro s c r hc h
  rw [bind_run] at h
  rcases hr : p.run s c with _ | ⟨s₁, c₁, e | v⟩ <;> simp only [hr] at h
  · cases h
  · cases h
    exact hp.stop hc hr
  · -- the continuation starts where `p` stopped, which is well formed again
    have h₁ := hp.stop hc hr
    exact h₁.trans (hf v s₁ c₁ r h₁.wf h)

theorem Forward.map {p : Parser σ α} (hp : p.Forward) (f : α → β) : (p.map f).Forward :=
  (hp.bind fun v => forward_succeed (f v)).of_equiv (map_equiv_bind p f).symm

theorem Forward.skip {p : Parser σ α} (hp : p.Forward) : p.skip.Forward := hp.map _

theorem Forward.mapErr {p : Parser σ α} (hp : p.Forward) (f : ParseError → ParseError) :
    (p.mapErr f).Forward := by
  intro s c r hc h
  simp only [Parser.mapErr] at h
  rcases hr : p.run s c with _ | ⟨s₁, c₁, e | v⟩ <;> simp only [hr] at h
  · cases h
  · cases h
    exact hp.stop hc hr
  · cases h
    exact hp.stop hc hr

theorem Forward.label {p : Parser σ α} (hp : p.Forward) (m : String) : (label m p).Forward :=
  hp.mapErr _

theorem Forward.pair {p : Parser σ α} {q : Parser σ β} (hp : p.Forward) (hq : q.Forward) :
    (pair p q).Forward :=
  (hp.bind fun _ => hq.map _).of_equiv (pair_equiv_bind p q).symm

theorem Forward.thenIgnore {p : Parser σ α} {q : Parser σ β} (hp : p.Forward) (hq : q.Forward) :
    (thenIgnore p q).Forward :=
  (hp.bind fun _ => hq.map _).of_equiv (thenIgnore_equiv_bind p q).symm

theorem Forward.ignoreThen {p : Parser σ α} {q : Parser σ β} (hp : p.Forward) (hq : q.Forward) :
    (ignoreThen p q).Forward :=
  (hp.bind fun _ => hq).of_equiv (ignoreThen_equiv_bind p q).symm

theorem Forward.between {o : Parser σ β} {cl : Parser σ γ} {p : Parser σ α} (ho : o.Forward)
    (hc : cl.Forward) (hp : p.Forward) : (between o cl p).Forward :=
  ((ho.ignoreThen hp).thenIgnore hc).of_equiv (between_equiv o cl p).symm

theorem Forward.apply {f : Parser σ (α → β)} {p : Parser σ α} (hf : f.Forward) (hp : p.Forward) :
    (apply f p).Forward :=
  (hf.bind fun _ => hp.map _).of_equiv (apply_equiv_bind f p).symm

theorem Forward.orElse {p q : Parser σ α} (hp : p.Forward) (hq : q.Forward) :
    (orElse p q).Forward := by
  intro s c r hc h
  simp only [Parser.orElse] at h
  rcases hr : p.run s c with _ | ⟨s₁, c₁, e₁ | v⟩ <;> simp only [hr] at h
  · cases h
  · -- the second attempt starts from the same place, and a double failure stays there
    rcases hr₂ : q.run s c with _ | ⟨s₂, c₂, e₂ | v⟩ <;> simp only [hr₂] at h
    · cases h
    · cases h
      exact .refl hc
    · cases h
      exact hq.stop hc hr₂
  · cases h
    exact hp.stop hc hr

theorem Forward.choiceFrom {ps : List (Parser σ α)} (hps : ∀ p ∈ ps, p.Forward) (err : ParseError) :
    (⟨choiceFrom err ps⟩ : Parser σ α).Forward := by
  induction ps generalizing err with
  | nil => exact .of_stays fun _ _ _ h => by cases h; rfl
  | cons p ps ih =>
    intro s c r hc h
    change Parser.choiceFrom err (p :: ps) s c = some r at h
    simp only [Parser.choiceFrom] at h
    rcases hr : p.run s c with _ | ⟨s₁, c₁, e | v⟩ <;> simp only [hr] at h
    · cases h
    · exact ih (fun q hq => hps q (List.mem_cons_of_mem p hq)) (err.merge e) s c r hc h
    · cases h
      exact (hps p List.mem_cons_self).stop hc hr

theorem Forward.choice {ps : List (Parser σ α)} (hps : ∀ p ∈ ps, p.Forward) : (choice ps).Forward :=
  Forward.choiceFrom hps .empty

theorem Forward.maybe {p : Parser σ α} (hp : p.Forward) : (maybe p).Forward := by
  intro s c r hc h
  simp only [Parser.maybe] at h
  rcases hr : p.run s c with _ | ⟨s₁, c₁, e | v⟩ <;> simp only [hr] at h
  · cases h
  · cases h
    exact .refl hc
  · cases h
    exact hp.stop hc hr

theorem Forward.optional {p : Parser σ α} (hp : p.Forward) (d : α) : (optional d p).Forward :=
  hp.orElse (forward_succeed d)

theorem Forward.lookahead {p : Parser σ α} (hp : p.Forward) : (lookahead p).Forward := by
  intro s c r hc h
  simp only [Parser.lookahead] at h
  rcases hr : p.run s c with _ | ⟨s₁, c₁, e | v⟩ <;> simp only [hr] at h
  · cases h
  · cases h
    exact hp.stop hc hr
  · cases h
    exact .refl hc

theorem forward_notFollowedBy (p : Parser σ α) : (notFollowedBy p).Forward := by
  refine .of_stays fun s c r h => ?_
  simp only [Parser.notFollowedBy] at h
  rcases hr : p.run s c with _ | ⟨s₁, c₁, e | v⟩ <;> simp only [hr] at h <;> cases h <;> rfl

/-- Each pass of the loop starts where the last one stopped, so the passes chain. -/
theorem Forward.repeatFrom {p : Parser σ α} (hp : p.Forward) (acc : Array α) :
    (⟨repeatFrom p acc⟩ : Parser σ (List α)).Forward := by
  intro s c r
  show c.WellFormed → Parser.repeatFrom p acc s c = some r → c.Forward r.cursor
  fun_induction Parser.repeatFrom p acc s c with
  | case1 => intro _ h; cases h
  | case2 => intro hc h; cases h; exact .refl hc
  | case3 => intro hc h; cases h; exact .refl hc
  | case4 acc s c s' c' v hrun _ _ ih =>
    intro hc h
    have h₁ := hp.stop hc hrun
    exact h₁.trans (ih h₁.wf h)
  | case5 => intro _ h; cases h

theorem Forward.many {p : Parser σ α} (hp : p.Forward) : (many p).Forward := hp.repeatFrom #[]

theorem Forward.many1 {p : Parser σ α} (hp : p.Forward) : (many1 p).Forward :=
  (hp.bind fun v => hp.repeatFrom #[v]).of_equiv (many1_equiv_bind p).symm

theorem Forward.skipMany {p : Parser σ α} (hp : p.Forward) : (skipMany p).Forward := hp.many.skip

theorem Forward.skipMany1 {p : Parser σ α} (hp : p.Forward) : (skipMany1 p).Forward := hp.many1.skip

theorem Forward.sequenceFrom {ps : List (Parser σ α)} (hps : ∀ p ∈ ps, p.Forward) (acc : Array α) :
    (⟨sequenceFrom ps acc⟩ : Parser σ (List α)).Forward := by
  induction ps generalizing acc with
  | nil => exact .of_stays fun _ _ _ h => by cases h; rfl
  | cons p ps ih =>
    have hrest := ih fun q hq => hps q (List.mem_cons_of_mem p hq)
    exact ((hps p List.mem_cons_self).bind fun v => hrest (acc.push v)).of_equiv
      (sequenceFrom_cons_equiv p ps acc).symm

theorem Forward.sequence {ps : List (Parser σ α)} (hps : ∀ p ∈ ps, p.Forward) :
    (sequence ps).Forward :=
  Forward.sequenceFrom hps #[]

theorem Forward.countFrom {p : Parser σ α} (hp : p.Forward) (n : Nat) (acc : Array α) :
    (⟨countFrom p n acc⟩ : Parser σ (List α)).Forward := by
  induction n generalizing acc with
  | zero => exact .of_stays fun _ _ _ h => by cases h; rfl
  | succ n ih =>
    exact (hp.bind fun v => ih (acc.push v)).of_equiv (countFrom_succ_equiv p n acc).symm

theorem Forward.count {p : Parser σ α} (hp : p.Forward) (n : Nat) : (count n p).Forward :=
  hp.countFrom n #[]

theorem Forward.separated {sep : Parser σ β} {p : Parser σ α} (hs : sep.Forward) (hp : p.Forward)
    (allowEmpty allowTrailing : Bool) : (separated allowEmpty allowTrailing sep p).Forward := by
  intro s c r hc h
  simp only [Parser.separated] at h
  rcases hr : p.run s c with _ | ⟨s₁, c₁, e | v⟩ <;> simp only [hr] at h
  · cases h
  · -- a missing first item: the item's failure, or the empty list where the list started
    cases allowEmpty <;> simp only [if_true, Bool.false_eq_true, if_false] at h <;> cases h
    · exact hp.stop hc hr
    · exact .refl hc
  · have h₁ := hp.stop hc hr
    rcases hl : Parser.repeatFrom (Parser.ignoreThen sep p) #[v] s₁ c₁ with _ | list <;>
      simp only [hl] at h
    · cases h
    · have h₂ := h₁.trans ((hs.ignoreThen hp).repeatFrom #[v] s₁ c₁ list h₁.wf hl)
      cases allowTrailing <;> simp only [if_true, Bool.false_eq_true, if_false] at h
      · cases h
        exact h₂
      · rcases ht : sep.run list.state list.cursor with _ | ⟨s₂, c₂, e₂ | _⟩ <;> simp only [ht] at h
        · cases h
        · cases h
          exact h₂
        · cases h
          exact h₂.trans (hs.stop h₂.wf ht)

theorem Forward.operands {op : Parser σ β} {p : Parser σ α} (hop : op.Forward) (hp : p.Forward) :
    (operands op p).Forward := by
  intro s c r hc h
  simp only [Parser.operands] at h
  rcases hr : p.run s c with _ | ⟨s₁, c₁, e | a⟩ <;> simp only [hr] at h
  · cases h
  · cases h
    exact hp.stop hc hr
  · have h₁ := hp.stop hc hr
    have hl := (hop.pair hp).repeatFrom #[]
    rcases hrest : Parser.repeatFrom (Parser.pair op p) #[] s₁ c₁ with _ | ⟨s₂, c₂, e | rest⟩ <;>
      simp only [hrest] at h
    · cases h
    · cases h
      exact h₁.trans (hl.stop h₁.wf hrest)
    · cases h
      exact h₁.trans (hl.stop h₁.wf hrest)

theorem Forward.chainLeft {op : Parser σ (α → α → α)} {p : Parser σ α} (hop : op.Forward)
    (hp : p.Forward) : (chainLeft op p).Forward :=
  (hop.operands hp).map _

theorem Forward.chainRight {op : Parser σ (α → α → α)} {p : Parser σ α} (hop : op.Forward)
    (hp : p.Forward) : (chainRight op p).Forward :=
  (hop.operands hp).map _

/-- A standing step restarts from the same cursor, a moving one from further on. -/
theorem Forward.manyUntilFrom {p : Parser σ α} {t : Parser σ β} (hp : p.Forward) (ht : t.Forward)
    (stall : Nat) (acc : Array α) : (⟨manyUntilFrom p t stall acc⟩ : Parser σ (List α)).Forward := by
  intro s c r
  show c.WellFormed → Parser.manyUntilFrom p t stall acc s c = some r → c.Forward r.cursor
  fun_induction Parser.manyUntilFrom p t stall acc s c with
  | case1 => intro _ h; cases h
  | case2 stall acc s c s₁ c₁ v htr => intro hc h; cases h; exact ht.stop hc htr
  | case3 => intro _ h; cases h
  | case4 stall acc s c s₁ c₁ e htr => intro hc h; cases h; exact ht.stop hc htr
  | case5 stall acc s c s₁ c₁ e htr s' c' v hpr _ ih =>
    intro hc h
    have h₁ := hp.stop hc hpr
    exact h₁.trans (ih h₁.wf h)
  | case6 => intro _ h; cases h
  | case7 acc s s₁ c₁ e s' c' v k htr hpr _ ih => intro hc h; exact ih hc h
  | case8 => intro _ h; cases h

theorem Forward.manyUntil {p : Parser σ α} {t : Parser σ β} (hp : p.Forward) (ht : t.Forward)
    (stall : Nat) : (manyUntil stall p t).Forward :=
  hp.manyUntilFrom ht stall #[]

theorem forward_getState : (getState : Parser σ σ).Forward :=
  .of_stays fun _ _ _ h => by cases h; rfl

theorem forward_putState (v : σ) : (putState v).Forward :=
  .of_stays fun _ _ _ h => by cases h; rfl

theorem forward_modifyState (f : σ → σ) : (modifyState f).Forward :=
  .of_stays fun _ _ _ h => by cases h; rfl

theorem Forward.withState {f : σ → Parser σ α} (hf : ∀ s, (f s).Forward) : (withState f).Forward :=
  fun s c r hc h => hf s s c r hc h

theorem Forward.withLocation {f : Location → Parser σ α} (hf : ∀ l, (f l).Forward) :
    (withLocation f).Forward :=
  fun s c r hc h => hf c.locate s c r hc h

theorem Forward.spanned {p : Parser σ α} (hp : p.Forward) : (spanned p).Forward := by
  intro s c r hc h
  simp only [Parser.spanned] at h
  rcases hr : p.run s c with _ | ⟨s₁, c₁, e | v⟩ <;> simp only [hr] at h
  · cases h
  · cases h
    exact hp.stop hc hr
  · cases h
    exact hp.stop hc hr

theorem forward_literal (t : String) : (literal t : Parser σ String).Forward := by
  intro s c r hc h
  simp only [Parser.literal] at h
  split at h
  · rename_i hs
    cases h
    exact (Cursor.fits_of_startsWith hc hs).forward
  · cases h
    exact .refl hc

theorem forward_patternWith (m : Matcher) : (patternWith m : Parser σ String).Forward := by
  intro s c r hc h
  simp only [Parser.patternWith] at h
  split at h
  · split at h
    · rename_i hv
      cases h
      exact (Cursor.fits_of_isValid hv).forward
    · cases h
      exact .refl hc
  · cases h
    exact .refl hc

theorem forward_satisfy (pred : Char → Bool) (desc : String) :
    (satisfy pred desc : Parser σ Char).Forward := by
  intro s c r hc h
  simp only [Parser.satisfy] at h
  split at h
  · rename_i ch hch
    split at h
    · cases h
      exact (Cursor.fits_of_peek? hch).forward
    · cases h
      exact .refl hc
  · cases h
    exact .refl hc

theorem forward_anyChar : (anyChar : Parser σ Char).Forward := by
  intro s c r hc h
  simp only [Parser.anyChar] at h
  split at h
  · rename_i ch hch
    cases h
    exact (Cursor.fits_of_peek? hch).forward
  · cases h
    exact .refl hc

theorem forward_takeWhile (pred : Char → Bool) : (takeWhile pred : Parser σ String).Forward := by
  intro s c r hc h
  cases h
  exact (Cursor.fits_runEnd hc pred).forward

theorem forward_whitespace : (whitespace : Parser σ String).Forward := forward_takeWhile _

theorem Forward.lexeme {p : Parser σ α} (hp : p.Forward) : (lexeme p).Forward :=
  hp.thenIgnore forward_whitespace

theorem forward_endOfInput : (endOfInput : Parser σ Unit).Forward := by
  refine .of_stays fun s c r h => ?_
  simp only [Parser.endOfInput] at h
  split at h <;> cases h <;> rfl

end Parser

end Descent
