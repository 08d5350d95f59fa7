import Descent.Proofs.WellFormed
/-! Parsing halts. A parser halts when it answers from every well-formed cursor. Combinators
halt when their parts do; since every part moves forward, each part runs from a well-formed
cursor again. The repetition loop halts for every body, also one that succeeds without moving:
a pass either ends the loop or moves the cursor strictly forward inside its source, and the loop
is well founded on the bytes left. `manyUntil` has no such guard, so its body must move the
cursor whenever it succeeds. Rule references are the other way not to halt, so a grammar halts
when it refers to no rule and every `manyUntil` body in it moves. -/

namespace Descent

namespace Parser

variable {σ α β γ : Type}

/-- From every well-formed cursor `p` gives an answer. -/
def Halts (p : Parser σ α) : Prop := ∀ s c, c.WellFormed → ∃ r, p.run s c = some r

/-- Every success of `p` from a well-formed cursor moves it. -/
def Moves (p : Parser σ α) : Prop :=
  ∀ s c s' c' v, c.WellFormed → p.run s c = some ⟨s', c', .ok v⟩ → c.pos < c'.pos

theorem Halts.of_equiv {p q : Parser σ α} (hp : p.Halts) (h : p.Equiv q) : q.Halts := by
  intro s c hc
  obtain ⟨r, hr⟩ := hp s c hc
  exact ⟨r, (h s c).symm.trans hr⟩

/-- A parser that answers in one step, whatever it is given. -/
theorem Halts.of_some {p : Parser σ α} (h : ∀ s c, ∃ r, p.run s c = some r) : p.Halts :=
  fun s c _ => h s c

theorem halts_succeed (v : α) : (succeed v : Parser σ α).Halts := .of_some fun _ _ => ⟨_, rfl⟩

theorem halts_fail (m : String) : (fail m : Parser σ α).Halts := .of_some fun _ _ => ⟨_, rfl⟩

theorem Halts.bind {p : Parser σ α} {f : α → Parser σ β} (hf : p.Forward) (hp : p.Halts)
    (hk : ∀ v, (f v).Halts) : (p.bind f).Halts := by
  intro s c hc
  obtain ⟨⟨s₁, c₁, o⟩, hr⟩ := hp s c hc
  rw [bind_run, hr]
  cases o with
  | error e => exact ⟨_, rfl⟩
  | ok v => exact hk v s₁ c₁ (hf.stop hc hr).wf

theorem Halts.map {p : Parser σ α} (hp : p.Halts) (f : α → β) : (p.map f).Halts := by
  intro s c hc
  obtain ⟨⟨s₁, c₁, o⟩, hr⟩ := hp s c hc
  simp only [Parser.map, hr]
  cases o <;> exact ⟨_, rfl⟩

theorem Halts.skip {p : Parser σ α} (hp : p.Halts) : p.skip.Halts := hp.map _

theorem Halts.mapErr {p : Parser σ α} (hp : p.Halts) (f : ParseError → ParseError) :
    (p.mapErr f).Halts := by
  intro s c hc
  obtain ⟨⟨s₁, c₁, o⟩, hr⟩ := hp s c hc
  simp only [Parser.mapErr, hr]
  cases o <;> exact ⟨_, rfl⟩

theorem Halts.label {p : Parser σ α} (hp : p.Halts) (m : String) : (label m p).Halts := hp.mapErr _

theorem Halts.pair {p : Parser σ α} {q : Parser σ β} (hf : p.Forward) (hp : p.Halts)
    (hq : q.Halts) : (pair p q).Halts :=
  (hp.bind hf fun _ => hq.map _).of_equiv (pair_equiv_bind p q).symm

theorem Halts.thenIgnore {p : Parser σ α} {q : Parser σ β} (hf : p.Forward) (hp : p.Halts)
    (hq : q.Halts) : (thenIgnore p q).Halts :=
  (hp.bind hf fun _ => hq.map _).of_equiv (thenIgnore_equiv_bind p q).symm

theorem Halts.ignoreThen {p : Parser σ α} {q : Parser σ β} (hf : p.Forward) (hp : p.Halts)
    (hq : q.Halts) : (ignoreThen p q).Halts :=
  (hp.bind hf fun _ => hq).of_equiv (ignoreThen_equiv_bind p q).symm

theorem Halts.between {o : Parser σ β} {cl : Parser σ γ} {p : Parser σ α} (hfo : o.Forward)
    (hfp : p.Forward) (ho : o.Halts) (hc : cl.Halts) (hp : p.Halts) : (between o cl p).Halts :=
  ((ho.ignoreThen hfo hp).thenIgnore (hfo.ignoreThen hfp) hc).of_equiv (between_equiv o cl p).symm

theorem Halts.apply {f : Parser σ (α → β)} {p : Parser σ α} (hff : f.Forward) (hf : f.Halts)
    (hp : p.Halts) : (apply f p).Halts :=
  (hf.bind hff fun _ => hp.map _).of_equiv (apply_equiv_bind f p).symm

theorem Halts.orElse {p q : Parser σ α} (hp : p.Halts) (hq : q.Halts) : (orElse p q).Halts := by
  intro s c hc
  obtain ⟨⟨s₁, c₁, o₁⟩, hr₁⟩ := hp s c hc
  obtain ⟨⟨s₂, c₂, o₂⟩, hr₂⟩ := hq s c hc
  simp only [Parser.orElse, hr₁, hr₂]
  cases o₁ <;> cases o₂ <;> exact ⟨_, rfl⟩

theorem Halts.choiceFrom {ps : List (Parser σ α)} (hps : ∀ p ∈ ps, p.Halts) (err : ParseError) :
    (⟨choiceFrom err ps⟩ : Parser σ α).Halts := by
  induction ps generalizing err with
  | nil => exact .of_some fun _ _ => ⟨_, rfl⟩
  | cons p ps ih =>
    intro s c hc
    obtain ⟨⟨s₁, c₁, o⟩, hr⟩ := hps p List.mem_cons_self s c hc
    change ∃ r, Parser.choiceFrom err (p :: ps) s c = some r
    simp only [Parser.choiceFrom, hr]
    cases o with
    | error e => exact ih (fun q hq => hps q (List.mem_cons_of_mem p hq)) (err.merge e) s c hc
    | ok v => exact ⟨_, rfl⟩

theorem Halts.choice {ps : List (Parser σ α)} (hps : ∀ p ∈ ps, p.Halts) : (choice ps).Halts :=
  Halts.choiceFrom hps .empty

theorem Halts.maybe {p : Parser σ α} (hp : p.Halts) : (maybe p).Halts := by
  intro s c hc
  obtain ⟨⟨s₁, c₁, o⟩, hr⟩ := hp s c hc
  simp only [Parser.maybe, hr]
  cases o <;> exact ⟨_, rfl⟩

theorem Halts.optional {p : Parser σ α} (hp : p.Halts) (d : α) : (optional d p).Halts :=
  hp.orElse (halts_succeed d)

theorem Halts.lookahead {p : Parser σ α} (hp : p.Halts) : (lookahead p).Halts := by
  intro s c hc
  obtain ⟨⟨s₁, c₁, o⟩, hr⟩ := hp s c hc
  simp only [Parser.lookahead, hr]
  cases o <;> exact ⟨_, rfl⟩

theorem Halts.notFollowedBy {p : Parser σ α} (hp : p.Halts) : (notFollowedBy p).Halts := by
  intro s c hc
  obtain ⟨⟨s₁, c₁, o⟩, hr⟩ := hp s c hc
  simp only [Parser.notFollowedBy, hr]
  cases o <;> exact ⟨_, rfl⟩

/-- The loop answers from every cursor of a class `W` from which each pass stands still or moves
strictly forward into `W`: the recursion `repeatFrom` is well founded on. -/
theorem repeatFrom_answers_of_step {W : Cursor → Prop} {p : Parser σ α}
    (hp : ∀ s c, W c → ∃ r, p.run s c = some r ∧ (r.cursor = c ∨ Advances c r.cursor ∧ W r.cursor))
    (acc : Array α) (s : σ) (c : Cursor) : W c → ∃ r, Parser.repeatFrom p acc s c = some r := by
  fun_induction Parser.repeatFrom p acc s c with
  | case1 acc s c hnone =>
    intro hc
    obtain ⟨r, hr, -⟩ := hp s c hc
    rw [hnone] at hr
    cases hr
  | case2 => exact fun _ => ⟨_, rfl⟩
  | case3 => exact fun _ => ⟨_, rfl⟩
  | case4 acc s c s' c' v hrun hne _ ih =>
    intro hc
    obtain ⟨r, hr, hstep⟩ := hp s c hc
    rw [hrun] at hr
    cases hr
    exact ih (hstep.resolve_left hne).2
  | case5 acc s c s' c' v hrun hne hadv =>
    -- a success that is neither `c` nor forward of it is ruled out, so this branch never runs
    intro hc
    obtain ⟨r, hr, hstep⟩ := hp s c hc
    rw [hrun] at hr
    cases hr
    exact absurd (hstep.resolve_left hne).1 hadv

/-- The loop halts for every forward body: a pass that neither fails nor stands still moves the
cursor strictly forward, to a well-formed cursor again. -/
theorem Halts.repeatFrom {p : Parser σ α} (hf : p.Forward) (hp : p.Halts) (acc : Array α) :
    (⟨repeatFrom p acc⟩ : Parser σ (List α)).Halts := by
  intro s c hc
  refine repeatFrom_answers_of_step (fun s c hc => ?_) acc s c hc
  obtain ⟨r, hr⟩ := hp s c hc
  have hfw := hf s c r hc hr
  exact ⟨r, hr, hfw.eq_or_advances.imp_right fun ha => ⟨ha, hfw.wf⟩⟩

theorem Halts.many {p : Parser σ α} (hf : p.Forward) (hp : p.Halts) : (many p).Halts :=
  hp.repeatFrom hf #[]

theorem Halts.many1 {p : Parser σ α} (hf : p.Forward) (hp : p.Halts) : (many1 p).Halts :=
  (hp.bind hf fun v => hp.repeatFrom hf #[v]).of_equiv (many1_equiv_bind p).symm

theorem Halts.skipMany {p : Parser σ α} (hf : p.Forward) (hp : p.Halts) : (skipMany p).Halts :=
  (hp.many hf).skip

theorem Halts.skipMany1 {p : Parser σ α} (hf : p.Forward) (hp : p.Halts) : (skipMany1 p).Halts :=
  (hp.many1 hf).skip

theorem Halts.sequenceFrom {ps : List (Parser σ α)} (hfs : ∀ p ∈ ps, p.Forward)
    (hps : ∀ p ∈ ps, p.Halts) (acc : Array α) : (⟨sequenceFrom ps acc⟩ : Parser σ (List α)).Halts := by
  induction ps generalizing acc with
  | nil => exact .of_some fun _ _ => ⟨_, rfl⟩
  | cons p ps ih =>
    have hrest := ih (fun q hq => hfs q (List.mem_cons_of_mem p hq))
      (fun q hq => hps q (List.mem_cons_of_mem p hq))
    exact ((hps p List.mem_cons_self).bind (hfs p List.mem_cons_self) fun v => hrest (acc.push v)).of_equiv
      (sequenceFrom_cons_equiv p ps acc).symm

theorem Halts.sequence {ps : List (Parser σ α)} (hfs : ∀ p ∈ ps, p.Forward)
    (hps : ∀ p ∈ ps, p.Halts) : (sequence ps).Halts :=
  Halts.sequenceFrom hfs hps #[]

theorem Halts.countFrom {p : Parser σ α} (hf : p.Forward) (hp : p.Halts) (n : Nat) (acc : Array α) :
    (⟨countFrom p n acc⟩ : Parser σ (List α)).Halts := by
  induction n generalizing acc with
  | zero => exact .of_some fun _ _ => ⟨_, rfl⟩
  | succ n ih =>
    exact (hp.bind hf fun v => ih (acc.push v)).of_equiv (countFrom_succ_equiv p n acc).symm

theorem Halts.count {p : Parser σ α} (hf : p.Forward) (hp : p.Halts) (n : Nat) : (count n p).Halts :=
  hp.countFrom hf n #[]

theorem Halts.separated {sep : Parser σ β} {p : Parser σ α} (hfs : sep.Forward) (hfp : p.Forward)
    (hs : sep.Halts) (hp : p.Halts) (allowEmpty allowTrailing : Bool) :
    (separated allowEmpty allowTrailing sep p).Halts := by
  intro s c hc
  obtain ⟨⟨s₁, c₁, e | v⟩, hr⟩ := hp s c hc
  · simp only [Parser.separated, hr]
    cases allowEmpty <;> exact ⟨_, rfl⟩
  · -- the rest of the list is a loop over separator and item from where the first item stopped
    have h₁ := hfp.stop hc hr
    obtain ⟨list, hlist⟩ : ∃ r, Parser.repeatFrom (Parser.ignoreThen sep p) #[v] s₁ c₁ = some r :=
      (hs.ignoreThen hfs hp).repeatFrom (hfs.ignoreThen hfp) #[v] s₁ c₁ h₁.wf
    have h₂ := h₁.trans ((hfs.ignoreThen hfp).repeatFrom #[v] s₁ c₁ list h₁.wf hlist)
    simp only [Parser.separated, hr, hlist]
    cases allowTrailing with
    | false => exact ⟨_, rfl⟩
    | true =>
      obtain ⟨⟨s₂, c₂, o₂⟩, ht⟩ := hs list.state list.cursor h₂.wf
      simp only [if_true, ht]
      cases o₂ <;> exact ⟨_, rfl⟩

theorem Halts.operands {op : Parser σ β} {p : Parser σ α} (hfo : op.Forward) (hfp : p.Forward)
    (ho : op.Halts) (hp : p.Halts) : (operands op p).Halts := by
  intro s c hc
  obtain ⟨⟨s₁, c₁, e | a⟩, hr⟩ := hp s c hc
  · simp only [Parser.operands, hr]
    exact ⟨_, rfl⟩
  · obtain ⟨⟨s₂, c₂, o₂⟩, hrest⟩ : ∃ r, Parser.repeatFrom (Parser.pair op p) #[] s₁ c₁ = some r :=
      (ho.pair hfo hp).repeatFrom (hfo.pair hfp) #[] s₁ c₁ (hfp.stop hc hr).wf
    simp only [Parser.operands, hr, hrest]
    cases o₂ <;> exact ⟨_, rfl⟩

theorem Halts.chainLeft {op : Parser σ (α → α → α)} {p : Parser σ α} (hfo : op.Forward)
    (hfp : p.Forward) (ho : op.Halts) (hp : p.Halts) : (chainLeft op p).Halts :=
  (ho.operands hfo hfp hp).map _

theorem Halts.chainRight {op : Parser σ (α → α → α)} {p : Parser σ α} (hfo : op.Forward)
    (hfp : p.Forward) (ho : op.Halts) (hp : p.Halts) : (chainRight op p).Halts :=
  (ho.operands hfo hfp hp).map _

/-- `manyUntil` halts when its body moves whenever it succeeds: then no step stands still, and
each step moves the cursor strictly forward. -/
theorem Halts.manyUntilFrom {p : Parser σ α} {t : Parser σ β} (hf : p.Forward) (hp : p.Halts)
    (hm : p.Moves) (ht : t.Halts) (stall : Nat) (acc : Array α) :
    (⟨manyUntilFrom p t stall acc⟩ : Parser σ (List α)).Halts := by
  intro s c
  show c.WellFormed → ∃ r, Parser.manyUntilFrom p t stall acc s c = some r
  fun_induction Parser.manyUntilFrom p t stall acc s c with
  | case1 stall acc s c hnone =>
    intro hc
    obtain ⟨r, hr⟩ := ht s c hc
    simp [hnone] at hr
  | case2 => exact fun _ => ⟨_, rfl⟩
  | case3 stall acc s c s₁ c₁ e _ hnone =>
    intro hc
    obtain ⟨r, hr⟩ := hp s c hc
    simp [hnone] at hr
  | case4 => exact fun _ => ⟨_, rfl⟩
  | case5 stall acc s c s₁ c₁ e _ s' c' v hpr _ ih => exact fun hc => ih (hf.stop hc hpr).wf
  | case6 acc s s₁ c₁ e s' c' v _ hpr _ =>
    -- a standing step: the body succeeded without moving, against `hm`
    intro hc
    exact absurd (hm s c' s' c' v hc hpr) (Nat.lt_irrefl _)
  | case7 acc s s₁ c₁ e s' c' v k _ hpr _ _ =>
    intro hc
    exact absurd (hm s c' s' c' v hc hpr) (Nat.lt_irrefl _)
  | case8 stall acc s c s₁ c₁ e _ s' c' v hpr hadv hne =>
    intro hc
    exact absurd ((hf.stop hc hpr).eq_or_advances.resolve_left hne) hadv

theorem Halts.manyUntil {p : Parser σ α} {t : Parser σ β} (hf : p.Forward) (hp : p.Halts)
    (hm : p.Moves) (ht : t.Halts) (stall : Nat) : (manyUntil stall p t).Halts :=
  hp.manyUntilFrom hf hm ht stall #[]

theorem halts_getState : (getState : Parser σ σ).Halts := .of_some fun _ _ => ⟨_, rfl⟩

theorem halts_putState (v : σ) : (putState v).Halts := .of_some fun _ _ => ⟨_, rfl⟩

theorem halts_modifyState (f : σ → σ) : (modifyState f).Halts := .of_some fun _ _ => ⟨_, rfl⟩

theorem Halts.withState {f : σ → Parser σ α} (hf : ∀ s, (f s).Halts) : (withState f).Halts :=
  fun s c hc => hf s s c hc

theorem Halts.withLocation {f : Location → Parser σ α} (hf : ∀ l, (f l).Halts) :
    (withLocation f).Halts :=
  fun s c hc => hf c.locate s c hc

theorem Halts.spanned {p : Parser σ α} (hp : p.Halts) : (spanned p).Halts := by
  intro s c hc
  obtain ⟨⟨s₁, c₁, o⟩, hr⟩ := hp s c hc
  simp only [Parser.spanned, hr]
  cases o <;> exact ⟨_, rfl⟩

theorem halts_literal (t : String) : (literal t : Parser σ String).Halts := by
  refine .of_some fun s c => ?_
  simp only [Parser.literal]
  split <;> exact ⟨_, rfl⟩

theorem halts_patternWith (m : Matcher) : (patternWith m : Parser σ String).Halts := by
  refine .of_some fun s c => ?_
  simp only [Parser.patternWith]
  split
  · split <;> exact ⟨_, rfl⟩
  · exact ⟨_, rfl⟩

theorem halts_satisfy (pred : Char → Bool) (desc : String) :
    (satisfy pred desc : Parser σ Char).Halts := by
  refine .of_some fun s c => ?_
  simp only [Parser.satisfy]
  split
  · split <;> exact ⟨_, rfl⟩
  · exact ⟨_, rfl⟩

theorem halts_anyChar : (anyChar : Parser σ Char).Halts := by
  refine .of_some fun s c => ?_
  simp only [Parser.anyChar]
  split <;> exact ⟨_, rfl⟩

theorem halts_takeWhile (pred : Char → Bool) : (takeWhile pred : Parser σ String).Halts :=
  .of_some fun _ _ => ⟨_, rfl⟩

theorem halts_whitespace : (whitespace : Parser σ String).Halts := halts_takeWhile _

theorem Halts.lexeme {p : Parser σ α} (hf : p.Forward) (hp : p.Halts) : (lexeme p).Halts :=
  hp.thenIgnore hf halts_whitespace

theorem halts_endOfInput : (endOfInput : Parser σ Unit).Halts := by
  refine .of_some fun s c => ?_
  simp only [Parser.endOfInput]
  split <;> exact ⟨_, rfl⟩

theorem Moves.map {p : Parser σ α} (hm : p.Moves) (f : α → β) : (p.map f).Moves := by
  intro s c s' c' v hc h
  simp only [Parser.map] at h
  rcases hr : p.run s c with _ | ⟨s₁, c₁, e | w⟩ <;> simp only [hr] at h
  · cases h
  · cases h
  · cases h
    exact hm s c _ _ w hc hr

/-- One character always moves the cursor by its width. -/
theorem moves_anyChar : (anyChar : Parser σ Char).Moves := by
  intro s c s' c' v hc h
  simp only [Parser.anyChar] at h
  split at h
  · rename_i ch hch
    cases h
    rw [(Cursor.fits_of_peek? hch).advance_eq]
    exact Nat.lt_add_of_pos_right (Char.utf8Size_pos _)
  · cases h

/-- A body that succeeds without moving ends the loop at once, its success dropped. -/
theorem many_succeed (v : α) (s : σ) (c : Cursor) :
    (many (succeed v : Parser σ α)).run s c = some ⟨s, c, .ok []⟩ := by
  show Parser.repeatFrom (succeed v) #[] s c = _
  rw [Parser.repeatFrom]
  simp [succeed]

end Parser

namespace Grammar

variable {env : String → P} {stall : Nat}

mutual
/-- Grammars whose parsing halts: no rule is referred to, also in what a continuation picks for
any value, and the body of each `manyUntil` moves the cursor whenever it succeeds. -/
def Halting (env : String → P) (stall : Nat) : Grammar → Prop
  | .literal _ | .pattern _ | .satisfy _ _ | .anyChar | .endOfInput | .takeWhile _ | .whitespace
  | .succeed _ | .fail _ | .getState | .putState _ | .modifyState _ => True
  | .withState k => ∀ v, Halting env stall (k v)
  | .withLocation k => ∀ l, Halting env stall (k l)
  | .lexeme g | .map g _ | .skip g | .mapErr g _ | .label _ g | .many g | .many1 g | .skipMany g
  | .skipMany1 g | .count _ g | .lookahead g | .notFollowedBy g | .maybe g | .optional _ g
  | .spanned g => Halting env stall g
  | .pair g h | .thenIgnore g h | .ignoreThen g h | .orElse g h | .apply g h _ | .chainLeft g h _
  | .chainRight g h _ | .separated _ _ g h => Halting env stall g ∧ Halting env stall h
  | .choice gs | .seq gs => HaltingAll env stall gs
  | .bind g k => Halting env stall g ∧ ∀ v, Halting env stall (k v)
  | .manyUntil g t => Halting env stall g ∧ Halting env stall t ∧ (interp env stall g).Moves
  | .between o c g => Halting env stall o ∧ Halting env stall c ∧ Halting env stall g
  | .ref _ => False

def HaltingAll (env : String → P) (stall : Nat) : List Grammar → Prop
  | [] => True
  | g :: gs => Halting env stall g ∧ HaltingAll env stall gs
end

mutual
theorem interp_halts (henv : ∀ n, (env n).Forward) :
    ∀ g : Grammar, g.Halting env stall → (interp env stall g).Halts
  | .literal t, _ => (Parser.halts_literal t).map _
  | .pattern m, _ => (Parser.halts_patternWith m).map _
  | .satisfy pred desc, _ => (Parser.halts_satisfy pred desc).map _
  | .anyChar, _ => Parser.halts_anyChar.map _
  | .endOfInput, _ => Parser.halts_endOfInput.map _
  | .takeWhile pred, _ => (Parser.halts_takeWhile pred).map _
  | .whitespace, _ => Parser.halts_whitespace.map _
  | .succeed v, _ => Parser.halts_succeed v
  | .fail m, _ => Parser.halts_fail m
  | .getState, _ => Parser.halts_getState
  | .putState v, _ => (Parser.halts_putState v).map _
  | .modifyState f, _ => (Parser.halts_modifyState f).map _
  | .withState k, h => .withState fun s => interp_halts henv (k s) (h s)
  | .withLocation k, h => .withLocation fun l => interp_halts henv (k l) (h l)
  | .lexeme g, h => (interp_halts henv g h).lexeme (interp_forward henv g)
  | .map g f, h => (interp_halts henv g h).map f
  | .skip g, h => (interp_halts henv g h).skip.map _
  | .mapErr g f, h => (interp_halts henv g h).mapErr f
  | .label m g, h => (interp_halts henv g h).label m
  | .pair g k, h =>
    ((interp_halts henv g h.1).pair (interp_forward henv g) (interp_halts henv k h.2)).map _
  | .thenIgnore g k, h =>
    (interp_halts henv g h.1).thenIgnore (interp_forward henv g) (interp_halts henv k h.2)
  | .ignoreThen g k, h =>
    (interp_halts henv g h.1).ignoreThen (interp_forward henv g) (interp_halts henv k h.2)
  | .orElse g k, h => (interp_halts henv g h.1).orElse (interp_halts henv k h.2)
  | .choice gs, h => .choice (interpAll_halts henv gs h)
  | .seq gs, h =>
    (Parser.Halts.sequence (interpAll_forward henv gs) (interpAll_halts henv gs h)).map _
  | .apply g k f, h =>
    ((interp_halts henv g h.1).map f).apply ((interp_forward henv g).map f) (interp_halts henv k h.2)
  | .bind g k, h =>
    (interp_halts henv g h.1).bind (interp_forward henv g) fun v => interp_halts henv (k v) (h.2 v)
  | .chainLeft op g f, h =>
    ((interp_halts henv op h.1).map f).chainLeft ((interp_forward henv op).map f)
      (interp_forward henv g) (interp_halts henv g h.2)
  | .chainRight op g f, h =>
    ((interp_halts henv op h.1).map f).chainRight ((interp_forward henv op).map f)
      (interp_forward henv g) (interp_halts henv g h.2)
  | .many g, h => ((interp_halts henv g h).many (interp_forward henv g)).map _
  | .many1 g, h => ((interp_halts henv g h).many1 (interp_forward henv g)).map _
  | .skipMany g, h => ((interp_halts henv g h).skipMany (interp_forward henv g)).map _
  | .skipMany1 g, h => ((interp_halts henv g h).skipMany1 (interp_forward henv g)).map _
  | .manyUntil g t, h =>
    ((interp_halts henv g h.1).manyUntil (interp_forward henv g) h.2.2 (interp_halts henv t h.2.1)
      stall).map _
  | .separated e t sep g, h =>
    ((interp_halts henv sep h.1).separated (interp_forward henv sep) (interp_forward henv g)
      (interp_halts henv g h.2) e t).map _
  | .count n g, h => ((interp_halts henv g h).count (interp_forward henv g) n).map _
  | .between o c g, h =>
    (interp_halts henv o h.1).between (interp_forward henv o) (interp_forward henv g)
      (interp_halts henv c h.2.1) (interp_halts henv g h.2.2)
  | .lookahead g, h => (interp_halts henv g h).lookahead
  | .notFollowedBy g, h => (interp_halts henv g h).notFollowedBy.map _
  | .maybe g, h => (interp_halts henv g h).maybe.map _
  | .optional d g, h => (interp_halts henv g h).optional d
  | .spanned g, h => (interp_halts henv g h).spanned.map _
  | .ref _, h => h.elim

theorem interpAll_halts (henv : ∀ n, (env n).Forward) :
    ∀ gs : List Grammar, HaltingAll env stall gs → ∀ p ∈ interpAll env stall gs, p.Halts
  | [], _, _, h => nomatch h
  | g :: gs, ⟨hg, hgs⟩, p, h => by
    rcases List.mem_cons.1 h with rfl | h
    · exact interp_halts henv g hg
    · exact interpAll_halts henv gs hgs p h
end

theorem parser_halts (rules : String → Option Grammar) (fuel : Nat) (g : Grammar)
    (hg : g.Halting (unfold rules fuel fuel) fuel) : (parser rules fuel g).Halts :=
  interp_halts (unfold_forward rules fuel fuel) g hg

/-- A grammar with no rule references, whose `manyUntil` bodies move on success, answers from
every well-formed cursor; loops over a body that stands still stop where they started. -/
theorem parse_halts :
    (∀ (rules : String → Option Grammar) (fuel : Nat) (g : Grammar),
      g.Halting (unfold rules fuel fuel) fuel →
      ∀ (s : Value) (c : Cursor), c.WellFormed → ∃ r, (parser rules fuel g).run s c = some r) ∧
    (∀ (σ α β : Type) (p : Parser σ α) (sep : Parser σ β) (op : Parser σ (α → α → α)),
      p.Forward → p.Halts → sep.Forward → sep.Halts → op.Forward → op.Halts →
      (Parser.many p).Halts ∧ (Parser.many1 p).Halts ∧ (Parser.skipMany p).Halts ∧
        (Parser.skipMany1 p).Halts ∧ (Parser.sepBy sep p).Halts ∧ (Parser.sepBy1 sep p).Halts ∧
        (Parser.sepEndBy sep p).Halts ∧ (Parser.sepEndBy1 sep p).Halts ∧
        (Parser.chainLeft op p).Halts ∧ (Parser.chainRight op p).Halts) ∧
    (∀ (σ α : Type) (v : α) (s : σ) (c : Cursor),
      (Parser.many (Parser.succeed v)).run s c = some ⟨s, c, .ok []⟩) := by
  refine ⟨fun rules fuel g hg => parser_halts rules fuel g hg, ?_, fun _ _ => Parser.many_succeed⟩
  intro σ α β p sep op hfp hp hfs hs hfo ho
  exact ⟨hp.many hfp, hp.many1 hfp, hp.skipMany hfp, hp.skipMany1 hfp,
    hs.separated hfs hfp hp true false, hs.separated hfs hfp hp false false,
    hs.separated hfs hfp hp true true, hs.separated hfs hfp hp false true,
    ho.chainLeft hfo hfp hp, ho.chainRight hfo hfp hp⟩

/-- Items up to a terminator, one character each, halt; so does `many` of a body that never
moves. -/
theorem manyUntil_anyChar_halts :
    (Grammar.manyUntil .anyChar (.literal "b")).Halting (unfold (fun _ => none) 0 0) 0 ∧
      (∃ r, (parser (fun _ => none) 0 (.manyUntil .anyChar (.literal "b"))).run .null
        ⟨"aab", 0⟩ = some r) ∧
      (Parser.many (Parser.succeed () : Parser Unit Unit)).Halts := by
  have hg : (Grammar.manyUntil .anyChar (.literal "b")).Halting (unfold (fun _ => none) 0 0) 0 :=
    ⟨trivial, trivial, Parser.moves_anyChar.map _⟩
  have hc : (⟨"aab", 0⟩ : Cursor).WellFormed := by
    show String.Pos.Raw.IsValid _ _
    decide
  have hu := parse_halts.2.1 Unit Unit Unit (Parser.succeed ()) (Parser.succeed ())
    (Parser.succeed fun a _ => a) (Parser.forward_succeed _) (Parser.halts_succeed _)
    (Parser.forward_succeed _) (Parser.halts_succeed _) (Parser.forward_succeed _)
    (Parser.halts_succeed _)
  exact ⟨hg, parse_halts.1 _ _ _ hg .null _ hc, hu.1⟩

end Grammar

end Descent
