import Descent.Proofs.Forward
import Descent.Grammar.Basic
/-! Every grammar keeps cursors well formed. Interpreting a grammar builds its parser from the
combinators, so one case per constructor, each closed by the combinator's lemma, shows that the
parser moves forward whenever the rules' parsers do; and the rules' parsers do, by induction on
how deep they are unfolded. Hence from a well-formed cursor every reply, success or failure,
stops on the same source, not before its start and on a character boundary; every move of a
text primitive fits inside the source; and a span runs forward over text that can be sliced. -/

namespace Descent

namespace Grammar

variable {env : String → P} {stall : Nat}

mutual
/-- The parser of a grammar moves forward when the rules' parsers do. -/
theorem interp_forward (henv : ∀ n, (env n).Forward) : ∀ g : Grammar, (interp env stall g).Forward
  | .literal t => (Parser.forward_literal t).map _
  | .pattern m => (Parser.forward_patternWith m).map _
  | .satisfy pred desc => (Parser.forward_satisfy pred desc).map _
  | .anyChar => Parser.forward_anyChar.map _
  | .endOfInput => Parser.forward_endOfInput.map _
  | .takeWhile pred => (Parser.forward_takeWhile pred).map _
  | .whitespace => Parser.forward_whitespace.map _
  | .succeed v => Parser.forward_succeed v
  | .fail m => Parser.forward_fail m
  | .getState => Parser.forward_getState
  | .putState v => (Parser.forward_putState v).map _
  | .modifyState f => (Parser.forward_modifyState f).map _
  | .withState k => .withState fun s => interp_forward henv (k s)
  | .withLocation k => .withLocation fun l => interp_forward henv (k l)
  | .lexeme g => (interp_forward henv g).lexeme
  | .map g f => (interp_forward henv g).map f
  | .skip g => (interp_forward henv g).skip.map _
  | .mapErr g f => (interp_forward henv g).mapErr f
  | .label m g => (interp_forward henv g).label m
  | .pair g h => ((interp_forward henv g).pair (interp_forward henv h)).map _
  | .thenIgnore g h => (interp_forward henv g).thenIgnore (interp_forward henv h)
  | .ignoreThen g h => (interp_forward henv g).ignoreThen (interp_forward henv h)
  | .orElse g h => (interp_forward henv g).orElse (interp_forward henv h)
  | .choice gs => .choice (interpAll_forward henv gs)
  | .seq gs => (Parser.Forward.sequence (interpAll_forward henv gs)).map _
  | .apply g h f => ((interp_forward henv g).map f).apply (interp_forward henv h)
  | .bind g k => (interp_forward henv g).bind fun v => interp_forward henv (k v)
  | .chainLeft op g f => ((interp_forward henv op).map f).chainLeft (interp_forward henv g)
  | .chainRight op g f => ((interp_forward henv op).map f).chainRight (interp_forward henv g)
  | .many g => (interp_forward henv g).many.map _
  | .many1 g => (interp_forward henv g).many1.map _
  | .skipMany g => (interp_forward henv g).skipMany.map _
  | .skipMany1 g => (interp_forward henv g).skipMany1.map _
  | .manyUntil g t => ((interp_forward henv g).manyUntil (interp_forward henv t) stall).map _
  | .separated e t sep g =>
    ((interp_forward henv sep).separated (interp_forward henv g) e t).map _
  | .count n g => ((interp_forward henv g).count n).map _
  | .between o c g =>
    (interp_forward henv o).between (interp_forward henv c) (interp_forward henv g)
  | .lookahead g => (interp_forward henv g).lookahead
  | .notFollowedBy _ => (Parser.forward_notFollowedBy _).map _
  | .maybe g => (interp_forward henv g).maybe.map _
  | .optional d g => (interp_forward henv g).optional d
  | .spanned g => (interp_forward henv g).spanned.map _
  | .ref name => fun s c r hc h => henv name s c r hc h

theorem interpAll_forward (henv : ∀ n, (env n).Forward) :
    ∀ gs : List Grammar, ∀ p ∈ interpAll env stall gs, p.Forward
  | [], _, h => nomatch h
  | g :: gs, p, h => by
    rcases List.mem_cons.1 h with rfl | h
    · exact interp_forward henv g
    · exact interpAll_forward henv gs p h
end

theorem forward_unfinished : unfinished.Forward := fun _ _ _ _ h => nomatch h

theorem unfold_forward (rules : String → Option Grammar) (stall : Nat) :
    ∀ depth name, (unfold rules stall depth name).Forward
  | 0, _ => forward_unfinished
  | depth + 1, name => by
    simp only [unfold]
    split
    · exact interp_forward (unfold_forward rules stall depth) _
    · exact forward_unfinished

theorem parser_forward (rules : String → Option Grammar) (fuel : Nat) (g : Grammar) :
    (parser rules fuel g).Forward :=
  interp_forward (unfold_forward rules fuel fuel) g

end Grammar

namespace Parser

variable {σ α : Type}

/-- The span of a forward parser runs from its start to where it stopped, so it has a length
and slices the source. -/
theorem Forward.spanned_span {p : Parser σ α} (hp : p.Forward) {s s' : σ} {c c' : Cursor} {v : α}
    {sp : Span} (hc : c.WellFormed) (h : (Parser.spanned p).run s c = some ⟨s', c', .ok (v, sp)⟩) :
    sp = ⟨c.pos, c'.pos⟩ ∧ sp.len? = some (c'.pos - c.pos) ∧
      sp.slice? c.source = some (String.Pos.Raw.extract c.source ⟨c.pos⟩ ⟨c'.pos⟩) := by
  simp only [Parser.spanned] at h
  rcases hr : p.run s c with _ | ⟨s₁, c₁, e | w⟩ <;> simp only [hr] at h
  · cases h
  · cases h
  · cases h
    have hf := hp.stop hc hr
    have hv : String.Pos.Raw.IsValid c.source ⟨c'.pos⟩ := by
      have := hf.wf
      rwa [Cursor.WellFormed, hf.source] at this
    refine ⟨rfl, by simp [Span.len?, hf.le], ?_⟩
    simp [Span.slice?, hf.le, String.Pos.Raw.isValid_eq_true_iff.2 hc,
      String.Pos.Raw.isValid_eq_true_iff.2 hv]

end Parser

namespace Grammar

/-- Every parse from a well-formed cursor stops forward of it on a character boundary, every move
of a text primitive fits (`advance` never clamps), and a span runs from the start to the stop. -/
theorem cursor_well_formed_and_monotone :
    (∀ (rules : String → Option Grammar) (fuel : Nat) (g : Grammar) (s : Value) (c : Cursor)
        (r : Reply Value Value), c.WellFormed → (parser rules fuel g).run s c = some r →
      r.cursor.source = c.source ∧ c.pos ≤ r.cursor.pos ∧ r.cursor.pos ≤ c.len ∧
        r.cursor.WellFormed ∧ r.cursor.remaining? = some r.cursor.rest) ∧
    (∀ (c : Cursor) (t : String), c.WellFormed → c.startsWith t = true → c.Fits t.utf8ByteSize) ∧
    (∀ (c : Cursor) (k : Nat), String.Pos.Raw.isValid c.source ⟨c.pos + k⟩ = true → c.Fits k) ∧
    (∀ (c : Cursor) (ch : Char), c.peek? = some ch → c.Fits ch.utf8Size) ∧
    (∀ (c : Cursor) (pred : Char → Bool), c.WellFormed →
      c.Fits (Parser.runEnd c.source pred c.pos - c.pos)) ∧
    (∀ (c : Cursor) (n : Nat), c.Fits n → c.pos + n ≤ c.len ∧ c.advance n = ⟨c.source, c.pos + n⟩) ∧
    (∀ (rules : String → Option Grammar) (fuel : Nat) (g : Grammar) (s s' v : Value) (c c' : Cursor)
        (sp : Span), c.WellFormed →
        (Parser.spanned (parser rules fuel g)).run s c = some ⟨s', c', .ok (v, sp)⟩ →
      sp.start = c.pos ∧ sp.start ≤ sp.stop ∧ sp.stop = c'.pos ∧
        sp.len? = some (sp.stop - sp.start) ∧
        sp.slice? c.source = some (String.Pos.Raw.extract c.source ⟨sp.start⟩ ⟨sp.stop⟩)) := by
  refine ⟨?_, fun c _ => Cursor.fits_of_startsWith, fun c _ => Cursor.fits_of_isValid,
    fun c _ => Cursor.fits_of_peek?, fun c pred hc => Cursor.fits_runEnd hc pred,
    fun c n h => ⟨h.le_len, h.advance_eq⟩, ?_⟩
  · intro rules fuel g s c r hc h
    have hf := parser_forward rules fuel g s c r hc h
    exact ⟨hf.source, hf.le, hf.le_len, hf.wf, hf.wf.remaining?⟩
  · intro rules fuel g s s' v c c' sp hc h
    obtain ⟨rfl, hlen, hslice⟩ := (parser_forward rules fuel g).spanned_span hc h
    have hle := ((parser_forward rules fuel g).spanned.stop hc h).le
    exact ⟨rfl, hle, rfl, hlen, hslice⟩


/-- Reading `"aé"` from the start of `"aéb"` stops after the two-byte character, on a
boundary. -/
theorem literal_stops_on_boundary :
    (⟨"aéb", 0⟩ : Cursor).WellFormed ∧
      (parser (fun _ => none) 0 (.literal "aé")).run .null ⟨"aéb", 0⟩ =
        some ⟨.null, ⟨"aéb", 3⟩, .ok (.str "aé")⟩ ∧
      (⟨"aéb", 3⟩ : Cursor).WellFormed := by
  have hc : (⟨"aéb", 0⟩ : Cursor).WellFormed := by
    show String.Pos.Raw.IsValid _ _
    decide
  have hrun : (parser (fun _ => none) 0 (.literal "aé")).run .null ⟨"aéb", 0⟩ =
      some ⟨.null, ⟨"aéb", 3⟩, .ok (.str "aé")⟩ := rfl
  exact ⟨hc, hrun, (cursor_well_formed_and_monotone.1 _ _ _ _ _ _ hc hrun).2.2.2.1⟩

end Grammar

end Descent
