import Descent.Proofs.Reading
import Descent.Proofs.Lists
/-! Splitting a joined list gives the list back. The items are runs of characters that satisfy a
predicate, and the separator begins with a character that does not, so an item read at the
start of the text or after a separator stops exactly where the next separator or the end of the
text begins. A list is then read item by item: each pass of the loop takes a separator and the
item after it, and the pass after the last item fails, either because no separator follows or
because nothing follows the trailing one. -/

namespace Descent

theorem intercalate_cons {α : Type} (sep x : List α) (xs : List (List α)) :
    sep.intercalate (x :: xs) = x ++ xs.flatMap (sep ++ ·) := by
  induction xs generalizing x with
  | nil => simp
  | cons y xs ih => simp only [List.intercalate_cons_cons, ih y, List.flatMap_cons, List.append_assoc]

namespace Cursor

variable {c : Cursor} {r u : List Char} {ch : Char}

theorem Ahead.skip_char (h : c.Ahead (ch :: r)) : Ahead ⟨c.source, c.pos + ch.utf8Size⟩ r := by
  have := (show c.Ahead ([ch] ++ r) from h).skip
  simpa using this

theorem Ahead.advances (h : c.Ahead (u ++ r)) (hu : u ≠ []) :
    Parser.Advances c ⟨c.source, c.pos + utf8Len u⟩ := by
  have hl := h.len_eq
  have hpos : 0 < utf8Len u := Nat.pos_of_ne_zero fun h0 => hu (utf8Len_eq_zero.1 h0)
  rw [utf8Len_append] at hl
  exact ⟨rfl, by simp only; omega, by simp only; omega⟩

end Cursor

theorem endsRun_flatMap {pred : Char → Bool} {d tail : List Char} {xs : List (List Char)}
    (hd : ∃ ch d', d = ch :: d' ∧ pred ch = false) (htail : EndsRun pred tail) :
    EndsRun pred (xs.flatMap (d ++ ·) ++ tail) := by
  cases xs with
  | nil => simpa using htail
  | cons x xs =>
    obtain ⟨ch, d', rfl, hch⟩ := hd
    intro ch' w' he
    simp only [List.flatMap_cons, List.cons_append, List.append_assoc, List.cons.injEq] at he
    exact he.1 ▸ hch

namespace Parser

variable {σ α : Type} {s : σ} {c : Cursor} {pred : Char → Bool} {desc : String} {x w : List Char}

theorem repeats_satisfy (hx : ∀ ch ∈ x, pred ch = true) (hw : EndsRun pred w) :
    ∀ {c : Cursor}, c.Ahead (x ++ w) →
      Repeats (satisfy pred desc) s c x s ⟨c.source, c.pos + utf8Len x⟩ := by
  induction x with
  | nil => exact fun h => .stop (.inl ⟨s, _, _, satisfy_run_of_stop h hw⟩)
  | cons ch x ih =>
    intro c h
    have hch : (satisfy pred desc).run s c = some ⟨s, ⟨c.source, c.pos + ch.utf8Size⟩, .ok ch⟩ :=
      satisfy_run_of_cons h (hx ch (by simp))
    have hadv := (show c.Ahead ([ch] ++ (x ++ w)) from h).advances (by simp)
    have hrest := ih (fun ch' hc => hx ch' (by simp [hc])) h.skip_char
    rw [utf8Len_cons, ← Nat.add_assoc]
    exact .step hch (by simpa using hadv) hrest

theorem many1_satisfy_run (h : c.Ahead (x ++ w)) (hne : x ≠ []) (hx : ∀ ch ∈ x, pred ch = true)
    (hw : EndsRun pred w) :
    (many1 (satisfy pred desc)).run s c = some ⟨s, ⟨c.source, c.pos + utf8Len x⟩, .ok x⟩ := by
  obtain ⟨ch, x, rfl⟩ := List.exists_cons_of_ne_nil hne
  have hch : (satisfy pred desc).run s c = some ⟨s, ⟨c.source, c.pos + ch.utf8Size⟩, .ok ch⟩ :=
    satisfy_run_of_cons h (hx ch (by simp))
  have hr : Repeats (satisfy pred desc) s _ x s _ :=
    repeats_satisfy (fun ch' hc => hx ch' (by simp [hc])) hw h.skip_char
  rw [many1_equiv_bind _ s c, bind_run, hch]
  simp only
  rw [repeatFrom_of_repeats hr #[ch], utf8Len_cons, Nat.add_assoc]
  rfl

theorem many1_satisfy_run_of_stop (h : c.Ahead w) (hw : EndsRun pred w) :
    (many1 (satisfy pred desc)).run s c = some ⟨s, c, .error (.new ("expected " ++ desc))⟩ := by
  rw [many1_equiv_bind _ s c, bind_run, satisfy_run_of_stop h hw]

theorem takeWhile_run_of_stop (h : c.Ahead (x ++ w)) (hx : ∀ ch ∈ x, pred ch = true)
    (hw : EndsRun pred w) :
    (Parser.takeWhile pred : Parser σ String).run s c =
      some ⟨s, ⟨c.source, c.pos + utf8Len x⟩, .ok (String.ofList x)⟩ := by
  rw [takeWhile_run pred h, takeWhile_append_of_stop hx hw]

section Loop

variable {p : Parser σ α} {f : List Char → α} {d : String} {xs : List (List Char)}
  {tail : List Char}

/-- `p` reads each item of `xs` back as its value under `f`: from a cursor with an item ahead and
then text that ends the run, it keeps the state and moves past exactly the item. -/
def ReadsItems (p : Parser σ α) (pred : Char → Bool) (f : List Char → α) (xs : List (List Char)) :
    Prop :=
  ∀ x ∈ xs, ∀ s c w, c.Ahead (x ++ w) → EndsRun pred w →
    p.run s c = some ⟨s, ⟨c.source, c.pos + utf8Len x⟩, .ok (f x)⟩

/-- The loop over separator-and-item pairs takes each item of `xs` after its separator, and stops
before `tail`, where the next pair stalls. -/
theorem repeats_joined (hd : ∃ ch d', d.toList = ch :: d' ∧ pred ch = false)
    (hp : ReadsItems p pred f xs) (htail : EndsRun pred tail)
    (hstop : ∀ c', c'.Ahead tail → Stalls (ignoreThen (literal d) p) s c') :
    ∀ {c : Cursor}, c.Ahead (xs.flatMap (d.toList ++ ·) ++ tail) →
      Repeats (ignoreThen (literal d) p) s c (xs.map f) s
        ⟨c.source, c.pos + utf8Len (xs.flatMap (d.toList ++ ·))⟩ := by
  induction xs with
  | nil => exact fun h => .stop (hstop _ h)
  | cons x xs ih =>
    intro c h
    rw [List.flatMap_cons, List.append_assoc, List.append_assoc] at h
    -- the separator, then the item, which stops where the next separator or `tail` begins
    have hsep := literal_run_of_begins (s := s) h
    have hitem := hp x (by simp) s _ _ h.skip (endsRun_flatMap hd htail)
    have hpair : (ignoreThen (literal d) p).run s c =
        some ⟨s, ⟨c.source, c.pos + utf8Len d.toList + utf8Len x⟩, .ok (f x)⟩ := by
      simp only [ignoreThen, hsep, hitem]
    have hne : d.toList ++ x ≠ [] := by obtain ⟨ch, d', hd, -⟩ := hd; simp [hd]
    have hadv := (show c.Ahead ((d.toList ++ x) ++ (xs.flatMap (d.toList ++ ·) ++ tail)) by
      rwa [List.append_assoc]).advances hne
    have hrest := ih (fun y hy => hp y (by simp [hy])) h.skip.skip
    rw [utf8Len_append] at hadv
    rw [List.flatMap_cons, utf8Len_append, utf8Len_append, ← Nat.add_assoc, ← Nat.add_assoc]
    exact .step hpair (by rwa [← Nat.add_assoc] at hadv) hrest

theorem stalls_at_end (hd : ∃ ch d', d.toList = ch :: d' ∧ pred ch = false) {c' : Cursor}
    (h : c'.Ahead []) : Stalls (ignoreThen (literal d) p) s c' := by
  have hn : ¬d.toList <+: [] := by
    obtain ⟨ch, d', hd, -⟩ := hd
    rw [hd]
    exact fun hp => nomatch List.eq_nil_of_prefix_nil hp
  refine .inl ⟨s, c', .new ("expected " ++ Quoted.quote d), ?_⟩
  simp only [ignoreThen, literal_run_of_not_begins h hn]

theorem stalls_at_trailing {c' : Cursor} (h : c'.Ahead d.toList)
    (hfail : ∀ c'', c''.Ahead [] → ∃ e, p.run s c'' = some ⟨s, c'', .error e⟩) :
    Stalls (ignoreThen (literal d) p) s c' := by
  have hsep := literal_run_of_begins (s := s) (show c'.Ahead (d.toList ++ []) by rwa [List.append_nil])
  obtain ⟨e, he⟩ := hfail _ (show c'.Ahead (d.toList ++ []) by rwa [List.append_nil]).skip
  refine .inl ⟨s, ⟨c'.source, c'.pos + utf8Len d.toList⟩, e, ?_⟩
  simp only [ignoreThen, hsep, he]

/-- A list of at least one item, without a trailing separator, read back from its joined text:
the first item, then the loop over the others, which stops before `tail`. -/
theorem separated_run_joined (allowEmpty : Bool) {x₀ : List Char}
    (hd : ∃ ch d', d.toList = ch :: d' ∧ pred ch = false) (hp : ReadsItems p pred f (x₀ :: xs))
    (htail : EndsRun pred tail) (hstop : ∀ c', c'.Ahead tail → Stalls (ignoreThen (literal d) p) s c')
    (h : c.Ahead (x₀ ++ xs.flatMap (d.toList ++ ·) ++ tail)) :
    (separated allowEmpty false (literal d) p).run s c =
      some ⟨s, ⟨c.source, c.pos + utf8Len (x₀ ++ xs.flatMap (d.toList ++ ·))⟩,
        .ok ((x₀ :: xs).map f)⟩ := by
  rw [List.append_assoc] at h
  have hfirst := hp x₀ (by simp) s c _ h (endsRun_flatMap hd htail)
  have hloop := repeatFrom_of_repeats
    (repeats_joined hd (fun y hy => hp y (by simp [hy])) htail hstop h.skip) #[f x₀]
  simp only [separated, hfirst, hloop, Bool.false_eq_true, if_false, utf8Len_append,
    Nat.add_assoc, List.map_cons]
  rfl

theorem separated_run_joined_trailing (allowEmpty : Bool) {x₀ : List Char}
    (hd : ∃ ch d', d.toList = ch :: d' ∧ pred ch = false) (hp : ReadsItems p pred f (x₀ :: xs))
    (hfail : ∀ c'', c''.Ahead [] → ∃ e, p.run s c'' = some ⟨s, c'', .error e⟩)
    (h : c.Ahead (x₀ ++ xs.flatMap (d.toList ++ ·) ++ d.toList)) :
    (separated allowEmpty true (literal d) p).run s c =
      some ⟨s, ⟨c.source, c.pos + utf8Len (x₀ ++ xs.flatMap (d.toList ++ ·) ++ d.toList)⟩,
        .ok ((x₀ :: xs).map f)⟩ := by
  have htail : EndsRun pred d.toList := by
    obtain ⟨ch, d', hd', hch⟩ := hd
    intro ch' w' he
    rw [hd', List.cons.injEq] at he
    exact he.1 ▸ hch
  rw [List.append_assoc] at h
  have hfirst := hp x₀ (by simp) s c _ h (endsRun_flatMap hd htail)
  have hloop := repeatFrom_of_repeats (repeats_joined hd (fun y hy => hp y (by simp [hy])) htail
    (fun c' hc' => stalls_at_trailing hc' hfail) h.skip) #[f x₀]
  have hsep : (literal d).run s ⟨c.source, c.pos + utf8Len x₀ + utf8Len (xs.flatMap (d.toList ++ ·))⟩ =
      some ⟨s, ⟨c.source, c.pos + utf8Len x₀ + utf8Len (xs.flatMap (d.toList ++ ·)) +
        utf8Len d.toList⟩, .ok d⟩ :=
    literal_run_of_begins (show Cursor.Ahead _ (d.toList ++ []) by
      rw [List.append_nil]; exact h.skip.skip)
  simp only [separated, hfirst, hloop, hsep, if_true]
  simp only [utf8Len_append, Nat.add_assoc, List.map_cons]
  rfl

end Loop

theorem new_end_eq {input : String} {l : List Char} (h : input.toList = l) :
    (⟨(Cursor.new input).source, (Cursor.new input).pos + utf8Len l⟩ : Cursor) =
      ⟨input, input.utf8ByteSize⟩ := by
  rw [← h, utf8Len_toList]
  show (⟨input, 0 + input.utf8ByteSize⟩ : Cursor) = _
  rw [Nat.zero_add]

theorem toList_intercalate_cons (d x₀ : String) (xs : List String) :
    (d.intercalate (x₀ :: xs)).toList = x₀.toList ++ (xs.map String.toList).flatMap (d.toList ++ ·) := by
  rw [String.toList_intercalate, List.map_cons, intercalate_cons]

theorem new_ahead_intercalate (d x₀ : String) (xs : List String) :
    (Cursor.new (d.intercalate (x₀ :: xs))).Ahead
      (x₀.toList ++ (xs.map String.toList).flatMap (d.toList ++ ·) ++ []) := by
  rw [List.append_nil, ← toList_intercalate_cons]
  exact Cursor.new_ahead _

/-- Splitting a joined list gives the list back and reads the whole text, with or without a
trailing separator, when the separator begins with a character the items refuse. -/
theorem separated_lists_split_join (pred : Char → Bool) (desc d : String)
    (hd : ∃ ch d', d.toList = ch :: d' ∧ pred ch = false) :
    (∀ (s : σ) (xs : List String), (∀ x ∈ xs, x ≠ "" ∧ ∀ ch ∈ x.toList, pred ch = true) →
      (sepBy (literal d) (many1 (satisfy pred desc))).run s (Cursor.new (d.intercalate xs)) =
        some ⟨s, ⟨d.intercalate xs, (d.intercalate xs).utf8ByteSize⟩, .ok (xs.map String.toList)⟩) ∧
    (∀ (s : σ) (xs : List String), (∀ x ∈ xs, x ≠ "" ∧ ∀ ch ∈ x.toList, pred ch = true) →
      (sepEndBy (literal d) (many1 (satisfy pred desc))).run s
          (Cursor.new (d.intercalate xs ++ if xs = [] then "" else d)) =
        some ⟨s, ⟨d.intercalate xs ++ (if xs = [] then "" else d),
          (d.intercalate xs ++ if xs = [] then "" else d).utf8ByteSize⟩,
          .ok (xs.map String.toList)⟩) ∧
    (∀ (s : σ) (xs : List String), xs ≠ [] → (∀ x ∈ xs, ∀ ch ∈ x.toList, pred ch = true) →
      (sepBy1 (literal d) (Parser.takeWhile pred)).run s (Cursor.new (d.intercalate xs)) =
        some ⟨s, ⟨d.intercalate xs, (d.intercalate xs).utf8ByteSize⟩, .ok xs⟩) := by
  -- items of `many1 (satisfy pred _)` are read back as themselves
  have hmany : ∀ (xs : List String), (∀ x ∈ xs, x ≠ "" ∧ ∀ ch ∈ x.toList, pred ch = true) →
      ReadsItems (many1 (satisfy pred desc) : Parser σ (List Char)) pred id (xs.map String.toList) := by
    intro xs hxs x hx s c w h hw
    obtain ⟨y, hy, rfl⟩ := List.mem_map.1 hx
    exact many1_satisfy_run h (by simpa [String.toList_eq_nil_iff] using (hxs y hy).1) (hxs y hy).2 hw
  have hnone : ∀ (s : σ) (c' : Cursor), c'.Ahead [] →
      (many1 (satisfy pred desc)).run s c' = some ⟨s, c', .error (.new ("expected " ++ desc))⟩ :=
    fun s c' h => many1_satisfy_run_of_stop h (endsRun_nil pred)
  refine ⟨fun s xs hxs => ?_, fun s xs hxs => ?_, fun s xs hne hxs => ?_⟩
  · cases xs with
    | nil =>
      simp only [String.intercalate_nil, sepBy, separated, hnone s _ (Cursor.new_ahead ""), if_true,
        List.map_nil]
      rfl
    | cons x₀ xs =>
      rw [sepBy, separated_run_joined true hd (hmany _ hxs) (endsRun_nil pred)
        (fun _ hc => stalls_at_end hd hc) (new_ahead_intercalate d x₀ xs),
        new_end_eq (toList_intercalate_cons d x₀ xs), List.map_id]
      rfl
  · cases xs with
    | nil =>
      simp only [String.intercalate_nil, if_true, String.append_empty, sepEndBy, separated,
        hnone s _ (Cursor.new_ahead ""), List.map_nil]
      rfl
    | cons x₀ xs =>
      have hl : (d.intercalate (x₀ :: xs) ++ if x₀ :: xs = [] then "" else d).toList =
          x₀.toList ++ (xs.map String.toList).flatMap (d.toList ++ ·) ++ d.toList := by
        rw [if_neg (List.cons_ne_nil _ _), String.toList_append, toList_intercalate_cons]
      have h := Cursor.new_ahead (d.intercalate (x₀ :: xs) ++ if x₀ :: xs = [] then "" else d)
      rw [hl] at h
      rw [sepEndBy, separated_run_joined_trailing true hd (hmany _ hxs)
        (fun c'' hc'' => ⟨_, hnone s c'' hc''⟩) h, new_end_eq hl, List.map_id]
      rfl
  · obtain ⟨x₀, xs, rfl⟩ := List.exists_cons_of_ne_nil hne
    -- items of `takeWhile pred` are read back as strings
    have htake : ReadsItems (Parser.takeWhile pred : Parser σ String) pred String.ofList
        (x₀.toList :: xs.map String.toList) := by
      intro x hx s c w h hw
      obtain ⟨y, hy, rfl⟩ := List.mem_map.1 (List.map_cons ▸ hx)
      exact takeWhile_run_of_stop h (hxs y hy) hw
    have hrun := separated_run_joined (s := s) false hd htake (endsRun_nil pred)
      (fun _ hc => stalls_at_end hd hc) (new_ahead_intercalate d x₀ xs)
    rw [new_end_eq (toList_intercalate_cons d x₀ xs)] at hrun
    simp only [List.map_cons, List.map_map, Function.comp_def, String.ofList_toList,
      List.map_id'] at hrun
    exact hrun

/-- `a,bc` split at commas into runs of letters comes back as the letters of `a` and of `bc`. -/
theorem split_join_letters_at_commas :
    (∃ ch d', ",".toList = ch :: d' ∧ (fun ch => ch != ',') ch = false) ∧
      (sepBy (literal ",") (many1 (satisfy (fun ch => ch != ',') "letter")) : Parser Unit _).run ()
          (Cursor.new (",".intercalate ["a", "bc"])) =
        some ⟨(), ⟨",".intercalate ["a", "bc"], (",".intercalate ["a", "bc"]).utf8ByteSize⟩,
          .ok (["a", "bc"].map String.toList)⟩ :=
  have hd : ∃ ch d', ",".toList = ch :: d' ∧ (fun ch => ch != ',') ch = false := ⟨',', [], rfl, rfl⟩
  ⟨hd, (separated_lists_split_join (σ := Unit) _ "letter" "," hd).1 () ["a", "bc"] (by simp)⟩

end Parser

end Descent
