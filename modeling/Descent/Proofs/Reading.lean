import Descent.Proofs.Forward
/-! Text primitives read exactly what they return. A well-formed cursor splits its source into the
characters read and the characters `r` ahead of it (`Cursor.Ahead`), and every question a
primitive asks of the source at the cursor is a question about `r`: the character there is the
first of `r`, a literal occurs there when it begins `r`, a run of characters ends where
`List.takeWhile` stops on `r`, and the text between two boundaries is the slice of characters
between them. So each primitive keeps the state and either fails where it stands or moves past
exactly the text of its value, which `r` begins with; which of the two it does is a condition on
`r` alone, and for a matcher on the length it reports. -/

namespace Descent

theorem utf8Len_eq_zero {l : List Char} : utf8Len l = 0 ↔ l = [] := by
  cases l with
  | nil => simp
  | cons ch l =>
    have := ch.utf8Size_pos
    simp only [utf8Len_cons, reduceCtorEq, iff_false]
    omega

theorem split_of_le {pre r pre' r' : List Char} (h : pre ++ r = pre' ++ r')
    (hle : utf8Len pre ≤ utf8Len pre') : ∃ u, pre' = pre ++ u ∧ r = u ++ r' := by
  rcases List.append_eq_append_iff.1 h with ⟨u, hpre, hr⟩ | ⟨u, rfl, hr⟩
  · exact ⟨u, hpre, hr⟩
  · -- the split at `pre` is not before the one at `pre'`, so nothing lies between them
    have hu : u = [] := utf8Len_eq_zero.1 (by simp at hle; omega)
    subst hu
    exact ⟨[], by simp, by simpa using hr.symm⟩

theorem pos_ne_pos_add {k n : Nat} (h : 0 < n) : (⟨k⟩ : String.Pos.Raw) ≠ ⟨k + n⟩ := by
  intro he
  have := congrArg String.Pos.Raw.byteIdx he
  simp only [Nat.left_eq_add] at this
  omega

theorem utf8GetAux?_append (r : List Char) :
    ∀ (pre : List Char) (k : Nat),
      String.Pos.Raw.utf8GetAux? (pre ++ r) ⟨k⟩ ⟨k + utf8Len pre⟩ = r.head?
  | [], k => by
    cases r with
    | nil => rfl
    | cons ch r =>
      change (if (⟨k⟩ : String.Pos.Raw) = ⟨k + 0⟩ then some ch
        else String.Pos.Raw.utf8GetAux? r ⟨k + ch.utf8Size⟩ ⟨k + 0⟩) = some ch
      exact if_pos rfl
  | ch :: pre, k => by
    change (if (⟨k⟩ : String.Pos.Raw) = ⟨k + (ch.utf8Size + utf8Len pre)⟩ then some ch
      else String.Pos.Raw.utf8GetAux? (pre ++ r) ⟨k + ch.utf8Size⟩
        ⟨k + (ch.utf8Size + utf8Len pre)⟩) = r.head?
    rw [if_neg (pos_ne_pos_add (by have := ch.utf8Size_pos; omega)), ← Nat.add_assoc]
    exact utf8GetAux?_append r pre (k + ch.utf8Size)

theorem get?_of_split {s : String} {pre r : List Char} (h : s.toList = pre ++ r) :
    String.Pos.Raw.get? s ⟨utf8Len pre⟩ = r.head? := by
  have := utf8GetAux?_append r pre 0
  rw [Nat.zero_add, ← h] at this
  exact this

theorem occursAt_iff_begins {s : String} :
    ∀ (t pre r : List Char), s.toList = pre ++ r →
      (Cursor.occursAt s (utf8Len pre) t = true ↔ t <+: r)
  | [], _, r, _ => by simp [Cursor.occursAt, List.nil_prefix]
  | ch :: t, pre, r, h => by
    simp only [Cursor.occursAt, Bool.and_eq_true, beq_iff_eq, get?_of_split h]
    cases r with
    | nil => simp
    | cons x r =>
      have ih := @occursAt_iff_begins s t (pre ++ [x]) r (by simp [h])
      rw [utf8Len_append, utf8Len_cons, utf8Len_nil, Nat.add_zero] at ih
      simp only [List.head?_cons, Option.some.injEq, List.cons_prefix_cons]
      constructor
      · rintro ⟨rfl, ht⟩
        exact ⟨rfl, ih.1 ht⟩
      · rintro ⟨rfl, ht⟩
        exact ⟨rfl, ih.2 ht⟩

theorem runEnd_of_split {s : String} (pred : Char → Bool) :
    ∀ (r pre : List Char), s.toList = pre ++ r →
      Parser.runEnd s pred (utf8Len pre) = utf8Len pre + utf8Len (r.takeWhile pred)
  | [], pre, h => by
    have hlen : s.utf8ByteSize = utf8Len pre := by rw [← utf8Len_toList, h, List.append_nil]
    rw [Parser.runEnd, dif_neg (by omega)]
    simp
  | x :: r, pre, h => by
    have hlen : s.utf8ByteSize = utf8Len pre + (x.utf8Size + utf8Len r) := by
      rw [← utf8Len_toList, h, utf8Len_append, utf8Len_cons]
    have hx := x.utf8Size_pos
    rw [Parser.runEnd, dif_pos (by omega), get?_of_split h, List.head?_cons]
    cases hp : pred x
    · simp [hp]
    · have ih := @runEnd_of_split s pred r (pre ++ [x]) (by simp [h])
      simp only [utf8Len_append, utf8Len_cons, utf8Len_nil, Nat.add_zero] at ih
      simp only [if_true, ih, List.takeWhile_cons, hp, utf8Len_cons]
      omega

theorem extract_go₂_append (w : List Char) :
    ∀ (u : List Char) (k : Nat), String.Pos.Raw.extract.go₂ (u ++ w) ⟨k⟩ ⟨k + utf8Len u⟩ = u
  | [], k => by
    cases w with
    | nil => rfl
    | cons ch w =>
      change (if (⟨k⟩ : String.Pos.Raw) = ⟨k + 0⟩ then []
        else ch :: String.Pos.Raw.extract.go₂ w ⟨k + ch.utf8Size⟩ ⟨k + 0⟩) = []
      exact if_pos rfl
  | x :: u, k => by
    change (if (⟨k⟩ : String.Pos.Raw) = ⟨k + (x.utf8Size + utf8Len u)⟩ then []
      else x :: String.Pos.Raw.extract.go₂ (u ++ w) ⟨k + x.utf8Size⟩
        ⟨k + (x.utf8Size + utf8Len u)⟩) = x :: u
    rw [if_neg (pos_ne_pos_add (by have := x.utf8Size_pos; omega)), ← Nat.add_assoc,
      extract_go₂_append w u (k + x.utf8Size)]

theorem extract_go₁_append (e : String.Pos.Raw) (l : List Char) :
    ∀ (pre : List Char) (k : Nat), String.Pos.Raw.extract.go₁ (pre ++ l) ⟨k⟩ ⟨k + utf8Len pre⟩ e =
      String.Pos.Raw.extract.go₂ l ⟨k + utf8Len pre⟩ e
  | [], k => by
    cases l with
    | nil => rfl
    | cons ch l =>
      change (if (⟨k⟩ : String.Pos.Raw) = ⟨k + 0⟩ then String.Pos.Raw.extract.go₂ (ch :: l) ⟨k⟩ e
        else String.Pos.Raw.extract.go₁ l ⟨k + ch.utf8Size⟩ ⟨k + 0⟩ e) = _
      exact if_pos rfl
  | x :: pre, k => by
    change (if (⟨k⟩ : String.Pos.Raw) = ⟨k + (x.utf8Size + utf8Len pre)⟩
        then String.Pos.Raw.extract.go₂ (x :: (pre ++ l)) ⟨k⟩ e
      else String.Pos.Raw.extract.go₁ (pre ++ l) ⟨k + x.utf8Size⟩
        ⟨k + (x.utf8Size + utf8Len pre)⟩ e) =
      String.Pos.Raw.extract.go₂ l ⟨k + (x.utf8Size + utf8Len pre)⟩ e
    rw [if_neg (pos_ne_pos_add (by have := x.utf8Size_pos; omega)), ← Nat.add_assoc]
    exact extract_go₁_append e l pre (k + x.utf8Size)

theorem extract_of_split {s : String} {pre u w : List Char} (h : s.toList = pre ++ u ++ w) :
    String.Pos.Raw.extract s ⟨utf8Len pre⟩ ⟨utf8Len pre + utf8Len u⟩ = String.ofList u := by
  change (if utf8Len pre ≥ utf8Len pre + utf8Len u then ""
    else String.ofList (String.Pos.Raw.extract.go₁ s.toList ⟨0⟩ ⟨utf8Len pre⟩
      ⟨utf8Len pre + utf8Len u⟩)) = String.ofList u
  cases u with
  | nil => rw [if_pos (by simp)]
  | cons x u =>
    have hx := x.utf8Size_pos
    rw [if_neg (by simp only [utf8Len_cons]; omega), h, List.append_assoc]
    have h₁ := extract_go₁_append ⟨utf8Len pre + utf8Len (x :: u)⟩ ((x :: u) ++ w) pre 0
    have h₂ := extract_go₂_append w (x :: u) (utf8Len pre)
    rw [Nat.zero_add] at h₁
    rw [h₁, h₂]

/-- The text `w` ends a run of characters satisfying `pred`: it is empty or its first character
fails `pred`. -/
def EndsRun (pred : Char → Bool) (w : List Char) : Prop := ∀ ch w', w = ch :: w' → pred ch = false

theorem endsRun_nil (pred : Char → Bool) : EndsRun pred [] := fun _ _ he => nomatch he

/-- `u` is the longest run at the front of `r` of characters satisfying `pred`: every character
of `u` satisfies `pred`, and the text after it ends the run. -/
def LongestRun (pred : Char → Bool) (r u : List Char) : Prop :=
  ∃ w, r = u ++ w ∧ (∀ ch ∈ u, pred ch = true) ∧ EndsRun pred w

theorem longestRun_takeWhile (pred : Char → Bool) (r : List Char) :
    LongestRun pred r (r.takeWhile pred) := by
  refine ⟨r.dropWhile pred, List.takeWhile_append_dropWhile.symm,
    fun ch hc => List.all_eq_true.1 List.all_takeWhile ch hc, fun ch w' hw => ?_⟩
  have := List.head_dropWhile_not pred (l := r) (by simp [hw])
  simpa [hw] using this

theorem takeWhile_append_of_stop {pred : Char → Bool} {u w : List Char}
    (hu : ∀ ch ∈ u, pred ch = true) (hw : EndsRun pred w) :
    (u ++ w).takeWhile pred = u := by
  induction u with
  | nil =>
    cases w with
    | nil => rfl
    | cons ch w' => simp [hw ch w' rfl]
  | cons x u ih =>
    rw [List.cons_append, List.takeWhile_cons_of_pos (hu x (by simp)),
      ih fun ch hc => hu ch (by simp [hc])]

theorem longestRun_iff {pred : Char → Bool} {r u : List Char} :
    LongestRun pred r u ↔ u = r.takeWhile pred := by
  refine ⟨fun ⟨w, hr, hu, hw⟩ => ?_, fun h => h ▸ longestRun_takeWhile pred r⟩
  rw [hr, takeWhile_append_of_stop hu hw]

namespace Cursor

variable {c : Cursor} {r u w : List Char} {ch : Char}

/-- The characters `r` lie ahead of the cursor: its source splits at its offset into the
characters already read and `r`. -/
def Ahead (c : Cursor) (r : List Char) : Prop :=
  ∃ pre, c.source.toList = pre ++ r ∧ c.pos = utf8Len pre

theorem wellFormed_iff_ahead : c.WellFormed ↔ ∃ r, c.Ahead r := by
  unfold WellFormed
  rw [isValid_iff_split]
  constructor
  · rintro ⟨pre, r, hs, hp⟩
    exact ⟨r, pre, hs, hp⟩
  · rintro ⟨r, pre, hs, hp⟩
    exact ⟨pre, r, hs, hp⟩

theorem Ahead.wellFormed (h : c.Ahead r) : c.WellFormed := wellFormed_iff_ahead.2 ⟨r, h⟩

theorem new_ahead (s : String) : (Cursor.new s).Ahead s.toList := ⟨[], rfl, rfl⟩

theorem Ahead.len_eq (h : c.Ahead r) : c.len = c.pos + utf8Len r := by
  obtain ⟨pre, hs, hp⟩ := h
  rw [len, ← utf8Len_toList, hs, utf8Len_append, hp]

theorem Ahead.skip (h : c.Ahead (u ++ r)) : Ahead ⟨c.source, c.pos + utf8Len u⟩ r := by
  obtain ⟨pre, hs, hp⟩ := h
  exact ⟨pre ++ u, by rw [hs, List.append_assoc], by rw [hp, utf8Len_append]⟩

theorem Ahead.advance_eq (h : c.Ahead (u ++ r)) :
    c.advance (utf8Len u) = ⟨c.source, c.pos + utf8Len u⟩ := by
  have hl := h.len_eq
  rw [utf8Len_append] at hl
  simp only [advance, Nat.min_eq_left (show c.pos + utf8Len u ≤ c.len by omega)]

theorem Ahead.advance_char (h : c.Ahead (ch :: r)) :
    c.advance ch.utf8Size = ⟨c.source, c.pos + ch.utf8Size⟩ := by
  have := (show c.Ahead ([ch] ++ r) from h).advance_eq
  simpa using this

theorem Ahead.peek? (h : c.Ahead r) : c.peek? = r.head? := by
  obtain ⟨pre, hs, hp⟩ := h
  rw [Cursor.peek?, hp]
  exact get?_of_split hs

theorem Ahead.startsWith_iff {t : String} (h : c.Ahead r) : c.startsWith t = true ↔ t.toList <+: r := by
  obtain ⟨pre, hs, hp⟩ := h
  rw [startsWith, hp]
  exact occursAt_iff_begins t.toList pre r hs

theorem Ahead.extract (h : c.Ahead (u ++ w)) :
    String.Pos.Raw.extract c.source ⟨c.pos⟩ ⟨c.pos + utf8Len u⟩ = String.ofList u := by
  obtain ⟨pre, hs, hp⟩ := h
  rw [hp]
  exact extract_of_split (by rw [hs, List.append_assoc])

theorem Ahead.split_of_isValid {k : Nat} (h : c.Ahead r)
    (hv : String.Pos.Raw.IsValid c.source ⟨c.pos + k⟩) : ∃ u w, r = u ++ w ∧ k = utf8Len u := by
  obtain ⟨pre, hs, hp⟩ := h
  obtain ⟨pre', r', hs', hk⟩ := isValid_iff_split.1 hv
  obtain ⟨u, rfl, hr⟩ := split_of_le (hs.symm.trans hs') (by omega)
  exact ⟨u, r', hr, by rw [utf8Len_append] at hk; omega⟩

theorem Ahead.rest_toList (h : c.Ahead r) : c.rest.toList = r := by
  have he := (show c.Ahead (r ++ []) by rwa [List.append_nil]).extract
  rw [rest, h.len_eq, he, String.toList_ofList]

theorem WellFormed.ahead_rest (h : c.WellFormed) : c.Ahead c.rest.toList := by
  obtain ⟨r, hr⟩ := wellFormed_iff_ahead.1 h
  rwa [hr.rest_toList]

end Cursor

namespace Parser

variable {σ α : Type} {s : σ} {c : Cursor} {r w : List Char}

def SucceedsWith (p : Parser σ α) (s : σ) (c : Cursor) (v : α) : Prop :=
  ∃ s' c', p.run s c = some ⟨s', c', .ok v⟩

/-- From a well-formed cursor `p` keeps the state and either fails where it stands or succeeds
with a value `v` whose text `text v` begins the remaining text, moving past exactly that text. -/
def ReadsText (p : Parser σ α) (text : α → List Char) : Prop :=
  ∀ s c, c.WellFormed → (∃ e, p.run s c = some ⟨s, c, .error e⟩) ∨
    ∃ v w, c.rest.toList = text v ++ w ∧
      p.run s c = some ⟨s, ⟨c.source, c.pos + utf8Len (text v)⟩, .ok v⟩

section Literal

variable {t : String}

theorem literal_run_of_begins (h : c.Ahead (t.toList ++ w)) :
    (literal t).run s c = some ⟨s, ⟨c.source, c.pos + utf8Len t.toList⟩, .ok t⟩ := by
  have hs : c.startsWith t = true := h.startsWith_iff.2 (List.prefix_append _ _)
  simp only [literal, hs, if_true, ← utf8Len_toList t, h.advance_eq]

theorem literal_run_of_not_begins (h : c.Ahead r) (hn : ¬t.toList <+: r) :
    (literal t).run s c = some ⟨s, c, .error (.new ("expected " ++ Quoted.quote t))⟩ := by
  have hs : c.startsWith t = false := by
    rw [Bool.eq_false_iff]
    exact fun ht => hn (h.startsWith_iff.1 ht)
  simp only [literal, hs, Bool.false_eq_true, if_false]

theorem readsText_literal (t : String) : ReadsText (literal t : Parser σ String) String.toList := by
  intro s c hc
  have h := hc.ahead_rest
  by_cases hp : t.toList <+: c.rest.toList
  · obtain ⟨w, hw⟩ := hp
    exact .inr ⟨t, w, hw.symm, literal_run_of_begins (hw ▸ h)⟩
  · exact .inl ⟨_, literal_run_of_not_begins h hp⟩

theorem literal_succeedsWith_iff {v : String} (h : c.Ahead r) :
    (literal t).SucceedsWith s c v ↔ v = t ∧ t.toList <+: r := by
  constructor
  · rintro ⟨s', c', hv⟩
    by_cases hp : t.toList <+: r
    · obtain ⟨w, rfl⟩ := hp
      rw [literal_run_of_begins h] at hv
      cases hv
      exact ⟨rfl, List.prefix_append _ _⟩
    · rw [literal_run_of_not_begins h hp] at hv
      cases hv
  · rintro ⟨rfl, w, rfl⟩
    exact ⟨_, _, literal_run_of_begins h⟩

end Literal

section Pattern

variable {m : Matcher}

theorem patternWith_run_of_match {u : List Char} (h : c.Ahead (u ++ w))
    (hm : m.matchLen c.source c.pos = some (utf8Len u)) :
    (patternWith m).run s c = some ⟨s, ⟨c.source, c.pos + utf8Len u⟩, .ok (String.ofList u)⟩ := by
  have hv : String.Pos.Raw.isValid c.source ⟨c.pos + utf8Len u⟩ = true :=
    String.Pos.Raw.isValid_eq_true_iff.2 h.skip.wellFormed
  simp only [patternWith, hm, hv, if_true, h.advance_eq, h.extract]

/-- A length that the matcher does not give, or that ends past the text or inside a character,
is no match. -/
theorem patternWith_run_of_no_match (h : c.Ahead r)
    (hm : ∀ u w, r = u ++ w → m.matchLen c.source c.pos ≠ some (utf8Len u)) :
    (patternWith m).run s c =
      some ⟨s, c, .error (.new ("expected input matching /" ++ m.name ++ "/"))⟩ := by
  simp only [patternWith]
  split
  · rename_i k hk
    have hv : String.Pos.Raw.isValid c.source ⟨c.pos + k⟩ = false := by
      rw [Bool.eq_false_iff]
      intro hv
      obtain ⟨u, w, hr, rfl⟩ := h.split_of_isValid (String.Pos.Raw.isValid_eq_true_iff.1 hv)
      exact hm u w hr hk
    simp only [hv, Bool.false_eq_true, if_false]
  · rfl

theorem readsText_patternWith (m : Matcher) :
    ReadsText (patternWith m : Parser σ String) String.toList := by
  intro s c hc
  have h := hc.ahead_rest
  by_cases hm : ∃ u w, c.rest.toList = u ++ w ∧ m.matchLen c.source c.pos = some (utf8Len u)
  · obtain ⟨u, w, hr, hk⟩ := hm
    refine .inr ⟨String.ofList u, w, by rw [String.toList_ofList, hr], ?_⟩
    rw [String.toList_ofList]
    exact patternWith_run_of_match (hr ▸ h) hk
  · exact .inl ⟨_, patternWith_run_of_no_match h fun u w hr hk => hm ⟨u, w, hr, hk⟩⟩

theorem patternWith_succeedsWith_iff {v : String} (h : c.Ahead r) :
    (patternWith m).SucceedsWith s c v ↔
      v.toList <+: r ∧ m.matchLen c.source c.pos = some (utf8Len v.toList) := by
  constructor
  · rintro ⟨s', c', hv⟩
    by_cases hm : ∃ u w, r = u ++ w ∧ m.matchLen c.source c.pos = some (utf8Len u)
    · obtain ⟨u, w, rfl, hk⟩ := hm
      rw [patternWith_run_of_match h hk] at hv
      cases hv
      rw [String.toList_ofList]
      exact ⟨List.prefix_append _ _, hk⟩
    · rw [patternWith_run_of_no_match h fun u w hr hk => hm ⟨u, w, hr, hk⟩] at hv
      cases hv
  · rintro ⟨⟨w, rfl⟩, hk⟩
    have := patternWith_run_of_match (s := s) h hk
    rw [String.ofList_toList] at this
    exact ⟨_, _, this⟩

end Pattern

section Characters

variable {pred : Char → Bool} {desc : String} {ch : Char}

theorem satisfy_run_of_cons (h : c.Ahead (ch :: r)) (hp : pred ch = true) :
    (satisfy pred desc).run s c = some ⟨s, ⟨c.source, c.pos + ch.utf8Size⟩, .ok ch⟩ := by
  simp only [satisfy, h.peek?, List.head?_cons, hp, if_true, h.advance_char]

theorem satisfy_run_of_stop (h : c.Ahead r) (hr : EndsRun pred r) :
    (satisfy pred desc).run s c = some ⟨s, c, .error (.new ("expected " ++ desc))⟩ := by
  simp only [satisfy, h.peek?]
  cases r with
  | nil => rfl
  | cons ch r' => simp only [List.head?_cons, hr ch r' rfl, Bool.false_eq_true, if_false]

theorem readsText_satisfy (pred : Char → Bool) (desc : String) :
    ReadsText (satisfy pred desc : Parser σ Char) fun ch => [ch] := by
  intro s c hc
  have h := hc.ahead_rest
  rcases hr : c.rest.toList with _ | ⟨ch, r'⟩
  · have h' : c.Ahead [] := hr ▸ h
    exact .inl ⟨_, satisfy_run_of_stop h' fun _ _ he => nomatch he⟩
  · have h' : c.Ahead (ch :: r') := hr ▸ h
    cases hp : pred ch
    · exact .inl ⟨_, satisfy_run_of_stop h' fun _ _ he => by cases he; exact hp⟩
    · refine .inr ⟨ch, r', rfl, ?_⟩
      rw [utf8Len_cons, utf8Len_nil, Nat.add_zero]
      exact satisfy_run_of_cons h' hp

theorem satisfy_succeedsWith_iff (h : c.Ahead r) :
    (satisfy pred desc).SucceedsWith s c ch ↔ r.head? = some ch ∧ pred ch = true := by
  constructor
  · rintro ⟨s', c', hv⟩
    cases r with
    | nil => rw [satisfy_run_of_stop h fun _ _ he => nomatch he] at hv; cases hv
    | cons x r' =>
      cases hp : pred x
      · rw [satisfy_run_of_stop h fun _ _ he => by cases he; exact hp] at hv
        cases hv
      · rw [satisfy_run_of_cons h hp] at hv
        cases hv
        exact ⟨rfl, hp⟩
  · rintro ⟨hr, hp⟩
    obtain ⟨r', rfl⟩ : ∃ r', r = ch :: r' := by
      cases r with
      | nil => cases hr
      | cons x r' => cases hr; exact ⟨r', rfl⟩
    exact ⟨_, _, satisfy_run_of_cons h hp⟩

theorem anyChar_run_of_cons (h : c.Ahead (ch :: r)) :
    (anyChar : Parser σ Char).run s c = some ⟨s, ⟨c.source, c.pos + ch.utf8Size⟩, .ok ch⟩ := by
  simp only [anyChar, h.peek?, List.head?_cons, h.advance_char]

theorem anyChar_run_of_nil (h : c.Ahead []) :
    (anyChar : Parser σ Char).run s c = some ⟨s, c, .error (.new "unexpected end of input")⟩ := by
  simp only [anyChar, h.peek?, List.head?_nil]

theorem readsText_anyChar : ReadsText (anyChar : Parser σ Char) fun ch => [ch] := by
  intro s c hc
  have h := hc.ahead_rest
  rcases hr : c.rest.toList with _ | ⟨ch, r'⟩
  · exact .inl ⟨_, anyChar_run_of_nil (hr ▸ h)⟩
  · refine .inr ⟨ch, r', rfl, ?_⟩
    rw [utf8Len_cons, utf8Len_nil, Nat.add_zero]
    exact anyChar_run_of_cons (hr ▸ h)

theorem anyChar_succeedsWith_iff (h : c.Ahead r) :
    (anyChar : Parser σ Char).SucceedsWith s c ch ↔ r.head? = some ch := by
  cases r with
  | nil =>
    refine ⟨fun ⟨_, _, hv⟩ => ?_, fun hv => nomatch hv⟩
    rw [anyChar_run_of_nil h] at hv
    cases hv
  | cons x r' =>
    simp only [SucceedsWith, anyChar_run_of_cons h, Option.some.injEq, Reply.mk.injEq,
      Except.ok.injEq, List.head?_cons]
    exact ⟨fun ⟨_, _, _, _, hv⟩ => hv, fun hv => ⟨_, _, rfl, rfl, hv⟩⟩

end Characters

section Runs

variable {pred : Char → Bool}

theorem takeWhile_run (pred : Char → Bool) (h : c.Ahead r) :
    (Parser.takeWhile pred : Parser σ String).run s c =
      some ⟨s, ⟨c.source, c.pos + utf8Len (r.takeWhile pred)⟩,
        .ok (String.ofList (r.takeWhile pred))⟩ := by
  have h' : c.Ahead (r.takeWhile pred ++ r.dropWhile pred) := by
    rwa [List.takeWhile_append_dropWhile]
  have hend : runEnd c.source pred c.pos = c.pos + utf8Len (r.takeWhile pred) := by
    obtain ⟨pre, hs, hp⟩ := h
    rw [hp]
    exact runEnd_of_split pred r pre hs
  simp only [Parser.takeWhile, hend, Nat.add_sub_cancel_left, h'.advance_eq, h'.extract]

theorem readsText_takeWhile (pred : Char → Bool) :
    ReadsText (Parser.takeWhile pred : Parser σ String) String.toList := by
  intro s c hc
  refine .inr ⟨String.ofList (c.rest.toList.takeWhile pred), c.rest.toList.dropWhile pred, ?_, ?_⟩
  · rw [String.toList_ofList, List.takeWhile_append_dropWhile]
  · rw [String.toList_ofList]
    exact takeWhile_run pred hc.ahead_rest

theorem takeWhile_succeedsWith_iff {v : String} (h : c.Ahead r) :
    (Parser.takeWhile pred : Parser σ String).SucceedsWith s c v ↔ LongestRun pred r v.toList := by
  rw [longestRun_iff]
  constructor
  · rintro ⟨s', c', hv⟩
    rw [takeWhile_run pred h] at hv
    cases hv
    exact String.toList_ofList
  · intro hv
    have := takeWhile_run (s := s) pred h
    rw [← hv, String.ofList_toList] at this
    exact ⟨_, _, this⟩

end Runs

/-- Each text primitive keeps the state and either fails where it stands or consumes exactly the
text it returns, which begins the remaining text; each succeeds exactly when its text is ahead. -/
theorem text_primitives_consume_what_they_return (m : Matcher) (pred : Char → Bool) (desc t : String) :
    ReadsText (literal t : Parser σ String) String.toList ∧
    ReadsText (patternWith m : Parser σ String) String.toList ∧
    ReadsText (satisfy pred desc : Parser σ Char) (fun ch => [ch]) ∧
    ReadsText (anyChar : Parser σ Char) (fun ch => [ch]) ∧
    ReadsText (Parser.takeWhile pred : Parser σ String) String.toList ∧
    ReadsText (whitespace : Parser σ String) String.toList ∧
    ∀ (s : σ) (c : Cursor), c.WellFormed →
      (∀ v, (literal t).SucceedsWith s c v ↔ v = t ∧ t.toList <+: c.rest.toList) ∧
      (∀ v, (patternWith m).SucceedsWith s c v ↔
        v.toList <+: c.rest.toList ∧ m.matchLen c.source c.pos = some (utf8Len v.toList)) ∧
      ((∀ k, m.matchLen c.source c.pos = some k → ∃ u w, c.rest.toList = u ++ w ∧ k = utf8Len u) →
        ((∃ v, (patternWith m).SucceedsWith s c v) ↔ (m.matchLen c.source c.pos).isSome)) ∧
      (∀ ch, (satisfy pred desc).SucceedsWith s c ch ↔
        c.rest.toList.head? = some ch ∧ pred ch = true) ∧
      (∀ ch, anyChar.SucceedsWith s c ch ↔ c.rest.toList.head? = some ch) ∧
      (∀ v, (Parser.takeWhile pred).SucceedsWith s c v ↔ LongestRun pred c.rest.toList v.toList) ∧
      (∀ v, whitespace.SucceedsWith s c v ↔ LongestRun isBlank c.rest.toList v.toList) := by
  refine ⟨readsText_literal t, readsText_patternWith m, readsText_satisfy pred desc, readsText_anyChar,
    readsText_takeWhile pred, readsText_takeWhile isBlank, fun s c hc => ?_⟩
  have h := hc.ahead_rest
  refine ⟨fun v => literal_succeedsWith_iff h, fun v => patternWith_succeedsWith_iff h,
    fun hb => ?_, fun ch => satisfy_succeedsWith_iff h, fun ch => anyChar_succeedsWith_iff h,
    fun v => takeWhile_succeedsWith_iff h, fun v => takeWhile_succeedsWith_iff h⟩
  -- a reported length that ends on a boundary within the text is a match
  constructor
  · rintro ⟨v, hv⟩
    rw [(patternWith_succeedsWith_iff h).1 hv |>.2]
    rfl
  · intro hk
    obtain ⟨k, hk⟩ := Option.isSome_iff_exists.1 hk
    obtain ⟨u, w, hr, rfl⟩ := hb k hk
    exact ⟨String.ofList u, (patternWith_succeedsWith_iff h).2
      ⟨by rw [String.toList_ofList, hr]; exact List.prefix_append _ _, by rwa [String.toList_ofList]⟩⟩

/-- After `h` in `héllo`, a run of letters reads the two-byte `é` and the rest of the word. -/
theorem takeWhile_reads_multibyte_run :
    (⟨"héllo", 1⟩ : Cursor).WellFormed ∧
      ∀ v, (Parser.takeWhile Char.isAlpha : Parser Unit String).SucceedsWith () ⟨"héllo", 1⟩ v ↔
        LongestRun Char.isAlpha (⟨"héllo", 1⟩ : Cursor).rest.toList v.toList :=
  have hc : (⟨"héllo", 1⟩ : Cursor).WellFormed := show String.Pos.Raw.IsValid _ _ by decide
  ⟨hc, ((text_primitives_consume_what_they_return (σ := Unit) ⟨"", fun _ _ => none⟩ Char.isAlpha
    "" "").2.2.2.2.2.2 () _ hc).2.2.2.2.2.1⟩

end Parser

end Descent
