import Descent.Text.Primitive
/-! Character boundaries in the list view. A byte offset of a text is a boundary exactly when the
characters split there, `s.toList = pre ++ rest` with the offset the width of `pre`. Reading a
character, a literal or a run of characters from a boundary ends on a boundary again, which is
what keeps every cursor that a parser returns well formed. -/

namespace Descent

@[simp] theorem utf8Len_nil : utf8Len [] = 0 := rfl

@[simp] theorem utf8Len_cons (c : Char) (cs : List Char) : utf8Len (c :: cs) = c.utf8Size + utf8Len cs :=
  rfl

@[simp] theorem utf8Len_append (l m : List Char) : utf8Len (l ++ m) = utf8Len l + utf8Len m := by
  induction l with
  | nil => simp
  | cons c cs ih => simp [ih, Nat.add_assoc]

theorem utf8ByteSize_ofList (l : List Char) : (String.ofList l).utf8ByteSize = utf8Len l := by
  induction l with
  | nil => rfl
  | cons c cs ih => rw [String.ofList_cons, String.utf8ByteSize_append, String.utf8ByteSize_singleton, ih]; rfl

@[simp] theorem utf8Len_toList (s : String) : utf8Len s.toList = s.utf8ByteSize := by
  rw [← utf8ByteSize_ofList, String.ofList_toList]

/-- Offsets that are boundaries are the widths of the prefixes of the text. -/
theorem isValid_iff_split {s : String} {p : Nat} :
    String.Pos.Raw.IsValid s ⟨p⟩ ↔ ∃ pre rest, s.toList = pre ++ rest ∧ p = utf8Len pre := by
  rw [String.Pos.Raw.isValid_iff_exists_take_toList]
  constructor
  · rintro ⟨i, hi⟩
    refine ⟨s.toList.take i, s.toList.drop i, (List.take_append_drop i _).symm, ?_⟩
    simpa [utf8ByteSize_ofList] using hi
  · rintro ⟨pre, rest, hs, rfl⟩
    refine ⟨pre.length, ?_⟩
    simp [hs, utf8ByteSize_ofList]

theorem isValid_of_split {s : String} {pre rest : List Char} (h : s.toList = pre ++ rest) :
    String.Pos.Raw.IsValid s ⟨utf8Len pre⟩ :=
  isValid_iff_split.2 ⟨pre, rest, h, rfl⟩

/-- A character is found only where the characters before it end. -/
theorem utf8GetAux?_split {ch : Char} :
    ∀ (l : List Char) (k p : Nat), String.Pos.Raw.utf8GetAux? l ⟨k⟩ ⟨p⟩ = some ch →
      ∃ pre rest, l = pre ++ ch :: rest ∧ p = k + utf8Len pre
  | [], _, _, h => by
    change none = some ch at h
    cases h
  | c :: cs, k, p, h => by
    change (if (⟨k⟩ : String.Pos.Raw) = ⟨p⟩ then some c
      else String.Pos.Raw.utf8GetAux? cs ⟨k + c.utf8Size⟩ ⟨p⟩) = some ch at h
    split at h
    · rename_i hk
      cases h
      exact ⟨[], cs, rfl, by simpa using (congrArg String.Pos.Raw.byteIdx hk).symm⟩
    · obtain ⟨pre, rest, rfl, rfl⟩ := utf8GetAux?_split cs (k + c.utf8Size) p h
      exact ⟨c :: pre, rest, rfl, by simp [Nat.add_assoc]⟩

theorem get?_split {s : String} {p : Nat} {ch : Char} (h : String.Pos.Raw.get? s ⟨p⟩ = some ch) :
    ∃ pre rest, s.toList = pre ++ ch :: rest ∧ p = utf8Len pre := by
  obtain ⟨pre, rest, hs, hp⟩ := utf8GetAux?_split s.toList 0 p h
  exact ⟨pre, rest, hs, by simpa using hp⟩

/-- After a character read at an offset, the next offset is a boundary. -/
theorem isValid_add_of_get? {s : String} {p : Nat} {ch : Char}
    (h : String.Pos.Raw.get? s ⟨p⟩ = some ch) : String.Pos.Raw.IsValid s ⟨p + ch.utf8Size⟩ := by
  obtain ⟨pre, rest, hs, rfl⟩ := get?_split h
  have := @isValid_of_split s (pre ++ [ch]) rest (by simp [hs])
  simpa using this

/-- A literal that occurs at a boundary ends on a boundary. -/
theorem isValid_of_occursAt {s : String} :
    ∀ (t : List Char) (p : Nat), Cursor.occursAt s p t = true → String.Pos.Raw.IsValid s ⟨p⟩ →
      String.Pos.Raw.IsValid s ⟨p + utf8Len t⟩
  | [], p, _, hp => by simpa using hp
  | ch :: t, p, h, _ => by
    simp only [Cursor.occursAt, Bool.and_eq_true, beq_iff_eq] at h
    have hnext := isValid_add_of_get? h.1
    simpa [Nat.add_assoc] using isValid_of_occursAt t (p + ch.utf8Size) h.2 hnext

/-- A run of characters that starts on a boundary ends on one, never before its start. -/
theorem runEnd_spec (s : String) (pred : Char → Bool) (p : Nat) (hp : String.Pos.Raw.IsValid s ⟨p⟩) :
    p ≤ Parser.runEnd s pred p ∧ String.Pos.Raw.IsValid s ⟨Parser.runEnd s pred p⟩ := by
  induction p using Parser.runEnd.induct s pred with
  | case1 p hlt ch hch hpred ih =>
    rw [Parser.runEnd, dif_pos hlt, hch]
    simp only [hpred, if_true]
    obtain ⟨hle, hv⟩ := ih (isValid_add_of_get? hch)
    exact ⟨by omega, hv⟩
  | case2 p hlt ch hch hpred =>
    rw [Parser.runEnd, dif_pos hlt, hch]
    simp only [hpred]
    exact ⟨Nat.le_refl _, hp⟩
  | case3 p hlt hch =>
    rw [Parser.runEnd, dif_pos hlt, hch]
    exact ⟨Nat.le_refl _, hp⟩
  | case4 p hge =>
    rw [Parser.runEnd, dif_neg hge]
    exact ⟨Nat.le_refl _, hp⟩

end Descent
