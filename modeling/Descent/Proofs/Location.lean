import Descent.Proofs.Joined
/-! Lines and columns, read off the bytes of the source. The reference reading counts the newline
bytes before an offset for the line, puts the line start one past the last of them, and cuts the
line text from there up to the next newline byte. `locate` walks the characters instead, stopping
at the first one that starts at or after the offset, and reads the line text as characters from
the line start. `locate_locates` says that the two readings agree at every offset of every text,
inside a character and past the end included. -/

namespace Descent

def utf8Bytes (s : String) : List UInt8 := s.toUTF8.data.toList

def encodeChars (l : List Char) : List UInt8 := l.flatMap String.utf8EncodeChar

/-- One past the last newline byte of `bs`, or `0` when it has none: the length of `bs` without
its trailing run of other bytes. -/
def afterLastNewline (bs : List UInt8) : Nat :=
  bs.length - (bs.reverse.takeWhile (· ≠ 10)).length

namespace Location

/-- The line start of byte `p`: one past the last newline byte before `p`, or `0`. -/
def lineStart (bs : List UInt8) (p : Nat) : Nat := afterLastNewline (bs.take p)

/-- The end of the line that starts at `ls`: its first newline byte at or after `ls`, or the end
of the bytes. -/
def lineEnd (bs : List UInt8) (ls : Nat) : Nat := ls + ((bs.drop ls).takeWhile (· ≠ 10)).length

/-- `l` is the location of byte `p` of `bs`: one more than the newline bytes before `p`, the column
from the line start, and the bytes from the line start to the line end, or nothing at the end. -/
structure Locates (bs : List UInt8) (p : Nat) (l : Location) : Prop where
  line_eq : l.line = (bs.take p).count 10 + 1
  column_eq : l.column = p - lineStart bs p + 1
  sourceLine_eq : utf8Bytes l.sourceLine =
    if bs.length ≤ p then []
    else (bs.drop (lineStart bs p)).take (lineEnd bs (lineStart bs p) - lineStart bs p)

end Location

section Encoding

theorem ne_newline_of_not_mem {bs : List UInt8} (h : (10 : UInt8) ∉ bs) :
    ∀ b ∈ bs, decide (b ≠ 10) = true :=
  fun _ hb => decide_eq_true fun h10 => h (h10 ▸ hb)

theorem newline_not_mem_takeWhile (bs : List UInt8) : (10 : UInt8) ∉ bs.takeWhile (· ≠ 10) :=
  fun h => by simpa using List.all_eq_true.1 (List.all_takeWhile (p := (· ≠ (10 : UInt8))) (l := bs)) _ h

@[simp] theorem encodeChars_nil : encodeChars [] = [] := rfl

@[simp] theorem encodeChars_cons (ch : Char) (l : List Char) :
    encodeChars (ch :: l) = String.utf8EncodeChar ch ++ encodeChars l := by
  simp [encodeChars]

@[simp] theorem encodeChars_append (l m : List Char) :
    encodeChars (l ++ m) = encodeChars l ++ encodeChars m := by
  simp [encodeChars]

@[simp] theorem length_encodeChars (l : List Char) : (encodeChars l).length = utf8Len l := by
  induction l with
  | nil => rfl
  | cons ch l ih => simp [ih, String.length_utf8EncodeChar]

theorem utf8Bytes_eq (s : String) : utf8Bytes s = encodeChars s.toList := by
  rw [utf8Bytes, String.toUTF8_eq_toByteArray, ← String.utf8Encode_toList]
  exact List.toList_data_toByteArray

@[simp] theorem utf8Bytes_ofList (l : List Char) : utf8Bytes (String.ofList l) = encodeChars l := by
  rw [utf8Bytes_eq, String.toList_ofList]

theorem length_utf8Bytes (s : String) : (utf8Bytes s).length = s.utf8ByteSize := by
  rw [utf8Bytes_eq, length_encodeChars, utf8Len_toList]

/-- The newline byte stands only for the newline: every byte of a longer encoding is at least
`128`. -/
theorem newline_mem_utf8EncodeChar {ch : Char} :
    (10 : UInt8) ∈ String.utf8EncodeChar ch ↔ ch = '\n' := by
  have hten : ∀ n, n < 256 → ((10 : UInt8) = UInt8.ofNat n ↔ n = 10) := by
    intro n hn
    constructor
    · intro h
      have := congrArg UInt8.toNat h
      rw [UInt8.toNat_ofNat] at this
      change 10 = n % 256 at this
      omega
    · rintro rfl
      rfl
  have hnl : ch = '\n' ↔ ch.val.toNat = 10 := by
    rw [Char.ext_iff, ← UInt32.toNat_inj]
    rfl
  rw [hnl]
  simp only [String.utf8EncodeChar]
  split_ifs
  · rw [List.mem_singleton, hten _ (by omega)]
  all_goals
    simp (disch := omega) only [List.mem_cons, List.not_mem_nil, or_false, hten]
    omega

theorem newline_mem_encodeChars {l : List Char} : (10 : UInt8) ∈ encodeChars l ↔ '\n' ∈ l := by
  simp [encodeChars, newline_mem_utf8EncodeChar]

theorem encodeChars_takeWhile (l : List Char) :
    encodeChars (l.takeWhile (· ≠ '\n')) = (encodeChars l).takeWhile (· ≠ 10) := by
  induction l with
  | nil => rfl
  | cons ch l ih =>
    by_cases hch : ch = '\n'
    · subst hch
      rfl
    · rw [List.takeWhile_cons_of_pos (by simpa using hch), encodeChars_cons, encodeChars_cons, ih,
        List.takeWhile_append_of_pos
          (ne_newline_of_not_mem fun h => hch (newline_mem_utf8EncodeChar.1 h))]

theorem dropBytes_utf8Len (pre rest : List Char) : dropBytes (utf8Len pre) (pre ++ rest) = some rest := by
  induction pre with
  | nil => rw [utf8Len_nil, List.nil_append, dropBytes]
  | cons ch pre ih =>
    have hsize := Char.utf8Size_pos ch
    obtain ⟨k, hk⟩ : ∃ k, utf8Len (ch :: pre) = k + 1 := ⟨ch.utf8Size + utf8Len pre - 1, by simp; omega⟩
    rw [utf8Len_cons] at hk
    rw [utf8Len_cons, hk, List.cons_append, dropBytes, if_pos (by omega),
      show k + 1 - ch.utf8Size = utf8Len pre by omega, ih]

end Encoding

section LastNewline

theorem afterLastNewline_le (bs : List UInt8) : afterLastNewline bs ≤ bs.length := Nat.sub_le _ _

theorem afterLastNewline_eq {bs front back : List UInt8} (h : bs = front ++ back)
    (hfront : front = [] ∨ front.getLast? = some 10) (hback : (10 : UInt8) ∉ back) :
    afterLastNewline bs = front.length := by
  have hall := ne_newline_of_not_mem (mt List.mem_reverse.1 hback)
  -- read backwards, the run without newlines is `back` and stops at the newline ending `front`
  have hstop : front.reverse.takeWhile (· ≠ 10) = [] := by
    rcases hfront with rfl | hlast
    · rfl
    · obtain ⟨front', rfl⟩ : ∃ front', front = front' ++ [10] :=
        ⟨front.dropLast, (List.dropLast_append_getLast? _ hlast).symm⟩
      simp
  rw [afterLastNewline, h, List.reverse_append, List.takeWhile_append_of_pos hall, hstop]
  simp

theorem afterLastNewline_split (bs : List UInt8) :
    ∃ front back, bs = front ++ back ∧ (front = [] ∨ front.getLast? = some 10) ∧
      (10 : UInt8) ∉ back ∧ afterLastNewline bs = front.length := by
  refine ⟨(bs.reverse.dropWhile (· ≠ 10)).reverse, (bs.reverse.takeWhile (· ≠ 10)).reverse,
    ?_, ?_, ?_, ?_⟩
  · rw [← List.reverse_append, List.takeWhile_append_dropWhile, List.reverse_reverse]
  · rw [List.getLast?_reverse]
    by_cases hd : bs.reverse.dropWhile (· ≠ 10) = []
    · left
      rw [hd]
      rfl
    · right
      rw [List.head?_eq_some_head hd]
      simpa using List.head_dropWhile_not _ hd
  · exact mt List.mem_reverse.1 (newline_not_mem_takeWhile _)
  · have := congrArg List.length (List.takeWhile_append_dropWhile (p := (· ≠ 10)) (l := bs.reverse))
    rw [List.length_append, List.length_reverse] at this
    rw [afterLastNewline, List.length_reverse]
    omega

theorem afterLastNewline_of_not_mem {bs : List UInt8} (h : (10 : UInt8) ∉ bs) : afterLastNewline bs = 0 :=
  afterLastNewline_eq (List.nil_append bs).symm (.inl rfl) h

theorem afterLastNewline_append (a b : List UInt8) :
    afterLastNewline (a ++ b) =
      if (10 : UInt8) ∈ b then a.length + afterLastNewline b else afterLastNewline a := by
  split_ifs with hb
  · obtain ⟨front, back, rfl, hfront, hback, hlen⟩ := afterLastNewline_split b
    have hne : front ≠ [] := by
      rintro rfl
      exact hback (by simpa using hb)
    rw [hlen, ← List.length_append, ← List.append_assoc]
    refine afterLastNewline_eq rfl (.inr ?_) hback
    rcases hfront with rfl | hlast
    · exact absurd rfl hne
    · rw [List.getLast?_append, hlast]
      rfl
  · obtain ⟨front, back, rfl, hfront, hback, hlen⟩ := afterLastNewline_split a
    rw [hlen, List.append_assoc]
    refine afterLastNewline_eq rfl hfront ?_
    simp [hback, hb]

theorem afterLastNewline_newline_cons (bs : List UInt8) :
    afterLastNewline (10 :: bs) = if (10 : UInt8) ∈ bs then 1 + afterLastNewline bs else 1 := by
  rw [← List.singleton_append, afterLastNewline_append]
  split_ifs
  · rfl
  · exact afterLastNewline_eq (List.append_nil [10]).symm (.inr rfl) List.not_mem_nil

end LastNewline

namespace Location

variable {bs : List UInt8} {p q : Nat} {l l' : Location}

theorem lineStart_le (bs : List UInt8) (p : Nat) : lineStart bs p ≤ p :=
  Nat.le_trans (afterLastNewline_le _) (List.length_take_le _ _)

theorem newline_not_mem_lineStart (bs : List UInt8) (p : Nat) :
    (10 : UInt8) ∉ (bs.drop (lineStart bs p)).take (p - lineStart bs p) := by
  obtain ⟨front, back, hT, -, hback, hls⟩ := afterLastNewline_split (bs.take p)
  rw [← List.drop_take, lineStart, hls, hT, List.drop_left]
  exact hback

theorem lineStart_after_newline (bs : List UInt8) (p : Nat) :
    lineStart bs p = 0 ∨ bs[lineStart bs p - 1]? = some 10 := by
  obtain ⟨front, back, hT, hfront, -, hls⟩ := afterLastNewline_split (bs.take p)
  have hle : front.length ≤ p := by
    have := lineStart_le bs p
    rwa [lineStart, hls] at this
  rcases hfront with rfl | hlast
  · exact .inl (by rw [lineStart, hls]; rfl)
  · have hpos : 0 < front.length := List.length_pos_of_ne_nil (by rintro rfl; cases hlast)
    right
    rw [lineStart, hls, ← List.getElem?_take_of_lt (show front.length - 1 < p by omega), hT,
      List.getElem?_append_left (by omega), ← List.getLast?_eq_getElem?]
    exact hlast

theorem take_lineEnd (bs : List UInt8) (ls : Nat) :
    (bs.drop ls).take (lineEnd bs ls - ls) = (bs.drop ls).takeWhile (· ≠ 10) := by
  rw [lineEnd, Nat.add_sub_cancel_left]
  exact (List.prefix_iff_eq_take.1 (List.takeWhile_prefix _)).symm

theorem le_lineEnd (h : p ≤ bs.length) : p ≤ lineEnd bs (lineStart bs p) := by
  have hls := lineStart_le bs p
  have hlen : ((bs.drop (lineStart bs p)).take (p - lineStart bs p)).length = p - lineStart bs p := by
    rw [List.length_take, List.length_drop]
    omega
  rw [lineEnd, ← List.take_append_drop (p - lineStart bs p) (bs.drop (lineStart bs p)),
    List.takeWhile_append_of_pos (ne_newline_of_not_mem (newline_not_mem_lineStart bs p)),
    List.length_append, hlen]
  omega

theorem lineStart_eq_of_count_eq (hpq : p ≤ q) (h : (bs.take p).count 10 = (bs.take q).count 10) :
    lineStart bs q = lineStart bs p := by
  obtain ⟨k, rfl⟩ := Nat.exists_eq_add_of_le hpq
  rw [List.take_add, List.count_append] at h
  have hmid : (10 : UInt8) ∉ (bs.drop p).take k := List.count_eq_zero.1 (by omega)
  rw [lineStart, List.take_add, afterLastNewline_append, if_neg hmid]
  rfl

theorem Locates.one_le_column (h : Locates bs p l) : 1 ≤ l.column := by
  rw [h.column_eq]
  omega

theorem Locates.pos_eq (h : Locates bs p l) : p = lineStart bs p + l.column - 1 := by
  have := lineStart_le bs p
  rw [h.column_eq]
  omega

theorem Locates.newline_not_mem_sourceLine (h : Locates bs p l) : '\n' ∉ l.sourceLine.toList := by
  intro hn
  have h10 : (10 : UInt8) ∈ utf8Bytes l.sourceLine := by
    rw [utf8Bytes_eq]
    exact newline_mem_encodeChars.2 hn
  rw [h.sourceLine_eq] at h10
  split at h10
  · exact List.not_mem_nil h10
  · rw [take_lineEnd] at h10
    exact newline_not_mem_takeWhile _ h10

theorem Locates.pos_eq_of_le (hpq : p ≤ q) (h : Locates bs p l) (h' : Locates bs q l')
    (hline : l.line = l'.line) (hcol : l.column = l'.column) : p = q := by
  have hcount : (bs.take p).count 10 = (bs.take q).count 10 := by
    have := h.line_eq
    have := h'.line_eq
    omega
  have hls := lineStart_eq_of_count_eq hpq hcount
  have := lineStart_le bs p
  rw [h.column_eq, h'.column_eq, hls] at hcol
  omega

theorem Locates.pos_eq_of_line_column (h : Locates bs p l) (h' : Locates bs q l')
    (hline : l.line = l'.line) (hcol : l.column = l'.column) : p = q := by
  rcases Nat.le_total p q with hpq | hqp
  · exact h.pos_eq_of_le hpq h' hline hcol
  · exact (h'.pos_eq_of_le hqp h hline.symm hcol.symm).symm

end Location

namespace Cursor

/-- The scan counts the newline bytes among the first `p - i` bytes of the characters `cs`, which
start at byte `i`, and moves the line start one past the last of them. -/
theorem scanLines_eq (p : Nat) (cs : List Char) (i line start : Nat) :
    scanLines p cs i (line, start) =
      (line + ((encodeChars cs).take (p - i)).count 10,
        if (10 : UInt8) ∈ (encodeChars cs).take (p - i)
        then i + afterLastNewline ((encodeChars cs).take (p - i)) else start) := by
  induction cs generalizing i line start with
  | nil => simp [scanLines]
  | cons ch cs ih =>
    by_cases hp : p ≤ i
    · rw [scanLines, if_pos hp, Nat.sub_eq_zero_of_le hp]
      simp
    by_cases hch : ch = '\n'
    · subst hch
      have ht : (encodeChars ('\n' :: cs)).take (p - i) = 10 :: (encodeChars cs).take (p - (i + 1)) := by
        obtain ⟨k, hk⟩ : ∃ k, p - i = k + 1 := ⟨p - i - 1, by omega⟩
        rw [hk, encodeChars_cons, show String.utf8EncodeChar '\n' = [10] by decide, List.singleton_append,
          List.take_succ_cons, show p - (i + 1) = k by omega]
      rw [scanLines, if_neg hp, if_pos rfl, ih, ht, List.count_cons_self, afterLastNewline_newline_cons]
      by_cases h10 : (10 : UInt8) ∈ (encodeChars cs).take (p - (i + 1))
      · simp only [h10, if_true, List.mem_cons, true_or]
        congr 1 <;> omega
      · simp only [h10, if_false, List.mem_cons, true_or, if_true]
        congr 1
        omega
    · have hno : (10 : UInt8) ∉ (String.utf8EncodeChar ch).take (p - i) :=
        fun h => hch (newline_mem_utf8EncodeChar.1 (List.mem_of_mem_take h))
      rw [scanLines, if_neg hp, if_neg hch, ih, encodeChars_cons, List.take_append,
        String.length_utf8EncodeChar, Nat.sub_sub, List.count_append, List.count_eq_zero.2 hno,
        afterLastNewline_append, Nat.zero_add]
      by_cases h10 : (10 : UInt8) ∈ (encodeChars cs).take (p - (i + ch.utf8Size))
      · -- a newline after this character: the whole character lies before `p`
        have hfits : ch.utf8Size ≤ p - i := by
          by_contra hlt
          rw [show p - (i + ch.utf8Size) = 0 by omega] at h10
          simp at h10
        rw [List.take_of_length_le (l := String.utf8EncodeChar ch)
          (by rw [String.length_utf8EncodeChar]; exact hfits)]
        simp only [h10, if_true, List.mem_append, or_true, String.length_utf8EncodeChar,
          Nat.add_assoc]
      · simp [h10, hno]

theorem scanLines_from_start (p : Nat) (cs : List Char) :
    scanLines p cs 0 (1, 0) =
      (((encodeChars cs).take p).count 10 + 1, afterLastNewline ((encodeChars cs).take p)) := by
  rw [scanLines_eq, Nat.sub_zero, Nat.add_comm 1]
  split_ifs with h
  · rw [Nat.zero_add]
  · rw [afterLastNewline_of_not_mem h]

theorem scanLines_snd_split (p : Nat) (cs : List Char) (i line start : Nat) :
    (scanLines p cs i (line, start)).2 = start ∨
      ∃ pre rest, cs = pre ++ rest ∧ (scanLines p cs i (line, start)).2 = i + utf8Len pre := by
  induction cs generalizing i line start with
  | nil => exact .inl rfl
  | cons ch cs ih =>
    rw [scanLines]
    split_ifs with hp hch
    · exact .inl rfl
    · subst hch
      rcases ih (i + 1) (line + 1) (i + 1) with h | ⟨pre, rest, rfl, h⟩
      · exact .inr ⟨['\n'], cs, rfl, by rw [h]; rfl⟩
      · exact .inr ⟨'\n' :: pre, rest, rfl, by rw [h, utf8Len_cons, show '\n'.utf8Size = 1 from rfl]; omega⟩
    · rcases ih (i + ch.utf8Size) line start with h | ⟨pre, rest, rfl, h⟩
      · exact .inl h
      · exact .inr ⟨ch :: pre, rest, rfl, by rw [h, utf8Len_cons]; omega⟩

/-- The location of every cursor is the reference reading of its offset in the bytes of its
source. -/
theorem locate_locates (c : Cursor) : Location.Locates (utf8Bytes c.source) c.pos c.locate := by
  have hscan := scanLines_from_start c.pos c.source.toList
  rw [← utf8Bytes_eq] at hscan
  -- the line start is a character boundary: the characters split there
  obtain ⟨pre, rest, hcs, hstart⟩ : ∃ pre rest, c.source.toList = pre ++ rest ∧
      afterLastNewline ((utf8Bytes c.source).take c.pos) = utf8Len pre := by
    rcases scanLines_snd_split c.pos c.source.toList 0 1 0 with h | ⟨pre, rest, hcs, h⟩
    · exact ⟨[], c.source.toList, rfl, by rw [hscan] at h; exact h⟩
    · exact ⟨pre, rest, hcs, by rw [hscan, Nat.zero_add] at h; exact h⟩
  have hline : (utf8Bytes c.source).drop (utf8Len pre) = encodeChars rest := by
    rw [utf8Bytes_eq, hcs, encodeChars_append]
    exact List.drop_left' (length_encodeChars pre)
  have heos : c.eos = decide ((utf8Bytes c.source).length ≤ c.pos) := by
    rw [length_utf8Bytes]
    rfl
  unfold locate
  dsimp only
  rw [hscan, heos]
  constructor
  · split <;> rfl
  · split <;> rfl
  · rw [Location.lineStart, hstart]
    by_cases hend : (utf8Bytes c.source).length ≤ c.pos
    · rw [if_pos (decide_eq_true hend), if_pos hend]
      rfl
    · rw [if_neg (by simpa using hend), if_neg hend]
      dsimp only
      rw [hcs, dropBytes_utf8Len, Option.getD_some, utf8Bytes_ofList, encodeChars_takeWhile, ← hline,
        Location.take_lineEnd]

theorem pos_eq_of_locate {c c' : Cursor} (hs : c.source = c'.source)
    (hline : c.locate.line = c'.locate.line) (hcol : c.locate.column = c'.locate.column) :
    c.pos = c'.pos := by
  have h' := locate_locates c'
  rw [← hs] at h'
  exact (locate_locates c).pos_eq_of_line_column h' hline hcol

end Cursor

namespace Reply

theorem finish_of_error {σ α : Type} {r : Reply σ α} {e : ParseError} (h : r.outcome = .error e) :
    r.finish = .error (Failure.ofCursor r.cursor e) := by
  rw [finish, h]

end Reply

namespace Failure

/-- The caret of a failure report stands past the gutter by the offset of the position in its
line: the column is at least one, so taking one off it loses nothing. -/
theorem display_caret (c : Cursor) (e : ParseError) :
    ∃ head, (ofCursor c e).display = head ++ String.ofList (List.replicate
      ((ofCursor c e).gutter.length + (c.pos - Location.lineStart (utf8Bytes c.source) c.pos)) ' ') ++
      "^--- here\n" := by
  have hoffset : (ofCursor c e).gutter.length + (ofCursor c e).location.column - 1 =
      (ofCursor c e).gutter.length + (c.pos - Location.lineStart (utf8Bytes c.source) c.pos) := by
    change _ + c.locate.column - 1 = _
    rw [(Cursor.locate_locates c).column_eq]
    omega
  -- the equation lemma of `display` is slow to build; unfolding it is not
  unfold display
  rw [hoffset]
  exact ⟨_, rfl⟩

end Failure

/-- `locate` gives the reference location of every offset up to the end of a text, with its
consequences, and a failure report shows that location and a caret that never underflows. -/
theorem locate_matches_reference :
    (∀ (s : String) (p : Nat), p ≤ s.utf8ByteSize →
      Location.Locates (utf8Bytes s) p ((Cursor.new s).advance p).locate) ∧
    (∀ (bs : List UInt8) (p : Nat) (l : Location), p ≤ bs.length → Location.Locates bs p l →
      1 ≤ l.column ∧
      (Location.lineStart bs p = 0 ∨ bs[Location.lineStart bs p - 1]? = some 10) ∧
      (10 : UInt8) ∉ (bs.drop (Location.lineStart bs p)).take (p - Location.lineStart bs p) ∧
      Location.lineStart bs p ≤ p ∧ p ≤ Location.lineEnd bs (Location.lineStart bs p) ∧
      '\n' ∉ l.sourceLine.toList ∧ p = Location.lineStart bs p + l.column - 1) ∧
    (∀ c c' : Cursor, c.source = c'.source → c.locate.line = c'.locate.line →
      c.locate.column = c'.locate.column → c.pos = c'.pos) ∧
    (∀ (σ α : Type) (r : Reply σ α) (e : ParseError), r.outcome = .error e →
      ∃ f, r.finish = .error f ∧ f.location = r.cursor.locate ∧
        Location.Locates (utf8Bytes r.cursor.source) r.cursor.pos f.location ∧
        f.position = r.cursor.pos ∧ f.error = e ∧
        ∃ head, f.display = head ++ String.ofList (List.replicate
          (f.gutter.length + (r.cursor.pos - Location.lineStart (utf8Bytes r.cursor.source) r.cursor.pos))
          ' ') ++ "^--- here\n") := by
  refine ⟨fun s p hp => ?_, fun bs p l hp h => ?_,
    fun c c' hs hline hcol => Cursor.pos_eq_of_locate hs hline hcol,
    fun σ α r e he => ⟨_, Reply.finish_of_error he, rfl, Cursor.locate_locates _, rfl, rfl,
      Failure.display_caret _ _⟩⟩
  · -- a fresh cursor moved by at most the length of its text is not clamped
    have hc : (Cursor.new s).advance p = ⟨s, p⟩ := by
      show (⟨s, min (0 + p) s.utf8ByteSize⟩ : Cursor) = ⟨s, p⟩
      rw [Nat.zero_add, Nat.min_eq_left hp]
    rw [hc]
    exact Cursor.locate_locates ⟨s, p⟩
  · exact ⟨h.one_le_column, Location.lineStart_after_newline bs p, Location.newline_not_mem_lineStart bs p,
      Location.lineStart_le bs p, Location.le_lineEnd hp, h.newline_not_mem_sourceLine, h.pos_eq⟩

/-- On `ab`, newline, newline, `cd`, offset 3 is on the empty second line: line 2, column 1. -/
theorem locate_on_empty_line :
    ((Cursor.new "ab\n\ncd").advance 3).locate = ⟨2, 1, ""⟩ ∧
      Location.Locates (utf8Bytes "ab\n\ncd") 3 ⟨2, 1, ""⟩ ∧
      3 ≤ Location.lineEnd (utf8Bytes "ab\n\ncd") (Location.lineStart (utf8Bytes "ab\n\ncd") 3) ∧
      (⟨"ab\n\ncd", 3⟩ : Cursor).pos = ((Cursor.new "ab\n\ncd").advance 3).pos ∧
      ∃ f, (⟨(), ⟨"ab\n\ncd", 3⟩, .error (.new "x")⟩ : Reply Unit Unit).finish = .error f ∧
        f.location = ⟨2, 1, ""⟩ := by
  have hloc : ((Cursor.new "ab\n\ncd").advance 3).locate = ⟨2, 1, ""⟩ := by decide
  have hloc' : (⟨"ab\n\ncd", 3⟩ : Cursor).locate = ⟨2, 1, ""⟩ := by decide
  have hlen : 3 ≤ "ab\n\ncd".utf8ByteSize := by decide
  have hl := locate_matches_reference.1 "ab\n\ncd" 3 hlen
  rw [hloc] at hl
  have hbs : 3 ≤ (utf8Bytes "ab\n\ncd").length := by
    rw [length_utf8Bytes]
    exact hlen
  obtain ⟨f, hf, hfl, -⟩ := locate_matches_reference.2.2.2 Unit Unit
    ⟨(), ⟨"ab\n\ncd", 3⟩, .error (.new "x")⟩ (.new "x") rfl
  exact ⟨hloc, hl, (locate_matches_reference.2.1 _ 3 _ hbs hl).2.2.2.2.1,
    locate_matches_reference.2.2.1 _ _ rfl (by rw [hloc', hloc]) (by rw [hloc', hloc]), f, hf,
    hfl.trans hloc'⟩

end Descent
