import Cachee.Library.Text

/-!
# Text cut at an ASCII byte

An ASCII byte is never inside a character, so lossy decoding can be done on both sides of it; and
at white space, words can be split off on both sides of it.  So a line that was made of words has
these words, and what stands before a line end is split off.
-/

namespace Text

variable {bs rest : Bytes} {a : UInt8} {c : Char}

/-! ### Decoding before an ASCII byte -/

/-- The bytes of a character after the first one are not ASCII. -/
theorem le_of_mem_tail_utf8EncodeChar {b : UInt8} (h : b ∈ (String.utf8EncodeChar c).tail) :
  0x80 ≤ b
  := by
  have hlow : ∀ n, 0x80 ≤ UInt8.ofNat (n % 0x40 + 0x80) := by
    intro n
    rw [UInt8.le_iff_toNat_le]
    simp only [UInt8.reduceToNat, UInt8.toNat_ofNat']
    omega
  unfold String.utf8EncodeChar at h
  dsimp only at h
  split_ifs at h
  all_goals simp only [List.tail_cons, List.mem_cons, List.not_mem_nil, or_false] at h
  · obtain rfl := h
    apply hlow
  · rcases h with rfl | rfl
    · apply hlow
    · apply hlow
  · rcases h with rfl | rfl | rfl
    · apply hlow
    · apply hlow
    · apply hlow

/-- A character is decoded from a byte string that starts with its bytes. -/
theorem decodeChar?_eq_some_iff :
  decodeChar? bs = some c ↔ String.utf8EncodeChar c <+: bs
  := by
  constructor
  · intro h
    obtain ⟨l, hl⟩ := ByteArray.exists_of_utf8DecodeChar?_eq_some h
    use l.data.toList
    have hdata := congrArg (fun b : ByteArray => b.data.toList) hl
    simpa using hdata.symm
  · rintro ⟨l, rfl⟩
    have h := ByteArray.utf8DecodeChar?_utf8EncodeChar_append (b := l.toByteArray) (c := c)
    rw [← h, decodeChar?]
    congr 1
    apply ByteArray.ext
    simp

/-- An ASCII byte is decoded as its character. -/
theorem decodeChar?_ascii (ha : a < 0x80) :
  decodeChar? (a :: rest) = some (Char.ofNat a.toNat)
  := by
  have hencode : ∀ n < 0x80, String.utf8EncodeChar (Char.ofNat n) = [UInt8.ofNat n] := by
    decide
  rw [decodeChar?_eq_some_iff, hencode a.toNat (UInt8.lt_iff_toNat_lt.mp ha), UInt8.ofNat_toNat]
  apply List.prefix_append [a] rest

/-- What is decoded from a byte string does not depend on an ASCII byte after it. -/
theorem decodeChar?_append_ascii (hbs : bs ≠ []) (ha : a < 0x80) :
  decodeChar? (bs ++ a :: rest) = decodeChar? bs
  := by
  apply Option.ext
  intro c
  rw [decodeChar?_eq_some_iff, decodeChar?_eq_some_iff]
  constructor
  · intro h
    rcases Nat.lt_or_ge bs.length (String.utf8EncodeChar c).length with hlen | hlen
    · -- The ASCII byte would stand in the tail of the character.
      exfalso
      have hprefix : bs ++ [a] <+: String.utf8EncodeChar c := by
        apply List.prefix_of_prefix_length_le _ h
        · rw [List.length_append, List.length_singleton]
          apply hlen
        · use rest
          rw [List.append_assoc, List.singleton_append]
      obtain ⟨l, hl⟩ := hprefix
      obtain ⟨b, bs', rfl⟩ := List.exists_cons_of_ne_nil hbs
      have hmem : a ∈ (String.utf8EncodeChar c).tail := by
        rw [← hl]
        simp
      exact absurd ha (UInt8.not_lt.mpr (le_of_mem_tail_utf8EncodeChar hmem))
    · apply List.prefix_of_prefix_length_le h (List.prefix_append bs _) hlen
  · intro h
    apply h.trans (List.prefix_append bs _)

/-! ### Ill-formed sequences before an ASCII byte -/

theorem isContinuation_ascii (ha : a < 0x80) :
  isContinuation a = false
  := by
  simp only [isContinuation, Bool.and_eq_false_iff, decide_eq_false_iff_not, UInt8.not_le]
  left
  apply ha

/-- No character of several bytes has an ASCII byte as its second one. -/
theorem secondFollows_ascii (b : UInt8) (ha : a < 0x80) :
  secondFollows b a = false
  := by
  have hlow : ∀ m : UInt8, 0x80 ≤ m → ¬ m ≤ a := by
    intro m hm hma
    exact absurd ha (UInt8.not_lt.mpr (UInt8.le_trans hm hma))
  unfold secondFollows
  split_ifs
  · simp [hlow 0xA0 (by decide)]
  · simp [hlow 0x80 (by decide)]
  · simp [hlow 0x90 (by decide)]
  · simp [hlow 0x80 (by decide)]
  · apply isContinuation_ascii ha

/-- The length of an ill-formed sequence does not depend on an ASCII byte after it. -/
theorem invalidPrefix_append_ascii (hbs : bs ≠ []) (ha : a < 0x80) :
  (invalidPrefix (bs ++ a :: rest)).1 = (invalidPrefix bs).1
  := by
  match bs, hbs with
  | [b₀], _ =>
    simp only [invalidPrefix, List.cons_append, List.nil_append, secondFollows_ascii b₀ ha,
      Bool.not_false, if_true]
    split_ifs
    all_goals rfl
  | [b₀, b₁], _ =>
    simp only [invalidPrefix, List.cons_append, List.nil_append, isContinuation_ascii ha,
      Bool.not_false, if_true]
    split_ifs
    all_goals rfl
  | b₀ :: b₁ :: b₂ :: bs, _ =>
    simp only [invalidPrefix, List.cons_append]
    split_ifs
    all_goals rfl

/-- An ill-formed sequence has a byte, and ends within the byte string. -/
theorem invalidPrefix_bounds (hbs : bs ≠ []) :
  0 < (invalidPrefix bs).1 ∧ (invalidPrefix bs).1 ≤ bs.length
  := by
  match bs, hbs with
  | [b₀], _ =>
    simp only [invalidPrefix]
    split_ifs
    all_goals simp
  | [b₀, b₁], _ =>
    simp only [invalidPrefix]
    split_ifs
    all_goals simp
  | b₀ :: b₁ :: b₂ :: bs, _ =>
    simp only [invalidPrefix]
    split_ifs
    all_goals simp

/-! ### Lossy decoding -/

/-- The first character of the lossy decoding of a byte string, and the number of bytes that it
stands for. -/
def lossyFront (bs : Bytes) : Char × ℕ :=
  match decodeChar? bs with
  | some c => (c, c.utf8Size)
  | none => ('\uFFFD', (invalidPrefix bs).1)

theorem lossyChars_succ (fuel : ℕ) (hbs : bs ≠ []) :
  lossyChars (fuel + 1) bs = (lossyFront bs).1 :: lossyChars fuel (bs.drop (lossyFront bs).2)
  := by
  obtain ⟨b, bs', rfl⟩ := List.exists_cons_of_ne_nil hbs
  rw [lossyChars, lossyFront]
  · cases decodeChar? (b :: bs') with
    | some c => rfl
    | none => rfl
  · simp

/-- The first character stands for a byte, and for no byte after the end. -/
theorem lossyFront_bounds (hbs : bs ≠ []) :
  0 < (lossyFront bs).2 ∧ (lossyFront bs).2 ≤ bs.length
  := by
  unfold lossyFront
  split
  · rename_i c hc
    have hlen := (decodeChar?_eq_some_iff.mp hc).length_le
    rw [String.length_utf8EncodeChar] at hlen
    exact ⟨c.utf8Size_pos, hlen⟩
  · apply invalidPrefix_bounds hbs

/-- The first character does not depend on an ASCII byte after the byte string. -/
theorem lossyFront_append_ascii (hbs : bs ≠ []) (ha : a < 0x80) :
  lossyFront (bs ++ a :: rest) = lossyFront bs
  := by
  rw [lossyFront, lossyFront, decodeChar?_append_ascii hbs ha, invalidPrefix_append_ascii hbs ha]

/-- As many sequences as there are bytes are enough. -/
theorem lossyChars_fuel {fuel fuel' : ℕ} (h : bs.length ≤ fuel) (h' : bs.length ≤ fuel') :
  lossyChars fuel bs = lossyChars fuel' bs
  := by
  induction fuel generalizing bs fuel' with
  | zero =>
    obtain rfl := List.length_eq_zero_iff.mp (Nat.le_zero.mp h)
    cases fuel' with
    | zero => rfl
    | succ fuel' => rfl
  | succ fuel ih =>
    rcases eq_or_ne bs [] with rfl | hbs
    · cases fuel' with
      | zero => rfl
      | succ fuel' => rfl
    · have hlen := List.length_pos_of_ne_nil hbs
      have hpos := (lossyFront_bounds hbs).1
      obtain ⟨fuel', rfl⟩ := Nat.exists_eq_succ_of_ne_zero (n := fuel') (by omega)
      rw [lossyChars_succ fuel hbs, Nat.succ_eq_add_one, lossyChars_succ fuel' hbs]
      congr 1
      apply ih
      · rw [List.length_drop]
        omega
      · rw [List.length_drop]
        omega

/-- Lossy decoding gives the first character, and goes on after it. -/
theorem fromUtf8Lossy_eq_cons (hbs : bs ≠ []) :
  fromUtf8Lossy bs = (lossyFront bs).1 :: fromUtf8Lossy (bs.drop (lossyFront bs).2)
  := by
  have hpos := (lossyFront_bounds hbs).1
  have hlen := List.length_pos_of_ne_nil hbs
  obtain ⟨n, hn⟩ := Nat.exists_eq_succ_of_ne_zero (Nat.ne_of_gt hlen)
  rw [fromUtf8Lossy, hn, Nat.succ_eq_add_one, lossyChars_succ n hbs, fromUtf8Lossy]
  congr 1
  apply lossyChars_fuel _ le_rfl
  rw [List.length_drop]
  omega

/-- Lossy decoding can be done on both sides of an ASCII byte. -/
theorem fromUtf8Lossy_append_ascii (ha : a < 0x80) :
  fromUtf8Lossy (bs ++ a :: rest)
    = fromUtf8Lossy bs ++ Char.ofNat a.toNat :: fromUtf8Lossy rest
  := by
  induction hn : bs.length using Nat.strong_induction_on generalizing bs with
  | _ n ih =>
    rcases eq_or_ne bs [] with rfl | hbs
    · have hfront : lossyFront (a :: rest) = (Char.ofNat a.toNat, 1) := by
        have hsize : ∀ n < 0x80, (Char.ofNat n).utf8Size = 1 := by
          decide
        rw [lossyFront, decodeChar?_ascii ha]
        dsimp only
        rw [hsize a.toNat (UInt8.lt_iff_toNat_lt.mp ha)]
      rw [List.nil_append, fromUtf8Lossy_eq_cons (List.cons_ne_nil a rest), hfront]
      rfl
    · obtain ⟨hpos, hle⟩ := lossyFront_bounds hbs
      rw [fromUtf8Lossy_eq_cons (by simp), lossyFront_append_ascii hbs ha,
        List.drop_append_of_le_length hle, ih _ _ rfl, fromUtf8Lossy_eq_cons hbs]
      · rfl
      · rw [List.length_drop]
        omega

/-- The bytes of a string are those of its characters. -/
theorem asBytes_eq_flatMap (s : String) :
  asBytes s = s.toList.flatMap String.utf8EncodeChar
  := by
  have hencode := s.utf8Encode_toList
  rw [List.utf8Encode] at hencode
  rw [asBytes, ← hencode, List.toList_data_toByteArray]

/-- Lossy decoding of the bytes of characters gives the characters. -/
theorem fromUtf8Lossy_flatMap (cs : List Char) :
  fromUtf8Lossy (cs.flatMap String.utf8EncodeChar) = cs
  := by
  induction cs with
  | nil => rfl
  | cons c cs ih =>
    have hfront : decodeChar? (String.utf8EncodeChar c ++ cs.flatMap String.utf8EncodeChar) = some c :=
      decodeChar?_eq_some_iff.mpr (List.prefix_append _ _)
    have hne : String.utf8EncodeChar c ++ cs.flatMap String.utf8EncodeChar ≠ [] := by
      apply List.append_ne_nil_of_left_ne_nil
      apply List.ne_nil_of_length_pos
      rw [String.length_utf8EncodeChar]
      apply c.utf8Size_pos
    rw [List.flatMap_cons, fromUtf8Lossy_eq_cons hne, lossyFront, hfront]
    dsimp only
    rw [← String.length_utf8EncodeChar, List.drop_left, ih]

/-- Lossy decoding of the bytes of a string gives the string. -/
theorem ofList_fromUtf8Lossy_asBytes (s : String) :
  String.ofList (fromUtf8Lossy (asBytes s)) = s
  := by
  rw [asBytes_eq_flatMap, fromUtf8Lossy_flatMap, String.ofList_toList]

/-- Words can be split off on both sides of white space. -/
theorem splitWhitespace_append_cons {cs cs' : List Char} (hc : isWhitespace c = true) :
  splitWhitespace (cs ++ c :: cs') = splitWhitespace cs ++ splitWhitespace cs'
  := by
  rw [splitWhitespace, List.splitOnP_append_cons cs cs' hc, List.filter_append, List.map_append]
  rfl

/-! ### Lines of words -/

/-- A word: some characters, none of which is white space. -/
structure IsWord (w : String) : Prop where
  ne_empty : w ≠ ""
  not_whitespace : ∀ c ∈ w.toList, isWhitespace c = false

/-- Whether a text is a word is checked character by character. -/
theorem isWord_iff {w : String} :
  IsWord w ↔ w ≠ "" ∧ (w.toList.all fun c => !isWhitespace c) = true
  := by
  rw [List.all_eq_true]
  constructor
  · rintro ⟨hne, hcs⟩
    use hne
    intro c hc
    rw [hcs c hc]
    rfl
  · rintro ⟨hne, hcs⟩
    constructor
    · apply hne
    · intro c hc
      simpa using hcs c hc

instance decidableIsWord (w : String) : Decidable (IsWord w) :=
  decidable_of_iff _ isWord_iff.symm

/-- A word is its only word. -/
theorem IsWord.splitWhitespace_eq {w : String} (h : IsWord w) :
  splitWhitespace w.toList = [w]
  := by
  have hne : w.toList ≠ [] := by
    intro hnil
    exact h.ne_empty (String.toList_eq_nil_iff.mp hnil)
  rw [splitWhitespace, List.splitOnP_eq_singleton h.not_whitespace]
  simp [hne]

/-- The words of a line are the words that it was made of, with single spaces between them. -/
theorem splitWhitespace_intercalate {ws : List String} (h : ∀ w ∈ ws, IsWord w) :
  splitWhitespace (" ".intercalate ws).toList = ws
  := by
  induction ws with
  | nil => rfl
  | cons w ws ih =>
    have hw := (h w List.mem_cons_self).splitWhitespace_eq
    cases ws with
    | nil =>
      rw [String.intercalate_singleton, hw]
    | cons w' ws =>
      have hrest := ih fun v hv => h v (List.mem_cons_of_mem w hv)
      have hline : (" ".intercalate (w :: w' :: ws)).toList
          = w.toList ++ ' ' :: (" ".intercalate (w' :: ws)).toList := by
        rw [String.intercalate_cons_cons, String.toList_append, String.toList_append,
          List.append_assoc]
        rfl
      rw [hline, splitWhitespace_append_cons rfl, hw, hrest]
      rfl

/-- Lines of different words are different. -/
theorem intercalate_inj {ws ws' : List String} (h : ∀ w ∈ ws, IsWord w)
    (h' : ∀ w ∈ ws', IsWord w) :
  " ".intercalate ws = " ".intercalate ws' ↔ ws = ws'
  := by
  constructor
  · intro heq
    rw [← splitWhitespace_intercalate h, heq, splitWhitespace_intercalate h']
  · rintro rfl
    rfl

/-- A line of words has no line end in it. -/
theorem cr_notMem_intercalate {ws : List String} (h : ∀ w ∈ ws, IsWord w) :
  '\r' ∉ (" ".intercalate ws).toList
  := by
  induction ws with
  | nil => simp
  | cons w ws ih =>
    have hw : '\r' ∉ w.toList := by
      intro hmem
      exact absurd ((h w List.mem_cons_self).not_whitespace _ hmem) (by decide)
    cases ws with
    | nil =>
      rw [String.intercalate_singleton]
      apply hw
    | cons w' ws =>
      have hrest := ih fun v hv => h v (List.mem_cons_of_mem w hv)
      rw [String.intercalate_cons_cons, String.toList_append, String.toList_append,
        List.mem_append, List.mem_append, not_or, not_or]
      exact ⟨⟨hw, by decide⟩, hrest⟩

/-- The digits of a number are digits. -/
theorem isDigit_of_mem_toString {n : ℕ} (hc : c ∈ (toString n).toList) :
  c.isDigit = true
  := by
  rw [Nat.toString_eq_repr, Nat.toList_repr] at hc
  apply Nat.isDigit_of_mem_toDigits (by decide) (by decide) hc

/-- The digits of a number have no other characters among them. -/
theorem not_mem_toString (hc : c.isDigit = false) (n : ℕ) :
  c ∉ (toString n).toList
  := by
  intro hmem
  rw [isDigit_of_mem_toString hmem] at hc
  cases hc

/-- The digits of a number are a word. -/
theorem isWord_toString (n : ℕ) :
  IsWord (toString n)
  := by
  constructor
  · rw [Nat.toString_eq_repr]
    apply Nat.repr_ne_empty
  · intro c hc
    have hdigit := isDigit_of_mem_toString hc
    simp only [Char.isDigit, Bool.and_eq_true, decide_eq_true_eq, ge_iff_le,
      UInt32.le_iff_toNat_le] at hdigit
    have hlow : 48 ≤ c.toNat := hdigit.1
    have hhigh : c.toNat ≤ 57 := hdigit.2
    simp only [isWhitespace, Bool.or_eq_false_iff, Bool.and_eq_false_iff, decide_eq_false_iff_not]
    omega

/-! ### Parts between line ends -/

/-- What stands before the first line end is split off. -/
theorem splitCrLf_append {cs rest : List Char} (h : '\r' ∉ cs) :
  splitCrLf (cs ++ '\r' :: '\n' :: rest) = cs :: splitCrLf rest
  := by
  induction cs with
  | nil => rfl
  | cons c cs ih =>
    rw [List.mem_cons, not_or] at h
    rw [List.cons_append, splitCrLf, ih h.2]
    intro cs' hc
    exact absurd hc.symm h.1

end Text
