import Cachee.Library.Lines

/-!
# Fields of a text

A text is read line by line.  A field is looked up by the beginning of its line, and its value
is the second of the parts into which a separator cuts that line.  Whatever the text, a value has
neither separators nor newlines in it; and lines that were written without newlines are read as
they were written.  Bytes and numbers are read back from their texts.
-/

namespace Text

variable {line text rest part value field : List Char} {sep : Char}

/-! ### Parts -/

/-- A part has none of the separators. -/
theorem not_mem_of_mem_splitOn {a : Char} (h : part ∈ text.splitOn a) :
  a ∉ part
  := by
  induction text generalizing part with
  | nil =>
    rw [List.splitOn_nil, List.mem_singleton] at h
    rw [h]
    apply List.not_mem_nil
  | cons c cs ih =>
    rw [List.splitOn_cons_eq_if_modifyHead] at h
    obtain ⟨first, parts, hparts⟩ := List.exists_cons_of_ne_nil (List.splitOn_ne_nil a cs)
    rw [hparts] at h ih
    split at h
    · rcases List.mem_cons.mp h with rfl | h
      · apply List.not_mem_nil
      · apply ih h
    · rename_i hc
      rcases List.mem_cons.mp h with rfl | h
      · rintro (_ | ⟨_, hmem⟩)
        · apply hc BEq.rfl
        · apply ih List.mem_cons_self hmem
      · apply ih (List.mem_cons_of_mem _ h)

/-- A part consists of characters of the text. -/
theorem subset_of_mem_splitOn {a : Char} (h : part ∈ text.splitOn a) :
  part ⊆ text
  := by
  obtain ⟨i, hi⟩ := List.mem_iff_getElem?.mp h
  have hmem : part ∈ (text.splitOn a).intersperse [a] := by
    rw [List.mem_iff_getElem?]
    use 2 * i
    rw [List.getElem?_intersperse_two_mul, hi]
  intro c hc
  have htext := List.mem_flatten_of_mem hmem hc
  rwa [← List.intercalate, List.intercalate_splitOn] at htext

/-- The second part of a line stands between its first two separators. -/
theorem splitOn_between {before : List Char} (hbefore : sep ∉ before) (hvalue : sep ∉ value)
    (rest : List Char) :
  ((before ++ sep :: (value ++ sep :: rest)).splitOn sep)[1]? = some value
  := by
  rw [List.splitOn_append_cons_self_of_not_mem hbefore,
    List.splitOn_append_cons_self_of_not_mem hvalue]
  rfl

/-- The second part of a line stands behind its only separator. -/
theorem splitOn_behind {before : List Char} (hbefore : sep ∉ before) (hvalue : sep ∉ value) :
  ((before ++ sep :: value).splitOn sep)[1]? = some value
  := by
  rw [List.splitOn_append_cons_self_of_not_mem hbefore, List.splitOn_eq_singleton hvalue]
  rfl

/-- What starts with a text and ends with one whose first character is not in it, has both, one after
another. -/
theorem exists_between {first last text : List Char} {c : Char} (hfirst : first <+: text)
    (hlast : c :: last <:+ text) (hc : c ∉ first) :
  ∃ middle, text = first ++ middle ++ c :: last
  := by
  obtain ⟨rest, rfl⟩ := hfirst
  rcases List.suffix_or_suffix_of_suffix hlast (List.suffix_append first rest) with h | h
  · obtain ⟨middle, rfl⟩ := h
    use middle
    rw [List.append_assoc]
  · obtain ⟨before, hbefore⟩ := h
    cases before with
    | nil =>
      use []
      rw [List.append_nil, ← hbefore, List.nil_append]
    | cons c' before =>
      -- The last text would begin within the first one.
      obtain ⟨start, hstart⟩ := hlast
      rw [← hbefore, ← List.append_assoc, List.append_cancel_right_eq] at hstart
      obtain rfl := (List.cons.inj hbefore).1
      rw [← hstart] at hc
      exact absurd (List.mem_append_right start List.mem_cons_self) hc

/-! ### Lines -/

/-- A line without the carriage return at its end. -/
def stripCr (line : List Char) : List Char :=
  if line.getLast? = some '\r' then line.dropLast else line

/-- The lines of the parts between newlines.  The last part was not ended by a newline; it is
dropped when there is nothing in it. -/
def linesOfParts : List (List Char) → List (List Char)
  | [] => []
  | [last] => if last.isEmpty then [] else [last]
  | part :: parts => stripCr part :: linesOfParts parts

/-- `str::lines`, on the characters of a string. -/
def lines (text : List Char) : List (List Char) := linesOfParts (text.splitOn '\n')

theorem stripCr_concat (line : List Char) :
  stripCr (line ++ ['\r']) = line
  := by
  rw [stripCr, List.getLast?_concat, if_pos rfl, List.dropLast_concat]

/-- A line that ends with another character is left alone. -/
theorem stripCr_of_ne {c : Char} (hc : c ≠ '\r') (line : List Char) :
  stripCr (line ++ [c]) = line ++ [c]
  := by
  rw [stripCr, List.getLast?_concat, if_neg]
  simpa using hc

theorem stripCr_of_not_mem (h : '\r' ∉ line) :
  stripCr line = line
  := by
  rw [stripCr, if_neg]
  intro hlast
  apply h (List.mem_of_getLast? hlast)

theorem stripCr_subset (line : List Char) :
  stripCr line ⊆ line
  := by
  rw [stripCr]
  split
  · apply List.dropLast_subset
  · apply List.Subset.refl

/-- The first line of a text stands before its first newline. -/
theorem lines_append_cons (hline : '\n' ∉ line) (rest : List Char) :
  lines (line ++ '\n' :: rest) = stripCr line :: lines rest
  := by
  rw [lines, List.splitOn_append_cons_self_of_not_mem hline]
  obtain ⟨first, parts, hparts⟩ := List.exists_cons_of_ne_nil (List.splitOn_ne_nil '\n' rest)
  rw [lines, hparts]
  rfl

/-- Lines that are written without newlines, and ended by `\r\n`, are read back. -/
theorem lines_flatMap_crLf {ls : List (List Char)} (hls : ∀ line ∈ ls, '\n' ∉ line) :
  lines (ls.flatMap fun line => line ++ ['\r', '\n']) = ls
  := by
  induction ls with
  | nil => rfl
  | cons line ls ih =>
    have hline : '\n' ∉ line ++ ['\r'] := by
      simpa using hls line List.mem_cons_self
    have hrest := ih fun line' hline' => hls line' (List.mem_cons_of_mem line hline')
    rw [List.flatMap_cons, List.append_cons, List.append_assoc, List.singleton_append,
      lines_append_cons hline, stripCr_concat, hrest]

/-- Lines that are written without newlines and carriage returns at their ends, and ended by
`\n`, are read back. -/
theorem lines_flatMap_newline {ls : List (List Char)}
    (hls : ∀ line ∈ ls, '\n' ∉ line ∧ stripCr line = line) :
  lines (ls.flatMap fun line => line ++ ['\n']) = ls
  := by
  induction ls with
  | nil => rfl
  | cons line ls ih =>
    obtain ⟨hline, hstrip⟩ := hls line List.mem_cons_self
    have hrest := ih fun line' hline' => hls line' (List.mem_cons_of_mem line hline')
    rw [List.flatMap_cons, List.append_assoc, List.singleton_append, lines_append_cons hline,
      hstrip, hrest]

/-- A line has no newline in it. -/
theorem not_mem_of_mem_lines (h : line ∈ lines text) :
  '\n' ∉ line
  := by
  have hparts : ∀ parts : List (List Char), (∀ part ∈ parts, '\n' ∉ part) →
      ∀ line ∈ linesOfParts parts, '\n' ∉ line := by
    intro parts hparts
    fun_induction linesOfParts parts with
    | case1 => simp
    | case2 last => simp
    | case3 last hlast =>
      intro line hline
      rw [List.mem_singleton.mp hline]
      apply hparts last List.mem_cons_self
    | case4 part parts hne ih =>
      intro line hline
      rcases List.mem_cons.mp hline with rfl | hline
      · intro hmem
        apply hparts part List.mem_cons_self (stripCr_subset part hmem)
      · apply ih (fun part' hpart' => hparts part' (List.mem_cons_of_mem part hpart')) line hline
  apply hparts _ _ line h
  intro part hpart
  apply not_mem_of_mem_splitOn hpart

/-! ### Fields -/

/-- The second part of the first line that starts with a field. -/
def fieldPart (sep : Char) (field text : List Char) : Option (List Char) :=
  ((lines text).find? field.isPrefixOf).bind fun line => (line.splitOn sep)[1]?

/-- The value of a field has neither separators nor newlines in it. -/
theorem not_mem_of_fieldPart (h : fieldPart sep field text = some value) :
  sep ∉ value ∧ '\n' ∉ value
  := by
  obtain ⟨line, hline, hvalue⟩ := Option.bind_eq_some_iff.mp h
  have hpart := List.mem_of_getElem? hvalue
  constructor
  · apply not_mem_of_mem_splitOn hpart
  · intro hmem
    apply not_mem_of_mem_lines (List.mem_of_find?_eq_some hline)
    apply subset_of_mem_splitOn hpart hmem

/-! ### Bytes and numbers as texts -/

/-- A hexadecimal digit is one byte, which has its value. -/
theorem hexVal_hexDigit :
  ∀ n < 16, (String.utf8EncodeChar (hexDigit n)).map hexVal = [some n]
  := by
  decide

/-- A byte string is decoded from its hexadecimal text. -/
theorem hexDecode_hexEncode (bs : Bytes) :
  hexDecode (hexEncode bs) = some bs
  := by
  rw [hexDecode, hexEncode, asBytes_eq_flatMap, String.toList_ofList]
  induction bs with
  | nil => rfl
  | cons b bs ih =>
    have hb := b.toNat_lt
    obtain ⟨hi, hhi, hhival⟩ := List.map_eq_singleton_iff.mp
      (hexVal_hexDigit (b.toNat / 16) (by omega))
    obtain ⟨lo, hlo, hloval⟩ := List.map_eq_singleton_iff.mp
      (hexVal_hexDigit (b.toNat % 16) (by omega))
    have hbyte : UInt8.ofNat (16 * (b.toNat / 16) + b.toNat % 16) = b := by
      rw [Nat.div_add_mod, UInt8.ofNat_toNat]
    simp only [List.flatMap_cons, List.cons_append, List.nil_append, hhi, hlo, hexPairs, hhival,
      hloval, ih, Option.bind_eq_bind, Option.bind_some, hbyte]

/-- Hexadecimal text consists of hexadecimal digits. -/
theorem not_mem_hexEncode {c : Char} (hc : ∀ n < 16, hexDigit n ≠ c) (bs : Bytes) :
  c ∉ (hexEncode bs).toList
  := by
  rw [hexEncode, String.toList_ofList, List.mem_flatMap]
  rintro ⟨b, -, hmem⟩
  have hb := b.toNat_lt
  simp only [List.mem_cons, List.not_mem_nil, or_false] at hmem
  rcases hmem with h | h
  · apply hc (b.toNat / 16) (by omega) h.symm
  · apply hc (b.toNat % 16) (by omega) h.symm

/-- `str::parse::<u64>`, without the reason of its error. -/
def parseU64 (text : List Char) : Option UInt64 :=
  let digits := if text.head? = some '+' then text.tail else text
  if digits = [] ∨ digits.any (fun c => !c.isDigit) then none
  else if Nat.ofDigitChars 10 digits 0 < 2 ^ 64 then
    some (UInt64.ofNat (Nat.ofDigitChars 10 digits 0))
  else none

/-- A number of 64 bits is parsed from its digits. -/
theorem parseU64_toString {n : ℕ} (hn : n < 2 ^ 64) :
  parseU64 (toString n).toList = some (UInt64.ofNat n)
  := by
  have hdigits : (toString n).toList.any (fun c => !c.isDigit) = false := by
    rw [List.any_eq_false]
    intro c hc
    simp [isDigit_of_mem_toString hc]
  have hplus : ¬ (toString n).toList.head? = some '+' := by
    intro hhead
    apply not_mem_toString (by decide) n (List.mem_of_head? hhead)
  have hvalue : Nat.ofDigitChars 10 (toString n).toList 0 = n := by
    rw [Nat.toString_eq_repr, Nat.toList_repr, Nat.ofDigitChars_ten_toDigits]
  rw [parseU64, if_neg hplus, if_neg, hvalue, if_pos hn]
  rw [hdigits]
  simp

/-- A word is trimmed to itself. -/
theorem trim_of_isWord {w : String} (hw : IsWord w) :
  trim w = w
  := by
  have hdrop : ∀ cs : List Char, (∀ c ∈ cs, isWhitespace c = false) →
      cs.dropWhile isWhitespace = cs := by
    intro cs hcs
    cases cs with
    | nil => rfl
    | cons c cs =>
      apply List.dropWhile_cons_of_neg
      rw [hcs c List.mem_cons_self]
      decide
  have hreverse : ∀ c ∈ w.toList.reverse, isWhitespace c = false :=
    fun c hc => hw.not_whitespace c (List.mem_reverse.mp hc)
  rw [trim, hdrop _ hw.not_whitespace, hdrop _ hreverse, List.reverse_reverse, String.ofList_toList]

/-- The number of digits of a number that is below a power of ten. -/
theorem length_toString_le {n e : ℕ} (he : 0 < e) (hn : n < 10 ^ e) :
  (toString n).toList.length ≤ e
  := by
  rw [Nat.toString_eq_repr, Nat.toList_repr]
  apply Nat.toDigits_length 10 n e he hn

/-- The bytes of two texts after each other. -/
theorem length_asBytes_append (s t : String) :
  (asBytes (s ++ t)).length = (asBytes s).length + (asBytes t).length
  := by
  rw [asBytes_eq_flatMap, asBytes_eq_flatMap, asBytes_eq_flatMap, String.toList_append,
    List.flatMap_append, List.length_append]

/-- A text has at most four bytes a character. -/
theorem length_asBytes_le (s : String) :
  (asBytes s).length ≤ 4 * s.toList.length
  := by
  rw [asBytes_eq_flatMap, List.length_flatMap, Nat.mul_comm, ← List.length_map]
  apply List.sum_le_card_nsmul
  intro n hn
  obtain ⟨c, -, rfl⟩ := List.mem_map.mp hn
  rw [String.length_utf8EncodeChar]
  apply Char.utf8Size_le_four

end Text
