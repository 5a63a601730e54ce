import Cachee.Library.Cursor

/-!
# Text

The operations of the standard library of Rust on strings that the program uses: the
UTF-8 bytes of a string and their decoding, with and without replacement of ill-formed
sequences, splitting at white space, letter case, and the hexadecimal text of a byte
string.
-/

namespace Text

/-- `as_bytes`: the UTF-8 bytes of a string. -/
def asBytes (s : String) : Bytes := s.toByteArray.data.toList

theorem asBytes_injective :
  Function.Injective asBytes
  := by
  intro s t h
  apply String.toByteArray_inj.mp
  apply ByteArray.ext
  apply Array.toList_inj.mp h

/-! ### Decoding -/

/-- The bytes that continue a character. -/
def isContinuation (b : UInt8) : Bool := 0x80 ≤ b && b ≤ 0xBF

/-- The length of a character announced by its first byte, or `0` if it announces none. -/
def charWidth (b : UInt8) : ℕ :=
  if b ≤ 0x7F then 1
  else if 0xC2 ≤ b && b ≤ 0xDF then 2
  else if 0xE0 ≤ b && b ≤ 0xEF then 3
  else if 0xF0 ≤ b && b ≤ 0xF4 then 4
  else 0

/-- The second bytes that may follow a first byte of a character of three or four bytes:
those that give no overlong form, no surrogate and no number past the last character. -/
def secondFollows (b₀ b₁ : UInt8) : Bool :=
  if b₀ = 0xE0 then 0xA0 ≤ b₁ && b₁ ≤ 0xBF
  else if b₀ = 0xED then 0x80 ≤ b₁ && b₁ ≤ 0x9F
  else if b₀ = 0xF0 then 0x90 ≤ b₁ && b₁ ≤ 0xBF
  else if b₀ = 0xF4 then 0x80 ≤ b₁ && b₁ ≤ 0x8F
  else isContinuation b₁

/-- The length of the ill-formed sequence at the front of a byte string that starts with
no character, and whether the string ended inside a character. -/
def invalidPrefix : Bytes → ℕ × Bool
  | [] => (0, true)
  | b₀ :: rest =>
    if charWidth b₀ < 2 then (1, false)
    else if charWidth b₀ = 2 then (1, rest.isEmpty)
    else match rest with
      | [] => (1, true)
      | b₁ :: rest =>
        if !secondFollows b₀ b₁ then (1, false)
        else if charWidth b₀ = 3 then (2, rest.isEmpty)
        else match rest with
          | [] => (2, true)
          | b₂ :: rest => if !isContinuation b₂ then (2, false) else (3, rest.isEmpty)

/-- The character at the front of a byte string. -/
def decodeChar? (bs : Bytes) : Option Char := ByteArray.utf8DecodeChar? ⟨bs.toArray⟩ 0

/-- The characters of at most `fuel` sequences of a byte string, with U+FFFD for each
ill-formed one. -/
def lossyChars : ℕ → Bytes → List Char
  | 0, _ => []
  | _ + 1, [] => []
  | fuel + 1, bs =>
    match decodeChar? bs with
    | some c => c :: lossyChars fuel (bs.drop c.utf8Size)
    | none => '\uFFFD' :: lossyChars fuel (bs.drop (invalidPrefix bs).1)

/-- `String::from_utf8_lossy`, as the list of its characters. -/
def fromUtf8Lossy (bs : Bytes) : List Char := lossyChars bs.length bs

/-- The message of the `Utf8Error` found from index `i` on. -/
def utf8ErrorMsg : ℕ → ℕ → Bytes → String
  | 0, i, _ => s!"incomplete utf-8 byte sequence from index {i}"
  | fuel + 1, i, bs =>
    match decodeChar? bs with
    | some c => utf8ErrorMsg fuel (i + c.utf8Size) (bs.drop c.utf8Size)
    | none =>
      match invalidPrefix bs with
      | (_, true) => s!"incomplete utf-8 byte sequence from index {i}"
      | (n, false) => s!"invalid utf-8 sequence of {n} bytes from index {i}"

/-- `String::from_utf8`. -/
def fromUtf8 (bs : Bytes) : Outcome String :=
  match String.fromUTF8? ⟨bs.toArray⟩ with
  | some s => .ok s
  | none => bail (utf8ErrorMsg bs.length 0 bs)

@[simp]
theorem fromUtf8_asBytes (s : String) :
  fromUtf8 (asBytes s) = .ok s
  := by
  have h : String.fromUTF8? s.toByteArray = some s := by
    rw [String.fromUTF8?, dif_pos s.isValidUTF8]
    rfl
  simp only [fromUtf8, asBytes, Array.toArray_toList]
  rw [h]

/-! ### Words -/

/-- `char::is_whitespace`: the Unicode property White_Space. -/
def isWhitespace (c : Char) : Bool :=
  (9 ≤ c.toNat && c.toNat ≤ 13) || c.toNat = 0x20 || c.toNat = 0x85 || c.toNat = 0xA0
    || c.toNat = 0x1680 || (0x2000 ≤ c.toNat && c.toNat ≤ 0x200A) || c.toNat = 0x2028
    || c.toNat = 0x2029 || c.toNat = 0x202F || c.toNat = 0x205F || c.toNat = 0x3000

/-- `str::split_whitespace`, on the characters of a string. -/
def splitWhitespace (cs : List Char) : List String :=
  ((cs.splitOnP isWhitespace).filter fun w => !w.isEmpty).map String.ofList

/-- The upper case of a character.  It is exact on the characters whose upper case has
ASCII letters only; any other character has an upper case with a character outside ASCII
in it, for which the character itself stands when it is not ASCII. -/
def upperChar (c : Char) : List Char :=
  if 'a' ≤ c && c ≤ 'z' then [Char.ofNat (c.toNat - 32)]
  else if c.toNat = 0x131 then ['I']
  else if c.toNat = 0x17F then ['S']
  else if c.toNat = 0xDF then ['S', 'S']
  else if c.toNat = 0xFB00 then ['F', 'F']
  else if c.toNat = 0xFB01 then ['F', 'I']
  else if c.toNat = 0xFB02 then ['F', 'L']
  else if c.toNat = 0xFB03 then ['F', 'F', 'I']
  else if c.toNat = 0xFB04 then ['F', 'F', 'L']
  else if c.toNat = 0xFB05 || c.toNat = 0xFB06 then ['S', 'T']
  else [c]

/-- `str::to_uppercase`, up to the characters outside ASCII of the result: it is compared
with ASCII keywords only. -/
def toUppercase (s : String) : String := String.ofList (s.toList.flatMap upperChar)

/-- The lower case of an ASCII letter. -/
def asciiLower (c : Char) : Char :=
  if 'A' ≤ c && c ≤ 'Z' then Char.ofNat (c.toNat + 32) else c

/-- `str::eq_ignore_ascii_case`. -/
def eqIgnoreAsciiCase (s t : String) : Bool :=
  s.toList.map asciiLower == t.toList.map asciiLower

/-- `str::contains`. -/
def contains (s pattern : String) : Bool := pattern.toList <:+: s.toList

/-- `str::starts_with`. -/
def hasPrefix (s pattern : String) : Bool := pattern.toList.isPrefixOf s.toList

/-- `str::ends_with`. -/
def hasSuffix (s pattern : String) : Bool := pattern.toList.isSuffixOf s.toList

/-- `str::trim`. -/
def trim (s : String) : String :=
  String.ofList ((s.toList.dropWhile isWhitespace).reverse.dropWhile isWhitespace).reverse

/-- `str::split` at the line ends `\r\n`. -/
def splitCrLf : List Char → List (List Char)
  | [] => [[]]
  | '\r' :: '\n' :: cs => [] :: splitCrLf cs
  | c :: cs =>
    match splitCrLf cs with
    | [] => [[c]]
    | part :: parts => (c :: part) :: parts

/-! ### Letters in either case -/

/-- A letter has the upper case of its lower case. -/
theorem upperChar_asciiLower (c : Char) :
  upperChar (asciiLower c) = upperChar c
  := by
  unfold asciiLower
  split
  · rename_i hrange
    simp only [Bool.and_eq_true, decide_eq_true_eq] at hrange
    have hlo : 65 ≤ c.toNat := hrange.1
    have hhi : c.toNat ≤ 90 := hrange.2
    rw [← Char.ofNat_toNat c]
    interval_cases c.toNat <;> decide
  · rfl

/-- Texts that agree in any ASCII case have the same upper case. -/
theorem toUppercase_congr {s t : String} (h : eqIgnoreAsciiCase s t = true) :
  toUppercase s = toUppercase t
  := by
  have hupper (cs : List Char) : (cs.map asciiLower).flatMap upperChar = cs.flatMap upperChar := by
    rw [List.flatMap_map]
    simp only [upperChar_asciiLower]
  rw [eqIgnoreAsciiCase, beq_iff_eq] at h
  rw [toUppercase, toUppercase, ← hupper s.toList, h, hupper]

/-! ### Prefixes -/

/-- A text keeps its prefixes when another text is appended. -/
theorem hasPrefix_append {s pattern : String} (h : hasPrefix s pattern = true) (t : String) :
  hasPrefix (s ++ t) pattern = true
  := by
  obtain ⟨rest, hrest⟩ := List.isPrefixOf_iff_prefix.mp h
  rw [hasPrefix, List.isPrefixOf_iff_prefix, String.toList_append, ← hrest, List.append_assoc]
  apply List.prefix_append

/-- Of two prefixes of a text, one starts with the other. -/
theorem hasPrefix_or_of_hasPrefix {s p q : String} (hp : hasPrefix s p = true)
    (hq : hasPrefix s q = true) :
  hasPrefix p q = true ∨ hasPrefix q p = true
  := by
  simp only [hasPrefix, List.isPrefixOf_iff_prefix] at hp hq ⊢
  exact List.prefix_or_prefix_of_prefix hq hp

/-! ### Slices -/

/-- The characters whose encoding is the first `n` bytes of that of a list of characters, if `n`
is the end of a character. -/
def bytePrefix : List Char → ℕ → Option (List Char)
  | _, 0 => some []
  | [], _ + 1 => none
  | c :: cs, n + 1 =>
    if c.utf8Size ≤ n + 1 then (bytePrefix cs (n + 1 - c.utf8Size)).map (c :: ·) else none

/-- The slice `s[..n]`, which panics unless `n` is the end of a character. -/
def sliceTo (s : String) (n : ℕ) : Outcome String :=
  match bytePrefix s.toList n with
  | some cs => .ok (String.ofList cs)
  | none => .error .panic

/-- Of characters on one byte each, there is a slice up to their number. -/
theorem bytePrefix_of_size_one {cs : List Char} (hcs : ∀ c ∈ cs, c.utf8Size = 1) {n : ℕ}
    (hn : n ≤ cs.length) :
  bytePrefix cs n = some (cs.take n)
  := by
  induction cs generalizing n with
  | nil =>
    obtain rfl : n = 0 := Nat.le_zero.mp hn
    rfl
  | cons c cs ih =>
    cases n with
    | zero => rfl
    | succ n =>
      have hc := hcs c List.mem_cons_self
      have hrest : bytePrefix cs n = some (cs.take n) := by
        apply ih _ (Nat.le_of_succ_le_succ hn)
        intro c' hc'
        apply hcs c' (List.mem_cons_of_mem c hc')
      rw [bytePrefix, hc, if_pos (by omega), Nat.add_sub_cancel, hrest]
      rfl

/-! ### Hexadecimal text -/

/-- The hexadecimal digit of a number below 16. -/
def hexDigit (n : ℕ) : Char :=
  if n < 10 then Char.ofNat (48 + n) else Char.ofNat (87 + n)

/-- `hex::encode`: two lower case digits a byte. -/
def hexEncode (bs : Bytes) : String :=
  String.ofList (bs.flatMap fun b => [hexDigit (b.toNat / 16), hexDigit (b.toNat % 16)])

theorem hexDigit_injective :
  ∀ a < 16, ∀ b < 16, hexDigit a = hexDigit b → a = b
  := by
  decide

theorem utf8Size_hexDigit :
  ∀ n < 16, (hexDigit n).utf8Size = 1
  := by
  decide

/-- The hexadecimal text of a byte string has two characters a byte, on one byte each. -/
theorem sliceTo_hexEncode {bs : Bytes} {n : ℕ} (hn : n ≤ 2 * bs.length) :
  sliceTo (hexEncode bs) n = .ok (String.ofList ((hexEncode bs).toList.take n))
  := by
  have hsize : ∀ c ∈ (hexEncode bs).toList, c.utf8Size = 1 := by
    intro c hc
    rw [hexEncode, String.toList_ofList, List.mem_flatMap] at hc
    obtain ⟨b, -, hc⟩ := hc
    have hb := b.toNat_lt
    simp only [List.mem_cons, List.not_mem_nil, or_false] at hc
    rcases hc with rfl | rfl
    · apply utf8Size_hexDigit _ (by omega)
    · apply utf8Size_hexDigit _ (by omega)
  have hlen : (hexEncode bs).toList.length = 2 * bs.length := by
    rw [hexEncode, String.toList_ofList, List.length_flatMap]
    simp [Nat.mul_comm]
  rw [sliceTo, bytePrefix_of_size_one hsize (by omega)]

theorem hexEncode_injective :
  Function.Injective hexEncode
  := by
  intro bs cs h
  have hl := String.ofList_injective h
  induction bs generalizing cs with
  | nil =>
    cases cs with
    | nil => rfl
    | cons c cs => simp at hl
  | cons b bs ih =>
    cases cs with
    | nil => simp at hl
    | cons c cs =>
      simp only [List.flatMap_cons, List.cons_append, List.nil_append, List.cons.injEq] at hl
      obtain ⟨hhi, hlo, hrest⟩ := hl
      have hb := b.toNat_lt
      have hc := c.toNat_lt
      have hdiv := hexDigit_injective _ (by omega) _ (by omega) hhi
      have hmod := hexDigit_injective _ (by omega) _ (by omega) hlo
      have hbc : b = c := by
        apply UInt8.toNat_inj.mp
        omega
      rw [hbc, ih (congrArg String.ofList hrest) hrest]

/-- The value of a hexadecimal digit of either case. -/
def hexVal (b : UInt8) : Option ℕ :=
  if 48 ≤ b && b ≤ 57 then some (b.toNat - 48)
  else if 97 ≤ b && b ≤ 102 then some (b.toNat - 87)
  else if 65 ≤ b && b ≤ 70 then some (b.toNat - 55)
  else none

/-- The bytes of pairs of hexadecimal digits, if there are only such pairs. -/
def hexPairs : Bytes → Option Bytes
  | [] => some []
  | [_] => none
  | a :: b :: rest => do
    let hi ← hexVal a
    let lo ← hexVal b
    let bs ← hexPairs rest
    some (UInt8.ofNat (16 * hi + lo) :: bs)

/-- `hex::decode`, without the reason of its error. -/
def hexDecode (s : String) : Option Bytes := hexPairs (asBytes s)

/-! ### JSON text -/

/-- The JSON text of the bytes of an array. -/
def arrayText (bs : Bytes) : String :=
  "[" ++ ",".intercalate (bs.map fun b => toString b.toNat) ++ "]"

/-- An element of a list is found by what only it has. -/
theorem find?_eq_of_nodup {α β : Type} [DecidableEq β] {l : List α} {f : α → β} {a : α}
    (hl : (l.map f).Nodup) (ha : a ∈ l) :
  l.find? (fun b => f b = f a) = some a
  := by
  induction l with
  | nil => cases ha
  | cons b l ih =>
    rw [List.map_cons, List.nodup_cons] at hl
    rcases List.mem_cons.mp ha with rfl | ha
    · apply List.find?_cons_of_pos
      simp
    · have hne : f b ≠ f a := by
        intro heq
        apply hl.1
        rw [heq]
        apply List.mem_map_of_mem ha
      rw [List.find?_cons_of_neg (by simpa using hne), ih hl.2 ha]

/-- The conversion of the values of a type to JSON text and back, with the messages of its
errors. -/
structure JsonCodec (α : Type) where
  toVec : α → Except String Bytes
  fromSlice : Bytes → Except String α

namespace JsonCodec

/-- The value `a` has a JSON text, from which it is read back. -/
def RoundTripsAt {α : Type} (json : JsonCodec α) (a : α) : Prop :=
  ∃ text, json.toVec a = .ok text ∧ json.fromSlice text = .ok a

/-- The JSON text of a value, empty if it has none. -/
def toVecOrDefault {α : Type} (json : JsonCodec α) (a : α) : Bytes :=
  match json.toVec a with
  | .ok text => text
  | .error _ => []

/-- The value of a JSON text, or a default value if it has none. -/
def fromSliceOr {α : Type} (json : JsonCodec α) (text : Bytes) (default : α) : α :=
  match json.fromSlice text with
  | .ok a => a
  | .error _ => default

/-- The codec that knows one value and its text only. -/
def only {α : Type} [DecidableEq α] (a : α) (text : Bytes) : JsonCodec α where
  toVec b := if b = a then .ok text else .error "unknown value"
  fromSlice bytes := if bytes = text then .ok a else .error "unknown text"

theorem roundTripsAt_only {α : Type} [DecidableEq α] (a : α) (text : Bytes) :
  (only a text).RoundTripsAt a
  := by
  use text
  constructor
  · apply if_pos rfl
  · apply if_pos rfl

theorem fromSlice_only_ne {α : Type} [DecidableEq α] {a : α} {text bytes : Bytes}
    (h : bytes ≠ text) (b : α) :
  (only a text).fromSlice bytes ≠ .ok b
  := by
  simp [only, h]

/-- The codec that knows the values and the texts of a table. -/
def table {α : Type} [DecidableEq α] (entries : List (α × Bytes)) : JsonCodec α where
  toVec a :=
    match entries.find? fun entry => entry.1 = a with
    | some entry => .ok entry.2
    | none => .error "unknown value"
  fromSlice bytes :=
    match entries.find? fun entry => entry.2 = bytes with
    | some entry => .ok entry.1
    | none => .error "unknown text"

/-- Every value of a table without repetitions is read back from its text. -/
theorem roundTripsAt_table {α : Type} [DecidableEq α] {entries : List (α × Bytes)}
    (hvalues : (entries.map Prod.fst).Nodup) (htexts : (entries.map Prod.snd).Nodup)
    {entry : α × Bytes} (h : entry ∈ entries) :
  (table entries).RoundTripsAt entry.1
  := by
  use entry.2
  simp only [table, find?_eq_of_nodup hvalues h, find?_eq_of_nodup htexts h]
  exact ⟨trivial, trivial⟩

/-- The codec that knows the values and the texts of a table, and gives each of the other values,
which are numbered, a text of as many zeros. -/
def tableOrZeros {α : Type} [DecidableEq α] [Encodable α] (entries : List (α × Bytes)) :
    JsonCodec α where
  toVec a :=
    match entries.find? fun entry => entry.1 = a with
    | some entry => .ok entry.2
    | none => .ok (List.replicate (Encodable.encode a) 0)
  fromSlice bytes :=
    match entries.find? fun entry => entry.2 = bytes with
    | some entry => .ok entry.1
    | none =>
      match Encodable.decode bytes.length with
      | some a => .ok a
      | none => .error "unknown text"

/-- With a table without repetitions of texts, none of which consists of zeros, every value is read
back from its text. -/
theorem roundTripsAt_tableOrZeros {α : Type} [DecidableEq α] [Encodable α]
    {entries : List (α × Bytes)} (htexts : (entries.map Prod.snd).Nodup)
    (hzeros : ∀ entry ∈ entries, ∃ b ∈ entry.2, b ≠ 0) (a : α) :
  (tableOrZeros entries).RoundTripsAt a
  := by
  cases hfind : entries.find? fun entry => entry.1 = a with
  | some entry =>
    have hentry := List.mem_of_find?_eq_some hfind
    have ha : entry.1 = a := by simpa using List.find?_some hfind
    use entry.2
    simp only [tableOrZeros, hfind, find?_eq_of_nodup htexts hentry, ha]
    exact ⟨trivial, trivial⟩
  | none =>
    have hunknown : entries.find? (fun entry => entry.2
        = List.replicate (Encodable.encode a) (0 : UInt8)) = none := by
      rw [List.find?_eq_none]
      intro entry hentry heq
      obtain ⟨b, hb, hne⟩ := hzeros entry hentry
      rw [of_decide_eq_true heq] at hb
      apply hne (List.eq_of_mem_replicate hb)
    use List.replicate (Encodable.encode a) 0
    simp only [tableOrZeros, hfind, hunknown, List.length_replicate, Encodable.encodek]
    exact ⟨trivial, trivial⟩

/-- A value that is read back from its JSON text is read back from the text written for it. -/
theorem RoundTripsAt.fromSlice_eq {α : Type} {json : JsonCodec α} {a : α}
    (h : json.RoundTripsAt a) :
  json.fromSlice (json.toVecOrDefault a) = .ok a
  := by
  obtain ⟨text, htext, hread⟩ := h
  rw [toVecOrDefault, htext]
  apply hread

end JsonCodec

end Text
