import WSocks.Endian

/-!
# Text

UTF-8 with the replacement of malformed input, ASCII text, and the text forms of
IP addresses: dotted quads, and the colon forms of RFC 4291 with a `::` for a run
of zeros and a dotted quad in the last 32 bits.
-/

namespace WSocks.Text
open WSocks.Endian

/-! ### UTF-8 -/

/-- The UTF-8 bytes of a text. -/
def encodeUtf8 (text : String) : List UInt8 := text.toList.flatMap String.utf8EncodeChar

/-- A continuation byte. -/
def continues (b : UInt8) : Bool := 0x80 ≤ b && b ≤ 0xBF

/-- For a byte that can begin a longer sequence: how many bytes follow, and the
    bounds of the first of them. -/
def follow (lead : UInt8) : Option (Nat × UInt8 × UInt8) :=
  if 0xC2 ≤ lead ∧ lead ≤ 0xDF then some (1,0x80,0xBF)
  else if lead = 0xE0 then some (2,0xA0,0xBF)
  else if lead = 0xED then some (2,0x80,0x9F)
  else if 0xE1 ≤ lead ∧ lead ≤ 0xEF then some (2,0x80,0xBF)
  else if lead = 0xF0 then some (3,0x90,0xBF)
  else if 0xF1 ≤ lead ∧ lead ≤ 0xF3 then some (3,0x80,0xBF)
  else if lead = 0xF4 then some (3,0x80,0x8F)
  else none

/-- How many bytes after the first one malformed sequence takes: the longest
    beginning of a well-formed sequence. -/
def malformedTail (lead : UInt8) : List UInt8 → Nat
  | [] => 0
  | second :: rest =>
    match follow lead with
    | none => 0
    | some (more,low,high) =>
      if low ≤ second ∧ second ≤ high then 1 + ((rest.take (more - 1)).takeWhile continues).length else 0

/-- The characters of a byte string, with U+FFFD for every malformed sequence. -/
def decodeChars : List UInt8 → List Char
  | [] => []
  | lead :: rest =>
    match (lead :: rest).toByteArray.utf8DecodeChar? 0 with
    | some c => c :: decodeChars (rest.drop (c.utf8Size - 1))
    | none => '\uFFFD' :: decodeChars (rest.drop (malformedTail lead rest))
termination_by bytes => bytes.length
decreasing_by all_goals simp only [List.length_drop,List.length_cons]; omega

/-- The text of a byte string. -/
def decodeUtf8 (bytes : List UInt8) : String := String.ofList (decodeChars bytes)

theorem decodeChars_encode (chars : List Char) : decodeChars (chars.flatMap String.utf8EncodeChar) = chars := by
  induction chars with
  | nil => simp [decodeChars]
  | cons c rest ih =>
    have first : (c :: rest).utf8Encode.utf8DecodeChar? 0 = some c := List.utf8DecodeChar?_utf8Encode_cons
    have size := String.length_utf8EncodeChar c
    have positive := c.utf8Size_pos
    cases bytes : String.utf8EncodeChar c with
    | nil => simp [bytes] at size; omega
    | cons lead tail =>
      rw [List.utf8Encode] at first
      rw [List.flatMap_cons,bytes,List.cons_append] at first ⊢
      rw [decodeChars,first]
      have tailSize : tail.length = c.utf8Size - 1 := by simp [bytes] at size; omega
      simp [← tailSize,ih]

@[simp] theorem decodeUtf8_encodeUtf8 (text : String) : decodeUtf8 (encodeUtf8 text) = text := by
  simp [decodeUtf8,encodeUtf8,decodeChars_encode]

/-- The length of a Java string: characters beyond U+FFFF count twice. -/
def utf16Length (text : String) : Nat := (text.toList.map (fun c => if c.toNat < 0x10000 then 1 else 2)).sum

/-- Every byte is an ASCII character. -/
def Ascii (bytes : List UInt8) : Prop := ∀ b ∈ bytes, b < 128

/-- The text whose characters have the given ASCII codes. -/
def asciiText (bytes : List UInt8) : String := String.ofList (bytes.map (fun b => Char.ofNat b.toNat))

theorem encodeChar_ascii {b : UInt8} (small : b < 128) : String.utf8EncodeChar (Char.ofNat b.toNat) = [b] := by
  have bound : b.toNat < 128 := UInt8.lt_iff_toNat_lt.mp small
  have valid : b.toNat.isValidChar := .inl (by omega)
  have value : (Char.ofNat b.toNat).val.toNat = b.toNat := by simp [Char.ofNat,valid,Char.ofNatAux]
  have one : (Char.ofNat b.toNat).utf8Size = 1 := by
    rw [Char.utf8Size_eq_one_iff,UInt32.le_iff_toNat_le,value]
    exact Nat.le_of_lt_succ bound
  rw [String.utf8EncodeChar_eq_singleton one]
  congr 1
  apply UInt8.toNat_inj.mp
  rw [UInt32.toNat_toUInt8,value]
  omega

theorem encodeUtf8_asciiText {bytes : List UInt8} (ascii : Ascii bytes) : encodeUtf8 (asciiText bytes) = bytes := by
  simp only [encodeUtf8,asciiText,String.toList_ofList]
  induction bytes with
  | nil => rfl
  | cons b rest ih =>
    have tail := ih (fun c member => ascii c (by simp [member]))
    simp [encodeChar_ascii (ascii b (by simp)),tail]

/-- ASCII bytes read as UTF-8 are the text with these character codes. -/
theorem decodeUtf8_ascii {bytes : List UInt8} (ascii : Ascii bytes) : decodeUtf8 bytes = asciiText bytes := by
  rw [← decodeUtf8_encodeUtf8 (asciiText bytes),encodeUtf8_asciiText ascii]

/-- A text of ASCII characters is as long in UTF-16 as in UTF-8. -/
theorem utf16Length_ascii {text : String} (ascii : ∀ c ∈ text.toList, c.toNat < 128) :
    utf16Length text = (encodeUtf8 text).length ∧ utf16Length text = text.toList.length := by
  simp only [utf16Length,encodeUtf8]
  generalize text.toList = characters at ascii
  induction characters with
  | nil => simp
  | cons c rest ih =>
    obtain ⟨bytes,length⟩ := ih (fun d member => ascii d (by simp [member]))
    have small := ascii c (by simp)
    have one : c.utf8Size = 1 := by
      rw [Char.utf8Size_eq_one_iff,UInt32.le_iff_toNat_le]
      exact Nat.le_of_lt_succ small
    simp [← bytes,length,one,show c.toNat < 65536 by omega]
    omega

/-- The text form of a UUID: hexadecimal digits in groups of 8, 4, 4, 4 and 12. -/
def CanonicalUuid (text : String) : Prop :=
  text.toList.length = 36 ∧
    ∀ k c, text.toList[k]? = some c →
      if k = 8 ∨ k = 13 ∨ k = 18 ∨ k = 23 then c = '-' else ('0' ≤ c ∧ c ≤ '9') ∨ ('a' ≤ c ∧ c ≤ 'f')

theorem CanonicalUuid.ascii {text : String} (canonical : CanonicalUuid text) : ∀ c ∈ text.toList, c.toNat < 128 := by
  intro c member
  obtain ⟨k,inside,rfl⟩ := List.mem_iff_getElem.mp member
  have form := canonical.2 k _ (List.getElem?_eq_getElem inside)
  split_ifs at form with hyphen
  · rw [form]; decide
  · rcases form with ⟨-,digit⟩ | ⟨-,letter⟩
    · exact lt_of_le_of_lt (UInt32.le_iff_toNat_le.mp digit) (by decide)
    · exact lt_of_le_of_lt (UInt32.le_iff_toNat_le.mp letter) (by decide)

/-! ### IP addresses -/

/-- An IPv4 address. -/
structure Ipv4 where
  a : UInt8
  b : UInt8
  c : UInt8
  d : UInt8
  deriving DecidableEq

def Ipv4.bytes (x : Ipv4) : List UInt8 := [x.a,x.b,x.c,x.d]

/-- The eight 16-bit groups of an IPv6 address. -/
def Ipv6 := { groups : List UInt16 // groups.length = 8 }
  deriving DecidableEq

def Ipv6.bytes (x : Ipv6) : List UInt8 := x.1.flatMap (fun g => beBytes 2 g.toNat)

theorem Ipv6.bytes_length (x : Ipv6) : x.bytes.length = 16 := by
  obtain ⟨groups,eight⟩ := x
  simp [Ipv6.bytes,List.length_flatMap,eight]

/-- The decimal digits of a byte. -/
def octetText (b : UInt8) : List Char := Nat.toDigits 10 b.toNat

/-- The byte with the given decimal digits, without leading zeros. -/
def octet? (digits : List Char) : Option UInt8 :=
  let n := Nat.ofDigitChars 10 digits 0
  if n < 256 ∧ Nat.toDigits 10 n = digits then some (UInt8.ofNat n) else none

/-- Four decimal bytes separated by dots. -/
def dottedQuad (x : Ipv4) : List Char := ['.'].intercalate [octetText x.a,octetText x.b,octetText x.c,octetText x.d]

/-- The IPv4 address that a dotted quad stands for. -/
def ipv4? (text : List Char) : Option Ipv4 :=
  match text.splitOn '.' with
  | [p,q,r,s] => do some ⟨← octet? p,← octet? q,← octet? r,← octet? s⟩
  | _ => none

theorem octet?_octetText (b : UInt8) : octet? (octetText b) = some b := by
  have small := b.toNat_lt
  simp [octet?,octetText,small]

theorem dot_not_mem_octetText (b : UInt8) : '.' ∉ octetText b := by
  intro member
  have digit := Nat.isDigit_of_mem_toDigits (by decide) (by decide) member
  exact absurd digit (by decide)

/-- Every IPv4 address is read back from its dotted quad. -/
theorem ipv4?_dottedQuad (x : Ipv4) : ipv4? (dottedQuad x) = some x := by
  have parts : (dottedQuad x).splitOn '.' = [octetText x.a,octetText x.b,octetText x.c,octetText x.d] := by
    apply List.splitOn_intercalate
    · simp [dot_not_mem_octetText]
    · simp
  rw [ipv4?,parts]
  simp [octet?_octetText]

/-- The value of a hexadecimal digit. -/
def hexDigit? (c : Char) : Option Nat :=
  if '0' ≤ c ∧ c ≤ '9' then some (c.toNat - '0'.toNat)
  else if 'a' ≤ c ∧ c ≤ 'f' then some (c.toNat - 'a'.toNat + 10)
  else if 'A' ≤ c ∧ c ≤ 'F' then some (c.toNat - 'A'.toNat + 10)
  else none

/-- A group of one to four hexadecimal digits. -/
def group? (digits : List Char) : Option UInt16 :=
  if 1 ≤ digits.length ∧ digits.length ≤ 4 then
    (digits.mapM hexDigit?).map (fun values => UInt16.ofNat (values.foldl (fun n v => 16 * n + v) 0))
  else none

/-- Groups separated by colons; the last 32 bits may be a dotted quad. -/
def groups? : List (List Char) → Option (List UInt16)
  | [] => some []
  | [last] =>
    match ipv4? last with
    | some x => some [UInt16.ofNat (beValue [x.a,x.b]),UInt16.ofNat (beValue [x.c,x.d])]
    | none => (group? last).map (fun g => [g])
  | first :: rest => do some ((← group? first) :: (← groups? rest))

/-- What stands before and after the first double colon. -/
def cutDoubleColon : List Char → Option (List Char × List Char)
  | ':' :: ':' :: rest => some ([],rest)
  | c :: rest => (cutDoubleColon rest).map (fun cut => (c :: cut.1,cut.2))
  | [] => none

/-- The groups on one side of a double colon. -/
def sideGroups? (text : List Char) : Option (List UInt16) :=
  if text = [] then some [] else groups? (text.splitOn ':')

/-- The IPv6 address that a text in one of the forms of RFC 4291 stands for. -/
def ipv6? (text : List Char) : Option Ipv6 := do
  let groups ← match cutDoubleColon text with
    | none => groups? (text.splitOn ':')
    | some (left,right) => do
      let left ← if left.contains '.' then none else sideGroups? left
      let right ← sideGroups? right
      if left.length + right.length ≤ 7 then
        some (left ++ List.replicate (8 - left.length - right.length) 0 ++ right)
      else none
  if eight : groups.length = 8 then some ⟨groups,eight⟩ else none

/-- The IPv4 address in an address of the form `::ffff:a.b.c.d`. -/
def Ipv6.mapped? (x : Ipv6) : Option Ipv4 :=
  match x.bytes with
  | [0,0,0,0,0,0,0,0,0,0,0xFF,0xFF,a,b,c,d] => some ⟨a,b,c,d⟩
  | _ => none

example : (ipv6? "2001:db8::7".toList).map Ipv6.bytes =
    some [0x20,0x01,0x0D,0xB8,0,0,0,0,0,0,0,0,0,0,0,7] := by decide
example : (ipv6? "::ffff:10.0.0.1".toList).bind Ipv6.mapped? = some ⟨10,0,0,1⟩ := by decide

end WSocks.Text
