import WSocks.Text

/-!
# Buffers

The part of `io.vertx.core.buffer.Buffer` that the proxy uses: reads at a
position, which fail outside the buffer, and appends. Bytes and shorts are signed,
as in Kotlin; positions are computed in `Int`.
-/

namespace WSocks.Buffers
open WSocks.Endian WSocks.Text

abbrev Buffer := List UInt8

/-- The exceptions that the modelled code can raise. -/
inductive Failure
  | indexOutOfBounds
  | negativeArraySize
  | illegalArgument
  | invalidKey
  | badPadding
  | dataFormat
  | decode
  | classCast
  | nullPointer
  | uninitializedProperty
  | illegalState
  | unknownHost
  deriving DecidableEq, Repr

/-- `getBytes(start, end)`: the array is allocated first, then filled. -/
def getBytes (buffer : Buffer) (start finish : Int) : Except Failure Buffer :=
  if finish < start then .error .negativeArraySize
  else if start < 0 ∨ buffer.length < finish then .error .indexOutOfBounds
  else .ok ((buffer.drop start.toNat).take (finish - start).toNat)

/-- `getBuffer(start, end)`. -/
def getBuffer (buffer : Buffer) (start finish : Int) : Except Failure Buffer := getBytes buffer start finish
/-- `getString(start, end)` reads UTF-8. -/
def getString (buffer : Buffer) (start finish : Int) : Except Failure String :=
  (getBytes buffer start finish).map decodeUtf8
/-- `getByte(pos)`. -/
def getByte (buffer : Buffer) (pos : Int) : Except Failure Int8 :=
  (getBytes buffer pos (pos + 1)).map (fun bytes => Int8.ofNat (beValue bytes))
/-- `getShort(pos)`, big-endian. -/
def getShort (buffer : Buffer) (pos : Int) : Except Failure Int16 :=
  (getBytes buffer pos (pos + 2)).map (fun bytes => Int16.ofNat (beValue bytes))
/-- `getIntLE(pos)`. -/
def getIntLE (buffer : Buffer) (pos : Int) : Except Failure Int32 :=
  (getBytes buffer pos (pos + 4)).map (fun bytes => Int32.ofNat (leValue bytes))

def appendByte (buffer : Buffer) (b : UInt8) : Buffer := buffer ++ [b]
def appendShort (buffer : Buffer) (s : Int16) : Buffer := buffer ++ beBytes 2 s.toUInt16.toNat
def appendUnsignedShort (buffer : Buffer) (n : Nat) : Buffer := buffer ++ beBytes 2 n
def appendUnsignedShortLE (buffer : Buffer) (n : Nat) : Buffer := buffer ++ leBytes 2 n
def appendUnsignedInt (buffer : Buffer) (n : Nat) : Buffer := buffer ++ beBytes 4 n
def appendIntLE (buffer : Buffer) (i : Int32) : Buffer := buffer ++ leBytes 4 i.toUInt32.toNat

/-! ### Reads inside and outside the buffer -/

/-- A read that lies inside the buffer gives the bytes that stand there. -/
theorem getBytes_between (front middle back : Buffer) {i j : Int} (starts : i = front.length)
    (ends : j = front.length + middle.length) :
    getBytes (front ++ middle ++ back) i j = .ok middle := by
  subst starts ends
  have ordered : ¬ (front.length + middle.length : Int) < front.length := by omega
  have inside : ¬ ((front.length : Int) < 0 ∨
      ((front ++ middle ++ back).length : Int) < front.length + middle.length) := by simp
  rw [getBytes,if_neg ordered,if_neg inside]
  simp

/-- Every read that succeeds is of that kind. -/
theorem getBytes_ok {buffer bytes : Buffer} {start finish : Int} (read : getBytes buffer start finish = .ok bytes) :
    ∃ front back, buffer = front ++ bytes ++ back ∧ start = front.length ∧ finish = front.length + bytes.length := by
  rw [getBytes] at read
  split_ifs at read with backwards outside
  push Not at outside
  cases read
  refine ⟨buffer.take start.toNat,(buffer.drop start.toNat).drop (finish - start).toNat,?_,?_,?_⟩
  · rw [List.append_assoc,List.take_append_drop,List.take_append_drop]
  · simp only [List.length_take]; omega
  · simp only [List.length_take,List.length_drop]; omega

/-- Reading past the end fails. -/
theorem getBytes_beyond {buffer : Buffer} {start finish : Int} (ordered : start ≤ finish)
    (beyond : (buffer.length : Int) < finish) : getBytes buffer start finish = .error .indexOutOfBounds := by
  rw [getBytes,if_neg (by omega),if_pos (.inr beyond)]

/-- Reading backwards fails. -/
theorem getBytes_backwards (buffer : Buffer) {start finish : Int} (backwards : finish < start) :
    getBytes buffer start finish = .error .negativeArraySize := if_pos backwards

theorem getByte_at (front back : Buffer) (b : UInt8) {i : Int} (here : i = front.length) :
    getByte (front ++ b :: back) i = .ok (Int8.ofNat b.toNat) := by
  have read := getBytes_between front [b] back here (j := i + 1) (by simp [here])
  rw [List.append_assoc,List.singleton_append] at read
  simp [getByte,read,Except.map,beValue,leValue]

/-- The byte at an index. -/
theorem getByte_index {buffer : Buffer} {k : Nat} {b : UInt8} (here : buffer[k]? = some b) :
    getByte buffer k = .ok (Int8.ofNat b.toNat) := by
  obtain ⟨inside,rfl⟩ := List.getElem?_eq_some_iff.mp here
  have split : buffer = buffer.take k ++ buffer[k] :: buffer.drop (k + 1) := by simp
  have read := getByte_at (buffer.take k) (buffer.drop (k + 1)) buffer[k] (i := k) (by simp; omega)
  rwa [← split] at read

theorem getByte_beyond {buffer : Buffer} {i : Int} (beyond : (buffer.length : Int) ≤ i) :
    getByte buffer i = .error .indexOutOfBounds := by
  rw [getByte,getBytes_beyond (by omega) (by omega)]
  rfl

theorem getShort_at (front back : Buffer) (high low : UInt8) {i : Int} (here : i = front.length) :
    getShort (front ++ high :: low :: back) i = .ok (Int16.ofNat (256 * high.toNat + low.toNat)) := by
  have read := getBytes_between front [high,low] back here (j := i + 2) (by simp [here])
  rw [List.append_assoc,List.cons_append,List.singleton_append] at read
  simp [getShort,read,Except.map,beValue_pair]

theorem getShort_beyond {buffer : Buffer} {i : Int} (beyond : (buffer.length : Int) < i + 2) :
    getShort buffer i = .error .indexOutOfBounds := by
  rw [getShort,getBytes_beyond (by omega) beyond]
  rfl

/-- A tag written by `appendIntLE` is read back. -/
theorem getIntLE_appendIntLE (i : Int32) (back : Buffer) : getIntLE (appendIntLE [] i ++ back) 0 = .ok i := by
  have read := getBytes_between [] (leBytes 4 i.toUInt32.toNat) back (i := 0) (j := 0 + 4) rfl (by simp)
  have fits : i.toUInt32.toNat < 256 ^ 4 := i.toUInt32.toNat_lt
  have value : leValue (leBytes 4 i.toUInt32.toNat) = i.toUInt32.toNat := by
    rw [leValue_leBytes,Nat.mod_eq_of_lt fits]
  have same : Int32.ofNat i.toUInt32.toNat = i := by cases i; simp [Int32.ofNat]
  rw [getIntLE,appendIntLE,read,Except.map,value,same]

/-- A read that is computed from others succeeds when they do. -/
theorem bind_ok {α β : Type} {x : Except Failure α} {f : α → Except Failure β} {b : β} :
    (x >>= f) = .ok b ↔ ∃ a, x = .ok a ∧ f a = .ok b := by
  cases x <;> simp [bind,Except.bind]

/-- So is a number of two bytes, as a signed one. -/
theorem getShort_between (front back : Buffer) {n : Nat} (fits : n < 65536) {i : Int} (here : i = front.length) :
    getShort (front ++ beBytes 2 n ++ back) i = .ok (Int16.ofNat n) := by
  have read := getBytes_between front (beBytes 2 n) back here (j := i + 2) (by simp [here])
  have value : beValue (beBytes 2 n) = n := by rw [beValue_beBytes]; exact Nat.mod_eq_of_lt fits
  rw [getShort,read,Except.map,value]

/-- What `appendShort` writes is read back. -/
theorem getShort_appendShort (front back : Buffer) (s : Int16) {i : Int} (here : i = front.length) :
    getShort (appendShort front s ++ back) i = .ok s := by
  have same : Int16.ofNat s.toUInt16.toNat = s := by cases s; simp [Int16.ofNat]
  rw [appendShort,getShort_between front back s.toUInt16.toNat_lt here,same]

/-- A byte as a signed Kotlin `Int`: from 128 on it is negative. -/
theorem toInt_byte (b : UInt8) :
    (Int8.ofNat b.toNat).toInt = if b.toNat < 128 then (b.toNat : Int) else (b.toNat : Int) - 256 := by
  have small := b.toNat_lt
  rw [Int8.toInt_ofNat',Int.bmod_def,show Int8.size = 256 from rfl]
  split_ifs <;> omega

/-- Two bytes as a signed Kotlin `Int`: from 32768 on it is negative. -/
theorem toInt_short {n : Nat} (small : n < 65536) :
    (Int16.ofNat n).toInt = if n < 32768 then (n : Int) else (n : Int) - 65536 := by
  rw [Int16.toInt_ofNat',Int.bmod_def,show Int16.size = 65536 from rfl]
  split_ifs <;> omega

end WSocks.Buffers
