import WSocks.Endian

/-!
# DNS messages

The messages of RFC 1035 as they stand on the wire: names with compression
pointers, questions, resource records, and the frame of a message that is sent
over TCP. Every reader gives back what the writer wrote and leaves what follows.
-/

namespace WSocks.DnsFormat
open WSocks.Endian

abbrev Bytes := List UInt8

/-- A label of a name. -/
structure Label where
  bytes : Bytes
  nonempty : 1 ≤ bytes.length
  short : bytes.length ≤ 63
  deriving DecidableEq

/-- A name: some labels, then the root or a pointer to the rest. -/
structure Name where
  labels : List Label
  pointer : Option (Fin 16384)
  deriving DecidableEq

structure Question where
  name : Name
  qtype : UInt16
  qclass : UInt16
  deriving DecidableEq

/-- A resource record; its length field counts the bytes of `rdata`. -/
structure Record where
  owner : Name
  rtype : UInt16
  rclass : UInt16
  ttl : UInt32
  rdata : Bytes
  fits : rdata.length < 65536
  deriving DecidableEq

/-- A message; every section is counted by two bytes. -/
structure Message where
  id : UInt16
  flags : UInt16
  questions : List Question
  answers : List Record
  authority : List Record
  additional : List Record
  fits : questions.length < 65536 ∧ answers.length < 65536 ∧ authority.length < 65536 ∧ additional.length < 65536

/-! ### Writing -/

def Label.encode (label : Label) : Bytes := UInt8.ofNat label.bytes.length :: label.bytes

def Name.encode (name : Name) : Bytes :=
  name.labels.flatMap Label.encode ++ match name.pointer with
    | none => [0]
    | some p => [UInt8.ofNat (192 + p / 256),UInt8.ofNat (p % 256)]

def word (x : UInt16) : Bytes := beBytes 2 x.toNat

def Question.encode (question : Question) : Bytes :=
  question.name.encode ++ word question.qtype ++ word question.qclass

def Record.encode (record : Record) : Bytes :=
  record.owner.encode ++ word record.rtype ++ word record.rclass ++ beBytes 4 record.ttl.toNat ++
    beBytes 2 record.rdata.length ++ record.rdata

def Message.encode (message : Message) : Bytes :=
  word message.id ++ word message.flags ++ beBytes 2 message.questions.length ++ beBytes 2 message.answers.length ++
    beBytes 2 message.authority.length ++ beBytes 2 message.additional.length ++
    message.questions.flatMap Question.encode ++ message.answers.flatMap Record.encode ++
    message.authority.flatMap Record.encode ++ message.additional.flatMap Record.encode

/-- A message over TCP: its length in front. -/
def frame (body : Bytes) : Bytes := beBytes 2 body.length ++ body

/-! ### Reading -/

def readNumber (size : Nat) (bytes : Bytes) : Option (Nat × Bytes) :=
  if size ≤ bytes.length then some (beValue (bytes.take size),bytes.drop size) else none

private theorem take_nonempty (n : UInt8) (rest : Bytes) (nonzero : ¬ n.toNat = 0) (inside : n.toNat ≤ rest.length) :
    1 ≤ (rest.take n.toNat).length := by
  rw [List.length_take]
  omega
private theorem take_short (n : UInt8) (rest : Bytes) (short : n.toNat ≤ 63) : (rest.take n.toNat).length ≤ 63 := by
  rw [List.length_take]
  omega

/-- A pointer has fourteen bits. -/
instance pointer_bits : NeZero 16384 := ⟨by decide⟩

def readName (bytes : Bytes) : Option (Name × Bytes) :=
  match bytes with
  | [] => none
  | n :: rest =>
    if zero : n.toNat = 0 then some (⟨[],none⟩,rest)
    else if short : n.toNat ≤ 63 then
      if inside : n.toNat ≤ rest.length then
        (readName (rest.drop n.toNat)).map (fun (name,left) =>
          (⟨⟨rest.take n.toNat,take_nonempty n rest zero inside,take_short n rest short⟩ :: name.labels,name.pointer⟩,left))
      else none
    else if 192 ≤ n.toNat then
      match rest with
      | [] => none
      | m :: left => some (⟨[],some (Fin.ofNat 16384 (256 * (n.toNat - 192) + m.toNat))⟩,left)
    else none
termination_by bytes.length

def readQuestion (bytes : Bytes) : Option (Question × Bytes) := do
  let (name,bytes) ← readName bytes
  let (qtype,bytes) ← readNumber 2 bytes
  let (qclass,bytes) ← readNumber 2 bytes
  return (⟨name,UInt16.ofNat qtype,UInt16.ofNat qclass⟩,bytes)

def readRecord (bytes : Bytes) : Option (Record × Bytes) := do
  let (owner,bytes) ← readName bytes
  let (rtype,bytes) ← readNumber 2 bytes
  let (rclass,bytes) ← readNumber 2 bytes
  let (ttl,bytes) ← readNumber 4 bytes
  let (length,bytes) ← readNumber 2 bytes
  if inside : length ≤ bytes.length ∧ length < 65536 then
    return (⟨owner,UInt16.ofNat rtype,UInt16.ofNat rclass,UInt32.ofNat ttl,bytes.take length,by simp; omega⟩,
      bytes.drop length)
  else none

/-- Reads as many items as were counted. -/
def readMany {α : Type} (read : Bytes → Option (α × Bytes)) : Nat → Bytes → Option (List α × Bytes)
  | 0,bytes => some ([],bytes)
  | count + 1,bytes => do
    let (first,bytes) ← read bytes
    let (rest,bytes) ← readMany read count bytes
    return (first :: rest,bytes)

def readMessage (bytes : Bytes) : Option (Message × Bytes) := do
  let (id,bytes) ← readNumber 2 bytes
  let (flags,bytes) ← readNumber 2 bytes
  let (qdcount,bytes) ← readNumber 2 bytes
  let (ancount,bytes) ← readNumber 2 bytes
  let (nscount,bytes) ← readNumber 2 bytes
  let (arcount,bytes) ← readNumber 2 bytes
  let (questions,bytes) ← readMany readQuestion qdcount bytes
  let (answers,bytes) ← readMany readRecord ancount bytes
  let (authority,bytes) ← readMany readRecord nscount bytes
  let (additional,bytes) ← readMany readRecord arcount bytes
  if fits : questions.length < 65536 ∧ answers.length < 65536 ∧ authority.length < 65536 ∧ additional.length < 65536 then
    return (⟨UInt16.ofNat id,UInt16.ofNat flags,questions,answers,authority,additional,fits⟩,bytes)
  else none

/-- Takes the frame off: the length in front must be the length of the rest. -/
def readFrame (bytes : Bytes) : Option Bytes :=
  match readNumber 2 bytes with
  | some (length,body) => if length = body.length then some body else none
  | none => none

/-- The labels of the name at an offset; a pointer must point back. -/
def labelsAt (message : Bytes) (offset : Nat) : Option (List Label) :=
  match readName (message.drop offset) with
  | none => none
  | some (name,_) =>
    match name.pointer with
    | none => some name.labels
    | some p => if p < offset then (labelsAt message p).map (fun labels => name.labels ++ labels) else none
termination_by offset

/-- The labels that a name in a message stands for. -/
def Name.resolve (message : Bytes) (name : Name) : Option (List Label) :=
  match name.pointer with
  | none => some name.labels
  | some p => (labelsAt message p).map (fun labels => name.labels ++ labels)

/-! ### What was written is read back -/

theorem readNumber_beBytes {size n : Nat} (fits : n < 256 ^ size) (rest : Bytes) :
    readNumber size (beBytes size n ++ rest) = some (n,rest) := by
  simp [readNumber,beValue_beBytes,Nat.mod_eq_of_lt fits]

theorem readNumber_word (x : UInt16) (rest : Bytes) : readNumber 2 (word x ++ rest) = some (x.toNat,rest) :=
  readNumber_beBytes x.toNat_lt rest

theorem readName_encode (name : Name) (rest : Bytes) : readName (name.encode ++ rest) = some (name,rest) := by
  obtain ⟨labels,pointer⟩ := name
  induction labels with
  | nil =>
    cases pointer with
    | none =>
      simp only [Name.encode,List.flatMap_nil,List.nil_append,List.singleton_append]
      rw [readName.eq_def]
      simp
    | some p =>
      have high : (UInt8.ofNat (192 + p.val / 256)).toNat = 192 + p.val / 256 := by simp; omega
      have low : (UInt8.ofNat (p.val % 256)).toNat = p.val % 256 := by simp
      have whole : 256 * (192 + p.val / 256 - 192) + p.val % 256 = p.val := by omega
      simp only [Name.encode,List.flatMap_nil,List.nil_append,List.cons_append]
      rw [readName.eq_def]
      simp only [high,low,whole]
      rw [dif_neg (by omega),dif_neg (by omega),if_pos (by omega)]
      simp [Fin.ofNat,Nat.mod_eq_of_lt p.isLt]
  | cons label labels ih =>
    have size : (UInt8.ofNat label.bytes.length).toNat = label.bytes.length :=
      UInt8.toNat_ofNat_of_lt' (lt_of_le_of_lt label.short (by decide))
    have nonempty := label.nonempty
    have short := label.short
    have split : Name.encode ⟨label :: labels,pointer⟩ ++ rest =
        UInt8.ofNat label.bytes.length :: (label.bytes ++ (Name.encode ⟨labels,pointer⟩ ++ rest)) := by
      simp [Name.encode,Label.encode]
    rw [split,readName.eq_def]
    simp only [size]
    rw [dif_neg (by omega),dif_pos short,dif_pos (by simp)]
    simp [ih]

theorem readQuestion_encode (question : Question) (rest : Bytes) :
    readQuestion (question.encode ++ rest) = some (question,rest) := by
  simp [readQuestion,Question.encode,List.append_assoc,readName_encode,readNumber_word]

theorem readRecord_encode (record : Record) (rest : Bytes) :
    readRecord (record.encode ++ rest) = some (record,rest) := by
  have fits := record.fits
  have long := @readNumber_beBytes 4 _ record.ttl.toNat_lt
  have size := @readNumber_beBytes 2 _ fits
  simp [readRecord,Record.encode,List.append_assoc,readName_encode,readNumber_word,long,size,fits]

theorem readMany_encode {α : Type} {read : Bytes → Option (α × Bytes)} {encode : α → Bytes}
    (reads : ∀ item rest, read (encode item ++ rest) = some (item,rest)) (items : List α) (rest : Bytes) :
    readMany read items.length (items.flatMap encode ++ rest) = some (items,rest) := by
  induction items with
  | nil => rfl
  | cons item items ih => simp [readMany,List.append_assoc,reads,ih]

theorem readMessage_encode (message : Message) (rest : Bytes) :
    readMessage (message.encode ++ rest) = some (message,rest) := by
  obtain ⟨qd,an,ns,ar⟩ := message.fits
  have count : ∀ {n : Nat}, n < 65536 → ∀ rest, readNumber 2 (beBytes 2 n ++ rest) = some (n,rest) :=
    fun fits => readNumber_beBytes fits
  unfold readMessage Message.encode
  simp only [List.append_assoc,Option.bind_eq_bind]
  rw [readNumber_word,Option.bind_some,readNumber_word,Option.bind_some,count qd,Option.bind_some,count an,
    Option.bind_some,count ns,Option.bind_some,count ar,Option.bind_some,readMany_encode readQuestion_encode,
    Option.bind_some,readMany_encode readRecord_encode,Option.bind_some,readMany_encode readRecord_encode,
    Option.bind_some,readMany_encode readRecord_encode,Option.bind_some,dif_pos message.fits]
  simp

theorem readFrame_frame {body : Bytes} (fits : body.length < 65536) : readFrame (frame body) = some body := by
  simp [readFrame,frame,@readNumber_beBytes 2 _ fits]

end WSocks.DnsFormat
