import WSocks.Blocks
import WSocks.Endian
import WSocks.Rings

/-!
# The circular packet buffer

`structure/ChunkBuffer2.h`: a packet takes a block of four bytes with its length and then, in one
piece, as many blocks as its bytes need. Where the buffer keeps to its fields it is a ring of
packets (`Rings`).
-/

namespace WSocks.PacketBuffers
open WSocks.Blocks WSocks.Endian WSocks.Rings

abbrev Bytes := List UInt8

inductive Fault
  | assertion
  | memory
deriving DecidableEq

def ASSERT (holds : Prop) [Decidable holds] : Except Fault Unit := if holds then .ok () else .error .assertion

def INT_MAX : Int := 2147483647
/-- `sizeof (struct ChunkBuffer2_block)`. -/
def block : Int := 4

def bdivide_up (a b : Int) : Int := if a % b > 0 then a / b + 1 else a / b

/-- Places in memory are counted in bytes from the beginning of `buffer`. -/
structure ChunkBuffer2 where
  buffer : Block UInt8
  size : Int
  wrap : Int
  start : Int
  used : Int
  mtu : Int
  input_dest : Option Int
  input_avail : Int
  output_dest : Option Int
  output_avail : Int
deriving DecidableEq

variable (buf : ChunkBuffer2)

/-- `buf->buffer[i].len`, a signed number of 32 bits. -/
def ChunkBuffer2.len (i : Int) : Except Fault Int :=
  match load buf.buffer (block * i).toNat 4 with
  | some bytes => if 0 ≤ i then .ok (Int.bmod (leValue bytes) (2 ^ 32)) else .error .memory
  | none => .error .memory

def ChunkBuffer2.setLen (i len : Int) : Except Fault ChunkBuffer2 :=
  match store buf.buffer (block * i).toNat (leBytes 4 (len % 2 ^ 32).toNat) with
  | some buffer => if 0 ≤ i then .ok {buf with buffer := buffer} else .error .memory
  | none => .error .memory

def ChunkBuffer2_end : Int :=
  if buf.used ≥ buf.wrap - buf.start then buf.used - (buf.wrap - buf.start) else buf.start + buf.used

def ChunkBuffer2_assert_buffer : Except Fault Unit := do
  ASSERT (buf.size > 0)
  ASSERT (buf.wrap > 0)
  ASSERT (buf.wrap ≤ buf.size)
  ASSERT (buf.start ≥ 0)
  ASSERT (buf.start < buf.wrap)
  ASSERT (buf.used ≥ 0)
  ASSERT (buf.used ≤ buf.wrap)
  ASSERT (buf.wrap = buf.size ∨ buf.used ≥ buf.wrap - buf.start)
  ASSERT (buf.mtu ≥ 0)

def ChunkBuffer2_assert_input : Except Fault Unit :=
  let end' := ChunkBuffer2_end buf
  if buf.size - end' - 1 < buf.mtu then do
    ASSERT (buf.input_dest = none)
    ASSERT (buf.input_avail = -1)
  else
    let free := if buf.used ≥ buf.wrap - buf.start then buf.start - end' else buf.size - end'
    if free > 0 then do
      ASSERT (buf.input_dest = some (block * (end' + 1)))
      ASSERT (buf.input_avail = (free - 1) * block)
    else do
      ASSERT (buf.input_dest = none)
      ASSERT (buf.input_avail = -1)

def ChunkBuffer2_assert_output : Except Fault Unit :=
  if buf.used > 0 then do
    let datalen ← buf.len buf.start
    ASSERT (datalen ≥ 0)
    let blocklen := bdivide_up datalen block
    ASSERT (blocklen ≤ buf.used - 1)
    ASSERT (blocklen ≤ buf.wrap - buf.start - 1)
    ASSERT (buf.output_dest = some (block * (buf.start + 1)))
    ASSERT (buf.output_avail = datalen)
  else do
    ASSERT (buf.output_dest = none)
    ASSERT (buf.output_avail = -1)

def ChunkBuffer2_assert_io : Except Fault Unit := do
  ChunkBuffer2_assert_input buf
  ChunkBuffer2_assert_output buf

def ChunkBuffer2_update_input : ChunkBuffer2 :=
  let end' := ChunkBuffer2_end buf
  -- it will never be possible to write a packet of the MTU here
  if buf.size - end' - 1 < buf.mtu then {buf with input_dest := none,input_avail := -1}
  else
    let free := if buf.used ≥ buf.wrap - buf.start then buf.start - end' else buf.size - end'
    if free > 0 then {buf with input_dest := some (block * (end' + 1)),input_avail := (free - 1) * block}
    else {buf with input_dest := none,input_avail := -1}

def ChunkBuffer2_update_output : Except Fault ChunkBuffer2 :=
  if buf.used > 0 then do
    let datalen ← buf.len buf.start
    ASSERT (datalen ≥ 0)
    let blocklen := bdivide_up datalen block
    ASSERT (blocklen ≤ buf.used - 1)
    ASSERT (blocklen ≤ buf.wrap - buf.start - 1)
    pure {buf with output_dest := some (block * (buf.start + 1)),output_avail := datalen}
  else pure {buf with output_dest := none,output_avail := -1}

def ChunkBuffer2_calc_blocks (chunk_len num : Int) : Int :=
  let chunk_data_blocks := bdivide_up chunk_len block
  if chunk_data_blocks > INT_MAX - 1 then -1
  else
    let chunk_blocks := 1 + chunk_data_blocks
    if num > INT_MAX - 1 then -1
    else
      let num_chunks := num + 1
      if chunk_blocks > INT_MAX / num_chunks then -1 else chunk_blocks * num_chunks

def ChunkBuffer2_Init (buffer : Block UInt8) (blocks mtu : Int) : Except Fault ChunkBuffer2 := do
  ASSERT (blocks > 0)
  ASSERT (mtu ≥ 0)
  let buf : ChunkBuffer2 := ⟨buffer,blocks,blocks,0,0,bdivide_up mtu block,none,0,none,0⟩
  ChunkBuffer2_assert_buffer buf
  let buf ← ChunkBuffer2_update_output (ChunkBuffer2_update_input buf)
  ChunkBuffer2_assert_io buf
  pure buf

/-- Where `ChunkBuffer2_SubmitPacket` counts the blocks of the packet. -/
def ChunkBuffer2_fill (end' blocklen : Int) : ChunkBuffer2 :=
  let buf := {buf with used := buf.used + (1 + blocklen)}
  if buf.used ≤ buf.wrap - buf.start ∧ buf.mtu > buf.size - (end' + 1 + blocklen) - 1 then
    {buf with wrap := end' + 1 + blocklen}
  else buf

/-- What `ChunkBuffer2_SubmitPacket` does behind its assertions about the free blocks. -/
def ChunkBuffer2_submitted (len end' blocklen : Int) : Except Fault ChunkBuffer2 := do
  let buf ← buf.setLen end' len
  let buf := ChunkBuffer2_fill buf end' blocklen
  ChunkBuffer2_assert_buffer buf
  let buf := ChunkBuffer2_update_input buf
  let buf ← (if buf.used = 1 + blocklen then ChunkBuffer2_update_output buf else pure buf)
  ChunkBuffer2_assert_io buf
  pure buf

def ChunkBuffer2_SubmitPacket (len : Int) : Except Fault ChunkBuffer2 := do
  ASSERT (buf.input_dest ≠ none)
  ASSERT (len ≥ 0)
  ASSERT (len ≤ buf.input_avail)
  ChunkBuffer2_assert_buffer buf
  ChunkBuffer2_assert_io buf
  let end' := ChunkBuffer2_end buf
  let blocklen := bdivide_up len block
  ASSERT (blocklen ≤ buf.size - end' - 1)
  ASSERT (buf.used < buf.wrap - buf.start ∨ blocklen ≤ buf.start - end' - 1)
  ChunkBuffer2_submitted buf len end' blocklen

/-- Where `ChunkBuffer2_ConsumePacket` gives back the blocks of the packet. -/
def ChunkBuffer2_drain (blocklen : Int) : ChunkBuffer2 :=
  let buf := {buf with start := buf.start + (1 + blocklen),used := buf.used - (1 + blocklen)}
  if buf.start = buf.wrap then {buf with start := 0,wrap := buf.size} else buf

/-- What `ChunkBuffer2_ConsumePacket` does behind its assertions about the first packet. -/
def ChunkBuffer2_consumed (blocklen : Int) : Except Fault ChunkBuffer2 := do
  let data_wrapped := buf.used ≥ buf.wrap - buf.start
  let buf := ChunkBuffer2_drain buf blocklen
  ChunkBuffer2_assert_buffer buf
  let buf := if data_wrapped then ChunkBuffer2_update_input buf else buf
  let buf ← ChunkBuffer2_update_output buf
  ChunkBuffer2_assert_io buf
  pure buf

def ChunkBuffer2_ConsumePacket : Except Fault ChunkBuffer2 := do
  ASSERT (buf.output_dest ≠ none)
  ChunkBuffer2_assert_buffer buf
  ChunkBuffer2_assert_io buf
  ASSERT (1 ≤ buf.wrap - buf.start)
  ASSERT (1 ≤ buf.used)
  let blocklen := bdivide_up (← buf.len buf.start) block
  ASSERT (blocklen ≤ buf.wrap - buf.start - 1)
  ASSERT (blocklen ≤ buf.used - 1)
  ChunkBuffer2_consumed buf blocklen

/-! ### The buffer is a ring of packets -/

/-- The blocks of a packet. -/
def cells (packet : Bytes) : Nat := 1 + (packet.length + 3) / 4

/-- The packet is in the buffer, its length first. -/
def Stored (m : Block UInt8) (i : Nat) (packet : Bytes) : Prop :=
  packet.length < 2 ^ 31 ∧ Holds m (4 * i) (leBytes 4 packet.length ++ packet)

def inputDest (r : Ring) : Option Int := if r.free = 0 then none else some (4 * (r.finish + 1))
def inputAvail (r : Ring) : Int := 4 * (r.free : Int) - (if r.free = 0 then 1 else 4)
def outputDest (r : Ring) (packets : List Bytes) : Option Int := packets.head?.map (fun _ => 4 * (r.start + 1 : Int))
def outputAvail (packets : List Bytes) : Int := (packets.head?.map (fun packet => (packet.length : Int))).getD (-1)

section
variable {buf : ChunkBuffer2} {r : Ring} {room : Nat} {packet : Bytes} {packets : List Bytes}

/-- The numbers of the buffer are those of the ring. -/
structure Numbers (room : Nat) (buf : ChunkBuffer2) (r : Ring) : Prop where
  size : buf.size = r.size
  wrap : buf.wrap = r.wrap
  start : buf.start = r.start
  used : buf.used = r.used
  mtu : buf.mtu + 1 = room

/-- The buffer stands for the packets that have been submitted and not consumed. -/
structure Queue (room : Nat) (buf : ChunkBuffer2) (r : Ring) (packets : List Bytes) : Prop
    extends Numbers room buf r where
  memory : buf.buffer.length = 4 * r.size
  holds : Rings.Holds cells (Stored buf.buffer) room r packets
  input_dest : buf.input_dest = inputDest r
  input_avail : buf.input_avail = inputAvail r
  output_dest : buf.output_dest = outputDest r packets
  output_avail : buf.output_avail = outputAvail packets

theorem ASSERT_ok {holds : Prop} [Decidable holds] (true' : holds) : ASSERT holds = .ok () := if_pos true'

theorem assert_then {α : Type} {holds : Prop} [Decidable holds] {rest : Unit → Except Fault α} (true' : holds) :
    (ASSERT holds >>= rest) = rest () := by
  rw [ASSERT_ok true']
  rfl

/-- What succeeds behind an assertion had it hold. -/
theorem of_assert {α : Type} {holds : Prop} [Decidable holds] {rest : Unit → Except Fault α} {a : α}
    (ran : (ASSERT holds >>= rest) = .ok a) : holds ∧ rest () = .ok a := by
  by_cases true' : holds
  · exact ⟨true',(assert_then true').symm.trans ran⟩
  · rw [ASSERT,if_neg true'] at ran
    cases ran

theorem ok_then {α β : Type} {a : α} {first : Except Fault α} {rest : α → Except Fault β} (first' : first = .ok a) :
    (first >>= rest) = rest a := by
  rw [first']
  rfl

theorem bdivide_up_eq (n : Nat) : bdivide_up n block = ((n + 3) / 4 : Nat) := by
  rw [bdivide_up,block]
  split_ifs <;> omega

theorem cells_pos (packet : Bytes) : 0 < cells packet := by
  rw [cells]
  omega

theorem Stored.len (stored : Stored buf.buffer r.start packet) : buf.len r.start = .ok packet.length := by
  obtain ⟨small,holds⟩ := stored
  have read := (holds_append.mp holds).1.load
  rw [leBytes_length] at read
  have place : (block * (r.start : Int)).toNat = 4 * r.start := by
    rw [block]
    omega
  rw [ChunkBuffer2.len,place,read]
  dsimp only
  rw [if_pos (by omega),leValue_leBytes,Nat.mod_eq_of_lt (by omega),Int.bmod_eq_of_le (by omega) (by omega)]

theorem Numbers.end_eq (numbers : Numbers room buf r) : ChunkBuffer2_end buf = r.finish := by
  obtain ⟨size,wrap,start,used,mtu⟩ := numbers
  rw [ChunkBuffer2_end,Ring.finish,wrap,start,used]
  split_ifs <;> omega

theorem Numbers.free_eq (numbers : Numbers room buf r) (holds : Rings.Holds cells (Stored buf.buffer) room r packets)
    (positive : 0 < room) :
    (if buf.used ≥ buf.wrap - buf.start then buf.start - r.finish else buf.size - r.finish) = (r.free : Int) := by
  have ahead := holds.ahead positive
  have sound := holds.sound positive
  obtain ⟨size,wrap,start,used,mtu⟩ := numbers
  rw [Ring.finish] at ahead
  rw [Ring.free,Ring.finish,wrap,start,used,size]
  split_ifs at ahead ⊢ <;> omega

theorem Numbers.assert_buffer (numbers : Numbers room buf r) (positive : 0 < room)
    (holds : Rings.Holds cells (Stored buf.buffer) room r packets) : ChunkBuffer2_assert_buffer buf = .ok () := by
  have sound := holds.sound positive
  obtain ⟨size,wrap,start,used,mtu⟩ := numbers
  rw [ChunkBuffer2_assert_buffer,ASSERT_ok (by omega),ASSERT_ok (by omega),ASSERT_ok (by omega),ASSERT_ok (by omega),
    ASSERT_ok (by omega),ASSERT_ok (by omega),ASSERT_ok (by omega),ASSERT_ok (by omega),ASSERT_ok (by omega)]
  rfl

theorem Numbers.update_input (numbers : Numbers room buf r) (positive : 0 < room)
    (holds : Rings.Holds cells (Stored buf.buffer) room r packets) :
    ChunkBuffer2_update_input buf = {buf with input_dest := inputDest r,input_avail := inputAvail r} := by
  have ahead := holds.ahead positive
  have room' := numbers.mtu
  have size := numbers.size
  rw [ChunkBuffer2_update_input,numbers.end_eq]
  dsimp only
  rw [numbers.free_eq holds positive,if_neg (by omega),inputDest,inputAvail,block]
  by_cases none' : r.free = 0
  · rw [if_neg (by omega),if_pos none',if_pos none',none']
    rfl
  · rw [if_pos (by omega),if_neg none',if_neg none']
    congr 1
    ring

theorem Queue.assert_input (queue : Queue room buf r packets) (positive : 0 < room) :
    ChunkBuffer2_assert_input buf = .ok () := by
  have ahead := queue.holds.ahead positive
  have room' := queue.mtu
  have size := queue.size
  rw [ChunkBuffer2_assert_input,queue.toNumbers.end_eq]
  dsimp only
  rw [queue.toNumbers.free_eq queue.holds positive,if_neg (by omega),queue.input_dest,queue.input_avail,inputDest,
    inputAvail,block]
  by_cases none' : r.free = 0
  · rw [if_neg (by omega),if_pos none',if_pos none',ASSERT_ok rfl,ASSERT_ok (by omega)]
    rfl
  · rw [if_pos (by omega),if_neg none',if_neg none',ASSERT_ok rfl,ASSERT_ok (by omega)]
    rfl

theorem Numbers.update_output (numbers : Numbers room buf r) (positive : 0 < room)
    (holds : Rings.Holds cells (Stored buf.buffer) room r packets) : ChunkBuffer2_update_output buf =
      .ok {buf with output_dest := outputDest r packets,output_avail := outputAvail packets} := by
  have used := numbers.used
  have empty := holds.used_eq cells_pos
  rw [ChunkBuffer2_update_output]
  cases packets with
  | nil =>
    rw [if_neg (by simp only [empty.mpr] at used; omega)]
    rfl
  | cons packet packets =>
    obtain ⟨stored,inside,less⟩ := holds.first positive
    have start := numbers.start
    have wrap := numbers.wrap
    rw [cells] at inside less
    have len := stored.len
    rw [← start] at len
    rw [if_pos (by omega),ok_then len,assert_then (by omega),bdivide_up_eq,assert_then (by omega),
      assert_then (by omega),start,block]
    rfl

theorem Queue.assert_output (queue : Queue room buf r packets) (positive : 0 < room) :
    ChunkBuffer2_assert_output buf = .ok () := by
  have used := queue.used
  have empty := queue.holds.used_eq cells_pos
  rw [ChunkBuffer2_assert_output]
  cases packets with
  | nil =>
    have dest : buf.output_dest = none := queue.output_dest
    have avail : buf.output_avail = -1 := queue.output_avail
    rw [if_neg (by simp only [empty.mpr] at used; omega),assert_then dest,ASSERT_ok avail]
  | cons packet packets =>
    obtain ⟨stored,inside,less⟩ := queue.holds.first positive
    have start := queue.start
    have wrap := queue.wrap
    have dest : buf.output_dest = some (4 * (r.start + 1)) := queue.output_dest
    have avail : buf.output_avail = packet.length := queue.output_avail
    have len := stored.len
    rw [← start] at len
    rw [cells] at inside less
    rw [if_pos (by omega),ok_then len,assert_then (by omega),bdivide_up_eq,assert_then (by omega),
      assert_then (by omega),assert_then (by rw [dest,start]; rfl),ASSERT_ok avail]

theorem Queue.assert_io (queue : Queue room buf r packets) (positive : 0 < room) :
    ChunkBuffer2_assert_io buf = .ok () := by
  rw [ChunkBuffer2_assert_io,ok_then (queue.assert_input positive),queue.assert_output positive]

/-- The length of a packet is written before it. -/
theorem stored_setLen (memory : buf.buffer.length = 4 * r.size)
    (holds : Holds buf.buffer (4 * r.finish + 4) packet) (small : packet.length < 2 ^ 31) :
    ∃ m, buf.setLen r.finish packet.length = .ok {buf with buffer := m} ∧ m.length = buf.buffer.length ∧
      Stored m r.finish packet ∧
      ∀ i data, i + data.length ≤ 4 * r.finish ∨ 4 * r.finish + 4 ≤ i → Holds buf.buffer i data → Holds m i data := by
  have inside := holds.inside
  have value : ((packet.length : Int) % 2 ^ 32).toNat = packet.length := by omega
  have place : (block * (r.finish : Int)).toNat = 4 * r.finish := by
    rw [block]
    omega
  obtain ⟨m,stored⟩ := exists_store buf.buffer (4 * r.finish) (leBytes 4 packet.length) (by rw [leBytes_length]; omega)
  refine ⟨m,?_,length_store stored,⟨small,holds_append.mpr ⟨holds_store stored,?_⟩⟩,?_⟩
  · rw [ChunkBuffer2.setLen,place,value,stored]
    exact if_pos (by omega)
  · rw [leBytes_length]
    exact holds.store stored (.inr (by rw [leBytes_length]))
  · intro i data apart held
    refine held.store stored ?_
    rwa [leBytes_length]

theorem length_stored (packet : Bytes) : (leBytes 4 packet.length ++ packet).length ≤ 4 * cells packet := by
  rw [List.length_append,leBytes_length,cells]
  omega

theorem Numbers.fill (numbers : Numbers room buf r) (m : Block UInt8) (packet : Bytes) :
    Numbers room (ChunkBuffer2_fill {buf with buffer := m} r.finish ((packet.length + 3) / 4 : Nat))
      (r.push room (cells packet)) ∧
    ChunkBuffer2_fill {buf with buffer := m} r.finish ((packet.length + 3) / 4 : Nat) =
      {buf with
        buffer := m
        used := (ChunkBuffer2_fill {buf with buffer := m} r.finish ((packet.length + 3) / 4 : Nat)).used
        wrap := (ChunkBuffer2_fill {buf with buffer := m} r.finish ((packet.length + 3) / 4 : Nat)).wrap} := by
  obtain ⟨size,wrap,start,used,mtu⟩ := numbers
  rw [ChunkBuffer2_fill,Ring.push,cells]
  dsimp only
  by_cases ends : r.start + (r.used + (1 + (packet.length + 3) / 4)) ≤ r.wrap ∧
      r.size < r.finish + (1 + (packet.length + 3) / 4) + room
  · rw [if_pos ends,if_pos (by omega)]
    exact ⟨⟨size,by dsimp only; omega,start,by dsimp only; omega,mtu⟩,rfl⟩
  · rw [if_neg ends,if_neg (by omega)]
    exact ⟨⟨size,wrap,start,by dsimp only; omega,mtu⟩,rfl⟩

theorem push_kept (r : Ring) (room width : Nat) : (r.push room width).start = r.start ∧ (r.push room width).size = r.size ∧
    (r.push room width).used = r.used + width := by
  rw [Ring.push]
  split_ifs <;> exact ⟨rfl,rfl,rfl⟩

theorem pop_size (r : Ring) (width : Nat) : (r.pop width).size = r.size := by
  rw [Ring.pop]
  split_ifs <;> rfl

/-- A packet in the part of the buffer that `input_dest` gives away is submitted behind the others. -/
theorem Queue.submit (queue : Queue room buf r packets) (positive : 0 < room) {dest : Int}
    (input : buf.input_dest = some dest) (holds : Holds buf.buffer dest.toNat packet)
    (fits : (packet.length : Int) ≤ buf.input_avail) (small : packet.length < 2 ^ 31) :
    ∃ buf', ChunkBuffer2_SubmitPacket buf packet.length = .ok buf' ∧
      Queue room buf' (r.push room (cells packet)) (packets ++ [packet]) := by
  have ahead := queue.holds.ahead positive
  have dest' : inputDest r = some dest := queue.input_dest.symm.trans input
  have avail' := queue.input_avail
  rw [inputDest] at dest'
  rw [inputAvail] at avail'
  split_ifs at dest' avail' with free
  have place : dest.toNat = 4 * r.finish + 4 := by
    have := Option.some.inj dest'
    omega
  rw [place] at holds
  have enough : cells packet ≤ r.free := by
    rw [cells]
    omega
  have free' := queue.toNumbers.free_eq queue.holds positive
  obtain ⟨m,set',length,stored,frame⟩ := stored_setLen queue.memory holds small
  obtain ⟨numbers,same⟩ := queue.toNumbers.fill m packet
  obtain ⟨start,size,used⟩ := push_kept r room (cells packet)
  set filled := ChunkBuffer2_fill {buf with buffer := m} r.finish ((packet.length + 3) / 4 : Nat)
  have buffer : filled.buffer = m := congrArg ChunkBuffer2.buffer same
  have held : Rings.Holds cells (Stored m) room (r.push room (cells packet)) (packets ++ [packet]) := by
    refine Rings.Holds.push positive (cells_pos packet) (queue.holds.mono positive ?_) stored enough
    rintro k p - apart ⟨small',holds'⟩
    have inside := length_stored p
    exact ⟨small',frame _ _ (by omega) holds'⟩
  rw [← buffer] at held
  have grown : Numbers room (ChunkBuffer2_update_input filled) (r.push room (cells packet)) := by
    rw [numbers.update_input positive held]
    exact ⟨numbers.size,numbers.wrap,numbers.start,numbers.used,numbers.mtu⟩
  have held' : Rings.Holds cells (Stored (ChunkBuffer2_update_input filled).buffer) room (r.push room (cells packet))
      (packets ++ [packet]) := by
    rw [numbers.update_input positive held]
    exact held
  have output : (if (ChunkBuffer2_update_input filled).used = 1 + ((packet.length + 3) / 4 : Nat) then
        ChunkBuffer2_update_output (ChunkBuffer2_update_input filled)
      else pure (ChunkBuffer2_update_input filled)) = .ok {filled with
        input_dest := inputDest (r.push room (cells packet))
        input_avail := inputAvail (r.push room (cells packet))
        output_dest := outputDest (r.push room (cells packet)) (packets ++ [packet])
        output_avail := outputAvail (packets ++ [packet])} := by
    have width := cells_pos packet
    rw [cells] at width
    rw [grown.update_output positive held']
    cases packets with
    | nil =>
      have none' := (queue.holds.used_eq cells_pos).mpr rfl
      rw [if_pos (by rw [grown.used,used,none',cells]; omega),numbers.update_input positive held]
    | cons first packets =>
      have some' : r.used ≠ 0 := fun none' => nomatch (queue.holds.used_eq cells_pos).mp none'
      have dest'' : filled.output_dest = outputDest (r.push room (cells packet)) (first :: packets ++ [packet]) := by
        rw [outputDest,start]
        exact (congrArg ChunkBuffer2.output_dest same).trans queue.output_dest
      have avail'' : filled.output_avail = outputAvail (first :: packets ++ [packet]) :=
        (congrArg ChunkBuffer2.output_avail same).trans queue.output_avail
      rw [if_neg (by rw [grown.used,used,cells]; omega),← dest'',← avail'',numbers.update_input positive held]
      rfl
  have queue' : Queue room {filled with
        input_dest := inputDest (r.push room (cells packet))
        input_avail := inputAvail (r.push room (cells packet))
        output_dest := outputDest (r.push room (cells packet)) (packets ++ [packet])
        output_avail := outputAvail (packets ++ [packet])} (r.push room (cells packet)) (packets ++ [packet]) :=
    ⟨⟨numbers.size,numbers.wrap,numbers.start,numbers.used,numbers.mtu⟩,
      by rw [buffer,length,queue.memory,size],held,rfl,rfl,rfl,rfl⟩
  refine ⟨_,?_,queue'⟩
  obtain ⟨size',wrap',start',used',mtu'⟩ := queue.toNumbers
  have sound := queue.holds.sound positive
  rw [cells] at enough
  rw [ChunkBuffer2_SubmitPacket,assert_then (by rw [input]; nofun),assert_then (by omega),assert_then fits,
    ok_then (queue.toNumbers.assert_buffer positive queue.holds),ok_then (queue.assert_io positive),
    queue.toNumbers.end_eq,bdivide_up_eq,assert_then (by split_ifs at free' <;> omega),
    assert_then (by split_ifs at free' <;> omega),ChunkBuffer2_submitted,ok_then set',
    ok_then (numbers.assert_buffer positive held),ok_then output,ok_then (queue'.assert_io positive)]
  rfl

theorem Numbers.drain (numbers : Numbers room buf r) (some' : cells packet ≤ r.used) :
    Numbers room (ChunkBuffer2_drain buf ((packet.length + 3) / 4 : Nat)) (r.pop (cells packet)) ∧
    ChunkBuffer2_drain buf ((packet.length + 3) / 4 : Nat) =
      {buf with
        start := (ChunkBuffer2_drain buf ((packet.length + 3) / 4 : Nat)).start
        used := (ChunkBuffer2_drain buf ((packet.length + 3) / 4 : Nat)).used
        wrap := (ChunkBuffer2_drain buf ((packet.length + 3) / 4 : Nat)).wrap} := by
  obtain ⟨size,wrap,start,used,mtu⟩ := numbers
  rw [cells] at some'
  rw [ChunkBuffer2_drain,Ring.pop,cells]
  dsimp only
  by_cases ends : r.start + (1 + (packet.length + 3) / 4) = r.wrap
  · rw [if_pos ends,if_pos (by omega)]
    exact ⟨⟨size,size,rfl,by dsimp only; omega,mtu⟩,rfl⟩
  · rw [if_neg ends,if_neg (by omega)]
    exact ⟨⟨size,wrap,by dsimp only; omega,by dsimp only; omega,mtu⟩,rfl⟩

/-- The first packet is consumed; what `input_dest` gives away stays as it is, or grows. -/
theorem Queue.consume (queue : Queue room buf r (packet :: packets)) (positive : 0 < room) :
    ∃ buf', ChunkBuffer2_ConsumePacket buf = .ok buf' ∧ Queue room buf' (r.pop (cells packet)) packets ∧
      buf'.buffer = buf.buffer := by
  obtain ⟨stored,inside,less⟩ := queue.holds.first positive
  obtain ⟨numbers,same⟩ := queue.toNumbers.drain less
  have finish := queue.holds.finish_pop positive
  have size := pop_size r (cells packet)
  set drained := ChunkBuffer2_drain buf ((packet.length + 3) / 4 : Nat)
  have buffer : drained.buffer = buf.buffer := by rw [same]
  have held := queue.holds.pop positive cells_pos
  rw [← buffer] at held
  have input : (if buf.used ≥ buf.wrap - buf.start then ChunkBuffer2_update_input drained else drained) =
      {drained with input_dest := inputDest (r.pop (cells packet)),input_avail := inputAvail (r.pop (cells packet))} := by
    have wraps : buf.used ≥ buf.wrap - buf.start ↔ r.wrap ≤ r.start + r.used := by
      rw [queue.used,queue.wrap,queue.start]
      omega
    split_ifs with wrapped
    · exact numbers.update_input positive held
    · have free := queue.holds.free_pop positive (fun over' => wrapped (wraps.mpr over'))
      have dest : drained.input_dest = inputDest (r.pop (cells packet)) := by
        rw [inputDest,finish.1,free,same]
        exact queue.input_dest
      have avail : drained.input_avail = inputAvail (r.pop (cells packet)) := by
        rw [inputAvail,free,same]
        exact queue.input_avail
      rw [← dest,← avail]
  set filled : ChunkBuffer2 :=
    {drained with input_dest := inputDest (r.pop (cells packet)),input_avail := inputAvail (r.pop (cells packet))}
  have numbers' : Numbers room filled (r.pop (cells packet)) :=
    ⟨numbers.size,numbers.wrap,numbers.start,numbers.used,numbers.mtu⟩
  have queue' : Queue room {filled with
        output_dest := outputDest (r.pop (cells packet)) packets
        output_avail := outputAvail packets} (r.pop (cells packet)) packets :=
    ⟨⟨numbers.size,numbers.wrap,numbers.start,numbers.used,numbers.mtu⟩,
      (congrArg List.length buffer).trans (by rw [queue.memory,size]),held,rfl,rfl,rfl,rfl⟩
  refine ⟨_,?_,queue',buffer⟩
  have dest : buf.output_dest = some (4 * (r.start + 1)) := queue.output_dest
  have len := stored.len
  rw [← queue.start] at len
  have start := queue.start
  have used := queue.used
  have wrap := queue.wrap
  rw [cells] at inside less
  rw [ChunkBuffer2_ConsumePacket,assert_then (by rw [dest]; nofun),
    ok_then (queue.toNumbers.assert_buffer positive queue.holds),ok_then (queue.assert_io positive),
    assert_then (by omega),assert_then (by omega),ok_then len,bdivide_up_eq,assert_then (by omega),
    assert_then (by omega),ChunkBuffer2_consumed,ok_then (numbers.assert_buffer positive held),input,
    ok_then (numbers'.update_output positive held),ok_then (queue'.assert_io positive)]
  rfl

/-- Consuming moves nothing that was given away for the next packet. -/
theorem Queue.kept (queue : Queue room buf r (packet :: packets)) (positive : 0 < room) {dest : Int}
    (given : inputDest r = some dest) :
    inputDest (r.pop (cells packet)) = some dest ∧ inputAvail r ≤ inputAvail (r.pop (cells packet)) := by
  obtain ⟨finish,free⟩ := queue.holds.finish_pop positive
  rw [inputDest] at given
  split_ifs at given with none'
  have some' : (r.pop (cells packet)).free ≠ 0 := by omega
  rw [inputDest,inputAvail,inputAvail,finish,if_neg some',if_neg some',if_neg none']
  exact ⟨given,by omega⟩

/-- Writing where the next packet goes changes no packet. -/
theorem Queue.write (queue : Queue room buf r packets) (positive : 0 < room) {m : Block UInt8} {i : Nat} {data : Bytes}
    (stored : store buf.buffer i data = some m) (behind : 4 * r.finish ≤ i)
    (before : i + data.length ≤ 4 * (r.finish + r.free)) : Queue room {buf with buffer := m} r packets := by
  obtain ⟨⟨size,wrap,start,used,mtu⟩,memory,holds,dest,avail,dest',avail'⟩ := queue
  refine ⟨⟨size,wrap,start,used,mtu⟩,(length_store stored).trans memory,?_,dest,avail,dest',avail'⟩
  refine holds.mono positive ?_
  rintro k p - apart ⟨small,held⟩
  have inside := length_stored p
  exact ⟨small,held.store stored (by omega)⟩

/-- The next packet to be consumed is where `output_dest` says. -/
theorem Queue.output (queue : Queue room buf r (packet :: packets)) (positive : 0 < room) :
    ∃ dest : Nat, buf.output_dest = some (dest : Int) ∧ buf.output_avail = packet.length ∧
      Holds buf.buffer dest packet := by
  obtain ⟨⟨-,held⟩,-,-⟩ := queue.holds.first positive
  refine ⟨4 * r.start + 4,?_,queue.output_avail,?_⟩
  · rw [queue.output_dest,outputDest]
    congr 1
  · simpa using (holds_append.mp held).2

/-- What is given away for the next packet is in the buffer. -/
theorem Queue.input (queue : Queue room buf r packets) (some' : 0 ≤ buf.input_avail) :
    ∃ dest : Nat, buf.input_dest = some (dest : Int) ∧ dest = 4 * r.finish + 4 ∧ 0 < r.free ∧
      buf.input_avail = 4 * (r.free : Int) - 4 := by
  have avail := queue.input_avail
  rw [inputAvail] at avail
  have free : r.free ≠ 0 := by
    intro none'
    rw [if_pos none'] at avail
    omega
  rw [if_neg free] at avail
  refine ⟨4 * r.finish + 4,?_,rfl,by omega,avail⟩
  rw [queue.input_dest,inputDest,if_neg free]
  congr 1

/-- The blocks for a packet of the MTU. -/
def roomFor (mtu : Nat) : Nat := 1 + (mtu + 3) / 4

/-- A buffer for some packets of the MTU takes another one while there are fewer. -/
theorem Queue.few {mtu count : Nat} (queue : Queue (roomFor mtu) buf r packets) (fits : ∀ p ∈ packets, p.length ≤ mtu)
    (few : packets.length < count) (enough : r.size = roomFor mtu * (count + 1)) : (mtu : Int) ≤ buf.input_avail := by
  have free := queue.holds.few (by rw [roomFor]; omega) (fun p member => by
    have less := fits p member
    rw [cells,roomFor]
    omega) few enough.ge
  rw [roomFor] at free
  rw [queue.input_avail,inputAvail,if_neg (by omega)]
  omega

theorem calc_blocks_eq {mtu num : Nat} (fits : 0 ≤ ChunkBuffer2_calc_blocks mtu num) :
    ChunkBuffer2_calc_blocks mtu num = (roomFor mtu * (num + 1) : Nat) := by
  rw [ChunkBuffer2_calc_blocks,bdivide_up_eq] at *
  dsimp only at *
  split_ifs at * with _ _ _
  · omega
  · omega
  · omega
  · rw [roomFor]
    push_cast
    ring

/-- A new buffer is empty. -/
theorem queue_init {mtu blocks : Nat} (enough : roomFor mtu ≤ blocks) :
    ∃ buf, ChunkBuffer2_Init (allocate (4 * blocks)) blocks mtu = .ok buf ∧
      Queue (roomFor mtu) buf (.empty blocks) [] ∧ buf.size = blocks := by
  have positive : 0 < roomFor mtu := by
    rw [roomFor]
    omega
  let fresh : ChunkBuffer2 := ⟨allocate (4 * blocks),blocks,blocks,0,0,bdivide_up mtu block,none,0,none,0⟩
  have held : Rings.Holds cells (Stored fresh.buffer) (roomFor mtu) (.empty blocks) [] := Rings.holds_empty enough
  have numbers : Numbers (roomFor mtu) fresh (.empty blocks) := by
    refine ⟨rfl,rfl,rfl,rfl,?_⟩
    change bdivide_up mtu block + 1 = _
    rw [bdivide_up_eq,roomFor]
    omega
  let filled : ChunkBuffer2 := {fresh with input_dest := inputDest (.empty blocks),input_avail := inputAvail (.empty blocks)}
  have numbers' : Numbers (roomFor mtu) filled (.empty blocks) :=
    ⟨numbers.size,numbers.wrap,numbers.start,numbers.used,numbers.mtu⟩
  have queue : Queue (roomFor mtu) {filled with
      output_dest := outputDest (.empty blocks) []
      output_avail := outputAvail []} (.empty blocks) [] :=
    ⟨⟨numbers.size,numbers.wrap,numbers.start,numbers.used,numbers.mtu⟩,length_allocate,held,rfl,rfl,rfl,rfl⟩
  refine ⟨_,?_,queue,rfl⟩
  rw [ChunkBuffer2_Init,assert_then (by omega),assert_then (by omega),ok_then (numbers.assert_buffer positive held),
    numbers.update_input positive held,ok_then (numbers'.update_output positive held),
    ok_then (queue.assert_io positive)]
  rfl

end

end WSocks.PacketBuffers
