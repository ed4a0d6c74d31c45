import WSocks.PacketFlow

/-!
# Packets in a stream

`protocol/packetproto.h`: a packet in a stream is its length, 16 bits little-endian, and then its
bytes. `flow/PacketProtoDecoder.c` finds the packets in what it receives, however the stream is cut
up, in a buffer for one packet that it moves to the beginning when it has filled it.
-/

namespace WSocks.PacketDecoder
open WSocks.Blocks WSocks.Endian WSocks.Runs WSocks.PacketBuffers

/-- `sizeof (struct packetproto_header)`. -/
def headerSize : Int := 2
def PACKETPROTO_MAXPAYLOAD : Int := 65535
def PACKETPROTO_ENCLEN (len : Int) : Int := headerSize + len

/-- `receiving` is the place and the number of bytes that the input was asked for, `sending` the
    place and the length of the packet that the output was asked to send. -/
structure PacketProtoDecoder where
  output_mtu : Int
  buf_size : Int
  buf_start : Int
  buf_used : Int
  buf : Block UInt8
  receiving : Option (Int × Int)
  sending : Option (Int × Int)
deriving DecidableEq

def StreamRecvInterface_Receiver_Recv (enc : PacketProtoDecoder) (data data_len : Int) :
    Except Fault PacketProtoDecoder := do
  ASSERT (data_len > 0)
  ASSERT (enc.receiving = none)
  pure {enc with receiving := some (data,data_len)}

def PacketPassInterface_Sender_Send (enc : PacketProtoDecoder) (data data_len : Int) :
    Except Fault PacketProtoDecoder := do
  ASSERT (data_len ≥ 0)
  ASSERT (data_len ≤ enc.output_mtu)
  ASSERT (enc.sending = none)
  pure {enc with sending := some (data,data_len)}

/-- Some bytes of the buffer, read; a place before the buffer has none. -/
def PacketProtoDecoder.read (enc : PacketProtoDecoder) (place len : Int) : Except Fault Bytes :=
  match load enc.buf place.toNat len.toNat with
  | some bytes => if 0 ≤ place then .ok bytes else .error .memory
  | none => .error .memory

def PacketProtoDecoder.write (enc : PacketProtoDecoder) (place : Int) (data : Bytes) :
    Except Fault PacketProtoDecoder :=
  match store enc.buf place.toNat data with
  | some buf => if 0 ≤ place then .ok {enc with buf := buf} else .error .memory
  | none => .error .memory

/-- Wraps around where the end of the buffer is reached, so that more data can be received. -/
def wrapAround (enc : PacketProtoDecoder) : Except Fault PacketProtoDecoder :=
  if enc.buf_start + enc.buf_used = enc.buf_size then do
    let data ← enc.read enc.buf_start enc.buf_used
    let enc ← enc.write 0 data
    pure {enc with buf_start := 0}
  else pure enc

def receiveData (enc : PacketProtoDecoder) : Except Fault PacketProtoDecoder :=
  StreamRecvInterface_Receiver_Recv enc (enc.buf_start + enc.buf_used) (enc.buf_size - (enc.buf_start + enc.buf_used))

/-- The decoder waits for more data; `true` where `handler_error` is called. -/
def awaitData (enc : PacketProtoDecoder) : Except Fault (PacketProtoDecoder × Bool) := do
  let enc ← wrapAround enc
  let enc ← receiveData enc
  pure (enc,false)

def process_data (enc : PacketProtoDecoder) : Except Fault (PacketProtoDecoder × Bool) :=
  let left := enc.buf_used
  -- check if header was received
  if left < headerSize then awaitData enc
  else do
    let header ← enc.read enc.buf_start headerSize
    let left := left - headerSize
    let data_len : Int := leValue header
    -- check data length
    if data_len > enc.output_mtu then do
      let enc ← receiveData {enc with buf_start := 0,buf_used := 0}
      pure (enc,true)
    -- check if whole packet was received
    else if left < data_len then awaitData enc
    else do
      let enc ← PacketPassInterface_Sender_Send
        {enc with buf_start := enc.buf_start + (headerSize + data_len),buf_used := enc.buf_used - (headerSize + data_len)}
        (enc.buf_start + headerSize) data_len
      pure (enc,false)

def input_handler_done (enc : PacketProtoDecoder) (data_len : Int) : Except Fault (PacketProtoDecoder × Bool) := do
  ASSERT (data_len > 0)
  ASSERT (data_len ≤ enc.buf_size - (enc.buf_start + enc.buf_used))
  process_data {enc with buf_used := enc.buf_used + data_len}

def output_handler_done (enc : PacketProtoDecoder) : Except Fault (PacketProtoDecoder × Bool) := process_data enc

/-- With the MTU of the output. -/
def PacketProtoDecoder_Init (mtu : Int) : Except Fault PacketProtoDecoder :=
  let output_mtu := min mtu PACKETPROTO_MAXPAYLOAD
  let buf_size := PACKETPROTO_ENCLEN output_mtu
  StreamRecvInterface_Receiver_Recv ⟨output_mtu,buf_size,0,0,allocate buf_size.toNat,none,none⟩ 0 buf_size

/-- The input has received some bytes; the output has sent its packet. -/
inductive Event
  | received (data : Bytes)
  | passed
deriving DecidableEq

def PacketProtoDecoder.allows (enc : PacketProtoDecoder) : Event → Prop
  | .received data => data ≠ [] ∧ ∃ under ∈ enc.receiving, (data.length : Int) ≤ under.2
  | .passed => enc.sending ≠ none

instance (enc : PacketProtoDecoder) (event : Event) : Decidable (enc.allows event) := by
  cases event <;> unfold PacketProtoDecoder.allows <;> infer_instance

/-- A packet that was sent, if any, and whether `handler_error` is called. -/
structure Outcome where
  packets : List Bytes
  error : Bool

def handler (enc : PacketProtoDecoder) : Event → Except Fault (PacketProtoDecoder × Outcome)
  | .received data =>
    match enc.receiving with
    | none => .error .assertion
    | some (place,_) => do
      let enc ← enc.write place data
      let (enc,error) ← input_handler_done {enc with receiving := none} data.length
      pure (enc,⟨[],error⟩)
  | .passed =>
    match enc.sending with
    | none => .error .assertion
    | some (place,len) => do
      let packet ← enc.read place len
      let (enc,error) ← output_handler_done {enc with sending := none}
      pure (enc,⟨[packet],error⟩)

abbrev Reaction := Except Fault Outcome

def step (enc : PacketProtoDecoder) (event : Event) : Option (PacketProtoDecoder × Reaction) :=
  if enc.allows event then
    match handler enc event with
    | .ok (next,outcome) => some (next,.ok outcome)
    | .error fault => some (enc,.error fault)
  else none

/-! ### Frames -/

def frame (packet : Bytes) : Bytes := leBytes 2 packet.length ++ packet
def frames (packets : List Bytes) : Bytes := packets.flatMap frame

/-- The length that a header announces. -/
def announced (bytes : Bytes) : Nat := leValue (bytes.take 2)

/-- The beginning of a packet that is within the MTU so far as can be told. -/
def Incomplete (mtu : Nat) (bytes : Bytes) : Prop :=
  bytes.length < 2 ∨ announced bytes ≤ mtu ∧ bytes.length < 2 + announced bytes

def TooLong (mtu : Nat) (bytes : Bytes) : Prop := 2 ≤ bytes.length ∧ mtu < announced bytes

section
variable {mtu : Nat} {bytes stream remaining more : Bytes} {packets sent : List Bytes} {packet : Bytes}

theorem announced_frame (more : Bytes) (short : packet.length ≤ 65535) : announced (frame packet ++ more) = packet.length := by
  have header : (frame packet ++ more).take 2 = leBytes 2 packet.length := by
    rw [frame,List.append_assoc]
    exact List.take_left' (leBytes_length 2 _)
  rw [announced,header,leValue_leBytes]
  exact Nat.mod_eq_of_lt (by omega)

/-- A stream begins with a packet, or with a part of one, or with one that is too long. -/
theorem begins_with (mtu : Nat) (bytes : Bytes) :
    Incomplete mtu bytes ∨ TooLong mtu bytes ∨ ∃ packet more, bytes = frame packet ++ more ∧ packet.length ≤ mtu ∧
      packet.length = announced bytes := by
  by_cases header : bytes.length < 2
  · exact .inl (.inl header)
  by_cases long : mtu < announced bytes
  · exact .inr (.inl ⟨by omega,long⟩)
  by_cases part : bytes.length < 2 + announced bytes
  · exact .inl (.inr ⟨by omega,part⟩)
  · have two : (bytes.take 2).length = 2 := by
      rw [List.length_take]
      omega
    have size : ((bytes.drop 2).take (announced bytes)).length = announced bytes := by
      rw [List.length_take,List.length_drop]
      omega
    have spelled : leBytes 2 (announced bytes) = bytes.take 2 := by
      have same := leBytes_leValue (bytes.take 2)
      rwa [two] at same
    refine .inr (.inr ⟨(bytes.drop 2).take (announced bytes),(bytes.drop 2).drop (announced bytes),?_,by omega,size⟩)
    rw [frame,size,spelled,List.append_assoc,List.take_append_drop,List.take_append_drop]

theorem frames_append : frames (packets ++ sent) = frames packets ++ frames sent := List.flatMap_append

theorem frames_singleton : frames [packet] = frame packet := List.flatMap_singleton frame packet

/-- What goes on like some packets begins with these packets. -/
theorem frames_prefix (short : ∀ p ∈ sent, p.length ≤ 65535) (short' : ∀ p ∈ packets, p.length ≤ 65535)
    (begins : frames sent ++ remaining <+: frames packets) :
    ∃ rest, packets = sent ++ rest ∧ remaining <+: frames rest := by
  induction sent generalizing packets with
  | nil => exact ⟨packets,rfl,begins⟩
  | cons first sent ih =>
    have first' := short first List.mem_cons_self
    obtain ⟨tail,whole⟩ := begins
    rw [frames,List.flatMap_cons,← frames,List.append_assoc,List.append_assoc] at whole
    cases packets with
    | nil =>
      have size := congrArg List.length whole
      simp [frames,frame] at size
    | cons second packets =>
      have second' := short' second List.mem_cons_self
      have whole' : frame first ++ (frames sent ++ (remaining ++ tail)) = frame second ++ frames packets := whole
      have lengths : first.length = second.length := by
        rw [← announced_frame (frames sent ++ (remaining ++ tail)) first',whole',announced_frame _ second']
      obtain ⟨same,rest'⟩ := List.append_inj whole' (by simp [frame,lengths])
      obtain ⟨-,rfl⟩ := List.append_inj same (by simp)
      obtain ⟨rest,rfl,inside⟩ := ih (fun p member => short p (List.mem_cons_of_mem _ member))
        (fun p member => short' p (List.mem_cons_of_mem _ member)) ⟨tail,by rw [List.append_assoc,rest']⟩
      exact ⟨rest,rfl,inside⟩

/-! ### The decoder between its handlers -/

variable {enc enc' : PacketProtoDecoder} {s : Nat} {event : Event} {reaction : Reaction}

/-- What the buffer holds behind the packets that were taken out of it. -/
structure Buffered (mtu : Nat) (enc : PacketProtoDecoder) (s : Nat) (remaining : Bytes) : Prop where
  limit : mtu ≤ 65535
  output_mtu : enc.output_mtu = mtu
  size : enc.buf_size = mtu + 2
  memory : enc.buf.length = mtu + 2
  start : enc.buf_start = s
  used : enc.buf_used = remaining.length
  holds : Holds enc.buf s remaining

/-- The decoder has heard the stream and its output has sent the packets: it waits for more, or its
    output is sending the next one. -/
inductive Good (mtu : Nat) (enc : PacketProtoDecoder) (stream : Bytes) (sent : List Bytes) : Prop
  | waiting (s : Nat) (remaining : Bytes) (buffered : Buffered mtu enc s remaining)
      (room : s + remaining.length < mtu + 2)
      (receiving : enc.receiving = some (((s + remaining.length : Nat) : Int),((mtu + 2 - (s + remaining.length) : Nat) : Int)))
      (sending : enc.sending = none) (incomplete : Incomplete mtu remaining)
      (fits : ∀ p ∈ sent, p.length ≤ mtu) (heard : stream = frames sent ++ remaining)
  | sending (s place : Nat) (remaining packet : Bytes) (buffered : Buffered mtu enc s remaining)
      (receiving : enc.receiving = none) (sending : enc.sending = some ((place : Int),(packet.length : Int)))
      (holds : Holds enc.buf place packet) (fits : ∀ p ∈ sent ++ [packet], p.length ≤ mtu)
      (heard : stream = frames (sent ++ [packet]) ++ remaining)

theorem Incomplete.short (incomplete : Incomplete mtu remaining) : remaining.length < mtu + 2 := by
  rcases incomplete with header | ⟨fits,part⟩ <;> omega

theorem run_read {place : Nat} (holds : Holds enc.buf place bytes) {len : Int} (size : len = bytes.length) :
    enc.read place len = .ok bytes := by
  rw [PacketProtoDecoder.read,size,Int.toNat_natCast,Int.toNat_natCast,holds.load]
  exact if_pos (by omega)

theorem run_write {place : Nat} {m : Block UInt8} (stored : store enc.buf place bytes = some m) :
    enc.write place bytes = .ok {enc with buf := m} := by
  rw [PacketProtoDecoder.write,Int.toNat_natCast,stored]
  exact if_pos (by omega)

theorem Buffered.inside (buffered : Buffered mtu enc s remaining) : s + remaining.length ≤ mtu + 2 := by
  have inside := buffered.holds.inside
  rwa [buffered.memory] at inside

/-- The end of the buffer is never reached: the rest of a packet is moved to the beginning. -/
theorem Buffered.wrapAround (buffered : Buffered mtu enc s remaining) (short : remaining.length < mtu + 2) :
    ∃ (s' : Nat) (m : Block UInt8), wrapAround enc = .ok {enc with buf := m,buf_start := (s' : Int)} ∧
      Buffered mtu {enc with buf := m,buf_start := (s' : Int)} s' remaining ∧ s' + remaining.length < mtu + 2 := by
  have inside := buffered.inside
  obtain ⟨limit,output_mtu,size,memory,start,used,holds⟩ := buffered
  rw [PacketDecoder.wrapAround]
  by_cases full : s + remaining.length = mtu + 2
  · obtain ⟨m,stored⟩ := exists_store enc.buf 0 remaining (by omega)
    have read := run_read holds used
    rw [← start] at read
    have moved : enc.write 0 remaining = .ok {enc with buf := m} := run_write stored
    rw [if_pos (by omega),ok_then read,ok_then moved]
    exact ⟨0,m,rfl,⟨limit,output_mtu,size,(length_store stored).trans memory,rfl,used,holds_store stored⟩,by omega⟩
  · rw [if_neg (by omega)]
    refine ⟨s,enc.buf,?_,⟨limit,output_mtu,size,memory,rfl,used,holds⟩,by omega⟩
    rw [← start]
    rfl

theorem Buffered.receive (buffered : Buffered mtu enc s remaining) (room : s + remaining.length < mtu + 2)
    (none' : enc.receiving = none) : receiveData enc = .ok {enc with
      receiving := some (((s + remaining.length : Nat) : Int),((mtu + 2 - (s + remaining.length) : Nat) : Int))} := by
  obtain ⟨limit,output_mtu,size,memory,start,used,holds⟩ := buffered
  have place : enc.buf_start + enc.buf_used = ((s + remaining.length : Nat) : Int) := by omega
  have len : enc.buf_size - ((s + remaining.length : Nat) : Int) = ((mtu + 2 - (s + remaining.length) : Nat) : Int) := by
    omega
  rw [receiveData,place,len,StreamRecvInterface_Receiver_Recv,assert_then (by omega),assert_then none']
  rfl

theorem Buffered.await (buffered : Buffered mtu enc s remaining) (incomplete : Incomplete mtu remaining)
    (none' : enc.receiving = none) (idle : enc.sending = none) (fits : ∀ p ∈ sent, p.length ≤ mtu)
    (heard : stream = frames sent ++ remaining) :
    ∃ enc', awaitData enc = .ok (enc',false) ∧ Good mtu enc' stream sent := by
  obtain ⟨s',m,wraps,buffered',room⟩ := buffered.wrapAround incomplete.short
  have receive := buffered'.receive room none'
  refine ⟨{enc with
    buf := m
    buf_start := (s' : Int)
    receiving := some (((s' + remaining.length : Nat) : Int),((mtu + 2 - (s' + remaining.length) : Nat) : Int))},
    ?_,.waiting s' remaining ?_ room rfl idle incomplete fits heard⟩
  · rw [awaitData,ok_then wraps,ok_then receive]
    rfl
  · obtain ⟨limit,output_mtu,size,memory,start,used,holds⟩ := buffered'
    exact ⟨limit,output_mtu,size,memory,start,used,holds⟩

/-- The decoder goes on with what it has: it sends a packet, waits for more, or finds a packet too long. -/
theorem Buffered.process (buffered : Buffered mtu enc s remaining) (none' : enc.receiving = none)
    (idle : enc.sending = none) (fits : ∀ p ∈ sent, p.length ≤ mtu) (heard : stream = frames sent ++ remaining) :
    ∃ enc' error, process_data enc = .ok (enc',error) ∧
      (error = false ∧ Good mtu enc' stream sent ∨ error = true ∧ TooLong mtu remaining ∧ Good mtu enc' [] []) := by
  have inside := buffered.inside
  obtain ⟨limit,output_mtu,size,memory,start,used,holds⟩ := buffered
  rw [process_data]
  by_cases header : remaining.length < 2
  · obtain ⟨next,ran,good⟩ := Buffered.await ⟨limit,output_mtu,size,memory,start,used,holds⟩ (.inl header) none' idle
      fits heard
    rw [headerSize,if_pos (by omega)]
    exact ⟨next,false,ran,.inl ⟨rfl,good⟩⟩
  · have first : Holds enc.buf s (remaining.take 2) := by
      rw [← List.take_append_drop 2 remaining] at holds
      exact (holds_append.mp holds).1
    have read : enc.read enc.buf_start headerSize = .ok (remaining.take 2) := by
      rw [start]
      refine run_read first ?_
      rw [List.length_take,headerSize]
      omega
    rw [if_neg (by rw [headerSize]; omega),ok_then read,← announced]
    rcases begins_with mtu remaining with incomplete | long | ⟨packet,more,rfl,short,same⟩
    · rcases incomplete with tooShort | ⟨within,part⟩
      · omega
      · obtain ⟨next,ran,good⟩ := Buffered.await ⟨limit,output_mtu,size,memory,start,used,holds⟩ (.inr ⟨within,part⟩) none'
          idle fits heard
        rw [if_neg (by omega),headerSize,if_pos (by omega)]
        exact ⟨next,false,ran,.inl ⟨rfl,good⟩⟩
    · have emptied : Buffered mtu {enc with buf_start := 0,buf_used := 0} 0 [] :=
        ⟨limit,output_mtu,size,memory,rfl,rfl,holds_nil.mpr (Nat.zero_le _)⟩
      have receive := emptied.receive (by rw [List.length_nil]; omega) none'
      have over' := long.2
      rw [if_pos (by omega),ok_then receive]
      refine ⟨_,true,rfl,.inr ⟨rfl,long,.waiting 0 [] ?_ (by rw [List.length_nil]; omega) rfl idle (.inl (by simp))
        (by simp) rfl⟩⟩
      exact ⟨limit,output_mtu,size,memory,rfl,rfl,holds_nil.mpr (Nat.zero_le _)⟩
    · have length : (frame packet ++ more).length = 2 + packet.length + more.length := by
        simp only [frame,List.length_append,leBytes_length]
      have parts := holds_append.mp holds
      have sendsHolds : Holds enc.buf (s + 2) packet := by
        simpa using (holds_append.mp parts.1).2
      have restHolds : Holds enc.buf (s + (2 + packet.length)) more := by
        have size' : (frame packet).length = 2 + packet.length := by rw [frame,List.length_append,leBytes_length]
        rw [← size']
        exact parts.2
      rw [← same,if_neg (by omega),if_neg (by rw [headerSize]; omega),PacketPassInterface_Sender_Send,
        assert_then (by omega),assert_then (by dsimp only; omega),assert_then idle]
      refine ⟨_,false,rfl,.inl ⟨rfl,.sending (s + (2 + packet.length)) (s + 2) more packet ?_ none' ?_ sendsHolds ?_ ?_⟩⟩
      · refine ⟨limit,output_mtu,size,memory,?_,?_,restHolds⟩
        · rw [headerSize]
          dsimp only
          omega
        · rw [headerSize]
          dsimp only
          omega
      · rw [start,headerSize]
        rfl
      · intro p member
        rcases List.mem_append.mp member with before | last
        · exact fits p before
        · rw [List.mem_singleton.mp last]
          exact short
      · rw [heard,frames_append,frames_singleton,List.append_assoc]

/-! ### One step -/

def Event.data : Event → Bytes
  | .received data => data
  | .passed => []

/-- The decoder goes on with a longer stream, or finds a packet too long and begins anew. -/
def Continues (mtu : Nat) (enc' : PacketProtoDecoder) (stream : Bytes) (sent : List Bytes) (error : Bool) : Prop :=
  error = false ∧ Good mtu enc' stream sent ∨
    error = true ∧ (∃ remaining, stream = frames sent ++ remaining ∧ TooLong mtu remaining) ∧
      (∀ p ∈ sent, p.length ≤ mtu) ∧ Good mtu enc' [] []

theorem Good.received {data : Bytes} (good : Good mtu enc stream sent) (allowed : enc.allows (.received data)) :
    ∃ enc' error, handler enc (.received data) = .ok (enc',⟨[],error⟩) ∧ Continues mtu enc' (stream ++ data) sent error := by
  obtain ⟨some',under,asked,less⟩ := allowed
  cases good with
  | sending s place remaining packet buffered receiving =>
    rw [receiving] at asked
    cases asked
  | waiting s remaining buffered room receiving sending incomplete fits heard =>
    obtain rfl := Option.some.inj (receiving.symm.trans asked)
    obtain ⟨limit,output_mtu,size,memory,start,used,holds⟩ := buffered
    have positive : 0 < data.length := List.length_pos_of_ne_nil some'
    have less' : data.length ≤ mtu + 2 - (s + remaining.length) := Int.ofNat_le.mp less
    obtain ⟨m,stored⟩ := exists_store enc.buf (s + remaining.length) data (by omega)
    let filled : PacketProtoDecoder :=
      {enc with buf := m,receiving := none,buf_used := enc.buf_used + data.length}
    have buffered : Buffered mtu filled s (remaining ++ data) := by
      refine ⟨limit,output_mtu,size,(length_store stored).trans memory,start,?_,?_⟩
      · rw [List.length_append]
        dsimp only [filled]
        omega
      · exact holds_append.mpr ⟨holds.store stored (.inl le_rfl),holds_store stored⟩
    have heard' : stream ++ data = frames sent ++ (remaining ++ data) := by rw [heard,List.append_assoc]
    obtain ⟨next,error,ran,outcome⟩ := buffered.process rfl sending fits heard'
    have done : input_handler_done {enc with buf := m,receiving := none} data.length = .ok (next,error) := by
      rw [input_handler_done,assert_then (by omega),assert_then (by dsimp only; omega)]
      exact ran
    refine ⟨next,error,?_,?_⟩
    · rw [handler,asked]
      dsimp only
      rw [ok_then (run_write stored),ok_then done]
      rfl
    · rcases outcome with ⟨calm,good⟩ | ⟨loud,long,good⟩
      · exact .inl ⟨calm,good⟩
      · exact .inr ⟨loud,⟨_,heard',long⟩,fits,good⟩

theorem Good.passed (good : Good mtu enc stream sent) (allowed : enc.allows .passed) :
    ∃ packet enc' error, handler enc .passed = .ok (enc',⟨[packet],error⟩) ∧
      Continues mtu enc' stream (sent ++ [packet]) error := by
  cases good with
  | waiting s remaining buffered room receiving sending => exact absurd sending allowed
  | sending s place remaining packet buffered receiving sending holds fits heard =>
    obtain ⟨limit,output_mtu,size,memory,start,used,held⟩ := buffered
    have idle : Buffered mtu {enc with sending := none} s remaining := ⟨limit,output_mtu,size,memory,start,used,held⟩
    obtain ⟨next,error,ran,outcome⟩ := idle.process receiving rfl fits heard
    refine ⟨packet,next,error,?_,?_⟩
    · rw [handler,sending]
      dsimp only
      rw [ok_then (run_read holds rfl),output_handler_done,ok_then ran]
      rfl
    · rcases outcome with ⟨calm,good⟩ | ⟨loud,long,good⟩
      · exact .inl ⟨calm,good⟩
      · exact .inr ⟨loud,⟨_,heard,long⟩,fits,good⟩

theorem step_good (good : Good mtu enc stream sent) (taken : step enc event = some (enc',reaction)) :
    ∃ outcome, reaction = .ok outcome ∧
      Continues mtu enc' (stream ++ event.data) (sent ++ outcome.packets) outcome.error := by
  rw [step] at taken
  split_ifs at taken with allowed
  cases event with
  | received data =>
    obtain ⟨next,error,ran,continues⟩ := good.received allowed
    rw [ran] at taken
    obtain ⟨rfl,rfl⟩ := Prod.mk.inj (Option.some.inj taken)
    exact ⟨_,rfl,by simpa [Event.data] using continues⟩
  | passed =>
    obtain ⟨packet,next,error,ran,continues⟩ := good.passed allowed
    rw [ran] at taken
    obtain ⟨rfl,rfl⟩ := Prod.mk.inj (Option.some.inj taken)
    exact ⟨_,rfl,by simpa [Event.data] using continues⟩

/-! ### Every run -/

abbrev Past := List (Transition PacketProtoDecoder Event Reaction)

/-- The bytes received since the last error, and the packets sent since then. -/
def hear (so : Bytes × List Bytes) (t : Transition PacketProtoDecoder Event Reaction) : Bytes × List Bytes :=
  (t.reaction.toOption.map (fun outcome =>
    if outcome.error then ([],[]) else (so.1 ++ t.event.data,so.2 ++ outcome.packets))).getD so

def heard (past : Past) : Bytes × List Bytes := past.foldl hear ([],[])

variable {past : Past}

theorem heard_snoc (t : Transition PacketProtoDecoder Event Reaction) :
    heard (past ++ [t]) = hear (heard past) t := by
  rw [heard,List.foldl_append]
  rfl

theorem run_good (good : Good mtu enc [] []) (run : Run step enc past enc') :
    Good mtu enc' (heard past).1 (heard past).2 := by
  induction run with
  | nil => exact good
  | snoc _ taken ih =>
    obtain ⟨outcome,rfl,⟨calm,good'⟩ | ⟨loud,-,-,good'⟩⟩ := step_good ih taken
    · rw [heard_snoc]
      simpa [hear,Except.toOption,calm] using good'
    · rw [heard_snoc]
      simpa [hear,Except.toOption,loud] using good'

theorem init_good {m : Nat} (init : PacketProtoDecoder_Init m = .ok enc) : Good (min m 65535) enc [] [] := by
  have limit : min (m : Int) PACKETPROTO_MAXPAYLOAD = ((min m 65535 : Nat) : Int) := by
    rw [PACKETPROTO_MAXPAYLOAD]
    omega
  have size : PACKETPROTO_ENCLEN ((min m 65535 : Nat) : Int) = ((min m 65535 + 2 : Nat) : Int) := by
    rw [PACKETPROTO_ENCLEN,headerSize]
    omega
  rw [PacketProtoDecoder_Init] at init
  rw [limit,size,StreamRecvInterface_Receiver_Recv,assert_then (by omega),assert_then rfl] at init
  obtain rfl := Except.ok.inj init
  refine .waiting 0 [] ⟨Nat.min_le_right _ _,rfl,by push_cast; rfl,?_,rfl,rfl,holds_nil.mpr (Nat.zero_le _)⟩
    (by rw [List.length_nil]; omega) (by simp) rfl (.inl (by simp)) (by simp) rfl
  rw [Int.toNat_natCast,length_allocate]

/-- What is left of a stream of packets that are short enough is never too long. -/
theorem not_tooLong (limit : mtu ≤ 65535) (fits : ∀ p ∈ packets, p.length ≤ mtu) (begins : remaining <+: frames packets) :
    ¬ TooLong mtu remaining := by
  rintro ⟨header,long⟩
  cases packets with
  | nil =>
    have none' := List.prefix_nil.mp begins
    rw [none'] at header
    simp at header
  | cons packet packets =>
    have short := fits packet List.mem_cons_self
    obtain ⟨tail,whole⟩ := begins
    have same : announced remaining = packet.length := by
      have whole' : remaining ++ tail = frame packet ++ frames packets := whole
      have both : announced (remaining ++ tail) = announced remaining := by
        rw [announced,announced,List.take_append_of_le_length header]
      rw [← both,whole',announced_frame _ (by omega)]
    omega

theorem Good.limit (good : Good mtu enc stream sent) : mtu ≤ 65535 := by
  cases good with
  | waiting _ _ buffered => exact buffered.limit
  | sending _ _ _ _ buffered => exact buffered.limit

/-- What follows the packets that were sent is not too long, as far as it is there. -/
theorem Good.calm (good : Good mtu enc stream sent) (whole : stream = frames sent ++ remaining) :
    ¬ TooLong mtu remaining := by
  have limit := good.limit
  rintro ⟨header,long⟩
  cases good with
  | waiting s remaining' buffered room receiving sending incomplete fits heard =>
    obtain rfl := List.append_cancel_left (heard.symm.trans whole)
    rcases incomplete with short | ⟨within,-⟩ <;> omega
  | sending s place remaining' packet buffered receiving sending holds fits heard =>
    have short := fits packet (by simp)
    rw [frames_append,frames_singleton,List.append_assoc] at heard
    rw [← List.append_cancel_left (heard.symm.trans whole),announced_frame _ (by omega)] at long
    omega

/-- Packets that are short enough and begin a stream determine what follows them. -/
theorem Good.rest (good : Good mtu enc stream sent) (fits : ∀ p ∈ packets, p.length ≤ mtu)
    (begins : stream <+: frames packets) :
    ∃ rest, packets = sent ++ rest ∧ (stream = frames packets → enc.sending = none → rest = []) := by
  have limit := good.limit
  cases good with
  | sending s place remaining packet buffered receiving sending holds fits' heard =>
    rw [heard] at begins
    obtain ⟨rest,whole,-⟩ := frames_prefix (fun p member => (fits' p member).trans limit)
      (fun p member => (fits p member).trans limit) begins
    refine ⟨packet :: rest,by rw [whole]; simp,?_⟩
    rintro - idle
    rw [sending] at idle
    cases idle
  | waiting s remaining buffered room receiving sending incomplete fits' heard =>
    rw [heard] at begins
    obtain ⟨rest,whole,-⟩ := frames_prefix (fun p member => (fits' p member).trans limit)
      (fun p member => (fits p member).trans limit) begins
    refine ⟨rest,whole,?_⟩
    rintro all -
    cases rest with
    | nil => rfl
    | cons packet rest =>
      have short := fits packet (by rw [whole]; simp)
      have left : remaining = frame packet ++ frames rest := by
        rw [heard,whole,frames_append] at all
        exact List.append_cancel_left all
      have length : remaining.length = 2 + packet.length + (frames rest).length := by
        rw [left]
        simp only [frame,List.length_append,leBytes_length]
      have same : announced remaining = packet.length := by rw [left,announced_frame _ (by omega)]
      rcases incomplete with header | ⟨-,part⟩ <;> omega

/-- All bytes that were received. -/
def received (past : Past) : Bytes := past.flatMap (fun t => t.event.data)
/-- All packets that were sent. -/
def passed (past : Past) : List Bytes :=
  past.flatMap (fun t => (t.reaction.toOption.map Outcome.packets).getD [])

/-- A decoder that is fed a beginning of the frames of some packets reports no error. -/
theorem run_frames (good : Good mtu enc [] []) (run : Run step enc past enc') (fits : ∀ p ∈ packets, p.length ≤ mtu)
    (fed : received past <+: frames packets) :
    (∀ t ∈ past, ∃ outcome, t.reaction = .ok outcome ∧ outcome.error = false) ∧
      Good mtu enc' (received past) (passed past) := by
  induction run with
  | nil => exact ⟨by simp,good⟩
  | @snoc middle next past event reaction _ taken ih =>
    have longer : received (past ++ [⟨middle,event,reaction,next⟩]) = received past ++ event.data := by simp [received]
    rw [longer] at fed
    obtain ⟨calm,good'⟩ := ih ((List.prefix_append _ _).trans fed)
    have limit := good'.limit
    obtain ⟨outcome,rfl,⟨quiet,good''⟩ | ⟨-,⟨remaining,whole,long⟩,short,-⟩⟩ := step_good good' taken
    · have more : passed (past ++ [⟨middle,event,.ok outcome,next⟩]) = passed past ++ outcome.packets := by
        simp [passed,Except.toOption]
      rw [longer,more]
      refine ⟨?_,good''⟩
      intro t member
      rcases List.mem_append.mp member with before | last
      · exact calm t before
      · rw [List.mem_singleton.mp last]
        exact ⟨outcome,rfl,quiet⟩
    · rw [whole] at fed
      obtain ⟨rest,rfl,begins⟩ := frames_prefix (fun p member => (short p member).trans limit)
        (fun p member => (fits p member).trans limit) fed
      exact absurd long (not_tooLong limit (fun p member => fits p (List.mem_append_right _ member)) begins)

/-- However the stream is cut up, no assertion fails and no memory outside of the buffer or without
    a value is touched. The packets that were sent since the last error are those that the stream
    since then begins with; either the next one is being sent, or what is left is a part of one and
    more is asked for. An error is reported exactly where the next packet is longer than the MTU. -/
theorem packets_found {m : Nat} (init : PacketProtoDecoder_Init m = .ok enc) (run : Run step enc past enc') :
    (∀ earlier t later, past = earlier ++ t :: later → ∃ outcome, t.reaction = .ok outcome ∧
      (outcome.error = true ↔ ∃ remaining, (heard earlier).1 ++ t.event.data =
        frames ((heard earlier).2 ++ outcome.packets) ++ remaining ∧ TooLong (min m 65535) remaining)) ∧
    ∃ next remaining, (heard past).1 = frames ((heard past).2 ++ next) ++ remaining ∧
      (∀ p ∈ (heard past).2 ++ next, p.length ≤ min m 65535) ∧
      (next = [] ∧ enc'.receiving ≠ none ∧ Incomplete (min m 65535) remaining ∨
        ∃ (packet : Bytes) (place : Nat), next = [packet] ∧
          enc'.sending = some ((place : Int),(packet.length : Int)) ∧ Holds enc'.buf place packet) := by
  have initially := init_good init
  refine ⟨?_,?_⟩
  · rintro earlier t later rfl
    obtain ⟨middle,before,rest⟩ := run.split rfl
    obtain ⟨rfl,taken,-⟩ := rest.head
    obtain ⟨outcome,ran,continues⟩ := step_good (run_good initially before) taken
    refine ⟨outcome,ran,?_⟩
    rcases continues with ⟨calm,good⟩ | ⟨loud,long,-,-⟩
    · refine ⟨fun loud => absurd (calm.symm.trans loud) (by decide),?_⟩
      rintro ⟨remaining,whole,long⟩
      exact absurd long (good.calm whole)
    · exact ⟨fun _ => long,fun _ => loud⟩
  · cases run_good initially run with
    | waiting s remaining buffered room receiving sending incomplete fits whole =>
      exact ⟨[],remaining,by rw [List.append_nil]; exact whole,by rw [List.append_nil]; exact fits,
        .inl ⟨rfl,by rw [receiving]; nofun,incomplete⟩⟩
    | sending s place remaining packet buffered receiving sending holds fits whole =>
      exact ⟨[packet],remaining,whole,fits,.inr ⟨packet,place,rfl,sending,holds⟩⟩

/-- A packet comes in three pieces, the next one is too long, and another one comes behind the error. -/
def pieces : List Event := [.received [3],.received [0,1,2],.received [3],.passed,.received [9,0],.received [1,0,7],
  .passed]

theorem packets_found_pieces : ∃ enc enc' past, PacketProtoDecoder_Init (5 : Nat) = .ok enc ∧
    execute step enc pieces = some (past,enc') ∧
    (∀ earlier t later, past = earlier ++ t :: later → ∃ outcome, t.reaction = .ok outcome ∧
      (outcome.error = true ↔ ∃ remaining, (heard earlier).1 ++ t.event.data =
        frames ((heard earlier).2 ++ outcome.packets) ++ remaining ∧ TooLong (min 5 65535) remaining)) ∧
    ∃ next remaining, (heard past).1 = frames ((heard past).2 ++ next) ++ remaining ∧
      (∀ p ∈ (heard past).2 ++ next, p.length ≤ min 5 65535) ∧
      (next = [] ∧ enc'.receiving ≠ none ∧ Incomplete (min 5 65535) remaining ∨
        ∃ (packet : Bytes) (place : Nat), next = [packet] ∧
          enc'.sending = some ((place : Int),(packet.length : Int)) ∧ Holds enc'.buf place packet) := by
  obtain ⟨enc,enc',past,init,executed⟩ : ∃ enc enc' past, PacketProtoDecoder_Init (5 : Nat) = .ok enc ∧
      execute step enc pieces = some (past,enc') := ⟨_,_,_,rfl,rfl⟩
  exact ⟨enc,enc',past,init,executed,packets_found init (run_of_execute executed)⟩

/-- Packets that go through a buffer in their frames come out of a decoder that is fed what the
    buffer sends, however it is cut up: in their order, byte for byte, and all of them when all has
    been sent and fed. -/
theorem packets_arrive {o o' : PacketFlow.PacketBuffer} {sending : List (Transition _ PacketFlow.Event PacketFlow.Reaction)}
    {count m : Nat} {output_mtu : Int} (small : (mtu : Int) ≤ INT_MAX)
    (init : PacketFlow.PacketBuffer_Init mtu output_mtu count = .ok (some o)) (flow : Run PacketFlow.step o sending o')
    (framed : PacketFlow.received sending = packets.map frame) (fits : ∀ p ∈ packets, p.length ≤ min m 65535)
    (init' : PacketProtoDecoder_Init m = .ok enc) (run : Run step enc past enc')
    (fed : received past <+: (PacketFlow.sent sending).flatten) :
    (∀ t ∈ past, ∃ outcome, t.reaction = .ok outcome ∧ outcome.error = false) ∧ passed past <+: packets ∧
      (o'.sending = none → received past = (PacketFlow.sent sending).flatten → enc'.sending = none →
        passed past = packets) := by
  obtain ⟨-,waiting,good,conserved⟩ := PacketFlow.run_good (PacketFlow.init_good small init) flow
  have whole : frames packets = (PacketFlow.sent sending).flatten ++ waiting.flatten := by
    rw [frames,List.flatMap_def,← framed,conserved,List.flatten_append]
  have begins : received past <+: frames packets := by
    rw [whole]
    exact fed.trans (List.prefix_append _ _)
  obtain ⟨calm,good'⟩ := run_frames (init_good init') run fits begins
  obtain ⟨rest,split,all⟩ := good'.rest fits begins
  refine ⟨calm,⟨rest,split.symm⟩,?_⟩
  intro idle fed' idle'
  have empty := good.idle.mpr idle
  rw [empty,List.flatten_nil,List.append_nil] at whole
  rw [all (fed'.trans whole.symm) idle',List.append_nil] at split
  exact split.symm

/-- Two frames, of which the second is sent while the decoder still waits for the rest of the first. -/
def framed : List PacketFlow.Event := [.write 0 [2,0,8,9],.received [2,0,8,9],.write 0 [1,0,7],.passed,.received [1,0,7],.passed]

def cut : List Event := [.received [2,0,8],.received [9,1],.passed,.received [0,7],.passed]

theorem packets_arrive_cut : ∃ o o' sending enc enc' past,
    PacketFlow.PacketBuffer_Init (5 : Nat) 5 (1 : Nat) = .ok (some o) ∧
    execute PacketFlow.step o framed = some (sending,o') ∧ PacketProtoDecoder_Init (3 : Nat) = .ok enc ∧
    execute step enc cut = some (past,enc') ∧
    (∀ t ∈ past, ∃ outcome, t.reaction = .ok outcome ∧ outcome.error = false) ∧ passed past <+: [[8,9],[7]] ∧
      (o'.sending = none → received past = (PacketFlow.sent sending).flatten → enc'.sending = none →
        passed past = [[8,9],[7]]) := by
  obtain ⟨o,o',sending,init,executed,same,bytes⟩ : ∃ o o' sending,
      PacketFlow.PacketBuffer_Init (5 : Nat) 5 (1 : Nat) = .ok (some o) ∧
      execute PacketFlow.step o framed = some (sending,o') ∧
      PacketFlow.received sending = [[8,9],[7]].map frame ∧ (PacketFlow.sent sending).flatten = [2,0,8,9,1,0,7] :=
    ⟨_,_,_,rfl,rfl,rfl,rfl⟩
  obtain ⟨enc,enc',past,init',executed',fed⟩ : ∃ enc enc' past, PacketProtoDecoder_Init (3 : Nat) = .ok enc ∧
      execute step enc cut = some (past,enc') ∧ received past = [2,0,8,9,1,0,7] := ⟨_,_,_,rfl,rfl,rfl⟩
  exact ⟨o,o',sending,enc,enc',past,init,executed,init',executed',packets_arrive (by decide) init (run_of_execute executed)
    same (by decide) init' (run_of_execute executed') (by rw [bytes,fed])⟩

end

end WSocks.PacketDecoder
