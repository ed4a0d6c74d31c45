import WSocks.PacketBuffers
import WSocks.Runs

/-!
# Packets in and out of a buffer

`flow/PacketBuffer.c`: the buffer asks its input for a packet while one of the MTU has room, and
has its output send the oldest one. The input writes into the memory it was given while the
output reads another part of it.
-/

namespace WSocks.PacketFlow
open WSocks.Blocks WSocks.Rings WSocks.Runs WSocks.PacketBuffers

/-- `receiving` is the place that the input was asked to write the next packet to, `sending` the
    place and the length of the packet that the output was asked to send. -/
structure PacketBuffer where
  input_mtu : Int
  output_mtu : Int
  buf : ChunkBuffer2
  receiving : Option Int
  sending : Option (Int × Int)

def PacketRecvInterface_Receiver_Recv (o : PacketBuffer) (data : Option Int) : Except Fault PacketBuffer := do
  ASSERT (data ≠ none)
  ASSERT (o.receiving = none)
  pure {o with receiving := data}

def PacketPassInterface_Sender_Send (o : PacketBuffer) (data : Option Int) (data_len : Int) :
    Except Fault PacketBuffer := do
  ASSERT (data_len ≥ 0)
  ASSERT (data_len ≤ o.output_mtu)
  ASSERT (data ≠ none)
  ASSERT (o.sending = none)
  pure {o with sending := data.map (fun place => (place,data_len))}

/-- Asks for a packet where one of the MTU has room. -/
def scheduleReceive (o : PacketBuffer) : Except Fault PacketBuffer :=
  if o.buf.input_avail ≥ o.input_mtu then PacketRecvInterface_Receiver_Recv o o.buf.input_dest else pure o

def scheduleSend (o : PacketBuffer) : Except Fault PacketBuffer :=
  PacketPassInterface_Sender_Send o o.buf.output_dest o.buf.output_avail

def input_handler_done (o : PacketBuffer) (in_len : Int) : Except Fault PacketBuffer := do
  ASSERT (in_len ≥ 0)
  ASSERT (in_len ≤ o.input_mtu)
  let was_empty := o.buf.output_avail < 0
  let buf ← ChunkBuffer2_SubmitPacket o.buf in_len
  let o ← scheduleReceive {o with buf := buf}
  if was_empty then scheduleSend o else pure o

def output_handler_done (o : PacketBuffer) : Except Fault PacketBuffer := do
  let was_full := o.buf.input_avail < o.input_mtu
  let buf ← ChunkBuffer2_ConsumePacket o.buf
  let o ← (if was_full then scheduleReceive {o with buf := buf} else pure {o with buf := buf})
  if o.buf.output_avail ≥ 0 then scheduleSend o else pure o

/-- `none` where the buffer would need too many blocks. -/
def PacketBuffer_Init (input_mtu output_mtu num_packets : Int) : Except Fault (Option PacketBuffer) := do
  ASSERT (output_mtu ≥ input_mtu)
  ASSERT (num_packets > 0)
  let num_blocks := ChunkBuffer2_calc_blocks input_mtu num_packets
  if num_blocks < 0 then pure none
  else
    let buf ← ChunkBuffer2_Init (allocate (4 * num_blocks.toNat)) num_blocks input_mtu
    let o ← PacketRecvInterface_Receiver_Recv ⟨input_mtu,output_mtu,buf,none,none⟩ buf.input_dest
    pure (some o)

/-- The input writes a part of its packet, or has written all of it; the output has sent its packet. -/
inductive Event
  | write (offset : Nat) (data : Bytes)
  | received (packet : Bytes)
  | passed
deriving DecidableEq

instance {α : Type} [DecidableEq α] (m : Block α) (offset : Nat) (values : List α) :
    Decidable (Blocks.Holds m offset values) := inferInstanceAs (Decidable (_ ∧ _))

/-- The input keeps to the MTU and to the memory it was given. -/
def PacketBuffer.allows (o : PacketBuffer) : Event → Prop
  | .write offset data => o.receiving ≠ none ∧ offset + data.length ≤ o.input_mtu
  | .received packet => packet.length ≤ o.input_mtu ∧
      ∃ dest ∈ o.receiving, Blocks.Holds o.buf.buffer dest.toNat packet
  | .passed => o.sending ≠ none

instance (o : PacketBuffer) (event : Event) : Decidable (o.allows event) := by
  cases event <;> unfold PacketBuffer.allows <;> infer_instance

/-- What the buffer does, and what its output has sent. -/
def handler (o : PacketBuffer) : Event → Except Fault (PacketBuffer × List Bytes)
  | .write offset data =>
    match o.receiving with
    | none => .error .assertion
    | some dest =>
      match store o.buf.buffer (dest.toNat + offset) data with
      | none => .error .memory
      | some buffer => .ok ({o with buf := {o.buf with buffer := buffer}},[])
  | .received packet => do
    let o ← input_handler_done {o with receiving := none} packet.length
    pure (o,[])
  | .passed =>
    match o.sending with
    | none => .error .assertion
    | some (place,len) =>
      match load o.buf.buffer place.toNat len.toNat with
      | none => .error .memory
      | some packet => do
        let o ← output_handler_done {o with sending := none}
        pure (o,[packet])

abbrev Reaction := Except Fault (List Bytes)

def step (o : PacketBuffer) (event : Event) : Option (PacketBuffer × Reaction) :=
  if o.allows event then
    match handler o event with
    | .ok (next,sent) => some (next,.ok sent)
    | .error fault => some (o,.error fault)
  else none

/-! ### What is under way -/

def Event.packet : Event → List Bytes
  | .received packet => [packet]
  | _ => []

/-- The packets of the input, oldest first. -/
def received (past : List (Transition PacketBuffer Event Reaction)) : List Bytes :=
  past.flatMap (fun t => t.event.packet)

/-- The packets that the output has sent. -/
def sent (past : List (Transition PacketBuffer Event Reaction)) : List Bytes :=
  past.flatMap (fun t => t.reaction.toOption.getD [])

section
variable {o o' : PacketBuffer} {event : Event} {reaction : Reaction} {mtu count : Nat} {packet : Bytes}
  {packets waiting : List Bytes}

/-- The packets wait in the buffer; one more is asked for where there is room, and the first is being sent. -/
structure Good (mtu count : Nat) (o : PacketBuffer) (packets : List Bytes) : Prop where
  small : mtu < 2 ^ 31
  input : o.input_mtu = mtu
  output : (mtu : Int) ≤ o.output_mtu
  queue : ∃ r, Queue (roomFor mtu) o.buf r packets ∧ r.size = roomFor mtu * (count + 1)
  fits : ∀ p ∈ packets, p.length ≤ mtu
  receiving : o.receiving = if (mtu : Int) ≤ o.buf.input_avail then o.buf.input_dest else none
  sending : o.sending = o.buf.output_dest.map (fun place => (place,o.buf.output_avail))

theorem roomFor_pos (mtu : Nat) : 0 < roomFor mtu := by
  rw [roomFor]
  omega

theorem run_scheduleReceive (none' : o.receiving = none) (some' : o.input_mtu ≤ o.buf.input_avail → o.buf.input_dest ≠ none) :
    scheduleReceive o =
      .ok {o with receiving := if o.input_mtu ≤ o.buf.input_avail then o.buf.input_dest else none} := by
  rw [scheduleReceive]
  by_cases room : o.input_mtu ≤ o.buf.input_avail
  · rw [if_pos room,if_pos room,PacketRecvInterface_Receiver_Recv,assert_then (some' room),assert_then none']
    rfl
  · rw [if_neg room,if_neg room,← none']
    rfl

theorem run_scheduleSend (none' : o.sending = none) (some' : o.buf.output_dest ≠ none) (positive : 0 ≤ o.buf.output_avail)
    (fits : o.buf.output_avail ≤ o.output_mtu) :
    scheduleSend o = .ok {o with sending := o.buf.output_dest.map (fun place => (place,o.buf.output_avail))} := by
  rw [scheduleSend,PacketPassInterface_Sender_Send,assert_then positive,assert_then fits,assert_then some',
    assert_then none']
  rfl

/-- Where the input may write a packet, the buffer has a place for it. -/
theorem given_place {r : Ring} (queue : Queue (roomFor mtu) o.buf r packets) (input : o.input_mtu = mtu)
    (room : o.input_mtu ≤ o.buf.input_avail) : o.buf.input_dest ≠ none := by
  obtain ⟨dest,place,-⟩ := queue.input (by omega)
  rw [place]
  nofun

/-- A packet of the input comes in behind the others. -/
theorem Good.received (good : Good mtu count o packets) (allowed : o.allows (.received packet)) :
    ∃ o', input_handler_done {o with receiving := none} packet.length = .ok o' ∧
      Good mtu count o' (packets ++ [packet]) ∧ ∀ under, o.sending = some under → o'.sending = some under := by
  obtain ⟨small,input,output,⟨r,queue,size⟩,fits,receiving,sending⟩ := good
  obtain ⟨less,dest,given,holds⟩ := allowed
  rw [receiving] at given
  split_ifs at given with avail
  · obtain ⟨buf,submitted,queue'⟩ := queue.submit (roomFor_pos mtu) given holds (by omega) (by omega)
    have schedule := run_scheduleReceive (o := {o with receiving := none,buf := buf}) rfl
      (given_place queue' input)
    have size' : (r.push (roomFor mtu) (cells packet)).size = roomFor mtu * (count + 1) :=
      (push_kept r (roomFor mtu) (cells packet)).2.1.trans size
    have fits' : ∀ p ∈ packets ++ [packet], p.length ≤ mtu := by
      intro p member
      rcases List.mem_append.mp member with before | last
      · exact fits p before
      · rw [List.mem_singleton.mp last]
        omega
    have begins : input_handler_done {o with receiving := none} packet.length =
        if o.buf.output_avail < 0 then
          scheduleSend {o with buf := buf,receiving := if o.input_mtu ≤ buf.input_avail then buf.input_dest else none}
        else .ok {o with buf := buf,receiving := if o.input_mtu ≤ buf.input_avail then buf.input_dest else none} := by
      rw [input_handler_done,assert_then (by omega),assert_then less,ok_then submitted,ok_then schedule]
      rfl
    rw [begins]
    cases packets with
    | nil =>
      have empty : o.buf.output_avail = -1 := queue.output_avail
      have none' : o.buf.output_dest = none := queue.output_dest
      obtain ⟨place,first,len,-⟩ := Queue.output queue' (roomFor_pos mtu)
      have idle : o.sending = none := by rw [sending,none']; rfl
      rw [if_pos (by omega)]
      refine ⟨_,run_scheduleSend idle ?_ ?_ ?_,⟨small,input,output,⟨_,queue',size'⟩,fits',by rw [input],rfl⟩,?_⟩
      · rw [first]
        nofun
      · rw [len]
        omega
      · rw [len]
        dsimp only
        omega
      · rw [idle]
        nofun
    | cons first packets =>
      have avail' : o.buf.output_avail = first.length := queue.output_avail
      have same : buf.output_dest = o.buf.output_dest := by
        rw [queue'.output_dest,queue.output_dest,outputDest,outputDest,(push_kept r (roomFor mtu) (cells packet)).1]
        rfl
      have same' : buf.output_avail = o.buf.output_avail := by
        rw [queue'.output_avail,queue.output_avail]
        rfl
      rw [if_neg (by omega)]
      exact ⟨_,rfl,⟨small,input,output,⟨_,queue',size'⟩,fits',by rw [input],by rw [same,same',sending]⟩,fun _ under => under⟩
  · cases given

/-- The first packet leaves, and the next one is sent. -/
theorem Good.passed (good : Good mtu count o (packet :: packets)) :
    ∃ o', output_handler_done {o with sending := none} = .ok o' ∧ Good mtu count o' packets ∧
      (∀ dest, o.receiving = some dest → o'.receiving = some dest) ∧ o'.buf.buffer = o.buf.buffer := by
  obtain ⟨small,input,output,⟨r,queue,size⟩,fits,receiving,sending⟩ := good
  obtain ⟨buf,consumed,queue',same⟩ := queue.consume (roomFor_pos mtu)
  have size' : (r.pop (cells packet)).size = roomFor mtu * (count + 1) := (pop_size r (cells packet)).trans size
  have held : ∀ dest, o.receiving = some dest →
      (if o.input_mtu ≤ buf.input_avail then buf.input_dest else none) = some dest := by
    intro dest asked
    rw [receiving] at asked
    split_ifs at asked with avail
    obtain ⟨place',avail'⟩ := queue.kept (roomFor_pos mtu) (queue.input_dest.symm.trans asked)
    rw [← queue'.input_dest] at place'
    rw [← queue'.input_avail,← queue.input_avail] at avail'
    rw [if_pos (by omega),place']
  have schedule : (if o.buf.input_avail < o.input_mtu then scheduleReceive {o with sending := none,buf := buf}
      else pure {o with sending := none,buf := buf}) =
      .ok {o with
        sending := none
        buf := buf
        receiving := if o.input_mtu ≤ buf.input_avail then buf.input_dest else none} := by
    by_cases full : o.buf.input_avail < o.input_mtu
    · rw [if_pos full,run_scheduleReceive (o := {o with sending := none,buf := buf}) ?_ (given_place queue' input)]
      rw [receiving,if_neg (by omega)]
    · obtain ⟨dest,place,-⟩ := queue.input (by omega)
      have asked : o.receiving = some (dest : Int) := by rw [receiving,if_pos (by omega),place]
      rw [if_neg full,held dest asked,← asked]
      rfl
  have begins : output_handler_done {o with sending := none} =
      if buf.output_avail ≥ 0 then
        scheduleSend {o with
          sending := none
          buf := buf
          receiving := if o.input_mtu ≤ buf.input_avail then buf.input_dest else none}
      else .ok {o with
        sending := none
        buf := buf
        receiving := if o.input_mtu ≤ buf.input_avail then buf.input_dest else none} := by
    rw [output_handler_done,ok_then consumed,ok_then schedule]
    rfl
  have fits' : ∀ p ∈ packets, p.length ≤ mtu := fun p member => fits p (List.mem_cons_of_mem _ member)
  rw [begins]
  cases packets with
  | nil =>
    have empty : buf.output_avail = -1 := queue'.output_avail
    have none' : buf.output_dest = none := queue'.output_dest
    rw [if_neg (by omega)]
    exact ⟨_,rfl,⟨small,input,output,⟨_,queue',size'⟩,fits',by rw [input],by rw [none']; rfl⟩,held,same⟩
  | cons first packets =>
    obtain ⟨place,first',len,-⟩ := queue'.output (roomFor_pos mtu)
    have short := fits' first List.mem_cons_self
    rw [if_pos (by omega)]
    refine ⟨_,run_scheduleSend rfl ?_ ?_ ?_,⟨small,input,output,⟨_,queue',size'⟩,fits',by rw [input],rfl⟩,held,same⟩
    · rw [first']
      nofun
    · rw [len]
      omega
    · rw [len]
      dsimp only
      omega

/-- The input has room for a packet of the MTU at the place it was given. -/
theorem Good.given (good : Good mtu count o packets) {dest : Int} (asked : o.receiving = some dest) :
    ∃ (r : Ring) (place : Nat), Queue (roomFor mtu) o.buf r packets ∧ dest = place ∧ place = 4 * r.finish + 4 ∧
      place + mtu ≤ 4 * (r.finish + r.free) ∧ place + mtu ≤ o.buf.buffer.length := by
  obtain ⟨small,input,output,⟨r,queue,size⟩,fits,receiving,sending⟩ := good
  rw [receiving] at asked
  split_ifs at asked with avail
  obtain ⟨place,given,equal,some',avail'⟩ := queue.input (by omega)
  rw [given] at asked
  have inside := queue.holds.sound (roomFor_pos mtu)
  have ahead := queue.holds.ahead (roomFor_pos mtu)
  have memory := queue.memory
  have free : r.finish + r.free ≤ r.size := by
    rw [Ring.free]
    split_ifs <;> omega
  exact ⟨r,place,queue,(Option.some.inj asked).symm,equal,by omega,by omega⟩

/-- Another packet is asked for while there are fewer than the buffer was made for. -/
theorem Good.asks (good : Good mtu count o packets) (few : packets.length < count) : o.receiving ≠ none := by
  obtain ⟨-,-,-,⟨r,queue,size⟩,fits,receiving,-⟩ := good
  have avail := queue.few fits few size
  obtain ⟨place,given,-⟩ := queue.input (by omega)
  rw [receiving,if_pos avail,given]
  nofun

/-- What the input writes there changes no packet. -/
theorem Good.store (good : Good mtu count o packets) {dest : Int} {offset : Nat} {data : Bytes}
    (asked : o.receiving = some dest) (inside : offset + data.length ≤ mtu) :
    ∃ (place : Nat) (m : Block UInt8), dest = place ∧ Blocks.store o.buf.buffer (place + offset) data = some m ∧
      Good mtu count {o with buf := {o.buf with buffer := m}} packets := by
  obtain ⟨r',place,queue',equal',equal,free,room⟩ := good.given asked
  obtain ⟨small,input,output,⟨r,queue,size⟩,fits,receiving,sending⟩ := good
  obtain ⟨m,stored⟩ := exists_store o.buf.buffer (place + offset) data (by omega)
  have length : r'.size = r.size := by
    have first := queue.size
    have second := queue'.size
    omega
  exact ⟨place,m,equal',stored,small,input,output,
    ⟨r',queue'.write (roomFor_pos mtu) stored (by omega) (by omega),length.trans size⟩,fits,receiving,sending⟩

theorem Good.write (good : Good mtu count o packets) {offset : Nat} {data : Bytes}
    (allowed : o.allows (.write offset data)) :
    ∃ m, handler o (.write offset data) = .ok ({o with buf := {o.buf with buffer := m}},[]) ∧
      Good mtu count {o with buf := {o.buf with buffer := m}} packets := by
  obtain ⟨asked,inside⟩ := allowed
  obtain ⟨dest,asked⟩ := Option.ne_none_iff_exists'.mp asked
  have input := good.input
  obtain ⟨place,m,rfl,stored,good'⟩ := good.store asked (show offset + data.length ≤ mtu by omega)
  refine ⟨m,?_,good'⟩
  rw [handler,asked]
  dsimp only
  rw [Int.toNat_natCast,stored]

/-- The oldest packet is what the output sends. -/
theorem Good.first (good : Good mtu count o (packet :: packets)) :
    ∃ place : Nat, o.sending = some ((place : Int),(packet.length : Int)) ∧ Blocks.Holds o.buf.buffer place packet := by
  obtain ⟨small,input,output,⟨r,queue,size⟩,fits,receiving,sending⟩ := good
  obtain ⟨place,first,len,holds⟩ := queue.output (roomFor_pos mtu)
  exact ⟨place,by rw [sending,first,len]; rfl,holds⟩

theorem Good.idle (good : Good mtu count o packets) : packets = [] ↔ o.sending = none := by
  cases packets with
  | nil =>
    obtain ⟨small,input,output,⟨r,queue,size⟩,fits,receiving,sending⟩ := good
    have none' : o.buf.output_dest = none := queue.output_dest
    rw [sending,none']
    simp
  | cons packet packets =>
    obtain ⟨place,sending,-⟩ := good.first
    rw [sending]
    simp

/-- The output has sent the first packet. -/
theorem Good.sent (good : Good mtu count o (packet :: packets)) :
    ∃ o', handler o .passed = .ok (o',[packet]) ∧ Good mtu count o' packets ∧
      (∀ dest, o.receiving = some dest → o'.receiving = some dest) ∧ o'.buf.buffer = o.buf.buffer := by
  obtain ⟨place,sending,holds⟩ := good.first
  obtain ⟨next,ran,good',stays,same⟩ := good.passed
  refine ⟨next,?_,good',stays,same⟩
  rw [handler,sending]
  dsimp only
  rw [Int.toNat_natCast,Int.toNat_natCast,holds.load]
  dsimp only
  rw [ok_then ran]
  rfl

/-- What comes in is behind what waits, and what goes out was before it. -/
theorem step_good (good : Good mtu count o packets) (taken : step o event = some (o',reaction)) :
    ∃ out rest, reaction = .ok out ∧ packets ++ event.packet = out ++ rest ∧ Good mtu count o' rest ∧
      (∀ dest, o.receiving = some dest → (∃ packet, event = .received packet) ∨ o'.receiving = some dest) ∧
      ∀ under, o.sending = some under → event = .passed ∨ o'.sending = some under := by
  rw [step] at taken
  split_ifs at taken with allowed
  cases event with
  | write offset data =>
    obtain ⟨m,ran,good'⟩ := good.write allowed
    rw [ran] at taken
    obtain ⟨rfl,rfl⟩ := Prod.mk.inj (Option.some.inj taken)
    exact ⟨[],packets,rfl,List.append_nil packets,good',fun _ asked => .inr asked,fun _ under => .inr under⟩
  | received packet =>
    obtain ⟨next,ran,good',stays⟩ := good.received allowed
    have handled : handler o (.received packet) = .ok (next,[]) := by
      rw [handler,ok_then ran]
      rfl
    rw [handled] at taken
    obtain ⟨rfl,rfl⟩ := Prod.mk.inj (Option.some.inj taken)
    exact ⟨[],packets ++ [packet],rfl,rfl,good',fun _ _ => .inl ⟨packet,rfl⟩,fun under is => .inr (stays under is)⟩
  | passed =>
    cases packets with
    | nil => exact absurd (good.idle.mp rfl) allowed
    | cons packet packets =>
      obtain ⟨next,handled,good',stays,-⟩ := good.sent
      rw [handled] at taken
      obtain ⟨rfl,rfl⟩ := Prod.mk.inj (Option.some.inj taken)
      exact ⟨[packet],packets,rfl,List.append_nil _,good',fun dest asked => .inr (stays dest asked),fun _ _ => .inl rfl⟩

/-- A new buffer is empty and asks for a packet. -/
theorem init_good {output_mtu : Int} (small : (mtu : Int) ≤ INT_MAX)
    (init : PacketBuffer_Init mtu output_mtu count = .ok (some o)) : Good mtu count o [] := by
  rw [PacketBuffer_Init] at init
  obtain ⟨output,init⟩ := of_assert init
  obtain ⟨some',init⟩ := of_assert init
  dsimp only at init
  split_ifs at init with many
  · cases init
  · have enough : roomFor mtu ≤ roomFor mtu * (count + 1) := Nat.le_mul_of_pos_right _ (Nat.succ_pos count)
    obtain ⟨buf,ran,queue,-⟩ := queue_init enough
    have avail : (mtu : Int) ≤ buf.input_avail := queue.few (by simp) (by rw [List.length_nil]; omega) rfl
    obtain ⟨place,given,-⟩ := queue.input (by omega)
    have asks : PacketRecvInterface_Receiver_Recv ⟨mtu,output_mtu,buf,none,none⟩ buf.input_dest =
        .ok ⟨mtu,output_mtu,buf,buf.input_dest,none⟩ := by
      rw [PacketRecvInterface_Receiver_Recv,assert_then (by rw [given]; nofun),assert_then rfl]
      rfl
    rw [calc_blocks_eq (by omega),Int.toNat_natCast,ok_then ran,ok_then asks] at init
    obtain rfl := Option.some.inj (Except.ok.inj init)
    have none' : buf.output_dest = none := queue.output_dest
    rw [INT_MAX] at small
    exact ⟨by omega,rfl,output,⟨_,queue,rfl⟩,by simp,(if_pos avail).symm,by rw [none']; rfl⟩

/-- Nothing fails, and what has come in has gone out or waits. -/
theorem run_good {past : List (Transition PacketBuffer Event Reaction)} (good : Good mtu count o [])
    (run : Run step o past o') : (∀ t ∈ past, ∃ out, t.reaction = .ok out) ∧
      ∃ waiting, Good mtu count o' waiting ∧ received past = sent past ++ waiting := by
  apply run.conserves (P := fun reaction => ∃ out, reaction = .ok out) (f := Event.packet)
    (g := fun reaction => reaction.toOption.getD []) good
  intro o packets event o' reaction good taken
  obtain ⟨out,rest,rfl,conserved,good',-⟩ := step_good good taken
  exact ⟨⟨out,rfl⟩,rest,good',conserved⟩

/-- Two packets go through a buffer for one; the second is written while the first is sent. -/
def pair : List Event := [.write 0 [1,2],.write 2 [3],.received [1,2,3],.write 0 [4,5,6,7,8],.passed,
  .received [4,5,6,7,8]]

end

end WSocks.PacketFlow
