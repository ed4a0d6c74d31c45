import WSocks.PacketDecoder

/-!
# Packets on their way into a stream

`flow/PacketProtoFlow.c`: the user writes a packet into a place that a `BufferWriter` has, a
`PacketProtoEncoder` puts its length before it, and a `PacketBuffer` keeps it until it is sent. All
three pass on one place in the buffer, in jobs that run at any time between what the user and the
output do.
-/

namespace WSocks.PacketProto
open WSocks.Blocks WSocks.Endian WSocks.Runs WSocks.PacketBuffers WSocks.PacketFlow
open WSocks.PacketDecoder (headerSize PACKETPROTO_ENCLEN PACKETPROTO_MAXPAYLOAD frame)

inductive PRI_STATE
  | NONE | OPERATION_PENDING | BUSY | DONE_PENDING
deriving DecidableEq

structure PacketRecvInterface where
  mtu : Int
  state : PRI_STATE
  job_operation_data : Int
  job_done_len : Int
deriving DecidableEq

def PacketRecvInterface.Receiver_Recv (i : PacketRecvInterface) (data : Int) : Except Fault PacketRecvInterface := do
  ASSERT (i.state = .NONE)
  pure {i with job_operation_data := data,state := .OPERATION_PENDING}

def PacketRecvInterface.job_operation (i : PacketRecvInterface) : Except Fault PacketRecvInterface := do
  ASSERT (i.state = .OPERATION_PENDING)
  pure {i with state := .BUSY}

def PacketRecvInterface.Done (i : PacketRecvInterface) (data_len : Int) : Except Fault PacketRecvInterface := do
  ASSERT (data_len ≥ 0)
  ASSERT (data_len ≤ i.mtu)
  ASSERT (i.state = .BUSY)
  pure {i with job_done_len := data_len,state := .DONE_PENDING}

def PacketRecvInterface.job_done (i : PacketRecvInterface) : Except Fault PacketRecvInterface := do
  ASSERT (i.state = .DONE_PENDING)
  pure {i with state := .NONE}

structure BufferWriter where
  recv_interface : PacketRecvInterface
  out_have : Bool
  out : Int
  d_mtu : Int
  d_writing : Bool
deriving DecidableEq

structure PacketProtoEncoder where
  output : PacketRecvInterface
  output_packet : Option Int
deriving DecidableEq

structure PacketProtoFlow where
  ainput : BufferWriter
  encoder : PacketProtoEncoder
  buffer : PacketBuffer

def BufferWriter.output_handler_recv (o : BufferWriter) (data : Int) : Except Fault BufferWriter := do
  ASSERT (o.out_have = false)
  pure {o with out_have := true,out := data}

/-- The place for the packet, or `none` where there is none. -/
def BufferWriter_StartPacket (o : BufferWriter) : Except Fault (BufferWriter × Option Int) := do
  ASSERT (o.d_writing = false)
  if o.out_have = false then pure (o,none) else pure ({o with d_writing := true},some o.out)

def BufferWriter_EndPacket (o : BufferWriter) (len : Int) : Except Fault BufferWriter := do
  ASSERT (len ≥ 0)
  ASSERT (len ≤ o.d_mtu)
  ASSERT (o.out_have = true)
  ASSERT (o.d_writing = true)
  let i ← o.recv_interface.Done len
  pure {o with out_have := false,recv_interface := i,d_writing := false}

def PacketProtoEncoder.output_handler_recv (flow : PacketProtoFlow) (data : Int) : Except Fault PacketProtoFlow := do
  ASSERT (flow.encoder.output_packet = none)
  let i ← flow.ainput.recv_interface.Receiver_Recv (data + headerSize)
  pure {flow with
    encoder := {flow.encoder with output_packet := some data}
    ainput := {flow.ainput with recv_interface := i}}

def PacketProtoFlow.write (flow : PacketProtoFlow) (place : Int) (data : Bytes) : Except Fault PacketProtoFlow :=
  match store flow.buffer.buf.buffer place.toNat data with
  | none => .error .memory
  | some m => if 0 ≤ place then .ok {flow with buffer := {flow.buffer with buf := {flow.buffer.buf with buffer := m}}}
    else .error .memory

def PacketProtoEncoder.input_handler_done (flow : PacketProtoFlow) (in_len : Int) : Except Fault PacketProtoFlow :=
  match flow.encoder.output_packet with
  | none => .error .assertion
  | some packet => do
    let flow ← flow.write packet (leBytes 2 in_len.toNat)
    let i ← flow.encoder.output.Done (PACKETPROTO_ENCLEN in_len)
    pure {flow with encoder := ⟨i,none⟩}

/-- What the buffer asks for anew it asks of the encoder. -/
def request (before : PacketBuffer) (flow : PacketProtoFlow) : Except Fault PacketProtoFlow :=
  match before.receiving,flow.buffer.receiving with
  | none,some data => do
    let i ← flow.encoder.output.Receiver_Recv data
    pure {flow with encoder := {flow.encoder with output := i}}
  | _,_ => pure flow

/-- `none` where the buffer cannot be made. -/
def PacketProtoFlow_Init (input_mtu num_packets output_mtu : Int) : Except Fault (Option PacketProtoFlow) := do
  ASSERT (input_mtu ≥ 0)
  ASSERT (input_mtu ≤ PACKETPROTO_MAXPAYLOAD)
  ASSERT (num_packets > 0)
  ASSERT (output_mtu ≥ PACKETPROTO_ENCLEN input_mtu)
  let made ← PacketBuffer_Init (PACKETPROTO_ENCLEN input_mtu) output_mtu num_packets
  match made with
  | none => pure none
  | some buffer =>
    let flow ← request {buffer with receiving := none}
      ⟨⟨⟨input_mtu,.NONE,0,0⟩,false,0,input_mtu,false⟩,⟨⟨PACKETPROTO_ENCLEN input_mtu,.NONE,0,0⟩,none⟩,buffer⟩
    pure (some flow)

/-- What the user does, the jobs of the two interfaces, and the output that has sent its packet. -/
inductive Event
  | StartPacket
  | write (offset : Nat) (data : Bytes)
  | EndPacket (payload : Bytes)
  | writer_operation
  | writer_done
  | encoder_operation
  | encoder_done
  | passed
deriving DecidableEq

/-- The user writes only between `StartPacket` and `EndPacket`, and no more than the MTU. -/
def PacketProtoFlow.allows (flow : PacketProtoFlow) : Event → Prop
  | .StartPacket => flow.ainput.d_writing = false
  | .write offset data => flow.ainput.d_writing = true ∧ offset + data.length ≤ flow.ainput.d_mtu
  | .EndPacket payload => flow.ainput.d_writing = true ∧ payload.length ≤ flow.ainput.d_mtu ∧
      Blocks.Holds flow.buffer.buf.buffer flow.ainput.out.toNat payload
  | .writer_operation => flow.ainput.recv_interface.state = .OPERATION_PENDING
  | .writer_done => flow.ainput.recv_interface.state = .DONE_PENDING
  | .encoder_operation => flow.encoder.output.state = .OPERATION_PENDING
  | .encoder_done => flow.encoder.output.state = .DONE_PENDING
  | .passed => flow.buffer.sending ≠ none

instance (flow : PacketProtoFlow) (event : Event) : Decidable (flow.allows event) := by
  cases event <;> unfold PacketProtoFlow.allows <;> infer_instance

inductive Output
  | started (place : Option Int)
  | sent (packet : Bytes)
deriving DecidableEq

def handler (flow : PacketProtoFlow) : Event → Except Fault (PacketProtoFlow × List Output)
  | .StartPacket => do
    let (ainput,place) ← BufferWriter_StartPacket flow.ainput
    pure ({flow with ainput := ainput},[.started place])
  | .write offset data => do
    let flow ← flow.write (flow.ainput.out + offset) data
    pure (flow,[])
  | .EndPacket payload => do
    let ainput ← BufferWriter_EndPacket flow.ainput payload.length
    pure ({flow with ainput := ainput},[])
  | .writer_operation => do
    let i ← flow.ainput.recv_interface.job_operation
    let ainput ← BufferWriter.output_handler_recv {flow.ainput with recv_interface := i} i.job_operation_data
    pure ({flow with ainput := ainput},[])
  | .writer_done => do
    let i ← flow.ainput.recv_interface.job_done
    let flow ← PacketProtoEncoder.input_handler_done {flow with ainput := {flow.ainput with recv_interface := i}} i.job_done_len
    pure (flow,[])
  | .encoder_operation => do
    let i ← flow.encoder.output.job_operation
    let flow ← PacketProtoEncoder.output_handler_recv {flow with encoder := {flow.encoder with output := i}} i.job_operation_data
    pure (flow,[])
  | .encoder_done => do
    let i ← flow.encoder.output.job_done
    let before := {flow.buffer with receiving := none}
    let buffer ← input_handler_done before i.job_done_len
    let flow ← request before {flow with encoder := {flow.encoder with output := i},buffer := buffer}
    pure (flow,[])
  | .passed => do
    let (buffer,packets) ← PacketFlow.handler flow.buffer .passed
    let flow ← request flow.buffer {flow with buffer := buffer}
    pure (flow,packets.map .sent)

abbrev Reaction := Except Fault (List Output)

def step (flow : PacketProtoFlow) (event : Event) : Option (PacketProtoFlow × Reaction) :=
  if flow.allows event then
    match handler flow event with
    | .ok (next,outputs) => some (next,.ok outputs)
    | .error fault => some (flow,.error fault)
  else none

/-! ### Where the place of the next packet is -/

def Event.payload : Event → List Bytes
  | .EndPacket payload => [payload]
  | _ => []

def Output.packet : Output → List Bytes
  | .sent packet => [packet]
  | _ => []

section
variable {flow flow' : PacketProtoFlow} {event : Event} {reaction : Reaction} {mtu count : Nat} {packet : Bytes}
  {packets under : List Bytes}

/-- The user has no place and is not writing. -/
def Away (flow : PacketProtoFlow) : Prop := flow.ainput.out_have = false ∧ flow.ainput.d_writing = false

/-- Who has the place of the next packet, and the payload that is in it once the user is done. -/
inductive Stage (mtu : Nat) (flow : PacketProtoFlow) : List Bytes → Prop
  | full (none' : flow.buffer.receiving = none) (state : flow.encoder.output.state = .NONE)
      (packet : flow.encoder.output_packet = none) (state' : flow.ainput.recv_interface.state = .NONE)
      (away : Away flow) : Stage mtu flow []
  | asked (d : Nat) (given : flow.buffer.receiving = some (d : Int))
      (state : flow.encoder.output.state = .OPERATION_PENDING) (data : flow.encoder.output.job_operation_data = d)
      (packet : flow.encoder.output_packet = none) (state' : flow.ainput.recv_interface.state = .NONE)
      (away : Away flow) : Stage mtu flow []
  | passed (d : Nat) (given : flow.buffer.receiving = some (d : Int)) (state : flow.encoder.output.state = .BUSY)
      (packet : flow.encoder.output_packet = some (d : Int))
      (state' : flow.ainput.recv_interface.state = .OPERATION_PENDING)
      (data : flow.ainput.recv_interface.job_operation_data = d + 2) (away : Away flow) : Stage mtu flow []
  | offered (d : Nat) (given : flow.buffer.receiving = some (d : Int)) (state : flow.encoder.output.state = .BUSY)
      (packet : flow.encoder.output_packet = some (d : Int)) (state' : flow.ainput.recv_interface.state = .BUSY)
      (have' : flow.ainput.out_have = true) (out : flow.ainput.out = d + 2) : Stage mtu flow []
  | ended (d : Nat) (payload : Bytes) (given : flow.buffer.receiving = some (d : Int))
      (state : flow.encoder.output.state = .BUSY) (packet : flow.encoder.output_packet = some (d : Int))
      (state' : flow.ainput.recv_interface.state = .DONE_PENDING)
      (len : flow.ainput.recv_interface.job_done_len = payload.length) (away : Away flow)
      (short : payload.length ≤ mtu) (holds : Blocks.Holds flow.buffer.buf.buffer (d + 2) payload) :
      Stage mtu flow [payload]
  | framed (d : Nat) (payload : Bytes) (given : flow.buffer.receiving = some (d : Int))
      (state : flow.encoder.output.state = .DONE_PENDING)
      (len : flow.encoder.output.job_done_len = (frame payload).length) (packet : flow.encoder.output_packet = none)
      (state' : flow.ainput.recv_interface.state = .NONE) (away : Away flow) (short : payload.length ≤ mtu)
      (holds : Blocks.Holds flow.buffer.buf.buffer d (frame payload)) : Stage mtu flow [payload]

/-- The payloads that were ended are in the buffer, or the last of them is on its way there. -/
structure Flowing (mtu count : Nat) (flow : PacketProtoFlow) (packets under : List Bytes) : Prop where
  limit : mtu ≤ 65535
  buffer : PacketFlow.Good (mtu + 2) count flow.buffer (packets.map frame)
  encoder : flow.encoder.output.mtu = mtu + 2
  writer : flow.ainput.recv_interface.mtu = mtu
  d_mtu : flow.ainput.d_mtu = mtu
  stage : Stage mtu flow under

/-- The event is handled, and no payload is lost. -/
def Handled (mtu count : Nat) (flow : PacketProtoFlow) (event : Event) (kept : List Bytes) : Prop :=
  ∃ flow' outputs packets under, handler flow event = .ok (flow',outputs) ∧ Flowing mtu count flow' packets under ∧
    (kept ++ event.payload).map frame = outputs.flatMap Output.packet ++ (packets ++ under).map frame

theorem length_frame (packet : Bytes) : (frame packet).length = packet.length + 2 := by
  rw [frame,List.length_append,leBytes_length,Nat.add_comm]

section
variable {i : PacketRecvInterface}

theorem run_receiver_recv {data : Int} (idle : i.state = .NONE) :
    i.Receiver_Recv data = .ok {i with job_operation_data := data,state := .OPERATION_PENDING} := by
  rw [PacketRecvInterface.Receiver_Recv,assert_then idle]
  rfl

theorem run_job_operation (pending : i.state = .OPERATION_PENDING) : i.job_operation = .ok {i with state := .BUSY} := by
  rw [PacketRecvInterface.job_operation,assert_then pending]
  rfl

theorem run_finish {data_len : Int} (some' : data_len ≥ 0) (fits : data_len ≤ i.mtu) (busy : i.state = .BUSY) :
    i.Done data_len = .ok {i with job_done_len := data_len,state := .DONE_PENDING} := by
  rw [PacketRecvInterface.Done,assert_then some',assert_then fits,assert_then busy]
  rfl

theorem run_job_done (pending : i.state = .DONE_PENDING) : i.job_done = .ok {i with state := .NONE} := by
  rw [PacketRecvInterface.job_done,assert_then pending]
  rfl

end

/-- Only where the user has the place is there a place, or a user that writes. -/
theorem Stage.offered_of (stage : Stage mtu flow under) (busy : ¬ Away flow) : under = [] ∧ ∃ d : Nat,
    flow.buffer.receiving = some (d : Int) ∧ flow.encoder.output.state = .BUSY ∧
    flow.encoder.output_packet = some (d : Int) ∧ flow.ainput.recv_interface.state = .BUSY ∧
    flow.ainput.out_have = true ∧ flow.ainput.out = d + 2 := by
  cases stage with
  | offered d given state packet state' have' out => exact ⟨rfl,d,given,state,packet,state',have',out⟩
  | full _ _ _ _ away | asked _ _ _ _ _ _ away | passed _ _ _ _ _ _ away => exact absurd away busy
  | ended _ _ _ _ _ _ _ away | framed _ _ _ _ _ _ _ away => exact absurd away busy

theorem not_away_of_writing (writing : flow.ainput.d_writing = true) : ¬ Away flow := by
  intro away
  exact absurd (away.2.symm.trans writing) (by decide)

theorem startPacket_handled (flowing : Flowing mtu count flow packets under) (allowed : flow.allows .StartPacket) :
    Handled mtu count flow .StartPacket (packets ++ under) := by
  obtain ⟨limit,buffer,encoder,writer,d_mtu,stage⟩ := flowing
  have quiet : flow.ainput.d_writing = false := allowed
  by_cases absent : flow.ainput.out_have = false
  · have starts : BufferWriter_StartPacket flow.ainput = .ok (flow.ainput,none) := by
      rw [BufferWriter_StartPacket,assert_then quiet,if_pos absent]
      rfl
    refine ⟨flow,[.started none],packets,under,?_,⟨limit,buffer,encoder,writer,d_mtu,stage⟩,by simp [Event.payload,Output.packet]⟩
    rw [handler,ok_then starts]
    rfl
  · have starts : BufferWriter_StartPacket flow.ainput = .ok ({flow.ainput with d_writing := true},some flow.ainput.out) := by
      rw [BufferWriter_StartPacket,assert_then quiet,if_neg absent]
      rfl
    refine ⟨{flow with ainput := {flow.ainput with d_writing := true}},[.started (some flow.ainput.out)],packets,under,?_,
      ⟨limit,buffer,encoder,writer,d_mtu,?_⟩,by simp [Event.payload,Output.packet]⟩
    · rw [handler,ok_then starts]
      rfl
    · obtain ⟨rfl,d,given,state,packet,state',have',out⟩ := stage.offered_of (fun away => absent away.1)
      exact .offered d given state packet state' have' out

theorem run_write {d : Nat} {data : Bytes} {m : Block UInt8} (stored : store flow.buffer.buf.buffer d data = some m) :
    flow.write d data = .ok {flow with buffer := {flow.buffer with buf := {flow.buffer.buf with buffer := m}}} := by
  rw [PacketProtoFlow.write,Int.toNat_natCast,stored]
  exact if_pos (by omega)

theorem write_handled {offset : Nat} {data : Bytes} (flowing : Flowing mtu count flow packets under)
    (allowed : flow.allows (.write offset data)) : Handled mtu count flow (.write offset data) (packets ++ under) := by
  obtain ⟨limit,buffer,encoder,writer,d_mtu,stage⟩ := flowing
  obtain ⟨writing,inside⟩ := allowed
  obtain ⟨rfl,d,given,state,packet,state',have',out⟩ := stage.offered_of (not_away_of_writing writing)
  obtain ⟨place,m,same,stored,good⟩ := buffer.store given (show 2 + offset + data.length ≤ mtu + 2 by omega)
  obtain rfl := Int.ofNat.inj same
  have place' : flow.ainput.out + (offset : Int) = ((d + (2 + offset) : Nat) : Int) := by omega
  refine ⟨{flow with buffer := {flow.buffer with buf := {flow.buffer.buf with buffer := m}}},[],packets,[],?_,
    ⟨limit,good,encoder,writer,d_mtu,.offered d given state packet state' have' out⟩,by simp [Event.payload]⟩
  rw [handler,place',ok_then (run_write stored)]
  rfl

theorem endPacket_handled {payload : Bytes} (flowing : Flowing mtu count flow packets under)
    (allowed : flow.allows (.EndPacket payload)) : Handled mtu count flow (.EndPacket payload) (packets ++ under) := by
  obtain ⟨limit,buffer,encoder,writer,d_mtu,stage⟩ := flowing
  obtain ⟨writing,short,holds⟩ := allowed
  obtain ⟨rfl,d,given,state,packet,state',have',out⟩ := stage.offered_of (not_away_of_writing writing)
  have place : flow.ainput.out.toNat = d + 2 := by omega
  rw [place] at holds
  have ends : BufferWriter_EndPacket flow.ainput payload.length = .ok {flow.ainput with
      out_have := false
      recv_interface := {flow.ainput.recv_interface with job_done_len := payload.length,state := .DONE_PENDING}
      d_writing := false} := by
    rw [BufferWriter_EndPacket,assert_then (by omega),assert_then short,assert_then have',assert_then writing,
      ok_then (run_finish (by omega) (by omega) state')]
    rfl
  refine ⟨{flow with ainput := {flow.ainput with
      out_have := false
      recv_interface := {flow.ainput.recv_interface with job_done_len := payload.length,state := .DONE_PENDING}
      d_writing := false}},[],packets,[payload],?_,
    ⟨limit,buffer,encoder,writer,d_mtu,.ended d payload given state packet rfl rfl ⟨rfl,rfl⟩ (by omega) holds⟩,
    by simp [Event.payload]⟩
  rw [handler,ok_then ends]
  rfl

theorem writer_operation_handled (flowing : Flowing mtu count flow packets under)
    (allowed : flow.allows .writer_operation) : Handled mtu count flow .writer_operation (packets ++ under) := by
  obtain ⟨limit,buffer,encoder,writer,d_mtu,stage⟩ := flowing
  have pending : flow.ainput.recv_interface.state = .OPERATION_PENDING := allowed
  cases stage with
  | full _ _ _ idle | asked _ _ _ _ _ idle | offered _ _ _ _ idle => exact absurd (idle.symm.trans pending) (by decide)
  | ended _ _ _ _ _ idle | framed _ _ _ _ _ _ idle => exact absurd (idle.symm.trans pending) (by decide)
  | passed d given state packet state' data away =>
    refine ⟨{flow with ainput := {flow.ainput with
        recv_interface := {flow.ainput.recv_interface with state := .BUSY}
        out_have := true
        out := flow.ainput.recv_interface.job_operation_data}},[],packets,[],?_,
      ⟨limit,buffer,encoder,writer,d_mtu,.offered d given state packet rfl rfl data⟩,by simp [Event.payload]⟩
    rw [handler,ok_then (run_job_operation pending),BufferWriter.output_handler_recv,assert_then away.1]
    rfl

theorem encoder_operation_handled (flowing : Flowing mtu count flow packets under)
    (allowed : flow.allows .encoder_operation) : Handled mtu count flow .encoder_operation (packets ++ under) := by
  obtain ⟨limit,buffer,encoder,writer,d_mtu,stage⟩ := flowing
  have pending : flow.encoder.output.state = .OPERATION_PENDING := allowed
  cases stage with
  | full _ idle | passed _ _ idle | offered _ _ idle => exact absurd (idle.symm.trans pending) (by decide)
  | ended _ _ _ idle | framed _ _ _ idle => exact absurd (idle.symm.trans pending) (by decide)
  | asked d given state data packet state' away =>
    refine ⟨{flow with
        encoder := ⟨{flow.encoder.output with state := .BUSY},some flow.encoder.output.job_operation_data⟩
        ainput := {flow.ainput with recv_interface := {flow.ainput.recv_interface with
          job_operation_data := flow.encoder.output.job_operation_data + headerSize
          state := .OPERATION_PENDING}}},[],packets,[],?_,
      ⟨limit,buffer,encoder,writer,d_mtu,.passed d given rfl (congrArg some data) rfl ?_ away⟩,by simp [Event.payload]⟩
    · rw [handler,ok_then (run_job_operation pending),PacketProtoEncoder.output_handler_recv,assert_then packet,
        ok_then (run_receiver_recv state')]
      rfl
    · rw [data,headerSize]

theorem writer_done_handled (flowing : Flowing mtu count flow packets under)
    (allowed : flow.allows .writer_done) : Handled mtu count flow .writer_done (packets ++ under) := by
  obtain ⟨limit,buffer,encoder,writer,d_mtu,stage⟩ := flowing
  have pending : flow.ainput.recv_interface.state = .DONE_PENDING := allowed
  cases stage with
  | full _ _ _ idle | asked _ _ _ _ _ idle | passed _ _ _ _ idle => exact absurd (idle.symm.trans pending) (by decide)
  | offered _ _ _ _ idle | framed _ _ _ _ _ _ idle => exact absurd (idle.symm.trans pending) (by decide)
  | ended d payload given state packet state' len away short holds =>
    obtain ⟨place,m,same,stored,good⟩ :=
      buffer.store given (show 0 + (leBytes 2 payload.length).length ≤ mtu + 2 by rw [leBytes_length]; omega)
    obtain rfl := Int.ofNat.inj same
    have value : (flow.ainput.recv_interface.job_done_len).toNat = payload.length := by omega
    have written : PacketProtoFlow.write {flow with ainput := {flow.ainput with
        recv_interface := {flow.ainput.recv_interface with state := .NONE}}} d (leBytes 2 payload.length) = _ :=
      run_write stored
    have finishes : flow.encoder.output.Done (PACKETPROTO_ENCLEN flow.ainput.recv_interface.job_done_len) =
        .ok {flow.encoder.output with
          job_done_len := PACKETPROTO_ENCLEN flow.ainput.recv_interface.job_done_len
          state := .DONE_PENDING} :=
      run_finish (by rw [PACKETPROTO_ENCLEN,headerSize]; omega) (by rw [PACKETPROTO_ENCLEN,headerSize]; omega) state
    refine ⟨⟨{flow.ainput with recv_interface := {flow.ainput.recv_interface with state := .NONE}},
        ⟨{flow.encoder.output with
          job_done_len := PACKETPROTO_ENCLEN flow.ainput.recv_interface.job_done_len
          state := .DONE_PENDING},none⟩,
        {flow.buffer with buf := {flow.buffer.buf with buffer := m}}⟩,[],packets,[payload],?_,
      ⟨limit,good,encoder,writer,d_mtu,.framed d payload given rfl ?_ rfl rfl away short ?_⟩,by simp [Event.payload]⟩
    · rw [handler,ok_then (run_job_done pending),PacketProtoEncoder.input_handler_done,packet]
      dsimp only
      rw [value,ok_then written]
      dsimp only
      rw [ok_then finishes]
      rfl
    · rw [length_frame,PACKETPROTO_ENCLEN,headerSize,len]
      push_cast
      omega
    · refine holds_append.mpr ⟨holds_store stored,?_⟩
      rw [leBytes_length]
      exact holds.store stored (.inr (by rw [leBytes_length]))

/-- The buffer asks the encoder, where it asks for a packet anew. -/
theorem run_request {before : PacketBuffer} (good : PacketFlow.Good (mtu + 2) count flow.buffer (packets.map frame))
    (limit : mtu ≤ 65535) (encoder : flow.encoder.output.mtu = mtu + 2) (writer : flow.ainput.recv_interface.mtu = mtu)
    (d_mtu : flow.ainput.d_mtu = mtu) (none' : before.receiving = none) (state : flow.encoder.output.state = .NONE)
    (packet : flow.encoder.output_packet = none) (state' : flow.ainput.recv_interface.state = .NONE) (away : Away flow) :
    ∃ flow', request before flow = .ok flow' ∧ Flowing mtu count flow' packets [] := by
  rcases asks : flow.buffer.receiving with _ | dest
  · refine ⟨flow,?_,limit,good,encoder,writer,d_mtu,.full asks state packet state' away⟩
    rw [request,none',asks]
    rfl
  · obtain ⟨r,place,-,rfl,-⟩ := good.given asks
    refine ⟨{flow with encoder := {flow.encoder with
        output := {flow.encoder.output with job_operation_data := place,state := .OPERATION_PENDING}}},?_,
      limit,good,encoder,writer,d_mtu,.asked place asks rfl rfl packet state' away⟩
    rw [request,none',asks]
    dsimp only
    rw [ok_then (run_receiver_recv state)]
    rfl

theorem encoder_done_handled (flowing : Flowing mtu count flow packets under)
    (allowed : flow.allows .encoder_done) : Handled mtu count flow .encoder_done (packets ++ under) := by
  obtain ⟨limit,buffer,encoder,writer,d_mtu,stage⟩ := flowing
  have pending : flow.encoder.output.state = .DONE_PENDING := allowed
  cases stage with
  | full _ idle | asked _ _ idle | passed _ _ idle | offered _ _ idle => exact absurd (idle.symm.trans pending) (by decide)
  | ended _ _ _ idle => exact absurd (idle.symm.trans pending) (by decide)
  | framed d payload given state len packet state' away short holds =>
    have input := buffer.input
    have allowed' : flow.buffer.allows (.received (frame payload)) := by
      refine ⟨?_,d,given,holds⟩
      rw [length_frame]
      push_cast
      omega
    obtain ⟨next,ran,good,-⟩ := buffer.received allowed'
    rw [← List.map_singleton (f := frame),← List.map_append] at good
    have again : ∃ last, request ⟨flow.buffer.input_mtu,flow.buffer.output_mtu,flow.buffer.buf,none,flow.buffer.sending⟩
        ⟨flow.ainput,⟨⟨flow.encoder.output.mtu,.NONE,flow.encoder.output.job_operation_data,(frame payload).length⟩,
          flow.encoder.output_packet⟩,next⟩ = .ok last ∧
        Flowing mtu count last (packets ++ [payload]) [] :=
      run_request good limit encoder writer d_mtu rfl rfl packet state' away
    obtain ⟨last,asks,flowing⟩ := again
    refine ⟨last,[],packets ++ [payload],[],?_,flowing,by simp [Event.payload]⟩
    rw [handler,ok_then (run_job_done pending)]
    dsimp only
    rw [len,ok_then ran,ok_then asks]
    rfl

theorem passed_handled (flowing : Flowing mtu count flow packets under) (allowed : flow.allows .passed) :
    Handled mtu count flow .passed (packets ++ under) := by
  obtain ⟨limit,buffer,encoder,writer,d_mtu,stage⟩ := flowing
  cases packets with
  | nil => exact absurd (buffer.idle.mp rfl) allowed
  | cons first packets =>
    obtain ⟨next,ran,good,stays,same⟩ := buffer.sent
    rcases asked : flow.buffer.receiving with _ | dest
    · cases stage with
      | full none' state packet state' away =>
        have again : ∃ last, request flow.buffer {flow with buffer := next} = .ok last ∧ Flowing mtu count last packets [] :=
          run_request good limit encoder writer d_mtu asked state packet state' away
        obtain ⟨last,asks,flowing⟩ := again
        refine ⟨last,[.sent (frame first)],packets,[],?_,flowing,by simp [Event.payload,Output.packet]⟩
        rw [handler,ok_then ran]
        dsimp only
        rw [ok_then asks]
        rfl
      | asked d given | passed d given | offered d given => exact absurd (asked.symm.trans given) nofun
      | ended d payload given | framed d payload given => exact absurd (asked.symm.trans given) nofun
    · have still := stays dest asked
      refine ⟨{flow with buffer := next},[.sent (frame first)],packets,under,?_,
        ⟨limit,good,encoder,writer,d_mtu,?_⟩,by simp [Event.payload,Output.packet]⟩
      · rw [handler,ok_then ran]
        dsimp only
        rw [request,asked]
        rfl
      · cases stage with
        | full none' => exact absurd (asked.symm.trans none') nofun
        | asked d given state data packet state' away =>
          exact .asked d (still.trans (asked.symm.trans given)) state data packet state' away
        | passed d given state packet state' data away =>
          exact .passed d (still.trans (asked.symm.trans given)) state packet state' data away
        | offered d given state packet state' have' out =>
          exact .offered d (still.trans (asked.symm.trans given)) state packet state' have' out
        | ended d payload given state packet state' len away short holds =>
          exact .ended d payload (still.trans (asked.symm.trans given)) state packet state' len away short
            (by rw [same]; exact holds)
        | framed d payload given state len packet state' away short holds =>
          exact .framed d payload (still.trans (asked.symm.trans given)) state len packet state' away short
            (by rw [same]; exact holds)

theorem step_flowing (flowing : Flowing mtu count flow packets under) (taken : step flow event = some (flow',reaction)) :
    ∃ outputs packets' under', reaction = .ok outputs ∧ Flowing mtu count flow' packets' under' ∧
      (packets ++ under ++ event.payload).map frame = outputs.flatMap Output.packet ++ (packets' ++ under').map frame := by
  rw [step] at taken
  split_ifs at taken with allowed
  have handled : Handled mtu count flow event (packets ++ under) := by
    cases event with
    | StartPacket => exact startPacket_handled flowing allowed
    | write offset data => exact write_handled flowing allowed
    | EndPacket payload => exact endPacket_handled flowing allowed
    | writer_operation => exact writer_operation_handled flowing allowed
    | writer_done => exact writer_done_handled flowing allowed
    | encoder_operation => exact encoder_operation_handled flowing allowed
    | encoder_done => exact encoder_done_handled flowing allowed
    | passed => exact passed_handled flowing allowed
  obtain ⟨next,outputs,packets',under',ran,flowing',conserved⟩ := handled
  rw [ran] at taken
  obtain ⟨rfl,rfl⟩ := Prod.mk.inj (Option.some.inj taken)
  exact ⟨outputs,packets',under',rfl,flowing',conserved⟩

theorem init_flowing {input_mtu : Nat} {output_mtu : Int}
    (init : PacketProtoFlow_Init input_mtu count output_mtu = .ok (some flow)) : Flowing input_mtu count flow [] [] := by
  rw [PacketProtoFlow_Init,assert_then (by omega)] at init
  obtain ⟨limit,init⟩ := of_assert init
  obtain ⟨-,init⟩ := of_assert init
  obtain ⟨-,init⟩ := of_assert init
  rw [PACKETPROTO_MAXPAYLOAD] at limit
  have enclen : PACKETPROTO_ENCLEN input_mtu = ((input_mtu + 2 : Nat) : Int) := by
    rw [PACKETPROTO_ENCLEN,headerSize]
    omega
  rw [enclen] at init
  rcases made : PacketBuffer_Init ((input_mtu + 2 : Nat) : Int) output_mtu count with fault | buffer
  · rw [made] at init
    cases init
  · rw [ok_then made] at init
    cases buffer with
    | none => cases init
    | some buffer =>
      have good := PacketFlow.init_good (by rw [INT_MAX]; omega) made
      have begins : ∃ last, request {buffer with receiving := none}
          ⟨⟨⟨input_mtu,.NONE,0,0⟩,false,0,input_mtu,false⟩,⟨⟨((input_mtu + 2 : Nat) : Int),.NONE,0,0⟩,none⟩,buffer⟩ =
            .ok last ∧ Flowing input_mtu count last [] [] :=
        run_request good (by omega) (by push_cast; rfl) rfl rfl rfl rfl rfl rfl ⟨rfl,rfl⟩
      obtain ⟨last,asks,flowing⟩ := begins
      dsimp only at init
      rw [ok_then asks] at init
      obtain rfl := Option.some.inj (Except.ok.inj init)
      exact flowing

/-! ### Every run -/

abbrev Past := List (Transition PacketProtoFlow Event Reaction)

/-- The payloads that the user has ended. -/
def ended (past : Past) : List Bytes := past.flatMap (fun t => t.event.payload)
/-- The packets that the output has sent. -/
def sent (past : Past) : List Bytes := past.flatMap (fun t => (t.reaction.toOption.getD []).flatMap Output.packet)

variable {past : Past}

theorem run_flowing (flowing : Flowing mtu count flow [] []) (run : Run step flow past flow') :
    (∀ t ∈ past, ∃ outputs, t.reaction = .ok outputs) ∧ ∃ packets under, Flowing mtu count flow' packets under ∧
      (ended past).map frame = sent past ++ (packets ++ under).map frame := by
  have keeps : (∀ t ∈ past, ∃ outputs, t.reaction = .ok outputs) ∧ ∃ left : List Bytes,
      (∃ packets under, Flowing mtu count flow' packets under ∧ left = (packets ++ under).map frame) ∧
      past.flatMap (fun t => t.event.payload.map frame) = sent past ++ left := by
    apply run.conserves (P := fun reaction => ∃ outputs, reaction = .ok outputs)
      (L := fun flow left => ∃ packets under, Flowing mtu count flow packets under ∧ left = (packets ++ under).map frame)
      (f := fun event => event.payload.map frame) (g := fun reaction => (reaction.toOption.getD []).flatMap Output.packet)
      ⟨[],[],flowing,rfl⟩
    rintro s left event s' reaction ⟨packets,under,flowing,rfl⟩ taken
    obtain ⟨outputs,packets',under',rfl,flowing',conserved⟩ := step_flowing flowing taken
    refine ⟨⟨outputs,rfl⟩,_,⟨packets',under',flowing',rfl⟩,?_⟩
    rw [← List.map_append]
    exact conserved
  obtain ⟨calm,left,⟨packets,under,flowing',rfl⟩,conserved⟩ := keeps
  refine ⟨calm,packets,under,flowing',?_⟩
  rw [ended,List.map_flatMap]
  exact conserved

theorem run_short (flowing : Flowing mtu count flow [] []) (run : Run step flow past flow') :
    ∀ payload ∈ ended past, payload.length ≤ mtu := by
  induction run with
  | nil => simp [ended]
  | @snoc middle next past event reaction before taken ih =>
    obtain ⟨-,packets,under,flowing',-⟩ := run_flowing flowing before
    intro payload member
    rw [ended,List.flatMap_append,List.mem_append] at member
    rcases member with earlier | last
    · exact ih payload earlier
    · have limit := flowing'.d_mtu
      rw [step] at taken
      split_ifs at taken with allowed
      cases event with
      | EndPacket ended' =>
        obtain ⟨-,short,-⟩ := allowed
        have same : payload = ended' := by simpa [Event.payload] using last
        rw [same]
        omega
      | _ => simp [Event.payload] at last

/-- No job of the interfaces is left to run. -/
def Settled (flow : PacketProtoFlow) : Prop :=
  (flow.encoder.output.state = .NONE ∨ flow.encoder.output.state = .BUSY) ∧
    (flow.ainput.recv_interface.state = .NONE ∨ flow.ainput.recv_interface.state = .BUSY)

theorem Flowing.settled (flowing : Flowing mtu count flow packets under) (settled : Settled flow) :
    under = [] ∧ (flow.buffer.receiving ≠ none → flow.ainput.out_have = true) := by
  obtain ⟨outer,inner⟩ := settled
  cases flowing.stage with
  | full none' => exact ⟨rfl,fun asked => absurd none' asked⟩
  | asked d given state => rcases outer with is | is <;> cases state.symm.trans is
  | passed d given state packet state' => rcases inner with is | is <;> cases state'.symm.trans is
  | offered d given state packet state' have' => exact ⟨rfl,fun _ => have'⟩
  | ended d payload given state packet state' => rcases inner with is | is <;> cases state'.symm.trans is
  | framed d payload given state => rcases outer with is | is <;> cases state.symm.trans is

/-- A packet that the user ends while another is being sent; the last one is not ended yet. -/
def busy : List Event :=
  [.encoder_operation,.writer_operation,.StartPacket,.write 0 [8,9],.EndPacket [8,9],.writer_done,.encoder_done,
    .passed,.encoder_operation,.writer_operation,.StartPacket,.write 0 [7],.EndPacket [7],.writer_done,.encoder_done,
    .passed,.encoder_operation,.writer_operation,.StartPacket,.write 1 [6]]

/-- A decoder that is fed what the flow sends, however it is cut up, passes on the payloads that the
    user ended: in their order, byte for byte, and all of them when all has been sent and fed. -/
theorem payloads_arrive {input_mtu m : Nat} {output_mtu : Int} {enc enc' : PacketDecoder.PacketProtoDecoder}
    {feeding : List (Transition _ PacketDecoder.Event PacketDecoder.Reaction)}
    (init : PacketProtoFlow_Init input_mtu count output_mtu = .ok (some flow)) (run : Run step flow past flow')
    (init' : PacketDecoder.PacketProtoDecoder_Init m = .ok enc) (run' : Run PacketDecoder.step enc feeding enc')
    (fits : input_mtu ≤ m) (fed : PacketDecoder.received feeding <+: (sent past).flatten) :
    (∀ t ∈ feeding, ∃ outcome, t.reaction = .ok outcome ∧ outcome.error = false) ∧
      PacketDecoder.passed feeding <+: ended past ∧
      (Settled flow' → flow'.buffer.sending = none → PacketDecoder.received feeding = (sent past).flatten →
        enc'.sending = none → PacketDecoder.passed feeding = ended past) := by
  have initially := init_flowing init
  obtain ⟨-,packets,under,flowing,conserved⟩ := run_flowing initially run
  have short : ∀ payload ∈ ended past, payload.length ≤ min m 65535 := fun payload member =>
    (run_short initially run payload member).trans (le_min fits initially.limit)
  have whole : PacketDecoder.frames (ended past) = (sent past).flatten ++ ((packets ++ under).map frame).flatten := by
    rw [PacketDecoder.frames,List.flatMap_def,conserved,List.flatten_append]
  have begins : PacketDecoder.received feeding <+: PacketDecoder.frames (ended past) := by
    rw [whole]
    exact fed.trans (List.prefix_append _ _)
  obtain ⟨calm,good⟩ := PacketDecoder.run_frames (PacketDecoder.init_good init') run' short begins
  obtain ⟨rest,split,all⟩ := good.rest short begins
  refine ⟨calm,⟨rest,split.symm⟩,?_⟩
  intro settled idle fed' idle'
  obtain ⟨rfl,-⟩ := flowing.settled settled
  have empty := flowing.buffer.idle.mpr idle
  rw [List.append_nil,empty,List.flatten_nil,List.append_nil] at whole
  rw [all (fed'.trans whole.symm) idle',List.append_nil] at split
  exact split.symm

def halves : List PacketDecoder.Event := [.received [2,0,8],.received [9,1],.passed,.received [0,7],.passed]

theorem payloads_arrive_halves : ∃ flow flow' past enc enc' feeding,
    PacketProtoFlow_Init (3 : Nat) (1 : Nat) 5 = .ok (some flow) ∧ execute step flow busy = some (past,flow') ∧
    PacketDecoder.PacketProtoDecoder_Init (3 : Nat) = .ok enc ∧
    execute PacketDecoder.step enc halves = some (feeding,enc') ∧
    (∀ t ∈ feeding, ∃ outcome, t.reaction = .ok outcome ∧ outcome.error = false) ∧
      PacketDecoder.passed feeding <+: ended past ∧
      (Settled flow' → flow'.buffer.sending = none → PacketDecoder.received feeding = (sent past).flatten →
        enc'.sending = none → PacketDecoder.passed feeding = ended past) := by
  obtain ⟨flow,flow',past,init,executed,bytes⟩ : ∃ flow flow' past,
      PacketProtoFlow_Init (3 : Nat) (1 : Nat) 5 = .ok (some flow) ∧ execute step flow busy = some (past,flow') ∧
      (sent past).flatten = [2,0,8,9,1,0,7] := ⟨_,_,_,rfl,rfl,rfl⟩
  obtain ⟨enc,enc',feeding,init',executed',fed⟩ : ∃ enc enc' feeding,
      PacketDecoder.PacketProtoDecoder_Init (3 : Nat) = .ok enc ∧
      execute PacketDecoder.step enc halves = some (feeding,enc') ∧
      PacketDecoder.received feeding = [2,0,8,9,1,0,7] := ⟨_,_,_,rfl,rfl,rfl⟩
  exact ⟨flow,flow',past,enc,enc',feeding,init,executed,init',executed',payloads_arrive init (run_of_execute executed)
    init' (run_of_execute executed') (by decide) (by rw [bytes,fed])⟩

end

end WSocks.PacketProto
