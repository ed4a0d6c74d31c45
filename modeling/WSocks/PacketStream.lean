import WSocks.PacketDecoder

/-!
# Packets on their way into a stream

`flow/PacketStreamSender.c`: has a stream take each packet it is given, as much of it at a time as
the stream likes. The stream takes the bytes where the user has put them; the user leaves them there
until the sender is done with the packet, and may write elsewhere meanwhile.
-/

namespace WSocks.PacketStream
open WSocks.Blocks WSocks.Runs WSocks.PacketBuffers

inductive PPI_STATE
  | NONE | OPERATION_PENDING | BUSY | DONE_PENDING
deriving DecidableEq

structure PacketPassInterface where
  mtu : Int
  state : PPI_STATE
  job_operation_data : Int
  job_operation_len : Int

def PacketPassInterface.Sender_Send (i : PacketPassInterface) (data data_len : Int) : Except Fault PacketPassInterface := do
  ASSERT (data_len ≥ 0)
  ASSERT (data_len ≤ i.mtu)
  ASSERT (i.state = .NONE)
  pure {i with job_operation_data := data,job_operation_len := data_len,state := .OPERATION_PENDING}

def PacketPassInterface.job_operation (i : PacketPassInterface) : Except Fault PacketPassInterface := do
  ASSERT (i.state = .OPERATION_PENDING)
  pure {i with state := .BUSY}

def PacketPassInterface.Done (i : PacketPassInterface) : Except Fault PacketPassInterface := do
  ASSERT (i.state = .BUSY)
  pure {i with state := .DONE_PENDING}

def PacketPassInterface.job_done (i : PacketPassInterface) : Except Fault PacketPassInterface := do
  ASSERT (i.state = .DONE_PENDING)
  pure {i with state := .NONE}

/-- `output` is the place and the length of what the stream was asked to take, `in_len` is `-1`
    where there is no packet. -/
structure PacketStreamSender where
  input : PacketPassInterface
  in_len : Int
  in_data : Int
  in_used : Int
  output : Option (Int × Int)

def StreamPassInterface_Sender_Send (s : PacketStreamSender) (data data_len : Int) : Except Fault PacketStreamSender := do
  ASSERT (data_len > 0)
  ASSERT (s.output = none)
  pure {s with output := some (data,data_len)}

def send_data (s : PacketStreamSender) : Except Fault PacketStreamSender := do
  ASSERT (s.in_len ≥ 0)
  if s.in_used < s.in_len then StreamPassInterface_Sender_Send s (s.in_data + s.in_used) (s.in_len - s.in_used)
  else
    let i ← s.input.Done
    pure {s with in_len := -1,input := i}

def input_handler_send (s : PacketStreamSender) (data data_len : Int) : Except Fault PacketStreamSender := do
  ASSERT (s.in_len = -1)
  ASSERT (data_len ≥ 0)
  send_data {s with in_len := data_len,in_data := data,in_used := 0}

def output_handler_done (s : PacketStreamSender) (data_len : Int) : Except Fault PacketStreamSender := do
  ASSERT (s.in_len ≥ 0)
  ASSERT (data_len > 0)
  ASSERT (data_len ≤ s.in_len - s.in_used)
  send_data {s with in_used := s.in_used + data_len}

def PacketStreamSender_Init (mtu : Int) : Except Fault PacketStreamSender := do
  ASSERT (mtu ≥ 0)
  pure ⟨⟨mtu,.NONE,0,0⟩,-1,0,0,none⟩

/-- The sender, and the memory that the packets of its user are in. -/
structure Sending where
  memory : Block UInt8
  sender : PacketStreamSender

/-- What the user does (gives a packet to the sender, writes into its memory), the jobs of the
    interface between the two, and the stream that has taken some bytes. -/
inductive Event
  | Send (place : Nat) (packet : Bytes)
  | write (place : Nat) (data : Bytes)
  | job_operation
  | job_done
  | taken (count : Nat)
deriving DecidableEq

/-- The user gives one packet of the MTU at a time, which is in its memory, and writes into memory it
    has, not into the packet that the sender has. The stream takes at least one byte, and no more than
    it was asked to. -/
def Sending.allows (o : Sending) : Event → Prop
  | .Send place packet => o.sender.input.state = .NONE ∧ packet.length ≤ o.sender.input.mtu ∧
      Blocks.Holds o.memory place packet
  | .write place data => place + data.length ≤ o.memory.length ∧ (o.sender.input.state = .NONE ∨
      ((place + data.length : Nat) : Int) ≤ o.sender.input.job_operation_data ∨
      o.sender.input.job_operation_data + o.sender.input.job_operation_len ≤ place)
  | .job_operation => o.sender.input.state = .OPERATION_PENDING
  | .job_done => o.sender.input.state = .DONE_PENDING
  | .taken count => 0 < count ∧ ∃ asked ∈ o.sender.output, (count : Int) ≤ asked.2

instance (o : Sending) (event : Event) : Decidable (o.allows event) := by
  cases event <;> unfold Sending.allows <;> infer_instance

/-- What the sender does, and the bytes that the stream has taken. -/
def handler (o : Sending) : Event → Except Fault (Sending × Bytes)
  | .Send place packet => do
    let i ← o.sender.input.Sender_Send place packet.length
    pure ({o with sender := {o.sender with input := i}},[])
  | .write place data =>
    match store o.memory place data with
    | none => .error .memory
    | some memory => .ok ({o with memory := memory},[])
  | .job_operation => do
    let i ← o.sender.input.job_operation
    let sender ← input_handler_send {o.sender with input := i} i.job_operation_data i.job_operation_len
    pure ({o with sender := sender},[])
  | .job_done => do
    let i ← o.sender.input.job_done
    pure ({o with sender := {o.sender with input := i}},[])
  | .taken count =>
    match o.sender.output with
    | none => .error .assertion
    | some (data,_) =>
      match load o.memory data.toNat count with
      | none => .error .memory
      | some bytes => do
        let sender ← output_handler_done {o.sender with output := none} count
        pure ({o with sender := sender},bytes)

abbrev Reaction := Except Fault Bytes

def step (o : Sending) (event : Event) : Option (Sending × Reaction) :=
  if o.allows event then
    match handler o event with
    | .ok (next,bytes) => some (next,.ok bytes)
    | .error fault => some (o,.error fault)
  else none

/-! ### What is left of the packet -/

def Event.packet : Event → Bytes
  | .Send _ packet => packet
  | _ => []

section
variable {o o' : Sending} {m : Block UInt8} {s : PacketStreamSender} {event : Event} {reaction : Reaction}
  {packet front back left : Bytes} {packets : List Bytes} {place : Nat}

/-- The packet that the sender has is in the memory. -/
structure Given (o : Sending) (place : Nat) (packet : Bytes) : Prop where
  data : o.sender.input.job_operation_data = place
  len : o.sender.input.job_operation_len = packet.length
  holds : Blocks.Holds o.memory place packet

/-- How far the sender is with its packet, and the bytes of it that the stream has not taken yet. -/
inductive Stage (o : Sending) : Bytes → Prop
  | idle (state : o.sender.input.state = .NONE) (free : o.sender.in_len = -1) (output : o.sender.output = none) :
      Stage o []
  | asked (place : Nat) (packet : Bytes) (given : Given o place packet)
      (state : o.sender.input.state = .OPERATION_PENDING) (free : o.sender.in_len = -1)
      (output : o.sender.output = none) : Stage o packet
  | busy (place : Nat) (front back : Bytes) (given : Given o place (front ++ back))
      (state : o.sender.input.state = .BUSY) (in_len : o.sender.in_len = (front ++ back).length)
      (in_data : o.sender.in_data = place) (in_used : o.sender.in_used = front.length) (some' : back ≠ [])
      (output : o.sender.output = some (((place + front.length : Nat) : Int),(back.length : Int))) : Stage o back
  | finished (state : o.sender.input.state = .DONE_PENDING) (free : o.sender.in_len = -1)
      (output : o.sender.output = none) : Stage o []

/-- The event is handled, and no byte is lost. -/
def Handled (o : Sending) (event : Event) (left : Bytes) : Prop :=
  ∃ o' bytes left', handler o event = .ok (o',bytes) ∧ Stage o' left' ∧ left ++ event.packet = bytes ++ left'

/-- The sender goes on with the packet, or is done with it. -/
theorem run_send_data (front back : Bytes) (given : Given ⟨m,s⟩ place (front ++ back)) (state : s.input.state = .BUSY)
    (in_len : s.in_len = (front ++ back).length) (in_data : s.in_data = place) (in_used : s.in_used = front.length)
    (output : s.output = none) : ∃ s', send_data s = .ok s' ∧ Stage ⟨m,s'⟩ back := by
  have whole : s.in_len = front.length + back.length := by
    rw [in_len,List.length_append]
    push_cast
    rfl
  cases back with
  | nil =>
    rw [List.length_nil] at whole
    refine ⟨{s with in_len := -1,input := {s.input with state := .DONE_PENDING}},?_,.finished rfl rfl output⟩
    rw [send_data,assert_then (by omega),if_neg (by omega),PacketPassInterface.Done,assert_then state]
    rfl
  | cons byte back =>
    have positive : ((byte :: back).length : Int) > 0 := by
      rw [List.length_cons]
      omega
    have asked : s.in_len - s.in_used = ((byte :: back).length : Int) := by omega
    have under : s.in_data + s.in_used = ((place + front.length : Nat) : Int) := by omega
    refine ⟨{s with output := some (((place + front.length : Nat) : Int),((byte :: back).length : Int))},?_,
      .busy place front (byte :: back) ⟨given.data,given.len,given.holds⟩ state in_len in_data in_used (by simp) rfl⟩
    rw [send_data,assert_then (by omega),if_pos (by omega),asked,under,StreamPassInterface_Sender_Send,
      assert_then positive,assert_then output]
    rfl

theorem send_handled (stage : Stage o left) (allowed : o.allows (.Send place packet)) :
    Handled o (.Send place packet) left := by
  obtain ⟨m,s⟩ := o
  obtain ⟨free',short,holds⟩ := allowed
  dsimp only at free' short holds
  cases stage with
  | asked _ _ _ other | busy _ _ _ _ other | finished other => exact absurd (other.symm.trans free') (by decide)
  | idle state free output =>
    refine ⟨⟨m,{s with input := ⟨s.input.mtu,.OPERATION_PENDING,place,packet.length⟩}⟩,[],packet,?_,
      .asked place packet ⟨rfl,rfl,holds⟩ rfl free output,rfl⟩
    rw [handler,PacketPassInterface.Sender_Send,assert_then (by omega),assert_then short,assert_then free']
    rfl

theorem write_handled {data : Bytes} (stage : Stage o left) (allowed : o.allows (.write place data)) :
    Handled o (.write place data) left := by
  obtain ⟨m,s⟩ := o
  obtain ⟨inside,apart⟩ := allowed
  dsimp only at inside apart
  obtain ⟨m',stored⟩ := exists_store m place data inside
  -- the packet that the sender has stays what it was
  have stays (at' : Nat) (packet : Bytes) (given : Given ⟨m,s⟩ at' packet) (busy : s.input.state ≠ .NONE) :
      Given ⟨m',s⟩ at' packet := by
    obtain ⟨data',len,holds⟩ := given
    dsimp only at data' len holds
    have off := apart.resolve_left busy
    exact ⟨data',len,holds.store stored (by omega)⟩
  refine ⟨⟨m',s⟩,[],left,?_,?_,by simp [Event.packet]⟩
  · rw [handler]
    dsimp only
    rw [stored]
  · cases stage with
    | idle state free output => exact .idle state free output
    | asked at' _ given state free output =>
      exact .asked at' left (stays at' left given (by rw [state]; decide)) state free output
    | busy at' front _ given state in_len in_data in_used some' output =>
      exact .busy at' front left (stays at' _ given (by rw [state]; decide)) state in_len in_data in_used some' output
    | finished state free output => exact .finished state free output

theorem job_operation_handled (stage : Stage o left) (allowed : o.allows .job_operation) :
    Handled o .job_operation left := by
  obtain ⟨m,s⟩ := o
  have pending : s.input.state = .OPERATION_PENDING := allowed
  cases stage with
  | idle other | busy _ _ _ _ other | finished other => exact absurd (other.symm.trans pending) (by decide)
  | asked at' _ given state free output =>
    obtain ⟨data,len,holds⟩ := given
    dsimp only at data len holds
    have begins : ∃ s', send_data ⟨{s.input with state := .BUSY},s.input.job_operation_len,s.input.job_operation_data,0,
        s.output⟩ = .ok s' ∧ Stage ⟨m,s'⟩ left := run_send_data [] left ⟨data,len,holds⟩ rfl len data rfl output
    obtain ⟨s',ran,stage⟩ := begins
    have operates : s.input.job_operation = .ok {s.input with state := .BUSY} := by
      rw [PacketPassInterface.job_operation,assert_then pending]
      rfl
    have sends : input_handler_send {s with input := {s.input with state := .BUSY}} s.input.job_operation_data
        s.input.job_operation_len = .ok s' := by
      rw [input_handler_send,assert_then free,assert_then (by omega)]
      exact ran
    refine ⟨⟨m,s'⟩,[],left,?_,stage,by simp [Event.packet]⟩
    rw [handler,ok_then operates]
    dsimp only
    rw [ok_then sends]
    rfl

theorem job_done_handled (stage : Stage o left) (allowed : o.allows .job_done) : Handled o .job_done left := by
  have pending : o.sender.input.state = .DONE_PENDING := allowed
  cases stage with
  | idle other | asked _ _ _ other | busy _ _ _ _ other => exact absurd (other.symm.trans pending) (by decide)
  | finished state free output =>
    refine ⟨{o with sender := {o.sender with input := {o.sender.input with state := .NONE}}},[],[],?_,
      .idle rfl free output,rfl⟩
    rw [handler,PacketPassInterface.job_done,assert_then pending]
    rfl

theorem taken_handled {count : Nat} (stage : Stage o left) (allowed : o.allows (.taken count)) :
    Handled o (.taken count) left := by
  obtain ⟨m,s⟩ := o
  obtain ⟨positive,asked,member,few⟩ := allowed
  dsimp only at member
  cases stage with
  | idle _ _ output | asked _ _ _ _ _ output | finished _ _ output =>
    rw [output] at member
    cases member
  | busy at' front _ given state in_len in_data in_used some' output =>
    dsimp only at in_len in_data in_used output
    rw [output] at member
    obtain rfl := Option.some.inj member
    dsimp only at few
    obtain ⟨bytes,more,rfl,rfl⟩ : ∃ bytes more, left = bytes ++ more ∧ bytes.length = count :=
      ⟨left.take count,left.drop count,(List.take_append_drop count left).symm,List.length_take_of_le (by omega)⟩
    rw [← List.append_assoc] at given in_len
    have holds : Blocks.Holds m at' (front ++ bytes ++ more) := given.holds
    have goes : ∃ s', send_data ⟨s.input,s.in_len,s.in_data,s.in_used + bytes.length,none⟩ = .ok s' ∧ Stage ⟨m,s'⟩ more := by
      refine run_send_data (front ++ bytes) more ⟨given.data,given.len,holds⟩ state in_len in_data ?_ rfl
      rw [List.length_append]
      push_cast
      omega
    obtain ⟨s',ran,stage⟩ := goes
    have all : (front ++ bytes ++ more).length = front.length + bytes.length + more.length := by
      rw [List.length_append,List.length_append]
    have sends : output_handler_done {s with output := none} bytes.length = .ok s' := by
      rw [output_handler_done,assert_then (by dsimp only; omega),assert_then (by omega),
        assert_then (by dsimp only; omega)]
      exact ran
    refine ⟨⟨m,s'⟩,bytes,more,?_,stage,by simp [Event.packet]⟩
    rw [handler]
    dsimp only
    rw [output]
    dsimp only
    rw [Int.toNat_natCast,holds.part.load]
    dsimp only
    rw [ok_then sends]
    rfl

theorem step_stage (stage : Stage o left) (taken : step o event = some (o',reaction)) :
    ∃ bytes left', reaction = .ok bytes ∧ Stage o' left' ∧ left ++ event.packet = bytes ++ left' := by
  rw [step] at taken
  split_ifs at taken with allowed
  have handled : Handled o event left := by
    cases event with
    | Send place packet => exact send_handled stage allowed
    | write place data => exact write_handled stage allowed
    | job_operation => exact job_operation_handled stage allowed
    | job_done => exact job_done_handled stage allowed
    | taken count => exact taken_handled stage allowed
  obtain ⟨next,bytes,left',ran,stage',conserved⟩ := handled
  rw [ran] at taken
  obtain ⟨rfl,rfl⟩ := Prod.mk.inj (Option.some.inj taken)
  exact ⟨bytes,left',rfl,stage',conserved⟩

theorem init_stage {mtu : Int} (init : PacketStreamSender_Init mtu = .ok s) : Stage ⟨m,s⟩ [] := by
  rw [PacketStreamSender_Init] at init
  obtain ⟨-,init⟩ := of_assert init
  obtain rfl := Except.ok.inj init
  exact .idle rfl rfl rfl

/-! ### Every run -/

abbrev Past := List (Transition Sending Event Reaction)

/-- The bytes of the packets that the user has given. -/
def given (past : Past) : Bytes := past.flatMap (fun t => t.event.packet)
/-- The bytes that the stream has taken. -/
def streamed (past : Past) : Bytes := past.flatMap (fun t => t.reaction.toOption.getD [])

variable {past : Past}

theorem run_stage (stage : Stage o []) (run : Run step o past o') :
    (∀ t ∈ past, ∃ bytes, t.reaction = .ok bytes) ∧ ∃ left, Stage o' left ∧ given past = streamed past ++ left := by
  apply run.conserves (P := fun reaction => ∃ bytes, reaction = .ok bytes) (f := Event.packet)
    (g := fun reaction => reaction.toOption.getD []) stage
  intro s left event s' reaction stage taken
  obtain ⟨bytes,left',rfl,stage',conserved⟩ := step_stage stage taken
  exact ⟨⟨bytes,rfl⟩,left',stage',conserved⟩

/-- What the stream is asked to take is all that is left, where it lies in the memory. -/
theorem Stage.next (stage : Stage o left) {asked : Int × Int} (output : o.sender.output = some asked) :
    ∃ place : Nat, asked = ((place : Int),(left.length : Int)) ∧ left ≠ [] ∧ Blocks.Holds o.memory place left := by
  cases stage with
  | idle _ _ none' | asked _ _ _ _ _ none' | finished _ _ none' => cases none'.symm.trans output
  | busy place front _ given state in_len in_data in_used some' output' =>
    exact ⟨place + front.length,(Option.some.inj (output'.symm.trans output)).symm,some',(holds_append.mp given.holds).2⟩

/-- The sender is done with a packet when the stream has taken all of it, and asks until then. -/
theorem Stage.told (stage : Stage o left) : (o.sender.input.state = .DONE_PENDING ∨ o.sender.input.state = .NONE → left = []) ∧
    (o.sender.input.state = .BUSY → o.sender.output ≠ none) := by
  cases stage with
  | idle state | finished state => simp [state]
  | asked _ _ _ state => simp [state]
  | busy _ _ _ _ state _ _ _ _ output => simp [state,output]

/-- No assertion fails and no memory is touched that has no value, in any order of what the user
    does, the jobs and the stream, which takes the packets in their order and byte for byte. What it
    is asked to take is what is left of the packet, and the sender is done with a packet when nothing
    is left of it. -/
theorem stream_in_order {mtu : Int} (init : PacketStreamSender_Init mtu = .ok s) (run : Run step ⟨m,s⟩ past o') :
    (∀ t ∈ past, ∃ bytes, t.reaction = .ok bytes) ∧ ∃ left, given past = streamed past ++ left ∧
      (o'.sender.input.state = .DONE_PENDING ∨ o'.sender.input.state = .NONE → left = []) ∧
      (o'.sender.input.state = .BUSY → o'.sender.output ≠ none) ∧
      ∀ asked, o'.sender.output = some asked → ∃ place : Nat, asked = ((place : Int),(left.length : Int)) ∧ left ≠ [] ∧
        Blocks.Holds o'.memory place left := by
  obtain ⟨calm,left,stage,conserved⟩ := run_stage (init_stage init) run
  obtain ⟨done,asks⟩ := stage.told
  exact ⟨calm,left,conserved,done,asks,fun asked output => stage.next output⟩

/-- The stream takes the first packet in two pieces, and the second is written between them. -/
def pieces : List Event :=
  [.write 0 [2,0,8,9],.Send 0 [2,0,8,9],.job_operation,.taken 3,.write 4 [1,0,7],.taken 1,.job_done,.Send 4 [1,0,7],
    .job_operation,.taken 2]

theorem stream_in_order_pieces : ∃ s past o', PacketStreamSender_Init 5 = .ok s ∧
    execute step ⟨allocate 8,s⟩ pieces = some (past,o') ∧ (∀ t ∈ past, ∃ bytes, t.reaction = .ok bytes) ∧
    ∃ left, given past = streamed past ++ left ∧
      (o'.sender.input.state = .DONE_PENDING ∨ o'.sender.input.state = .NONE → left = []) ∧
      (o'.sender.input.state = .BUSY → o'.sender.output ≠ none) ∧
      ∀ asked, o'.sender.output = some asked → ∃ place : Nat, asked = ((place : Int),(left.length : Int)) ∧ left ≠ [] ∧
        Blocks.Holds o'.memory place left := by
  obtain ⟨s,past,o',init,executed⟩ : ∃ s past o', PacketStreamSender_Init 5 = .ok s ∧
      execute step ⟨allocate 8,s⟩ pieces = some (past,o') := ⟨_,_,_,rfl,rfl⟩
  exact ⟨s,past,o',init,executed,stream_in_order init (run_of_execute executed)⟩

/-- A decoder at the other end of the stream passes on what the packets hold that were given in their
    frames: in their order, byte for byte, and all of them when the sender is done and the decoder too. -/
theorem stream_arrives {mtu : Int} {limit : Nat} {enc enc' : PacketDecoder.PacketProtoDecoder}
    {feeding : List (Transition _ PacketDecoder.Event PacketDecoder.Reaction)}
    (init : PacketStreamSender_Init mtu = .ok s) (run : Run step ⟨m,s⟩ past o')
    (framed : given past = PacketDecoder.frames packets) (fits : ∀ p ∈ packets, p.length ≤ min limit 65535)
    (init' : PacketDecoder.PacketProtoDecoder_Init limit = .ok enc) (run' : Run PacketDecoder.step enc feeding enc')
    (fed : PacketDecoder.received feeding <+: streamed past) :
    (∀ t ∈ feeding, ∃ outcome, t.reaction = .ok outcome ∧ outcome.error = false) ∧
      PacketDecoder.passed feeding <+: packets ∧
      (o'.sender.input.state = .NONE → PacketDecoder.received feeding = streamed past → enc'.sending = none →
        PacketDecoder.passed feeding = packets) := by
  obtain ⟨-,left,stage,conserved⟩ := run_stage (init_stage init) run
  have whole : PacketDecoder.frames packets = streamed past ++ left := framed.symm.trans conserved
  have begins : PacketDecoder.received feeding <+: PacketDecoder.frames packets := by
    rw [whole]
    exact fed.trans (List.prefix_append _ _)
  obtain ⟨calm,good⟩ := PacketDecoder.run_frames (PacketDecoder.init_good init') run' fits begins
  obtain ⟨rest,split,all⟩ := good.rest fits begins
  refine ⟨calm,⟨rest,split.symm⟩,?_⟩
  intro idle fed' idle'
  rw [stage.told.1 (.inr idle),List.append_nil] at whole
  rw [all (fed'.trans whole.symm) idle',List.append_nil] at split
  exact split.symm

theorem stream_arrives_pieces : ∃ s past o' enc enc' feeding, PacketStreamSender_Init 5 = .ok s ∧
    execute step ⟨allocate 8,s⟩ pieces = some (past,o') ∧ PacketDecoder.PacketProtoDecoder_Init (3 : Nat) = .ok enc ∧
    execute PacketDecoder.step enc [.received [2,0,8],.received [9],.passed,.received [1]] = some (feeding,enc') ∧
    (∀ t ∈ feeding, ∃ outcome, t.reaction = .ok outcome ∧ outcome.error = false) ∧
      PacketDecoder.passed feeding <+: [[8,9],[7]] ∧
      (o'.sender.input.state = .NONE → PacketDecoder.received feeding = streamed past → enc'.sending = none →
        PacketDecoder.passed feeding = [[8,9],[7]]) := by
  obtain ⟨s,past,o',init,executed,same,bytes⟩ : ∃ s past o', PacketStreamSender_Init 5 = .ok s ∧
      execute step ⟨allocate 8,s⟩ pieces = some (past,o') ∧ given past = PacketDecoder.frames [[8,9],[7]] ∧
      streamed past = [2,0,8,9,1,0] := ⟨_,_,_,rfl,rfl,rfl,rfl⟩
  obtain ⟨enc,enc',feeding,init',executed',fed⟩ : ∃ enc enc' feeding,
      PacketDecoder.PacketProtoDecoder_Init (3 : Nat) = .ok enc ∧
      execute PacketDecoder.step enc [.received [2,0,8],.received [9],.passed,.received [1]] = some (feeding,enc') ∧
      PacketDecoder.received feeding = [2,0,8,9,1] := ⟨_,_,_,rfl,rfl,rfl⟩
  exact ⟨s,past,o',enc,enc',feeding,init,executed,init',executed',stream_arrives init (run_of_execute executed) same
    (by decide) init' (run_of_execute executed') (by rw [bytes,fed]; exact ⟨[0],rfl⟩)⟩

end

end WSocks.PacketStream
