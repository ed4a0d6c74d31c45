import WSocks.Effects
import WSocks.Runs

/-!
# The TCP clients of tun2socks

For every TCP connection of the device tun2socks keeps a `tcp_client`, between the
connection in lwIP and a connection to the SOCKS server. Each side calls back when it
has data, has sent data or is gone, and either side may go first. What lwIP and the
SOCKS client allow is part of the state, and an action that they do not allow is a fault.
-/

namespace WSocks.TcpClients
open WSocks.Effects WSocks.Effects.Action

abbrev Bytes := List UInt8

def TCP_MSS : Nat := 1460
def TCP_WND : Nat := 4 * TCP_MSS
def CLIENT_SOCKS_RECV_BUF_SIZE : Nat := 8192

inductive err_t
  | ERR_OK | ERR_MEM | ERR_BUF | ERR_TIMEOUT | ERR_RTE | ERR_INPROGRESS | ERR_VAL | ERR_WOULDBLOCK | ERR_USE | ERR_ISCONN
  | ERR_ABRT | ERR_RST | ERR_CLSD | ERR_CONN | ERR_ARG | ERR_IF
  deriving DecidableEq

/-- A client; `buf` holds `buf_used` bytes, and `socks_recv_buf` is empty where
    `socks_recv_buf_used` is -1. -/
structure tcp_client where
  client_closed : Bool
  buf : Bytes
  socks_up : Bool
  socks_closed : Bool
  socks_recv_buf : Option Bytes
  socks_recv_buf_sent : Nat
  socks_recv_waiting : Bool
  socks_recv_tcp_pending : Nat
  deriving DecidableEq

/-- How lwIP was done with a connection. -/
inductive Ending
  | closed | aborted | failed
  deriving DecidableEq

/-- A connection in lwIP: which callbacks are registered, what it delivered and how much of it
    has been confirmed, what was written to it and how much of it has been acknowledged. -/
structure Pcb where
  ended : Option Ending
  err : Bool
  recv : Bool
  sent : Bool
  finished : Bool
  received : Bytes
  recved : Nat
  written : Bytes
  acked : Nat
  deriving DecidableEq

/-- A SOCKS client: what it is sending, how much it may receive, which bytes it took and gave. -/
structure Socks where
  freed : Bool
  up : Bool
  failed : Bool
  sending : Option Bytes
  receiving : Option Nat
  taken : Bytes
  given : Bytes
  deriving DecidableEq

/-- A connection with its client, whose memory may have been freed; a callback in progress has
    registered whether the client dies meanwhile. -/
structure Slot where
  client : Option tcp_client
  dead_client : Option Bool
  pcb : Pcb
  socks : Socks
  deriving DecidableEq

structure World extends Slot where
  num_clients : Nat
  deriving DecidableEq

/-- A failed assertion, an access to freed memory, a call that lwIP or the SOCKS client does
    not allow, or a call that never ends. -/
inductive Fault
  | assertion | freed | misuse | endless
  deriving DecidableEq

abbrev Act := Action Fault World Empty

/-- What the functions of lwIP answer during one callback. -/
structure Answers where
  close : err_t
  writes : List (Nat × err_t)
  output : err_t

def ASSERT (c : Prop) [Decidable c] : Act Unit := if c then pure () else Action.throw .assertion

/-- The client, unless its memory was freed. -/
def deref : Act tcp_client := do
  let w ← Action.get
  match w.client with
  | none => Action.throw .freed
  | some client => pure client

def assign (change : tcp_client → tcp_client) : Act Unit := do
  let _ ← deref
  Action.modify (fun w => {w with client := w.client.map change})

/-! ### Calls -/

/-- A call on the connection of the client, which must not have been given up. -/
def onPcb (change : Pcb → Pcb) : Act Unit := do
  let _ ← deref
  let w ← Action.get
  if w.pcb.ended.isSome then Action.throw .misuse
  else Action.modify (fun w => {w with pcb := change w.pcb})

def tcp_err (registered : Bool) : Act Unit := onPcb (fun pcb => {pcb with err := registered})
def tcp_recv (registered : Bool) : Act Unit := onPcb (fun pcb => {pcb with recv := registered})
def tcp_sent (registered : Bool) : Act Unit := onPcb (fun pcb => {pcb with sent := registered})
def tcp_abort : Act Unit := onPcb (fun pcb => {pcb with ended := some .aborted})
def tcp_recved (len : Nat) : Act Unit := onPcb (fun pcb => {pcb with recved := pcb.recved + len})

/-- The connection is given up only if the call succeeds. -/
def tcp_close (answer : err_t) : Act err_t := do
  onPcb (fun pcb => if answer = .ERR_OK then {pcb with ended := some .closed} else pcb)
  return answer

def tcp_write (data : Bytes) (answer : err_t) : Act err_t := do
  onPcb (fun pcb => if answer = .ERR_OK then {pcb with written := pcb.written ++ data} else pcb)
  return answer

def tcp_output (answer : err_t) : Act err_t := do
  onPcb id
  return answer

/-- A call on the SOCKS client of the client, which must be there, and allow the call. -/
def onSocks (allows : Socks → Bool) (change : Socks → Socks) : Act Unit := do
  let _ ← deref
  let w ← Action.get
  if w.socks.freed ∨ ¬ allows w.socks then Action.throw .misuse
  else Action.modify (fun w => {w with socks := change w.socks})

def BSocksClient_Free : Act Unit :=
  onSocks (fun _ => true) (fun socks => {socks with freed := true,sending := none,receiving := none})

def StreamPassInterface_Sender_Send (data : Bytes) : Act Unit :=
  onSocks (fun socks => socks.up && socks.sending.isNone && !data.isEmpty) (fun socks => {socks with sending := some data})

def StreamRecvInterface_Receiver_Recv (len : Nat) : Act Unit :=
  onSocks (fun socks => socks.up && socks.receiving.isNone && decide (0 < len))
    (fun socks => {socks with receiving := some len})

/-- `DEAD_KILL` of `dead_client`. -/
def killClient : Act Unit := Action.modify (fun w => {w with dead_client := w.dead_client.map (fun _ => true)})

/-! ### Giving up -/

def client_dealloc : Act Unit := do
  let client ← deref
  ASSERT (client.client_closed)
  ASSERT (client.socks_closed)
  let w ← Action.get
  ASSERT (0 < w.num_clients)
  Action.modify (fun w => {w with client := none,num_clients := w.num_clients - 1})

-- the three functions call each other, but every call closes one side first
mutual

def client_handle_freed_client (close : err_t) : Nat → Act Unit
  | 0 => Action.throw .endless
  | depth + 1 => do
    let client ← deref
    ASSERT (¬ client.client_closed)
    killClient
    assign (fun client => {client with client_closed := true})
    if client.buf ≠ [] ∧ ¬ client.socks_closed then return
    else if ¬ client.socks_closed then client_free_socks close depth
    else client_dealloc

def client_free_client (close : err_t) : Nat → Act Unit
  | 0 => Action.throw .endless
  | depth + 1 => do
    let client ← deref
    ASSERT (¬ client.client_closed)
    tcp_err false
    tcp_recv false
    tcp_sent false
    let err ← tcp_close close
    if err ≠ .ERR_OK then tcp_abort
    client_handle_freed_client close depth

def client_free_socks (close : err_t) : Nat → Act Unit
  | 0 => Action.throw .endless
  | depth + 1 => do
    let client ← deref
    ASSERT (¬ client.socks_closed)
    if client.socks_up then
      if ¬ client.client_closed then tcp_recv false
    BSocksClient_Free
    assign (fun client => {client with socks_closed := true})
    if client.socks_up ∧ (client.socks_recv_buf.isSome ∨ 0 < client.socks_recv_tcp_pending) ∧
        ¬ client.client_closed then return
    else if ¬ client.client_closed then client_free_client close depth
    else client_dealloc

end

/-- Deeper than the three functions call each other. -/
def deep : Nat := 4

def client_abort_client (lwip : Answers) : Act Unit := do
  let client ← deref
  ASSERT (¬ client.client_closed)
  tcp_err false
  tcp_recv false
  tcp_sent false
  tcp_abort
  client_handle_freed_client lwip.close deep

def client_murder : Act Unit := do
  let client ← deref
  if ¬ client.client_closed then
    tcp_err false
    tcp_recv false
    tcp_sent false
    tcp_abort
    killClient
    assign (fun client => {client with client_closed := true})
  if ¬ client.socks_closed then
    BSocksClient_Free
    assign (fun client => {client with socks_closed := true})
  client_dealloc

/-! ### Callbacks of lwIP -/

/-- Registers `dead_client`; jobs may run until the callback returns. -/
def deadEnter : Act Unit := do
  let _ ← deref
  Action.modify (fun w => {w with dead_client := some false})

/-- What a callback returns; `none` when it waits for the jobs that it has caused. -/
abbrev Returned := Option err_t

/-- After the jobs: whether the client was killed by one of them. -/
def deadLeave : Act Returned := do
  let w ← Action.get
  Action.modify (fun w => {w with dead_client := none})
  if w.dead_client = some true then return some .ERR_ABRT else return some .ERR_OK

/-- A connection is accepted, unless there is no memory or `BSocksClient_Init` fails. -/
def listener_accept_func (malloc init : Bool) : Act Returned := do
  if ¬ malloc then return some .ERR_MEM
  else if ¬ init then return some .ERR_MEM
  else do
    Action.modify (fun w => {w with
      client := some ⟨false,[],false,false,none,0,false,0⟩
      socks := ⟨false,false,false,none,none,[],[]⟩
      num_clients := w.num_clients + 1})
    tcp_err true
    tcp_recv true
    deadEnter
    return none

def client_err_func (lwip : Answers) : Act Unit := do
  let client ← deref
  ASSERT (¬ client.client_closed)
  client_handle_freed_client lwip.close deep

def client_send_to_socks : Act Unit := do
  let client ← deref
  ASSERT (¬ client.socks_closed)
  ASSERT (client.socks_up)
  ASSERT (client.buf ≠ [])
  StreamPassInterface_Sender_Send client.buf

/-- `none` for the end of the stream. -/
def client_recv_func (lwip : Answers) : Option Bytes → Act Returned
  | none => do
    let client ← deref
    ASSERT (¬ client.client_closed)
    client_free_client lwip.close deep
    return some .ERR_ABRT
  | some p => do
    let client ← deref
    ASSERT (¬ client.client_closed)
    ASSERT (0 < p.length)
    if TCP_WND - client.buf.length < p.length then return some .ERR_MEM
    else do
      assign (fun client => {client with buf := client.buf ++ p})
      let client ← deref
      if client.buf.length = p.length ∧ client.socks_up then do
        ASSERT (¬ client.socks_closed)
        client_send_to_socks
        deadEnter
        return none
      else return some .ERR_OK

def client_socks_recv_initiate : Act Unit := do
  let client ← deref
  ASSERT (¬ client.client_closed)
  ASSERT (¬ client.socks_closed)
  ASSERT (client.socks_up)
  ASSERT (client.socks_recv_buf = none)
  StreamRecvInterface_Receiver_Recv CLIENT_SOCKS_RECV_BUF_SIZE

/-- lwIP gave fewer answers than it was asked for: not something that can happen. -/
def unanswered : Act Bool := ⟨fun _ => none⟩

/-- The loop of `client_socks_recv_send_out`; false when writing has failed. -/
def queueOut (data : Bytes) : List (Nat × err_t) → Act Bool
  | [] => unanswered
  | (sndbuf,answer) :: rest => do
    let client ← deref
    let to_write := min (data.length - client.socks_recv_buf_sent) sndbuf
    if to_write = 0 then return true
    else do
      let err ← tcp_write ((data.drop client.socks_recv_buf_sent).take to_write) answer
      if err ≠ .ERR_OK then return (err = .ERR_MEM)
      else do
        assign (fun client => {client with
          socks_recv_buf_sent := client.socks_recv_buf_sent + to_write
          socks_recv_tcp_pending := client.socks_recv_tcp_pending + to_write})
        let client ← deref
        if client.socks_recv_buf_sent < data.length then queueOut data rest else return true

/-- False when the connection was aborted. -/
def client_socks_recv_send_out (lwip : Answers) : Act Bool := do
  let client ← deref
  let data := client.socks_recv_buf.getD []
  ASSERT (¬ client.client_closed)
  ASSERT (client.socks_up)
  ASSERT (0 < data.length)
  ASSERT (client.socks_recv_buf_sent < data.length)
  ASSERT (¬ client.socks_recv_waiting)
  let queued ← queueOut data lwip.writes
  if ¬ queued then do
    client_abort_client lwip
    return false
  else do
    let err ← tcp_output lwip.output
    if err ≠ .ERR_OK then do
      client_abort_client lwip
      return false
    else do
      let client ← deref
      if client.socks_recv_buf_sent < data.length then
        if client.socks_recv_tcp_pending = 0 then do
          client_abort_client lwip
          return false
        else do
          assign (fun client => {client with socks_recv_waiting := true})
          return true
      else do
        assign (fun client => {client with socks_recv_buf := none})
        return true

def client_sent_func (lwip : Answers) (len : Nat) : Act Returned := do
  let client ← deref
  ASSERT (¬ client.client_closed)
  ASSERT (client.socks_up)
  ASSERT (0 < len)
  ASSERT (len ≤ client.socks_recv_tcp_pending)
  assign (fun client => {client with socks_recv_tcp_pending := client.socks_recv_tcp_pending - len})
  if 0 < (client.socks_recv_buf.getD []).length then do
    ASSERT (client.socks_recv_waiting)
    ASSERT (client.socks_recv_buf_sent < (client.socks_recv_buf.getD []).length)
    assign (fun client => {client with socks_recv_waiting := false})
    let up ← client_socks_recv_send_out lwip
    if ¬ up then return some .ERR_ABRT
    else do
      let client ← deref
      ASSERT (0 < client.socks_recv_tcp_pending)
      if client.socks_recv_buf = none ∧ ¬ client.socks_closed then do
        client_socks_recv_initiate
        deadEnter
        return none
      else return some .ERR_OK
  else do
    let client ← deref
    if client.socks_closed ∧ client.socks_recv_tcp_pending = 0 then do
      client_free_client lwip.close deep
      return some .ERR_ABRT
    else return some .ERR_OK

/-! ### Callbacks of the SOCKS client -/

def client_socks_up : Act Unit := do
  let client ← deref
  ASSERT (¬ client.socks_closed)
  ASSERT (¬ client.socks_up)
  assign (fun client => {client with socks_recv_buf := none,socks_recv_tcp_pending := 0})
  if ¬ client.client_closed then tcp_sent true
  assign (fun client => {client with socks_up := true})
  if client.buf ≠ [] then client_send_to_socks
  if ¬ client.client_closed then client_socks_recv_initiate

def client_socks_error (lwip : Answers) : Act Unit := do
  let client ← deref
  ASSERT (¬ client.socks_closed)
  client_free_socks lwip.close deep

def client_socks_closed (lwip : Answers) : Act Unit := do
  let client ← deref
  ASSERT (¬ client.socks_closed)
  ASSERT (client.socks_up)
  client_free_socks lwip.close deep

def client_socks_send_handler_done (lwip : Answers) (data_len : Nat) : Act Unit := do
  let client ← deref
  ASSERT (¬ client.socks_closed)
  ASSERT (client.socks_up)
  ASSERT (client.buf ≠ [])
  ASSERT (0 < data_len)
  ASSERT (data_len ≤ client.buf.length)
  assign (fun client => {client with buf := client.buf.drop data_len})
  if ¬ client.client_closed then tcp_recved data_len
  let client ← deref
  if client.buf ≠ [] then StreamPassInterface_Sender_Send client.buf
  else if client.client_closed then client_free_socks lwip.close deep

def client_socks_recv_handler_done (lwip : Answers) (data : Bytes) : Act Unit := do
  let client ← deref
  ASSERT (0 < data.length)
  ASSERT (data.length ≤ CLIENT_SOCKS_RECV_BUF_SIZE)
  ASSERT (¬ client.socks_closed)
  ASSERT (client.socks_up)
  ASSERT (client.socks_recv_buf = none)
  if client.client_closed then return
  else do
    assign (fun client => {client with socks_recv_buf := some data,socks_recv_buf_sent := 0,socks_recv_waiting := false})
    let up ← client_socks_recv_send_out lwip
    if ¬ up then return
    else do
      let client ← deref
      if client.socks_recv_buf = none then client_socks_recv_initiate

/-! ### What happens to a connection -/

inductive Event
  | recv (p : Bytes)
  | fin
  | err
  | sent (len : Nat)
  | socks_up
  | socks_error
  | socks_closed
  | send_done (data_len : Nat)
  | recv_done (data : Bytes)
  | returns
  | murder

/-- When lwIP and the SOCKS client call back. lwIP delivers no more than the window that has
    been opened, and makes no call on a connection while a callback is in progress. -/
def Slot.allows (s : Slot) : Event → Prop
  | .recv p => s.dead_client = none ∧ s.pcb.ended = none ∧ s.pcb.recv ∧ ¬ s.pcb.finished ∧ 0 < p.length ∧
      s.pcb.received.length + p.length ≤ TCP_WND + s.pcb.recved
  | .fin => s.dead_client = none ∧ s.pcb.ended = none ∧ s.pcb.recv ∧ ¬ s.pcb.finished
  | .err => s.dead_client = none ∧ s.pcb.ended = none ∧ s.pcb.err
  | .sent len => s.dead_client = none ∧ s.pcb.ended = none ∧ s.pcb.sent ∧ 0 < len ∧
      s.pcb.acked + len ≤ s.pcb.written.length
  | .socks_up => ¬ s.socks.freed ∧ ¬ s.socks.failed ∧ ¬ s.socks.up
  | .socks_error => ¬ s.socks.freed ∧ ¬ s.socks.failed
  | .socks_closed => ¬ s.socks.freed ∧ ¬ s.socks.failed ∧ s.socks.up
  | .send_done data_len => ¬ s.socks.freed ∧ ¬ s.socks.failed ∧ 0 < data_len ∧
      s.socks.sending.any (fun data => data_len ≤ data.length)
  | .recv_done data => ¬ s.socks.freed ∧ ¬ s.socks.failed ∧ 0 < data.length ∧
      s.socks.receiving.any (fun len => data.length ≤ len)
  | .returns => s.dead_client.isSome
  | .murder => s.dead_client = none ∧ s.client.isSome

instance (s : Slot) : (event : Event) → Decidable (s.allows event)
  | .recv _ | .fin | .err | .sent _ | .socks_up | .socks_error | .socks_closed | .send_done _ | .recv_done _
  | .murder => inferInstanceAs (Decidable (_ ∧ _))
  | .returns => inferInstanceAs (Decidable (_ = true))

/-- What lwIP or the SOCKS client do to themselves before they call back. -/
def Slot.notes (s : Slot) : Event → Slot
  | .recv p => {s with pcb := {s.pcb with received := s.pcb.received ++ p}}
  | .fin => {s with pcb := {s.pcb with finished := true}}
  | .err => {s with pcb := {s.pcb with ended := some .failed}}
  | .sent len => {s with pcb := {s.pcb with acked := s.pcb.acked + len}}
  | .socks_up => {s with socks := {s.socks with up := true}}
  | .socks_error => {s with socks := {s.socks with failed := true}}
  | .socks_closed => {s with socks := {s.socks with failed := true}}
  | .send_done data_len => {s with
      socks := {s.socks with sending := none,taken := s.socks.taken ++ (s.socks.sending.getD []).take data_len}}
  | .recv_done data => {s with socks := {s.socks with receiving := none,given := s.socks.given ++ data}}
  | .returns => s
  | .murder => s

def handler (lwip : Answers) : Event → Act Returned
  | .recv p => client_recv_func lwip (some p)
  | .fin => client_recv_func lwip none
  | .err => do client_err_func lwip; return none
  | .sent len => client_sent_func lwip len
  | .socks_up => do client_socks_up; return none
  | .socks_error => do client_socks_error lwip; return none
  | .socks_closed => do client_socks_closed lwip; return none
  | .send_done data_len => do client_socks_send_handler_done lwip data_len; return none
  | .recv_done data => do client_socks_recv_handler_done lwip data; return none
  | .returns => deadLeave
  | .murder => do client_murder; return none

/-- A connection that lwIP has just established. -/
def Slot.fresh : Slot :=
  ⟨none,none,⟨none,false,false,false,false,[],0,[],0⟩,⟨true,false,false,none,none,[],[]⟩⟩

/-- All connections there have been, and the counter of the clients. -/
structure System where
  slots : List Slot
  num_clients : Nat

inductive Input
  | accept (malloc init : Bool)
  | event (i : Nat) (event : Event) (lwip : Answers)

/-- A connection whose `accept` failed is given up by lwIP. -/
def Slot.accepted (s : Slot) : Except Fault Returned → Slot
  | .ok (some _) => {s with pcb := {s.pcb with ended := some .aborted}}
  | _ => s

/-- One callback; the reaction is what it returned, or its fault. -/
def step (s : System) : Input → Option (System × Except Fault Returned)
  | .accept malloc init => do
    let (result,w,_) ← (listener_accept_func malloc init).run ⟨Slot.fresh,s.num_clients⟩
    some (⟨s.slots ++ [w.toSlot.accepted result],w.num_clients⟩,result)
  | .event i event lwip => do
    let slot ← s.slots[i]?
    if slot.allows event then do
      let (result,w,_) ← (handler lwip event).run ⟨slot.notes event,s.num_clients⟩
      some (⟨s.slots.set i w.toSlot,w.num_clients⟩,result)
    else none

end WSocks.TcpClients
