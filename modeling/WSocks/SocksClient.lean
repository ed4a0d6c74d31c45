import WSocks.Blocks
import WSocks.Effects
import WSocks.Runs
import WSocks.Socks

/-!
# The SOCKS client of tun2socks

A `BSocksClient` connects to the SOCKS server, negotiates a method and asks for the
destination. Every message is laid out in one buffer that is also received into, and the
connection takes and gives as few bytes at a time as it likes. After that the user talks to
the connection itself.
-/

namespace WSocks.SocksClient
open WSocks.Effects WSocks.Effects.Action WSocks.Endian WSocks.Blocks
open WSocks.Socks (BAddr)

abbrev Bytes := List UInt8

def SOCKS_VERSION : UInt8 := 0x05
def SOCKS_METHOD_NO_AUTHENTICATION_REQUIRED : UInt8 := 0x00
def SOCKS_METHOD_USERNAME_PASSWORD : UInt8 := 0x02
def SOCKS_CMD_CONNECT : UInt8 := 0x01
def SOCKS_ATYP_IPV4 : UInt8 := 0x01
def SOCKS_ATYP_IPV6 : UInt8 := 0x04
def SOCKS_REP_SUCCEEDED : UInt8 := 0x00

-- the sizes of the packed structures of socks_proto.h
def socks_client_hello_header : Nat := 2
def socks_client_hello_method : Nat := 1
def socks_server_hello : Nat := 2
def socks_request_header : Nat := 4
def socks_reply_header : Nat := 4
def socks_addr_ipv4 : Nat := 6
def socks_addr_ipv6 : Nat := 18

inductive BSocksClient_auth_info
  | none
  | password (username password : Bytes)
  deriving DecidableEq

def BSocksClient_auth_info.auth_type : BSocksClient_auth_info → UInt8
  | .none => SOCKS_METHOD_NO_AUTHENTICATION_REQUIRED
  | .password _ _ => SOCKS_METHOD_USERNAME_PASSWORD

inductive State
  | CONNECTING | SENDING_HELLO | SENT_HELLO | SENDING_PASSWORD | SENT_PASSWORD | SENDING_REQUEST | SENT_REQUEST
  | RECEIVED_REPLY_HEADER | UP
  deriving DecidableEq

inductive BSOCKSCLIENT_EVENT
  | ERROR | UP | ERROR_CLOSED
  deriving DecidableEq

structure BSocksClient where
  auth_info : List BSocksClient_auth_info
  dest_addr : BAddr
  state : State
  buffer : Option (Block UInt8)
  recv_dest : Nat
  recv_len : Nat
  recv_total : Nat

/-- A connection, and which interfaces of it are initialized. -/
inductive BConnection
  | absent | idle | control | up
  deriving DecidableEq

/-- Memory that the connection is told to send from or to receive into: a part of the buffer,
    or memory of the user. -/
inductive Sending
  | buffer (offset len : Nat)
  | user (data : Bytes)
  deriving DecidableEq

inductive Receiving
  | buffer (offset len : Nat)
  | user (len : Nat)
  deriving DecidableEq

/-- A client with its connection; `sender` holds `in_len` and `in_used` of the `PacketStreamSender`. -/
structure World where
  client : BSocksClient
  con : BConnection
  sender : Option (Nat × Nat)
  sending : Option Sending
  receiving : Option Receiving
  sent : Bytes
  consumed : Bytes
  failed : Bool
  freed : Bool

/-- A failed assertion, an access outside of the buffer or to memory without a value, a buffer
    released under the connection, or a call that the connection does not allow. -/
inductive Fault
  | assertion | memory | released | misuse
  deriving DecidableEq

/-- What the user is told. -/
inductive Output
  | event (e : BSOCKSCLIENT_EVENT)
  | sent (data_len : Nat)
  | received (data : Bytes)
  deriving DecidableEq

abbrev Act := Action Fault World Output

def ASSERT (c : Prop) [Decidable c] : Act Unit := if c then pure () else Action.throw .assertion

def setState (state : State) : Act Unit := Action.modify (fun w => {w with client := {w.client with state := state}})

/-! ### The buffer -/

/-- The connection still reads or writes memory of the buffer. -/
def World.inUse (w : World) : Bool :=
  (match w.sending with | some (.buffer _ _) => true | _ => false) ||
    (match w.receiving with | some (.buffer _ _) => true | _ => false)

/-- `BRealloc` fails or moves the buffer. -/
def reserve_buffer (realloc : Bool) (size : Nat) : Act Bool := do
  if ¬ realloc then return false
  else do
    let w ← Action.get
    if w.inUse then Action.throw .released
    else do
      Action.modify (fun w => {w with client := {w.client with buffer := some (resize (w.client.buffer.getD []) size)}})
      return true

def BFree : Act Unit := do
  let w ← Action.get
  if w.inUse then Action.throw .released
  else Action.modify (fun w => {w with client := {w.client with buffer := none}})

def poke (offset : Nat) (bytes : Bytes) : Act Unit := do
  let w ← Action.get
  match w.client.buffer.bind (fun m => store m offset bytes) with
  | none => Action.throw .memory
  | some m => Action.modify (fun w => {w with client := {w.client with buffer := some m}})

def peek (offset len : Nat) : Act Bytes := do
  let w ← Action.get
  match w.client.buffer.bind (fun m => load m offset len) with
  | none => Action.throw .memory
  | some bytes => return bytes

/-! ### The connection -/

/-- Changes the connection from one state to another. -/
def connection (before after : BConnection) : Act Unit := do
  let w ← Action.get
  if w.con = before then Action.modify (fun w => {w with con := after}) else Action.throw .misuse

/-- The interfaces are given up with what they were told to send and to receive. -/
def freeIo (io : BConnection) : Act Unit := do
  connection io .idle
  Action.modify (fun w => {w with sender := none,sending := none,receiving := none})

def init_control_io : Act Unit := connection .idle .control
def free_control_io : Act Unit := freeIo .control
def init_up_io : Act Unit := connection .idle .up
def free_up_io : Act Unit := freeIo .up
def BConnection_Init : Act Unit := connection .absent .idle
def BConnection_Free : Act Unit := connection .idle .absent

def StreamPassInterface_Sender_Send (io : BConnection) (what : Sending) (len : Nat) : Act Unit := do
  let w ← Action.get
  if w.con = io ∧ w.sending = none ∧ 0 < len then Action.modify (fun w => {w with sending := some what})
  else Action.throw .misuse

def StreamRecvInterface_Receiver_Recv (io : BConnection) (what : Receiving) (len : Nat) : Act Unit := do
  let w ← Action.get
  if w.con = io ∧ w.receiving = none ∧ 0 < len then Action.modify (fun w => {w with receiving := some what})
  else Action.throw .misuse

/-- The user has to free the client before anything else happens. -/
def report_error (e : BSOCKSCLIENT_EVENT) : Act Unit := do
  let w ← Action.get
  ASSERT (¬ w.failed)
  Action.modify (fun w => {w with failed := true})
  Action.emit (.event e)

def do_receive : Act Unit := do
  let w ← Action.get
  ASSERT (w.client.recv_len < w.client.recv_total)
  StreamRecvInterface_Receiver_Recv .control
    (.buffer (w.client.recv_dest + w.client.recv_len) (w.client.recv_total - w.client.recv_len))
    (w.client.recv_total - w.client.recv_len)

def start_receive (dest total : Nat) : Act Unit := do
  ASSERT (0 < total)
  Action.modify (fun w => {w with client := {w.client with recv_dest := dest,recv_len := 0,recv_total := total}})
  do_receive

/-! ### Sending a packet from the buffer -/

def send_handler_done (realloc : Bool) : Act Unit := do
  let w ← Action.get
  ASSERT (w.client.buffer.isSome)
  match w.client.state with
  | .SENDING_HELLO => do
    let reserved ← reserve_buffer realloc socks_server_hello
    if ¬ reserved then report_error .ERROR
    else do
      start_receive 0 socks_server_hello
      setState .SENT_HELLO
  | .SENDING_REQUEST => do
    let reserved ← reserve_buffer realloc (socks_reply_header + max socks_addr_ipv4 socks_addr_ipv6)
    if ¬ reserved then report_error .ERROR
    else do
      start_receive 0 socks_reply_header
      setState .SENT_REQUEST
  | .SENDING_PASSWORD => do
    let reserved ← reserve_buffer realloc 2
    if ¬ reserved then report_error .ERROR
    else do
      start_receive 0 2
      setState .SENT_PASSWORD
  | _ => Action.throw .assertion

def send_data (realloc : Bool) : Act Unit := do
  let w ← Action.get
  match w.sender with
  | none => Action.throw .assertion
  | some (in_len,in_used) =>
    if in_used < in_len then
      StreamPassInterface_Sender_Send .control (.buffer in_used (in_len - in_used)) (in_len - in_used)
    else do
      Action.modify (fun w => {w with sender := none})
      send_handler_done realloc

/-- `input_handler_send` of the `PacketStreamSender`; the packets are never empty. -/
def PacketPassInterface_Sender_Send (data_len : Nat) : Act Unit := do
  let w ← Action.get
  ASSERT (w.sender = none)
  ASSERT (0 < data_len)
  Action.modify (fun w => {w with sender := some (data_len,0)})
  StreamPassInterface_Sender_Send .control (.buffer 0 data_len) data_len

def output_handler_done (realloc : Bool) (data_len : Nat) : Act Unit := do
  let w ← Action.get
  match w.sender with
  | none => Action.throw .assertion
  | some (in_len,in_used) => do
    ASSERT (0 < data_len)
    ASSERT (data_len ≤ in_len - in_used)
    Action.modify (fun w => {w with sender := some (in_len,in_used + data_len)})
    send_data realloc

/-! ### Messages -/

/-- Writes the methods of a hello behind its header. -/
def writeMethods : Nat → List BSocksClient_auth_info → Act Unit
  | _,[] => return
  | i,info :: rest => do
    poke (socks_client_hello_header + i * socks_client_hello_method) [info.auth_type]
    writeMethods (i + 1) rest

def connector_handler (is_error init realloc : Bool) : Act Unit := do
  let w ← Action.get
  ASSERT (w.client.state = .CONNECTING)
  if is_error then report_error .ERROR
  else if ¬ init then report_error .ERROR
  else do
    BConnection_Init
    init_control_io
    let num_auth_info := w.client.auth_info.length
    if num_auth_info = 0 ∨ num_auth_info > 255 then do
      free_control_io
      BConnection_Free
      report_error .ERROR
    else do
      let size := socks_client_hello_header + num_auth_info * socks_client_hello_method
      let reserved ← reserve_buffer realloc size
      if ¬ reserved then do
        free_control_io
        BConnection_Free
        report_error .ERROR
      else do
        poke 0 [SOCKS_VERSION,UInt8.ofNat num_auth_info]
        writeMethods 0 w.client.auth_info
        PacketPassInterface_Sender_Send size
        setState .SENDING_HELLO

/-- The address and the port as they are in memory, in network byte order. -/
def addressBytes : BAddr → Bytes
  | .ipv4 ip port => ip.bytes ++ beBytes 2 port.toNat
  | .ipv6 ip port => ip.bytes ++ beBytes 2 port.toNat

def atyp : BAddr → UInt8
  | .ipv4 _ _ => SOCKS_ATYP_IPV4
  | .ipv6 _ _ => SOCKS_ATYP_IPV6

def addressSize : BAddr → Nat
  | .ipv4 _ _ => socks_addr_ipv4
  | .ipv6 _ _ => socks_addr_ipv6

def auth_finished (realloc : Bool) : Act Unit := do
  let w ← Action.get
  let size := socks_request_header + addressSize w.client.dest_addr
  let reserved ← reserve_buffer realloc size
  if ¬ reserved then report_error .ERROR
  else do
    poke socks_request_header (addressBytes w.client.dest_addr)
    poke 0 [SOCKS_VERSION,SOCKS_CMD_CONNECT,0x00,atyp w.client.dest_addr]
    PacketPassInterface_Sender_Send size
    setState .SENDING_REQUEST

/-- The lengths are stored in one byte each. -/
def passwordPacket (username password : Bytes) : Bytes :=
  [0x01,UInt8.ofNat username.length] ++ username ++ [UInt8.ofNat password.length] ++ password

/-- The packet is written from its front. -/
def sendPassword (realloc : Bool) (username password : Bytes) : Act Unit := do
  if username.length = 0 ∨ username.length > 255 ∨ password.length = 0 ∨ password.length > 255 then report_error .ERROR
  else do
    let size := 1 + 1 + username.length + 1 + password.length
    let reserved ← reserve_buffer realloc size
    if ¬ reserved then report_error .ERROR
    else do
      poke 0 (passwordPacket username password)
      PacketPassInterface_Sender_Send size
      setState .SENDING_PASSWORD

/-! ### Replies -/

def receivedHello (realloc : Bool) : Act Unit := do
  let imsg ← peek 0 socks_server_hello
  let w ← Action.get
  if imsg[0]? ≠ some SOCKS_VERSION then report_error .ERROR
  else
    match w.client.auth_info.find? (fun info => imsg[1]? = some info.auth_type) with
    | none => report_error .ERROR
    | some .none => auth_finished realloc
    | some (.password username password) => sendPassword realloc username password

def receivedReplyHeader : Act Unit := do
  let imsg ← peek 0 socks_reply_header
  if imsg[0]? ≠ some SOCKS_VERSION then report_error .ERROR
  else if imsg[1]? ≠ some SOCKS_REP_SUCCEEDED then report_error .ERROR
  else if imsg[3]? = some SOCKS_ATYP_IPV4 then do
    start_receive socks_reply_header socks_addr_ipv4
    setState .RECEIVED_REPLY_HEADER
  else if imsg[3]? = some SOCKS_ATYP_IPV6 then do
    start_receive socks_reply_header socks_addr_ipv6
    setState .RECEIVED_REPLY_HEADER
  else report_error .ERROR

def receivedPasswordReply (realloc : Bool) : Act Unit := do
  let version ← peek 0 1
  if version ≠ [1] then report_error .ERROR
  else do
    let status ← peek 1 1
    if status ≠ [0] then report_error .ERROR
    else auth_finished realloc

def receivedReplyRest : Act Unit := do
  BFree
  free_control_io
  init_up_io
  setState .UP
  Action.emit (.event .UP)

def recv_handler_done (realloc : Bool) (data_len : Nat) : Act Unit := do
  let w ← Action.get
  ASSERT (data_len ≤ w.client.recv_total - w.client.recv_len)
  Action.modify (fun w => {w with client := {w.client with recv_len := w.client.recv_len + data_len}})
  if w.client.recv_len + data_len < w.client.recv_total then do_receive
  else
    match w.client.state with
    | .SENT_HELLO => receivedHello realloc
    | .SENT_REQUEST => receivedReplyHeader
    | .SENT_PASSWORD => receivedPasswordReply realloc
    | .RECEIVED_REPLY_HEADER => receivedReplyRest
    | _ => Action.throw .assertion

/-- An error of the connection, or the end of what it receives. -/
def connection_handler (closed : Bool) : Act Unit := do
  let w ← Action.get
  ASSERT (w.client.state ≠ .CONNECTING)
  if w.client.state = .UP ∧ closed then report_error .ERROR_CLOSED else report_error .ERROR

/-! ### The client and its user -/

def BSocksClient_Init (auth_info : List BSocksClient_auth_info) (dest_addr : BAddr) : World :=
  ⟨⟨auth_info,dest_addr,.CONNECTING,none,0,0,0⟩,.absent,none,none,none,[],[],false,false⟩

def BSocksClient_Free : Act Unit := do
  let w ← Action.get
  if w.client.state ≠ .CONNECTING then do
    if w.client.state = .UP then free_up_io else free_control_io
    BConnection_Free
  let w ← Action.get
  if w.client.buffer.isSome then BFree
  Action.modify (fun w => {w with freed := true})

/-- The connection has written some of what it was told to send. -/
def written (realloc : Bool) (k : Nat) : Act Unit := do
  let w ← Action.get
  match w.sending with
  | none => Action.throw .misuse
  | some (.buffer offset _) => do
    let bytes ← peek offset k
    Action.modify (fun w => {w with sending := none,sent := w.sent ++ bytes})
    output_handler_done realloc k
  | some (.user data) => do
    Action.modify (fun w => {w with sending := none,sent := w.sent ++ data.take k})
    Action.emit (.sent k)

/-- The connection has read some bytes. -/
def read (realloc : Bool) (data : Bytes) : Act Unit := do
  let w ← Action.get
  match w.receiving with
  | none => Action.throw .misuse
  | some (.buffer offset _) => do
    poke offset data
    Action.modify (fun w => {w with receiving := none,consumed := w.consumed ++ data})
    recv_handler_done realloc data.length
  | some (.user _) => do
    Action.modify (fun w => {w with receiving := none,consumed := w.consumed ++ data})
    Action.emit (.received data)

/-- What the connector, the connection and the user do; `init` and `realloc` are what the
    system answers to the client meanwhile. -/
inductive Event
  | connector (is_error init realloc : Bool)
  | written (k : Nat) (realloc : Bool)
  | read (data : Bytes) (realloc : Bool)
  | connection (closed : Bool)
  | Send (data : Bytes)
  | Recv (len : Nat)
  | Free

def Sending.len : Sending → Nat
  | .buffer _ len => len
  | .user data => data.length

def Receiving.len : Receiving → Nat
  | .buffer _ len => len
  | .user len => len

/-- What can happen; the user keeps to what `BSocksClient.h` asks of it. -/
def World.allows (w : World) : Event → Prop
  | .connector _ _ _ => w.freed = false ∧ w.failed = false ∧ w.client.state = .CONNECTING
  | .written k _ => w.freed = false ∧ w.failed = false ∧ 0 < k ∧ w.sending.any (fun what => k ≤ what.len)
  | .read data _ => w.freed = false ∧ w.failed = false ∧ 0 < data.length ∧
      w.receiving.any (fun what => data.length ≤ what.len)
  | .connection closed => w.freed = false ∧ w.failed = false ∧ w.con ≠ .absent ∧ (closed → w.receiving.isSome)
  | .Send data => w.freed = false ∧ w.failed = false ∧ w.client.state = .UP ∧ w.sending = none ∧ 0 < data.length
  | .Recv len => w.freed = false ∧ w.failed = false ∧ w.client.state = .UP ∧ w.receiving = none ∧ 0 < len
  | .Free => w.freed = false

instance (w : World) : (event : Event) → Decidable (w.allows event)
  | .connector _ _ _ | .written _ _ | .read _ _ | .connection _ | .Send _ | .Recv _ =>
    inferInstanceAs (Decidable (_ ∧ _))
  | .Free => inferInstanceAs (Decidable (_ = _))

def handler : Event → Act Unit
  | .connector is_error init realloc => connector_handler is_error init realloc
  | .written k realloc => written realloc k
  | .read data realloc => read realloc data
  | .connection closed => connection_handler closed
  | .Send data => StreamPassInterface_Sender_Send .up (.user data) data.length
  | .Recv len => StreamRecvInterface_Receiver_Recv .up (.user len) len
  | .Free => BSocksClient_Free

/-- What came of an event: whether it ended without a fault, and what the user was told. -/
abbrev Reaction := Except Fault Unit × List Output

def step (w : World) (event : Event) : Option (World × Reaction) :=
  if w.allows event then ((handler event).run w).map (fun ran => (ran.2.1,ran.1,ran.2.2)) else none

end WSocks.SocksClient
