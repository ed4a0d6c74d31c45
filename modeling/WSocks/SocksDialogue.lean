import WSocks.Negotiation
import WSocks.SocksClient

/-!
# The dialogue with a SOCKS server

What a SOCKS client says and what it makes of the answers do not depend on how the
connection cuts them up. The client reads the bytes of the dialogue and none behind it, its
memory is safe, and its user sees what the clients of tun2socks rely on.
-/

namespace WSocks.SocksDialogue
open WSocks.Effects WSocks.Effects.Action WSocks.Endian WSocks.Blocks WSocks.Runs WSocks.SocksClient
open WSocks.Socks (BAddr)
open WSocks.Negotiation (Reading)

/-! ### What is said -/

def hello (infos : List BSocksClient_auth_info) : Bytes :=
  [SOCKS_VERSION,UInt8.ofNat infos.length] ++ infos.map BSocksClient_auth_info.auth_type

/-- The lengths of a user name and a password that can be sent. -/
def Fits (username password : Bytes) : Prop :=
  1 ≤ username.length ∧ username.length ≤ 255 ∧ 1 ≤ password.length ∧ password.length ≤ 255

instance (username password : Bytes) : Decidable (Fits username password) := inferInstanceAs (Decidable (_ ∧ _))

/-- What was offered for a method. -/
def chosen (infos : List BSocksClient_auth_info) (method : UInt8) : Option BSocksClient_auth_info :=
  infos.find? (fun info => method = info.auth_type)

theorem chosen_method {infos : List BSocksClient_auth_info} {method : UInt8} {info : BSocksClient_auth_info}
    (offered : chosen infos method = some info) : method = info.auth_type := by
  have found := List.find?_some offered
  exact of_decide_eq_true found

/-- The answers up to the end of the negotiation, with what was said. -/
inductive Authenticated (infos : List BSocksClient_auth_info) : Bytes → Bytes → Prop
  | none (offered : chosen infos SOCKS_METHOD_NO_AUTHENTICATION_REQUIRED = some .none) :
      Authenticated infos (hello infos) [SOCKS_VERSION,SOCKS_METHOD_NO_AUTHENTICATION_REQUIRED]
  | password {username password : Bytes}
      (offered : chosen infos SOCKS_METHOD_USERNAME_PASSWORD = some (.password username password))
      (fits : Fits username password) :
      Authenticated infos (hello infos ++ passwordPacket username password)
        ([SOCKS_VERSION,SOCKS_METHOD_USERNAME_PASSWORD] ++ [0x01,0x00])

/-- How long the address in a reply is. -/
def addressLength (atyp : UInt8) : Option Nat :=
  if atyp = SOCKS_ATYP_IPV4 then some socks_addr_ipv4
  else if atyp = SOCKS_ATYP_IPV6 then some socks_addr_ipv6
  else none

/-- What the answer to the user name and the password means, and all behind it. -/
def judgePassword : Bytes → Reading
  | version :: status :: rest =>
    if version ≠ 0x01 then .error else if status ≠ 0x00 then .error else Negotiation.recv_handler_done rest
  | _ => .waiting

/-- What all bytes from the server mean. -/
def judge (infos : List BSocksClient_auth_info) : Bytes → Reading
  | version :: method :: rest =>
    if version ≠ SOCKS_VERSION then .error
    else
      match chosen infos method with
      | none => .error
      | some .none => Negotiation.recv_handler_done rest
      | some (.password username password) => if Fits username password then judgePassword rest else .error
  | _ => .waiting

/-! ### The steps of the dialogue -/

/-- A message is being sent, or the rest of an answer is awaited in a buffer of some size, after
    what was said and read before. -/
inductive Phase
  | sending (earlier message before : Bytes)
  | receiving (earlier before : Bytes) (dest total size : Nat)

inductive Reaches (infos : List BSocksClient_auth_info) (dest_addr : BAddr) : State → Phase → Prop
  | sendingHello : Reaches infos dest_addr .SENDING_HELLO (.sending [] (hello infos) [])
  | sentHello : Reaches infos dest_addr .SENT_HELLO (.receiving (hello infos) [] 0 2 2)
  | sendingPassword {username password : Bytes}
      (offered : chosen infos SOCKS_METHOD_USERNAME_PASSWORD = some (.password username password))
      (fits : Fits username password) :
      Reaches infos dest_addr .SENDING_PASSWORD
        (.sending (hello infos) (passwordPacket username password) [SOCKS_VERSION,SOCKS_METHOD_USERNAME_PASSWORD])
  | sentPassword {username password : Bytes}
      (offered : chosen infos SOCKS_METHOD_USERNAME_PASSWORD = some (.password username password))
      (fits : Fits username password) :
      Reaches infos dest_addr .SENT_PASSWORD
        (.receiving (hello infos ++ passwordPacket username password)
          [SOCKS_VERSION,SOCKS_METHOD_USERNAME_PASSWORD] 0 2 2)
  | sendingRequest {said read : Bytes} (authenticated : Authenticated infos said read) :
      Reaches infos dest_addr .SENDING_REQUEST (.sending said (Socks.auth_finished dest_addr) read)
  | sentRequest {said read : Bytes} (authenticated : Authenticated infos said read) :
      Reaches infos dest_addr .SENT_REQUEST (.receiving (said ++ Socks.auth_finished dest_addr) read 0 4 22)
  | receivedReplyHeader {said read : Bytes} {rsv atyp : UInt8} {length : Nat}
      (authenticated : Authenticated infos said read) (known : addressLength atyp = some length) :
      Reaches infos dest_addr .RECEIVED_REPLY_HEADER
        (.receiving (said ++ Socks.auth_finished dest_addr)
          (read ++ [SOCKS_VERSION,SOCKS_REP_SUCCEEDED,rsv,atyp]) 4 length 22)

/-- Where the client and its connection are in a phase. -/
def At (w : World) : Phase → Prop
  | .sending earlier message before => ∃ m used, w.con = .control ∧ w.client.buffer = some m ∧ Holds m 0 message ∧
      w.receiving = none ∧ w.consumed = before ∧ used < message.length ∧ w.sender = some (message.length,used) ∧
      w.sending = some (.buffer used (message.length - used)) ∧ w.sent = earlier ++ message.take used
  | .receiving earlier before dest total size => ∃ m got, w.con = .control ∧ w.client.buffer = some m ∧
      size ≤ m.length ∧ Holds m dest got ∧ got.length < total ∧ w.consumed = before ++ got ∧ w.sender = none ∧
      w.sending = none ∧ w.sent = earlier ∧ w.client.recv_dest = dest ∧ w.client.recv_len = got.length ∧
      w.client.recv_total = total ∧ w.receiving = some (.buffer (dest + got.length) (total - got.length))

/-- The client is up: what its user sent and received comes behind the dialogue. -/
structure Relays (w : World) (taken given : Bytes) : Prop where
  state : w.client.state = .UP
  con : w.con = .up
  buffer : w.client.buffer = none
  sender : w.sender = none
  sending : ∀ offset len, w.sending ≠ some (.buffer offset len)
  receiving : ∀ offset len, w.receiving ≠ some (.buffer offset len)
  dialogue : ∃ said read rsv atyp address, Authenticated w.client.auth_info said read ∧
    addressLength atyp = some (List.length address) ∧
    w.sent = said ++ Socks.auth_finished w.client.dest_addr ++ taken ∧
    w.consumed = read ++ [SOCKS_VERSION,SOCKS_REP_SUCCEEDED,rsv,atyp] ++ address ++ given

/-- A client that has not failed. -/
inductive Live (w : World) : Prop
  | connecting (state : w.client.state = .CONNECTING) (sent : w.sent = []) (consumed : w.consumed = [])
  | talking {phase : Phase} (reaches : Reaches w.client.auth_info w.client.dest_addr w.client.state phase)
      (at' : At w phase)
  | up (state : w.client.state = .UP)

/-- The interfaces that are initialized in a state. -/
def interfaces : State → BConnection
  | .CONNECTING => .absent
  | .UP => .up
  | _ => .control

/-- Nothing is sent or received for the user. -/
structure Unasked (w : World) : Prop where
  sending : ∀ data, w.sending ≠ some (.user data)
  receiving : ∀ len, w.receiving ≠ some (.user len)

/-- The invariant of a client. -/
structure Kept (w : World) : Prop where
  con : w.con = interfaces w.client.state
  unasked : w.client.state ≠ .UP → Unasked w
  absent : w.client.state = .CONNECTING → w.sender = none ∧ w.sending = none ∧ w.receiving = none
  relays : w.client.state = .UP → ∃ taken given, Relays w taken given
  live : w.failed = false → Live w

/-- The system and the connection do not fail. -/
def Sound : Event → Prop
  | .connector is_error init realloc => is_error = false ∧ init ∧ realloc
  | .written _ realloc => realloc
  | .read _ realloc => realloc
  | .connection _ => False
  | .Send _ | .Recv _ | .Free => True

/-- One to 255 methods can be offered. -/
def Offers (infos : List BSocksClient_auth_info) : Prop := 1 ≤ infos.length ∧ infos.length ≤ 255

/-! ### What the answers mean -/

section
variable {infos : List BSocksClient_auth_info} {dest_addr : BAddr} {said read got earlier before message : Bytes}
  {state : State} {dest total size : Nat}

theorem judge_authenticated (authenticated : Authenticated infos said read) (rest : Bytes) :
    judge infos (read ++ rest) = Negotiation.recv_handler_done rest := by
  cases authenticated with
  | none offered => simp [judge,offered]
  | password offered fits => simp [judge,judgePassword,offered,fits]

theorem judge_nil : judge infos [] = .waiting := rfl

theorem judge_chosen_password {username password : Bytes}
    (offered : chosen infos SOCKS_METHOD_USERNAME_PASSWORD = some (.password username password))
    (fits : Fits username password) (rest : Bytes) :
    judge infos ([SOCKS_VERSION,SOCKS_METHOD_USERNAME_PASSWORD] ++ rest) = judgePassword rest := by
  simp [judge,offered,fits]

theorem reaches_fits (reaches : Reaches infos dest_addr state (.receiving earlier before dest total size)) :
    0 < total ∧ dest + total ≤ size := by
  cases reaches with
  | sentHello => exact ⟨by decide,le_rfl⟩
  | sentPassword => exact ⟨by decide,le_rfl⟩
  | sentRequest => exact ⟨by decide,by decide⟩
  | receivedReplyHeader _ known =>
    rw [addressLength] at known
    split_ifs at known
    · obtain rfl := Option.some.inj known
      exact ⟨by decide,by decide⟩
    · obtain rfl := Option.some.inj known
      exact ⟨by decide,by decide⟩

end

/-! ### What the functions do -/

section
variable {w : World} {m : Block UInt8} {message : Bytes} {state : State} {size dest total : Nat}

def fail (w : World) : World := {w with failed := true}

/-- The buffer is replaced by one that holds a message, which is being sent. -/
def sends (w : World) (m : Block UInt8) (message : Bytes) (state : State) : World :=
  {w with
    client := {w.client with state := state,buffer := some m}
    sender := some (message.length,0)
    sending := some (.buffer 0 message.length)}

/-- An answer, or the rest of one, is being received. -/
def awaits (w : World) (m : Block UInt8) (state : State) (dest total : Nat) : World :=
  {w with
    client := {w.client with state := state,buffer := some m,recv_dest := dest,recv_len := 0,recv_total := total}
    receiving := some (.buffer dest total)}

/-- The connection does nothing for the client. -/
structure Idle (w : World) : Prop where
  con : w.con = .control
  sender : w.sender = none
  sending : w.sending = none
  receiving : w.receiving = none

theorem Idle.unused (idle : Idle w) : w.inUse = false := by
  simp [World.inUse,idle.sending,idle.receiving]

theorem Idle.unasked (idle : Idle w) : Unasked w := ⟨by simp [idle.sending],by simp [idle.receiving]⟩

theorem run_ASSERT {p : Prop} [Decidable p] (holds : p) : (ASSERT p).run w = some (.ok (),w,[]) := by
  simp [ASSERT,holds]

theorem run_report_error (unfailed : w.failed = false) (e : BSOCKSCLIENT_EVENT) :
    (report_error e).run w = some (.ok (),fail w,[.event e]) := by
  simp [report_error,run_ASSERT,unfailed,fail]

theorem run_reserve (unused : w.inUse = false) (size : Nat) : (reserve_buffer true size).run w =
    some (.ok true,{w with client := {w.client with buffer := some (resize (w.client.buffer.getD []) size)}},[]) := by
  rw [reserve_buffer,if_neg (by simp),run_seq (run_get _),if_neg (by simp [unused]),run_seq (run_modify _ _)]
  rfl

theorem run_reserve_fails (size : Nat) : (reserve_buffer false size).run w = some (.ok false,w,[]) := by
  simp [reserve_buffer]

theorem run_poke {m' : Block UInt8} {offset : Nat} {bytes : Bytes} (present : w.client.buffer = some m)
    (stored : store m offset bytes = some m') :
    (poke offset bytes).run w = some (.ok (),{w with client := {w.client with buffer := some m'}},[]) := by
  simp [poke,present,stored]

theorem run_peek {offset : Nat} {bytes : Bytes} (present : w.client.buffer = some m) (holds : Holds m offset bytes) :
    (peek offset bytes.length).run w = some (.ok bytes,w,[]) := by
  simp [peek,present,holds.load]

theorem run_setState : (setState state).run w = some (.ok (),{w with client := {w.client with state := state}},[]) := rfl

theorem run_connection {before after : BConnection} (at' : w.con = before) :
    (connection before after).run w = some (.ok (),{w with con := after},[]) := by
  simp [connection,at']

theorem run_freeIo {io : BConnection} (at' : w.con = io) :
    (freeIo io).run w = some (.ok (),{w with con := .idle,sender := none,sending := none,receiving := none},[]) := by
  rw [freeIo,run_seq (run_connection at')]
  rfl

theorem run_start_receive (idle : Idle w) (some' : 0 < total) : (start_receive dest total).run w =
    some (.ok (),{w with
      client := {w.client with recv_dest := dest,recv_len := 0,recv_total := total}
      receiving := some (.buffer dest total)},[]) := by
  rw [start_receive,run_seq (run_ASSERT some'),run_seq (run_modify _ _)]
  simp [do_receive,run_ASSERT,StreamRecvInterface_Receiver_Recv,idle.con,idle.receiving,some']

/-- The buffer is resized, and an answer is received into it. -/
theorem run_awaits (idle : Idle w) (some' : 0 < total) :
    (do start_receive dest total; setState state : Act Unit).run
      {w with client := {w.client with buffer := some m}} = some (.ok (),awaits w m state dest total,[]) := by
  have idle' : Idle {w with client := {w.client with buffer := some m}} :=
    ⟨idle.con,idle.sender,idle.sending,idle.receiving⟩
  rw [run_seq (run_start_receive idle' some')]
  rfl

theorem run_sends (idle : Idle w) (some' : 0 < message.length) :
    (do PacketPassInterface_Sender_Send message.length; setState state : Act Unit).run
      {w with client := {w.client with buffer := some m}} = some (.ok (),sends w m message state,[]) := by
  simp [PacketPassInterface_Sender_Send,StreamPassInterface_Sender_Send,run_ASSERT,idle.con,idle.sender,idle.sending,
    some',setState,sends]

/-! ### Messages in the buffer -/

/-- The methods of a hello are written behind each other. -/
theorem run_writeMethods (infos : List BSocksClient_auth_info) (i : Nat) (done : Bytes)
    (present : w.client.buffer = some m) (holds : Holds m 0 done) (place : done.length = 2 + i)
    (fits : done.length + infos.length ≤ m.length) :
    ∃ m', (writeMethods i infos).run w = some (.ok (),{w with client := {w.client with buffer := some m'}},[]) ∧
      Holds m' 0 (done ++ infos.map BSocksClient_auth_info.auth_type) := by
  induction infos generalizing i done w m with
  | nil =>
    refine ⟨m,?_,by simpa using holds⟩
    rw [writeMethods,← present]
    rfl
  | cons info rest ih =>
    simp only [List.length_cons] at fits
    obtain ⟨m',stored⟩ := exists_store m done.length [info.auth_type]
      (by simp only [List.length_singleton]; omega)
    have holds' : Holds m' 0 (done ++ [info.auth_type]) := by
      rw [holds_append,Nat.zero_add]
      exact ⟨holds.store stored (.inl (by omega)),holds_store stored⟩
    obtain ⟨m'',ran,whole⟩ := ih (w := {w with client := {w.client with buffer := some m'}}) (i + 1)
      (done ++ [info.auth_type]) rfl holds' (by simp only [List.length_append,List.length_singleton]; omega)
      (by rw [length_store stored]; simp only [List.length_append,List.length_singleton]; omega)
    refine ⟨m'',?_,by simpa using whole⟩
    have offset : socks_client_hello_header + i * socks_client_hello_method = done.length := by
      simp only [socks_client_hello_header,socks_client_hello_method]
      omega
    rw [writeMethods,offset,run_seq (run_poke present stored),ran]

theorem length_hello (infos : List BSocksClient_auth_info) : (hello infos).length = 2 + infos.length := by
  simp [hello]
  omega

theorem length_passwordPacket (username password : Bytes) :
    (passwordPacket username password).length = 1 + 1 + username.length + 1 + password.length := by
  simp [passwordPacket]
  omega

theorem auth_finished_eq (dest_addr : BAddr) : Socks.auth_finished dest_addr =
    [SOCKS_VERSION,SOCKS_CMD_CONNECT,0x00,atyp dest_addr] ++ addressBytes dest_addr := by
  cases dest_addr <;> rfl

theorem length_addressBytes (dest_addr : BAddr) : (addressBytes dest_addr).length = addressSize dest_addr := by
  cases dest_addr with
  | ipv4 ip port => simp [addressBytes,addressSize,Text.Ipv4.bytes,socks_addr_ipv4]
  | ipv6 ip port => simp [addressBytes,addressSize,Text.Ipv6.bytes_length,socks_addr_ipv6]

theorem length_request (dest_addr : BAddr) :
    (Socks.auth_finished dest_addr).length = socks_request_header + addressSize dest_addr := by
  rw [auth_finished_eq,List.length_append,length_addressBytes]
  rfl

end

/-! ### One event -/

/-- What the user learns from an event, and what there is to it. -/
inductive Told (w w' : World) : Event → List Output → Prop
  | talks {event : Event} (before : w.client.state ≠ .UP) (after : w'.client.state ≠ .UP)
      (unfailed : w'.failed = false) : Told w w' event []
  | up {event : Event} (before : w.client.state ≠ .UP) (relays : Relays w' [] []) (sending : w'.sending = none)
      (receiving : w'.receiving = none) (unfailed : w'.failed = false) : Told w w' event [.event .UP]
  | error {event : Event} (before : w.client.state ≠ .UP) (after : w'.client.state ≠ .UP) (failed : w'.failed)
      (why : ¬ Sound event ∨ ¬ Offers w.client.auth_info ∨ judge w.client.auth_info w'.consumed = .error) :
      Told w w' event [.event .ERROR]
  | broken {closed : Bool} (same : w' = fail w) : Told w w' (.connection closed) [.event .ERROR]
  | closed (before : w.client.state = .UP) (same : w' = fail w) :
      Told w w' (.connection true) [.event .ERROR_CLOSED]
  | written {k : Nat} {realloc : Bool} {data : Bytes} (before : w.client.state = .UP)
      (sending : w.sending = some (.user data)) (same : w' = {w with sending := none,sent := w.sent ++ data.take k}) :
      Told w w' (.written k realloc) [.sent k]
  | read {data : Bytes} {realloc : Bool} {len : Nat} (before : w.client.state = .UP)
      (receiving : w.receiving = some (.user len))
      (same : w' = {w with receiving := none,consumed := w.consumed ++ data}) :
      Told w w' (.read data realloc) [.received data]
  | send {data : Bytes} (same : w' = {w with sending := some (.user data)}) : Told w w' (.Send data) []
  | recv {len : Nat} (same : w' = {w with receiving := some (.user len)}) : Told w w' (.Recv len) []

structure Outcome (w : World) (event : Event) (w' : World) (outputs : List Output) : Prop where
  kept : Kept w'
  infos : w'.client.auth_info = w.client.auth_info
  dest : w'.client.dest_addr = w.client.dest_addr
  freed : w'.freed = w.freed
  told : Told w w' event outputs

/-- The event is handled without a fault. -/
def Fine (w : World) (event : Event) : Prop :=
  ∃ w' outputs, (handler event).run w = some (.ok (),w',outputs) ∧ Outcome w event w' outputs

section
variable {w : World} {m : Block UInt8} {message earlier before : Bytes} {state : State} {dest total size : Nat} {event : Event}

theorem at_sends (idle : Idle w) (holds : Holds m 0 message) (some' : 0 < message.length) :
    At (sends w m message state) (.sending w.sent message w.consumed) :=
  ⟨m,0,idle.con,rfl,holds,idle.receiving,rfl,some',rfl,rfl,(List.append_nil _).symm⟩

theorem at_awaits {infos : List BSocksClient_auth_info} {dest_addr : BAddr} (idle : Idle w) (room : size ≤ m.length)
    (reaches : Reaches infos dest_addr state (.receiving w.sent w.consumed dest total size)) :
    At (awaits w m state dest total) (.receiving w.sent w.consumed dest total size) := by
  obtain ⟨some',fits⟩ := reaches_fits reaches
  refine ⟨m,[],idle.con,rfl,room,?_,some',(List.append_nil _).symm,idle.sender,idle.sending,rfl,rfl,rfl,rfl,rfl⟩
  rw [holds_nil]
  omega

/-- While they talk, the control interfaces are initialized. -/
theorem reaches_interfaces {infos : List BSocksClient_auth_info} {dest_addr : BAddr} {phase : Phase}
    (reaches : Reaches infos dest_addr state phase) :
    interfaces state = .control ∧ state ≠ .CONNECTING ∧ state ≠ .UP := by
  cases reaches <;> exact ⟨rfl,nofun,nofun⟩

/-- The client goes on talking. -/
theorem talks_outcome {w' : World} {phase : Phase} (before : w.client.state ≠ .UP)
    (reaches : Reaches w'.client.auth_info w'.client.dest_addr w'.client.state phase) (at' : At w' phase)
    (infos : w'.client.auth_info = w.client.auth_info) (dest : w'.client.dest_addr = w.client.dest_addr)
    (freed : w'.freed = w.freed) (unfailed : w'.failed = false) : Outcome w event w' [] := by
  obtain ⟨control,connected,down⟩ := reaches_interfaces reaches
  have held : w'.con = .control ∧ Unasked w' := by
    cases phase with
    | sending earlier message before =>
      obtain ⟨_,_,con,-,-,receiving,-,-,-,sending,-⟩ := at'
      exact ⟨con,by simp [sending],by simp [receiving]⟩
    | receiving earlier before dest total size =>
      obtain ⟨_,_,con,-,-,-,-,-,-,sending,-,-,-,-,receiving⟩ := at'
      exact ⟨con,by simp [sending],by simp [receiving]⟩
  exact ⟨⟨held.1.trans control.symm,fun _ => held.2,fun impossible => absurd impossible connected,fun impossible => absurd impossible down,
    fun _ => .talking reaches at'⟩,infos,dest,freed,.talks before down unfailed⟩

/-- The client gives up before it is up. -/
theorem error_outcome {w' : World} (before : w.client.state ≠ .UP) (con : w'.con = interfaces w'.client.state)
    (unasked : Unasked w')
    (absent : w'.client.state = .CONNECTING → w'.sender = none ∧ w'.sending = none ∧ w'.receiving = none)
    (down : w'.client.state ≠ .UP)
    (infos : w'.client.auth_info = w.client.auth_info) (dest : w'.client.dest_addr = w.client.dest_addr)
    (freed : w'.freed = w.freed)
    (why : ¬ Sound event ∨ ¬ Offers w.client.auth_info ∨ judge w.client.auth_info w'.consumed = .error) :
    Outcome w event (fail w') [.event .ERROR] :=
  ⟨⟨con,fun _ => ⟨unasked.sending,unasked.receiving⟩,absent,fun impossible => absurd impossible down,nofun⟩,infos,dest,
    freed,.error before down rfl why⟩

theorem connector_fine {is_error init realloc : Bool} (kept : Kept w)
    (allowed : w.allows (.connector is_error init realloc)) : Fine w (.connector is_error init realloc) := by
  obtain ⟨-,unfailed,connecting⟩ := allowed
  have before : w.client.state ≠ .UP := by simp [connecting]
  have absent : w.con = .absent := by rw [kept.con,connecting]; rfl
  obtain ⟨sender,sending,receiving⟩ := kept.absent connecting
  obtain ⟨sent,consumed⟩ : w.sent = [] ∧ w.consumed = [] := by
    cases kept.live unfailed with
    | connecting _ sent consumed => exact ⟨sent,consumed⟩
    | talking reaches _ => exact absurd connecting (reaches_interfaces reaches).2.1
    | up up => exact absurd up before
  have refused : ¬ Sound (.connector is_error init realloc) ∨ ¬ Offers w.client.auth_info ∨
      judge w.client.auth_info w.consumed = .error → Outcome w (.connector is_error init realloc) (fail w) [.event .ERROR] :=
    error_outcome before (absent.trans (by rw [connecting]; rfl)) (kept.unasked before) (fun _ => ⟨sender,sending,receiving⟩) before rfl rfl rfl
  have begins : (connector_handler is_error init realloc).run w = (connector_handler is_error init realloc).run w := rfl
  conv_rhs at begins => rw [connector_handler,run_seq (run_get _),run_seq (run_ASSERT connecting)]
  by_cases error : is_error
  · refine ⟨fail w,_,?_,refused (.inl (by simp [Sound,error]))⟩
    rw [handler,begins,if_pos error,run_report_error unfailed]
  rw [if_neg error] at begins
  by_cases inits : init
  swap
  · refine ⟨fail w,_,?_,refused (.inl (by simp [Sound,inits]))⟩
    rw [handler,begins,if_pos (by simp [inits]),run_report_error unfailed]
  rw [if_neg (by simp [inits]),BConnection_Init,run_seq (run_connection absent),init_control_io,
    run_seq (run_connection (by rfl))] at begins
  set w' : World := {w with con := .control}
  have idle : Idle w' := ⟨rfl,sender,sending,receiving⟩
  -- nothing is left of a connection that is given up at once
  have gives : ∀ event, (do free_control_io; BConnection_Free; report_error event : Act Unit).run w' =
      some (.ok (),fail w,[.event event]) := by
    intro event
    rw [free_control_io,run_seq (run_freeIo (by rfl)),BConnection_Free,run_seq (run_connection (by rfl)),
      run_report_error (by exact unfailed),fail,fail]
    simp only [w',← absent,← sender,← sending]
    rw [← receiving]
  by_cases few : w.client.auth_info.length = 0 ∨ w.client.auth_info.length > 255
  · refine ⟨fail w,_,?_,refused (.inr (.inl ?_))⟩
    · rw [handler,begins,if_pos few,gives]
    · simp only [Offers]
      omega
  rw [if_neg few] at begins
  cases reserved : realloc with
  | false =>
    subst reserved
    refine ⟨fail w,_,?_,refused (.inl (by simp [Sound]))⟩
    rw [handler,begins,run_seq (run_reserve_fails _),if_pos (by simp),gives]
  | true =>
    subst reserved
    have size : socks_client_hello_header + w.client.auth_info.length * socks_client_hello_method =
        (hello w.client.auth_info).length := by
      simp only [length_hello,socks_client_hello_header,socks_client_hello_method]
      omega
    have room : (resize (w'.client.buffer.getD []) (hello w.client.auth_info).length).length =
        2 + w.client.auth_info.length := by
      rw [length_resize,length_hello]
    obtain ⟨m,stored⟩ := exists_store (resize (w'.client.buffer.getD []) (hello w.client.auth_info).length) 0
      [SOCKS_VERSION,UInt8.ofNat w.client.auth_info.length]
      (by rw [room]; simp only [List.length_cons,List.length_nil]; omega)
    obtain ⟨m',methods,holds⟩ := run_writeMethods (w := {w' with client := {w'.client with buffer := some m}})
      w.client.auth_info 0 _ rfl (holds_store stored) rfl (by rw [length_store stored,room]; rfl)
    refine ⟨sends w' m' (hello w.client.auth_info) .SENDING_HELLO,[],?_,?_⟩
    · rw [handler,begins,size,run_seq (run_reserve idle.unused _),if_neg (by simp),run_seq (run_poke (by rfl) stored),
        run_seq methods]
      exact run_sends (w := w') (m := m') idle (by rw [length_hello]; omega)
    · have at' : At (sends w' m' (hello w.client.auth_info) .SENDING_HELLO) _ :=
        at_sends idle holds (by rw [length_hello]; omega)
      rw [show w'.sent = [] from sent,show w'.consumed = [] from consumed] at at'
      exact talks_outcome before .sendingHello at' rfl rfl rfl unfailed

/-- What is sent has an answer to be awaited. -/
theorem run_send_handler_done {infos : List BSocksClient_auth_info} {dest_addr : BAddr} (realloc : Bool)
    (present : w.client.buffer = some m)
    (reaches : Reaches infos dest_addr w.client.state (.sending earlier message before)) :
    ∃ next total size, Reaches infos dest_addr next (.receiving (earlier ++ message) before 0 total size) ∧ (send_handler_done realloc).run w = (do
        let reserved ← reserve_buffer realloc size
        if ¬ reserved then report_error .ERROR
        else do
          start_receive 0 total
          setState next : Act Unit).run w := by
  have begins : (send_handler_done realloc).run w = (send_handler_done realloc).run w := rfl
  conv_rhs at begins => rw [send_handler_done,run_seq (run_get _),run_seq (run_ASSERT (by simp [present]))]
  generalize at' : w.client.state = state at reaches begins
  cases reaches with
  | sendingHello => exact ⟨_,_,_,.sentHello,begins⟩
  | sendingPassword offered fits => exact ⟨_,_,_,.sentPassword offered fits,begins⟩
  | sendingRequest authenticated => exact ⟨_,_,_,.sentRequest authenticated,begins⟩

/-- The client is between two messages: what was said and read may have grown since the event came. -/
structure Between (w w' : World) : Prop where
  idle : Idle w'
  before : w.client.state ≠ .UP
  con : interfaces w'.client.state = .control
  connected : w'.client.state ≠ .CONNECTING
  down : w'.client.state ≠ .UP
  infos : w'.client.auth_info = w.client.auth_info
  dest : w'.client.dest_addr = w.client.dest_addr
  freed : w'.freed = w.freed
  unfailed : w'.failed = false

theorem Between.error {w' : World} (between : Between w w') (event : Event)
    (why : ¬ Sound event ∨ ¬ Offers w.client.auth_info ∨ judge w.client.auth_info w'.consumed = .error) :
    (report_error .ERROR).run w' = some (.ok (),fail w',[.event .ERROR]) ∧ Outcome w event (fail w') [.event .ERROR] :=
  ⟨run_report_error between.unfailed _,error_outcome between.before (between.idle.con.trans between.con.symm)
    between.idle.unasked (fun impossible => absurd impossible between.connected) between.down between.infos between.dest between.freed why⟩

/-- A buffer is reserved for the answer, unless there is no memory. -/
theorem Between.await {realloc : Bool} {w' : World} (between : Between w w') (event : Event)
    (reaches : Reaches w'.client.auth_info w'.client.dest_addr state (.receiving w'.sent w'.consumed dest total size))
    (sound : Sound event → realloc) :
    ∃ w'' outputs, (do
        let reserved ← reserve_buffer realloc size
        if ¬ reserved then report_error .ERROR
        else do
          start_receive dest total
          setState state : Act Unit).run w' = some (.ok (),w'',outputs) ∧ Outcome w event w'' outputs := by
  cases realloc with
  | false =>
    obtain ⟨ran,outcome⟩ := between.error event (.inl (fun sound' => by cases sound sound'))
    refine ⟨_,_,?_,outcome⟩
    rw [run_seq (run_reserve_fails _),if_pos (by simp),ran]
  | true =>
    refine ⟨awaits w' (resize (w'.client.buffer.getD []) size) state dest total,[],?_,?_⟩
    · rw [run_seq (run_reserve between.idle.unused _),if_neg (by simp)]
      exact run_awaits between.idle (reaches_fits reaches).1
    · exact talks_outcome between.before reaches (at_awaits between.idle (by rw [length_resize]) reaches) between.infos
        between.dest between.freed between.unfailed

theorem Relays.write {taken given data : Bytes} (relays : Relays w taken given) :
    Relays {w with sending := none,sent := w.sent ++ data} (taken ++ data) given := by
  obtain ⟨said,read,rsv,atyp,address,authenticated,known,sent,consumed⟩ := relays.dialogue
  refine ⟨relays.state,relays.con,relays.buffer,relays.sender,by simp,relays.receiving,
    said,read,rsv,atyp,address,authenticated,known,?_,consumed⟩
  rw [sent]
  simp only [List.append_assoc]

theorem Relays.read {taken given data : Bytes} (relays : Relays w taken given) :
    Relays {w with receiving := none,consumed := w.consumed ++ data} taken (given ++ data) := by
  obtain ⟨said,read,rsv,atyp,address,authenticated,known,sent,consumed⟩ := relays.dialogue
  refine ⟨relays.state,relays.con,relays.buffer,relays.sender,relays.sending,by simp,
    said,read,rsv,atyp,address,authenticated,known,sent,?_⟩
  rw [consumed]
  simp only [List.append_assoc]

theorem kept_up {taken given : Bytes} (relays : Relays w taken given) : Kept w :=
  ⟨relays.con.trans (by rw [relays.state]; rfl),fun down => absurd relays.state down,fun connecting => by simp [relays.state] at connecting,
    fun _ => ⟨taken,given,relays⟩,fun _ => .up relays.state⟩

theorem written_fine {k : Nat} {realloc : Bool} (kept : Kept w) (allowed : w.allows (.written k realloc)) :
    Fine w (.written k realloc) := by
  obtain ⟨-,unfailed,some',within⟩ := allowed
  obtain ⟨what,outstanding,bounded⟩ := (Option.any_eq_true _ _).mp within
  have less : k ≤ what.len := by simpa using bounded
  cases kept.live unfailed with
  | connecting state =>
    rw [(kept.absent state).2.1] at outstanding
    cases outstanding
  | up state =>
    obtain ⟨taken,given,relays⟩ := kept.relays state
    cases what with
    | buffer offset len => exact absurd outstanding (relays.sending offset len)
    | user data =>
      refine ⟨{w with sending := none,sent := w.sent ++ data.take k},[.sent k],?_,?_⟩
      · rw [handler,written,run_seq (run_get _),outstanding]
        rfl
      · exact ⟨kept_up relays.write,rfl,rfl,rfl,.written state outstanding rfl⟩
  | @talking phase reaches at' =>
    obtain ⟨control,connected,down⟩ := reaches_interfaces reaches
    cases phase with
    | receiving earlier before dest total size =>
      obtain ⟨m,got,-,-,-,-,-,-,-,none',-⟩ := at'
      rw [none'] at outstanding
      cases outstanding
    | sending earlier message before =>
      obtain ⟨m,used,con,present,holds,receiving,consumed,short,sender,sending,sent⟩ := at'
      obtain rfl := Option.some.inj (outstanding.symm.trans sending)
      have bytes : Holds m used ((message.drop used).take k) := by
        have whole : message = message.take used ++ (message.drop used).take k ++ (message.drop used).drop k := by
          rw [List.append_assoc,List.take_append_drop,List.take_append_drop]
        rw [whole] at holds
        have part := holds.part
        rwa [List.length_take_of_le short.le,Nat.zero_add] at part
      have length : ((message.drop used).take k).length = k := by
        rw [List.length_take,List.length_drop]
        exact min_eq_left less
      have peeked := run_peek present bytes
      rw [length] at peeked
      have sent' : w.sent ++ (message.drop used).take k = earlier ++ message.take (used + k) := by
        rw [sent,List.append_assoc,← List.take_add]
      set w' : World := {w with sending := none,sent := w.sent ++ (message.drop used).take k}
      have begins : (handler (.written k realloc)).run w =
          (send_data realloc).run {w' with sender := some (message.length,used + k)} := by
        rw [handler,written,run_seq (run_get _),outstanding]
        dsimp only
        rw [run_seq peeked,run_seq (run_modify _ _),output_handler_done,run_seq (run_get _)]
        dsimp only
        rw [sender]
        dsimp only
        rw [run_seq (run_ASSERT some'),run_seq (run_ASSERT (by exact less)),run_seq (run_modify _ _)]
      by_cases more : used + k < message.length
      · -- the rest of the message is still to be sent
        refine ⟨{w' with
          sender := some (message.length,used + k)
          sending := some (.buffer (used + k) (message.length - (used + k)))},[],?_,?_⟩
        · rw [begins,send_data,run_seq (run_get _)]
          dsimp only
          rw [if_pos more]
          simp [StreamPassInterface_Sender_Send,w',con,more]
        · exact talks_outcome down reaches ⟨m,used + k,con,present,holds,receiving,consumed,more,rfl,rfl,sent'⟩ rfl rfl rfl
            unfailed
      · have all : used + k = message.length := by
          have bound : k ≤ message.length - used := less
          omega
        have between : Between w {w' with sender := none} :=
          ⟨⟨con,rfl,rfl,receiving⟩,down,control,connected,down,rfl,rfl,rfl,unfailed⟩
        obtain ⟨next,total,size,reaches',ran⟩ := run_send_handler_done (w := {w' with sender := none}) realloc present reaches
        rw [all,List.take_length] at sent'
        rw [← sent',← consumed] at reaches'
        obtain ⟨w'',outputs,ran',outcome⟩ := between.await (.written k realloc) reaches' id
        refine ⟨w'',outputs,?_,outcome⟩
        rw [begins,send_data,run_seq (run_get _)]
        dsimp only
        rw [if_neg more,run_seq (run_modify _ _)]
        exact ran.trans ran'

/-! ### Answers -/

/-- A message is laid out in the buffer and sent, unless there is no memory. -/
theorem Between.send {realloc : Bool} {w' : World} (between : Between w w') (write : Act Unit)
    (reaches : Reaches w'.client.auth_info w'.client.dest_addr state (.sending w'.sent message w'.consumed))
    (some' : 0 < message.length) (sound : Sound event → realloc)
    (writes : ∀ m : Block UInt8, m.length = message.length → ∃ m', write.run {w' with client := {w'.client with buffer := some m}} =
      some (.ok (),{w' with client := {w'.client with buffer := some m'}},[]) ∧ Holds m' 0 message) :
    ∃ w'' outputs, (do
        let reserved ← reserve_buffer realloc message.length
        if ¬ reserved then report_error .ERROR
        else do
          write
          PacketPassInterface_Sender_Send message.length
          setState state : Act Unit).run w' = some (.ok (),w'',outputs) ∧ Outcome w event w'' outputs := by
  cases realloc with
  | false =>
    obtain ⟨ran,outcome⟩ := between.error event (.inl (fun sound' => by cases sound sound'))
    refine ⟨_,_,?_,outcome⟩
    rw [run_seq (run_reserve_fails _),if_pos (by simp),ran]
  | true =>
    obtain ⟨m',written,holds⟩ := writes (resize (w'.client.buffer.getD []) message.length) length_resize
    refine ⟨sends w' m' message state,[],?_,?_⟩
    · rw [run_seq (run_reserve between.idle.unused _),if_neg (by simp),run_seq written]
      exact run_sends between.idle some'
    · exact talks_outcome between.before reaches (at_sends between.idle holds some') between.infos between.dest between.freed
        between.unfailed

/-- The request is laid out with its address first. -/
theorem Between.authenticated {realloc : Bool} {w' : World} (between : Between w w')
    (authenticated : Authenticated w'.client.auth_info w'.sent w'.consumed) (sound : Sound event → realloc) :
    ∃ w'' outputs, (auth_finished realloc).run w' = some (.ok (),w'',outputs) ∧ Outcome w event w'' outputs := by
  have length := length_request w'.client.dest_addr
  obtain ⟨w'',outputs,ran,outcome⟩ := between.send (do
      poke socks_request_header (addressBytes w'.client.dest_addr)
      poke 0 [SOCKS_VERSION,SOCKS_CMD_CONNECT,0x00,atyp w'.client.dest_addr])
    (.sendingRequest authenticated) (by rw [length]; exact Nat.add_pos_left (by decide) _) sound (by
      intro m size
      rw [length] at size
      obtain ⟨m',stored⟩ := exists_store m socks_request_header
        (addressBytes w'.client.dest_addr) (by rw [length_addressBytes,size])
      obtain ⟨m'',stored'⟩ := exists_store m' 0
        [SOCKS_VERSION,SOCKS_CMD_CONNECT,0x00,atyp w'.client.dest_addr]
        (by rw [length_store stored,size]; simp only [List.length_cons,List.length_nil,socks_request_header]; omega)
      refine ⟨m'',?_,?_⟩
      · rw [run_seq (run_poke (by rfl) stored),run_poke (by rfl) stored']
      · rw [auth_finished_eq,holds_append]
        exact ⟨holds_store stored',(holds_store stored).store stored' (.inr (by rfl))⟩)
  refine ⟨w'',outputs,?_,outcome⟩
  rw [← ran,auth_finished,run_seq (run_get _),length]
  simp only [bind_assoc]

theorem receivedHello_outcome {realloc : Bool} {w' : World} {answer : Bytes} (between : Between w w')
    (present : w'.client.buffer = some m) (holds : Holds m 0 answer) (length : answer.length = 2)
    (said : w'.sent = hello w'.client.auth_info) (read : w'.consumed = answer) (sound : Sound event → realloc) :
    ∃ w'' outputs, (receivedHello realloc).run w' = some (.ok (),w'',outputs) ∧ Outcome w event w'' outputs := by
  obtain ⟨version,method,rfl⟩ := List.length_eq_two.mp length
  have refused : judge w'.client.auth_info [version,method] = .error →
      ∃ w'' outputs, (report_error .ERROR).run w' = some (.ok (),w'',outputs) ∧ Outcome w event w'' outputs := by
    intro error
    exact ⟨_,_,between.error event (.inr (.inr (by rw [← between.infos,read,error])))⟩
  have peeked : (peek 0 socks_server_hello).run w' = some (.ok [version,method],w',[]) := run_peek present holds
  rw [receivedHello,run_seq peeked,run_seq (run_get _)]
  by_cases known : version = SOCKS_VERSION
  swap
  · rw [if_pos (by simpa using known)]
    exact refused (by simp [judge,known])
  subst known
  rw [if_neg (by simp)]
  have found : w'.client.auth_info.find? (fun info => decide ([SOCKS_VERSION,method][1]? = some info.auth_type)) =
      chosen w'.client.auth_info method := by
    simp [chosen]
  rw [found]
  rcases offered : chosen w'.client.auth_info method with _ | _ | ⟨username,password⟩
  · exact refused (by simp [judge,offered])
  · have same : method = SOCKS_METHOD_NO_AUTHENTICATION_REQUIRED := chosen_method offered
    subst same
    exact between.authenticated (by rw [said,read]; exact .none offered) sound
  · have same : method = SOCKS_METHOD_USERNAME_PASSWORD := chosen_method offered
    subst same
    dsimp only
    rw [sendPassword]
    by_cases fits : Fits username password
    · rw [if_neg (by obtain ⟨a,b,c,d⟩ := fits; omega),← length_passwordPacket]
      refine between.send (poke 0 (passwordPacket username password)) ?_ (by rw [length_passwordPacket]; omega) sound ?_
      · rw [said,read]
        exact .sendingPassword offered fits
      · intro m' size
        obtain ⟨m'',stored⟩ := exists_store m' 0 (passwordPacket username password)
          (by rw [size,Nat.zero_add])
        exact ⟨m'',run_poke (by rfl) stored,holds_store stored⟩
    · rw [if_pos (by simp only [Fits] at fits; omega)]
      exact refused (by simp [judge,offered,fits])

theorem receivedPasswordReply_outcome {realloc : Bool} {w' : World} {answer username password : Bytes}
    (between : Between w w') (present : w'.client.buffer = some m) (holds : Holds m 0 answer) (length : answer.length = 2)
    (offered : chosen w'.client.auth_info SOCKS_METHOD_USERNAME_PASSWORD = some (.password username password))
    (fits : Fits username password) (said : w'.sent = hello w'.client.auth_info ++ passwordPacket username password)
    (read : w'.consumed = [SOCKS_VERSION,SOCKS_METHOD_USERNAME_PASSWORD] ++ answer) (sound : Sound event → realloc) :
    ∃ w'' outputs, (receivedPasswordReply realloc).run w' = some (.ok (),w'',outputs) ∧ Outcome w event w'' outputs := by
  obtain ⟨version,status,rfl⟩ := List.length_eq_two.mp length
  have judged : judge w.client.auth_info w'.consumed = judgePassword [version,status] := by
    rw [read,← between.infos,judge_chosen_password offered fits]
  have refused : judgePassword [version,status] = .error →
      ∃ w'' outputs, (report_error .ERROR).run w' = some (.ok (),w'',outputs) ∧ Outcome w event w'' outputs :=
    fun error => ⟨_,_,between.error event (.inr (.inr (judged.trans error)))⟩
  obtain ⟨first,second⟩ := holds_append.mp (show Holds m 0 ([version] ++ [status]) from holds)
  have version' : (peek 0 1).run w' = some (.ok [version],w',[]) := run_peek present first
  have status' : (peek 1 1).run w' = some (.ok [status],w',[]) := run_peek present second
  rw [receivedPasswordReply,run_seq version']
  by_cases known : version = 0x01
  swap
  · rw [if_pos (by simpa using known)]
    exact refused (by simp [judgePassword,known])
  subst known
  rw [if_neg (by simp),run_seq status']
  by_cases good : status = 0x00
  swap
  · rw [if_pos (by simpa using good)]
    exact refused (by simp [judgePassword,good])
  subst good
  rw [if_neg (by simp)]
  exact between.authenticated (by rw [said,read]; exact .password offered fits) sound

theorem receivedReplyHeader_outcome {w' : World} {said read answer : Bytes} (between : Between w w')
    (present : w'.client.buffer = some m) (holds : Holds m 0 answer) (length : answer.length = 4) (room : 22 ≤ m.length)
    (authenticated : Authenticated w'.client.auth_info said read)
    (sent : w'.sent = said ++ Socks.auth_finished w'.client.dest_addr) (consumed : w'.consumed = read ++ answer) :
    ∃ w'' outputs, receivedReplyHeader.run w' = some (.ok (),w'',outputs) ∧ Outcome w event w'' outputs := by
  obtain ⟨version,rep,rsv,atyp,rfl⟩ : ∃ version rep rsv atyp, answer = [version,rep,rsv,atyp] := by
    rcases answer with _ | ⟨a,_ | ⟨b,_ | ⟨c,_ | ⟨d,_ | ⟨e,rest⟩⟩⟩⟩⟩ <;> simp at length
    exact ⟨a,b,c,d,rfl⟩
  have judged : judge w.client.auth_info w'.consumed = Negotiation.recv_handler_done [version,rep,rsv,atyp] := by
    rw [consumed,← between.infos,judge_authenticated authenticated]
  have refused : Negotiation.recv_handler_done [version,rep,rsv,atyp] = .error →
      ∃ w'' outputs, (report_error .ERROR).run w' = some (.ok (),w'',outputs) ∧ Outcome w event w'' outputs :=
    fun error => ⟨_,_,between.error event (.inr (.inr (judged.trans error)))⟩
  have peeked : (peek 0 socks_reply_header).run w' = some (.ok [version,rep,rsv,atyp],w',[]) := run_peek present holds
  rw [receivedReplyHeader,run_seq peeked]
  by_cases known : version = SOCKS_VERSION
  swap
  · rw [if_pos (by simpa using known)]
    have known' : version ≠ 0x05 := known
    exact refused (by simp [Negotiation.recv_handler_done,known'])
  subst known
  rw [if_neg (by simp)]
  by_cases granted : rep = SOCKS_REP_SUCCEEDED
  swap
  · rw [if_pos (by simpa using granted)]
    have granted' : rep ≠ 0x00 := granted
    exact refused (by simp [Negotiation.recv_handler_done,SOCKS_VERSION,granted'])
  subst granted
  rw [if_neg (by simp)]
  -- the rest is received behind the header
  have goes : ∀ total, addressLength atyp = some total →
      ∃ w'' outputs, (do start_receive socks_reply_header total; setState .RECEIVED_REPLY_HEADER : Act Unit).run w' =
        some (.ok (),w'',outputs) ∧ Outcome w event w'' outputs := by
    intro total known
    have reaches : Reaches w'.client.auth_info w'.client.dest_addr .RECEIVED_REPLY_HEADER
        (.receiving w'.sent w'.consumed 4 total 22) := by
      rw [sent,consumed]
      exact .receivedReplyHeader authenticated known
    refine ⟨awaits w' m .RECEIVED_REPLY_HEADER 4 total,[],?_,?_⟩
    · have ran : (do start_receive 4 total; setState .RECEIVED_REPLY_HEADER : Act Unit).run
          {w' with client := {w'.client with buffer := some m}} = _ := run_awaits between.idle (reaches_fits reaches).1
      rwa [← present] at ran
    · exact talks_outcome between.before reaches (at_awaits between.idle room reaches) between.infos between.dest
        between.freed between.unfailed
  by_cases four : atyp = SOCKS_ATYP_IPV4
  · rw [if_pos (by simpa using four)]
    exact goes _ (if_pos four)
  rw [if_neg (by simpa using four)]
  by_cases six : atyp = SOCKS_ATYP_IPV6
  · rw [if_pos (by simpa using six)]
    exact goes _ (by rw [addressLength,if_neg four,if_pos six])
  rw [if_neg (by simpa using six)]
  have four' : atyp ≠ 1 := four
  have six' : atyp ≠ 4 := six
  exact refused (by simp [Negotiation.recv_handler_done,SOCKS_VERSION,SOCKS_REP_SUCCEEDED,four',six'])

theorem receivedReplyRest_outcome {w' : World} {said read answer : Bytes} {rsv atyp : UInt8} (between : Between w w')
    (authenticated : Authenticated w'.client.auth_info said read) (known : addressLength atyp = some answer.length)
    (sent : w'.sent = said ++ Socks.auth_finished w'.client.dest_addr)
    (consumed : w'.consumed = read ++ [SOCKS_VERSION,SOCKS_REP_SUCCEEDED,rsv,atyp] ++ answer) :
    ∃ w'' outputs, receivedReplyRest.run w' = some (.ok (),w'',outputs) ∧ Outcome w event w'' outputs := by
  have ran : receivedReplyRest.run w' = some (.ok (),{w' with
      client := {w'.client with state := .UP,buffer := none}
      con := .up
      sender := none
      sending := none
      receiving := none},[.event .UP]) := by
    have freed : BFree.run w' = some (.ok (),{w' with client := {w'.client with buffer := none}},[]) := by
      simp [BFree,between.idle.unused]
    rw [receivedReplyRest,run_seq freed,free_control_io,run_seq (run_freeIo (by exact between.idle.con)),init_up_io,
      run_seq (run_connection (by rfl)),run_seq run_setState]
    rfl
  refine ⟨_,_,ran,?_⟩
  have relays : Relays {w' with
      client := {w'.client with state := .UP,buffer := none}
      con := .up
      sender := none
      sending := none
      receiving := none} [] [] :=
    ⟨rfl,rfl,rfl,rfl,nofun,nofun,said,read,rsv,atyp,answer,authenticated,known,
      by rw [List.append_nil]; exact sent,by rw [List.append_nil]; exact consumed⟩
  exact ⟨kept_up relays,between.infos,between.dest,between.freed,.up between.before relays rfl rfl between.unfailed⟩

/-- A whole answer has arrived. -/
theorem answer_outcome {realloc : Bool} {w' : World} {before answer : Bytes} (between : Between w w')
    (present : w'.client.buffer = some m) (room : size ≤ m.length) (holds : Holds m dest answer)
    (whole : answer.length = total) (consumed : w'.consumed = before ++ answer)
    (reaches : Reaches w'.client.auth_info w'.client.dest_addr w'.client.state
      (.receiving w'.sent before dest total size)) (sound : Sound event → realloc) :
    ∃ w'' outputs, (match w'.client.state with
        | .SENT_HELLO => receivedHello realloc
        | .SENT_REQUEST => receivedReplyHeader
        | .SENT_PASSWORD => receivedPasswordReply realloc
        | .RECEIVED_REPLY_HEADER => receivedReplyRest
        | _ => Action.throw .assertion : Act Unit).run w' = some (.ok (),w'',outputs) ∧ Outcome w event w'' outputs := by
  generalize at' : w'.client.state = state at reaches
  generalize said : w'.sent = sent at reaches
  cases reaches with
  | sentHello => exact receivedHello_outcome between present holds whole said consumed sound
  | sentPassword offered fits =>
    exact receivedPasswordReply_outcome between present holds whole offered fits said consumed sound
  | sentRequest authenticated => exact receivedReplyHeader_outcome between present holds whole room authenticated said consumed
  | receivedReplyHeader authenticated known =>
    exact receivedReplyRest_outcome between authenticated (by rw [known,whole]) said consumed

theorem read_fine {data : Bytes} {realloc : Bool} (kept : Kept w) (allowed : w.allows (.read data realloc)) :
    Fine w (.read data realloc) := by
  obtain ⟨-,unfailed,some',within⟩ := allowed
  obtain ⟨what,outstanding,bounded⟩ := (Option.any_eq_true _ _).mp within
  have less : data.length ≤ what.len := by simpa using bounded
  cases kept.live unfailed with
  | connecting state =>
    rw [(kept.absent state).2.2] at outstanding
    cases outstanding
  | up state =>
    obtain ⟨taken,given,relays⟩ := kept.relays state
    cases what with
    | buffer offset len => exact absurd outstanding (relays.receiving offset len)
    | user len =>
      refine ⟨{w with receiving := none,consumed := w.consumed ++ data},[.received data],?_,?_⟩
      · rw [handler,SocksClient.read,run_seq (run_get _),outstanding]
        rfl
      · exact ⟨kept_up relays.read,rfl,rfl,rfl,.read state outstanding rfl⟩
  | @talking phase reaches at' =>
    obtain ⟨control,connected,down⟩ := reaches_interfaces reaches
    cases phase with
    | sending earlier message before =>
      obtain ⟨m,used,-,-,-,none',-⟩ := at'
      rw [none'] at outstanding
      cases outstanding
    | receiving earlier before dest total size =>
      obtain ⟨m,got,con,present,room,holds,short,consumed,sender,sending,sent,place,length,all,receiving⟩ := at'
      obtain rfl := Option.some.inj (outstanding.symm.trans receiving)
      have fits := reaches_fits reaches
      have less' : data.length ≤ total - got.length := less
      obtain ⟨m',stored⟩ := exists_store m (dest + got.length) data (by omega)
      have holds' : Holds m' dest (got ++ data) :=
        holds_append.mpr ⟨holds.store stored (.inl le_rfl),holds_store stored⟩
      have room' : size ≤ m'.length := by
        rw [length_store stored]
        exact room
      have consumed' : w.consumed ++ data = before ++ (got ++ data) := by rw [consumed,List.append_assoc]
      have length' : w.client.recv_len + data.length = (got ++ data).length := by rw [length,List.length_append]
      set w' : World := {w with
        client := {w.client with buffer := some m',recv_len := w.client.recv_len + data.length}
        receiving := none
        consumed := w.consumed ++ data}
      have begins : (handler (.read data realloc)).run w =
          (if w.client.recv_len + data.length < w.client.recv_total then do_receive
          else
            match w'.client.state with
            | .SENT_HELLO => receivedHello realloc
            | .SENT_REQUEST => receivedReplyHeader
            | .SENT_PASSWORD => receivedPasswordReply realloc
            | .RECEIVED_REPLY_HEADER => receivedReplyRest
            | _ => Action.throw .assertion : Act Unit).run w' := by
        rw [handler,SocksClient.read,run_seq (run_get _),outstanding]
        dsimp only
        rw [run_seq (run_poke present stored),run_seq (run_modify _ _),SocksClient.recv_handler_done,run_seq (run_get _),
          run_seq (run_ASSERT (by dsimp only; omega))]
        exact run_seq (run_modify _ _)
      rw [Fine,begins]
      by_cases more : w.client.recv_len + data.length < w.client.recv_total
      · -- the rest of the answer is still to come
        rw [if_pos more]
        refine ⟨{w' with receiving := some (.buffer (dest + (got ++ data).length) (total - (got ++ data).length))},[],?_,?_⟩
        · rw [do_receive,run_seq (run_get _),run_seq (run_ASSERT more)]
          rw [length,all] at more
          simp [StreamRecvInterface_Receiver_Recv,w',con,place,all,length,more]
        · refine talks_outcome down reaches ⟨m',got ++ data,con,rfl,room',holds',?_,consumed',sender,sending,sent,place,
            length',all,rfl⟩ rfl rfl rfl unfailed
          rwa [length',all] at more
      · rw [if_neg more]
        have between : Between w w' :=
          ⟨⟨con,sender,sending,rfl⟩,down,control,connected,down,rfl,rfl,rfl,unfailed⟩
        rw [← sent] at reaches
        refine answer_outcome between rfl room' holds' ?_ consumed' reaches id
        rw [List.length_append]
        omega

theorem connection_fine {closed : Bool} (kept : Kept w) (allowed : w.allows (.connection closed)) :
    Fine w (.connection closed) := by
  obtain ⟨-,unfailed,present,-⟩ := allowed
  have connected : w.client.state ≠ .CONNECTING := by
    intro connecting
    rw [kept.con,connecting] at present
    exact present rfl
  have kept' : Kept (fail w) := ⟨kept.con,fun down => ⟨(kept.unasked down).sending,(kept.unasked down).receiving⟩,
    kept.absent,fun up => by
    obtain ⟨taken,given,relays⟩ := kept.relays up
    exact ⟨taken,given,relays.state,relays.con,relays.buffer,relays.sender,relays.sending,relays.receiving,relays.dialogue⟩,
    nofun⟩
  have begins : (handler (.connection closed)).run w =
      (if w.client.state = .UP ∧ closed then report_error .ERROR_CLOSED else report_error .ERROR : Act Unit).run w := by
    rw [handler,connection_handler,run_seq (run_get _),run_seq (run_ASSERT connected)]
  rw [Fine,begins]
  by_cases ends : w.client.state = .UP ∧ closed
  · rw [if_pos ends]
    obtain ⟨up,rfl⟩ := ends
    exact ⟨_,_,run_report_error unfailed _,kept',rfl,rfl,rfl,.closed up rfl⟩
  · rw [if_neg ends]
    exact ⟨_,_,run_report_error unfailed _,kept',rfl,rfl,rfl,.broken rfl⟩

theorem send_fine {data : Bytes} (kept : Kept w) (allowed : w.allows (.Send data)) : Fine w (.Send data) := by
  obtain ⟨-,-,up,none',some'⟩ := allowed
  obtain ⟨taken,given,relays⟩ := kept.relays up
  refine ⟨{w with sending := some (.user data)},[],?_,?_⟩
  · simp [handler,StreamPassInterface_Sender_Send,relays.con,none',some']
  · have relays' : Relays {w with sending := some (.user data)} taken given :=
      ⟨relays.state,relays.con,relays.buffer,relays.sender,by simp,relays.receiving,relays.dialogue⟩
    exact ⟨kept_up relays',rfl,rfl,rfl,.send rfl⟩

theorem recv_fine {len : Nat} (kept : Kept w) (allowed : w.allows (.Recv len)) : Fine w (.Recv len) := by
  obtain ⟨-,-,up,none',some'⟩ := allowed
  obtain ⟨taken,given,relays⟩ := kept.relays up
  refine ⟨{w with receiving := some (.user len)},[],?_,?_⟩
  · simp [handler,StreamRecvInterface_Receiver_Recv,relays.con,none',some']
  · have relays' : Relays {w with receiving := some (.user len)} taken given :=
      ⟨relays.state,relays.con,relays.buffer,relays.sender,relays.sending,by simp,relays.dialogue⟩
    exact ⟨kept_up relays',rfl,rfl,rfl,.recv rfl⟩

/-- What is left of a client that was freed. -/
def release (w : World) : World := {w with
  client := {w.client with buffer := none}
  con := .absent
  sender := none
  sending := none
  receiving := none
  freed := true}

theorem run_free (kept : Kept w) : BSocksClient_Free.run w = some (.ok (),release w,[]) := by
  have frees : ∀ w : World, w.sending = none → w.receiving = none →
      (do
        let w ← Action.get
        if w.client.buffer.isSome then BFree
        Action.modify (fun w => {w with freed := true}) : Act Unit).run w =
        some (.ok (),{w with client := {w.client with buffer := none},freed := true},[]) := by
    intro w sending receiving
    rw [run_seq (run_get _)]
    by_cases present : w.client.buffer.isSome
    · have released : BFree.run w = some (.ok (),{w with client := {w.client with buffer := none}},[]) := by
        simp [BFree,World.inUse,sending,receiving]
      rw [if_pos present,run_seq released]
      rfl
    · have empty : w.client.buffer = none := by simpa using present
      rw [if_neg present,← empty]
      rfl
  have begins : BSocksClient_Free.run w = BSocksClient_Free.run w := rfl
  conv_rhs at begins => rw [BSocksClient_Free,run_seq (run_get _)]
  rw [begins]
  by_cases connecting : w.client.state = .CONNECTING
  · obtain ⟨sender,sending,receiving⟩ := kept.absent connecting
    rw [if_neg (by simp [connecting])]
    refine (frees w sending receiving).trans ?_
    have absent : w.con = .absent := by rw [kept.con,connecting]; rfl
    rw [release,← absent,← sender,← sending,← receiving]
  · rw [if_pos connecting]
    by_cases up : w.client.state = .UP
    · rw [if_pos up,free_up_io,run_seq (run_freeIo (by rw [kept.con,up]; rfl)),BConnection_Free,
        run_seq (run_connection (by rfl))]
      exact frees _ rfl rfl
    · have control : w.con = .control := by
        rw [kept.con]
        cases at' : w.client.state <;> first | rfl | exact absurd at' connecting | exact absurd at' up
      rw [if_neg up,free_control_io,run_seq (run_freeIo control),BConnection_Free,run_seq (run_connection (by rfl))]
      exact frees _ rfl rfl

end

end WSocks.SocksDialogue
