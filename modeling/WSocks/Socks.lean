import WSocks.Platforms
import WSocks.Traffic

/-!
# The SOCKS front end

What the client makes of the messages of a SOCKS5 client: of a greeting, of a
CONNECT request in one chunk, and of the pieces into which TCP may cut them.
-/

namespace WSocks.Socks
open WSocks.Runs WSocks.Effects WSocks.Endian WSocks.Text WSocks.Buffers WSocks.Libraries WSocks.Messages
  WSocks.Client WSocks.Handlers WSocks.Proxy WSocks.Traffic

/-! ### Messages of SOCKS clients -/

/-- The methods that a greeting offers: fewer than 128. -/
def Methods := { methods : List UInt8 // methods.length < 128 }

/-- The greeting of a client. -/
def Methods.greeting (methods : Methods) : Buffer := 0x05 :: UInt8.ofNat methods.1.length :: methods.1

/-- A name of 1 to 255 ASCII bytes. -/
structure Name where
  bytes : List UInt8
  nonempty : 1 ≤ bytes.length
  fits : bytes.length ≤ 255
  ascii : Ascii bytes

/-- The destination of a CONNECT request. -/
inductive Destination
  | address (x : Ipv4)
  | name (n : Name)

/-- The text that stands for the destination in a CONNECT message. -/
def Destination.host : Destination → String
  | .address x => hostAddress x
  | .name n => asciiText n.bytes

/-- The request after its first three bytes and before the port. -/
def Destination.field : Destination → Buffer
  | .address x => 0x01 :: x.bytes
  | .name n => 0x03 :: UInt8.ofNat n.bytes.length :: n.bytes

/-- A CONNECT request. -/
def request (d : Destination) (port : UInt16) : Buffer := [0x05,0x01,0x00] ++ d.field ++ beBytes 2 port.toNat

/-- `BAddr`: an address with a port. -/
inductive BAddr
  | ipv4 (ip : Ipv4) (port : UInt16)
  | ipv6 (ip : Ipv6) (port : UInt16)

/-- The request that `auth_finished` sends: a header, then the address and the port
    as they are in memory, in network byte order. -/
def auth_finished : BAddr → Buffer
  | .ipv4 ip port => [0x05,0x01,0x00,0x01] ++ (ip.bytes ++ beBytes 2 port.toNat)
  | .ipv6 ip port => [0x05,0x01,0x00,0x04] ++ (ip.bytes ++ beBytes 2 port.toNat)

/-- For an IPv4 destination `auth_finished` sends such a request. -/
theorem auth_finished_ipv4 (x : Ipv4) (port : UInt16) :
    auth_finished (.ipv4 x port) = request (.address x) port := rfl

/-- The length of a name fits a signed byte; an address has no length. -/
def Destination.Short : Destination → Prop
  | .address _ => True
  | .name n => n.bytes.length < 128

instance : (d : Destination) → Decidable d.Short
  | .address _ => inferInstanceAs (Decidable True)
  | .name _ => inferInstanceAs (Decidable (_ < _))

/-- The port as the client reads it, with a sign. -/
def signedPort (port : UInt16) : Int32 := (Int16.ofNat port.toNat).toInt32

/-! ### Parsing a whole message -/

private theorem requestDestination_address (x : Ipv4) (port : UInt16) :
    requestDestination (request (.address x) port) 0x01 = .ok (some (hostAddress x,signedPort port)) := by
  have host := getBytes_between [0x05,0x01,0x00,0x01] x.bytes (beBytes 2 port.toNat) (i := 4) (j := 8) rfl rfl
  have read := getShort_between ([0x05,0x01,0x00,0x01] ++ x.bytes) [] port.toNat_lt (i := 8) rfl
  rw [List.append_nil] at read
  have whole : request (.address x) port = [0x05,0x01,0x00,0x01] ++ x.bytes ++ beBytes 2 port.toNat := rfl
  rw [requestDestination,if_pos rfl,whole,host]
  simp only [read,bind,Except.bind]
  rfl

/-- The length of a name is read with a sign. -/
theorem nameLength_toInt (n : Name) : (Int8.ofNat (UInt8.ofNat n.bytes.length).toNat).toInt =
    if n.bytes.length < 128 then (n.bytes.length : Int) else (n.bytes.length : Int) - 256 := by
  have same : (UInt8.ofNat n.bytes.length).toNat = n.bytes.length :=
    UInt8.toNat_ofNat_of_lt' (lt_of_le_of_lt n.fits (by decide))
  rw [toInt_byte,same]

private theorem requestDestination_name (n : Name) (port : UInt16) :
    requestDestination (request (.name n) port) 0x03 =
      if n.bytes.length < 128 then .ok (some (asciiText n.bytes,signedPort port)) else .error .negativeArraySize := by
  have fits := n.fits
  have lengthRead : getByte (request (.name n) port) 4 = .ok (Int8.ofNat (UInt8.ofNat n.bytes.length).toNat) :=
    getByte_index (k := 4) rfl
  have signed := nameLength_toInt n
  rw [requestDestination,if_neg (by decide),if_pos rfl,lengthRead]
  simp only [bind,Except.bind,signed]
  split_ifs with short
  · have five : [0x05,0x01,0x00,0x03,UInt8.ofNat n.bytes.length].length = 5 := rfl
    have whole : request (.name n) port =
        [0x05,0x01,0x00,0x03,UInt8.ofNat n.bytes.length] ++ n.bytes ++ beBytes 2 port.toNat := rfl
    have host := getBytes_between [0x05,0x01,0x00,0x03,UInt8.ofNat n.bytes.length] n.bytes (beBytes 2 port.toNat)
      (i := 5) (j := 5 + n.bytes.length) rfl rfl
    have read := getShort_between ([0x05,0x01,0x00,0x03,UInt8.ofNat n.bytes.length] ++ n.bytes) [] port.toNat_lt
      (i := 5 + n.bytes.length) (by rw [List.length_append,five]; rfl)
    rw [List.append_nil] at read
    rw [whole,getString,host]
    simp only [Except.map,read,decodeUtf8_ascii n.ascii]
    rfl
  · rw [getString,getBytes_backwards _ (by omega)]
    rfl

/-- A whole request is never taken for a greeting. It is read as what it says, unless
    the length of its name does not fit a signed byte. -/
theorem parse_request (d : Destination) (port : UInt16) :
    SocksRequest.parse (request d port) =
      if d.Short then .ok (.connect d.host (signedPort port)) else .error .negativeArraySize := by
  have cmd : getByte (request d port) 1 = .ok 0x01 := getByte_index (k := 1) (b := 0x01) rfl
  have long : (0x01 : Int8).toInt + 2 ≠ (request d port).length := by
    simp [request]
    omega
  rw [SocksRequest.parse,cmd]
  simp only [bind,Except.bind,if_neg long,pure,Except.pure]
  cases d with
  | address x =>
    have addressType : getByte (request (.address x) port) 3 = .ok 0x01 := getByte_index (k := 3) (b := 0x01) rfl
    rw [addressType]
    simp only [requestDestination_address]
    rfl
  | name n =>
    have addressType : getByte (request (.name n) port) 3 = .ok 0x03 := getByte_index (k := 3) (b := 0x03) rfl
    rw [addressType]
    by_cases short : n.bytes.length < 128
    · simp [requestDestination_name,Destination.Short,short]
      rfl
    · simp [requestDestination_name,Destination.Short,short]

theorem rejects_version (rest : Buffer) : rejects (0x05 :: rest) = false := by
  have version : getByte (0x05 :: rest) 0 = .ok 0x05 := getByte_index (k := 0) (b := 0x05) rfl
  simp [rejects,version]

/-- A chunk of version 5 is served without closing the socket. -/
theorem screened_version (world : World) (s : SocketId) (rest : Buffer) :
    screened world s (0x05 :: rest) = (world,[]) := by
  simp [screened,rejects_version]

/-- The number of methods in a greeting is no negative byte. -/
theorem methodCount_toInt {methods : Methods} :
    (Int8.ofNat (UInt8.ofNat methods.1.length).toNat).toInt = methods.1.length := by
  have few := methods.2
  have same : (UInt8.ofNat methods.1.length).toNat = methods.1.length :=
    UInt8.toNat_ofNat_of_lt' (lt_trans few (by decide))
  rw [toInt_byte,same,if_pos few]

theorem parse_greeting (methods : Methods) : SocksRequest.parse methods.greeting = .ok .greeting := by
  have count : getByte methods.greeting 1 = .ok _ := getByte_index (k := 1) rfl
  have all : (Int8.ofNat (UInt8.ofNat methods.1.length).toNat).toInt + 2 = methods.greeting.length := by
    rw [methodCount_toInt]
    simp [Methods.greeting]
    omega
  rw [SocksRequest.parse,count]
  simp only [bind,Except.bind,if_pos all]
  rfl

/-! ### A request in one chunk -/

/-- What a request should lead to: it is no greeting, the connection is entered under
    its uuid, nothing is written back, and one CONNECT message with the host, the
    unsigned port and the uuid goes to the current websocket. -/
def Forwards (env : Env) (draw : Draw) (world : World) (uuid : String) (s : SocketId) (d : Destination)
    (port : UInt16) (buffer : Buffer) : Prop :=
  SocksRequest.parse buffer ≠ .ok .greeting ∧
  ∃ result next w m, (bufferHandler env draw uuid s buffer).run world = some (result,next,[.send w m]) ∧
    next.connectMap uuid = some s ∧ world.ws = some w ∧
    upstream? env.platform env.userInfo m =
      some (.connect (some d.host) (some (Int32.ofNat port.toNat)) (some uuid))

/-- The sign changes nothing exactly for the ports below 32768. -/
theorem signedPort_eq (port : UInt16) : signedPort port = Int32.ofNat port.toNat ↔ port.toNat < 32768 := by
  have small := port.toNat_lt
  have narrow : (signedPort port).toInt = (Int16.ofNat port.toNat).toInt := Int16.toInt_toInt32 _
  have wide : (Int32.ofNat port.toNat).toInt = port.toNat := by
    rw [Int32.toInt_ofNat',Int.bmod_def,show Int32.size = 4294967296 from rfl]
    split_ifs <;> omega
  rw [← Int32.toInt_inj,narrow,wide,toInt_short small]
  split_ifs <;> omega

/-- The run of `bufferHandler` on a request that it can read. -/
theorem request_run (env : Env) (draw : Draw) (world : World) (uuid : String) (s : SocketId) {d : Destination}
    (short : d.Short) (port : UInt16) :
    ∃ message, Carries env draw world (.connect (some d.host) (some (signedPort port)) (some uuid)) message ∧
      (bufferHandler env draw uuid s (request d port)).run world =
        some ((transmission env draw world message).1,world.connect uuid s,(transmission env draw world message).2) := by
  obtain ⟨message,made⟩ := clientConnect_run env uuid d.host (signedPort port)
  refine ⟨message,clientConnect_carries draw world made,?_⟩
  have parsed := parse_request d port
  rw [if_pos short] at parsed
  have unscreened : screened world s (request d port) = (world,[]) := screened_version world s _
  rw [bufferHandler_run,parsed,unscreened]
  simp only [serve,tryConnect_run env draw uuid s d.host _ world made]
  simp

/-- Else nothing leaves the client. -/
theorem request_refused (env : Env) (draw : Draw) (world : World) (uuid : String) (s : SocketId) {d : Destination}
    (port : UInt16) (refused : ¬ (d.Short ∧ Able env ∧ ∃ w, Online world w)) :
    ∃ failure next, (bufferHandler env draw uuid s (request d port)).run world = some (.error failure,next,[]) := by
  by_cases short : d.Short
  · obtain ⟨message,carries,ran⟩ := request_run env draw world uuid s short port
    obtain ⟨failure,silent⟩ := carries.silent (fun able => refused ⟨short,able⟩)
    exact ⟨failure,_,by rw [ran,silent]⟩
  · have parsed := parse_request d port
    rw [if_neg short] at parsed
    have unscreened : screened world s (request d port) = (world,[]) := screened_version world s _
    exact ⟨.negativeArraySize,world,by rw [bufferHandler_run,parsed,unscreened]⟩

theorem Forwards.sendable {env : Env} {draw : Draw} {world : World} {uuid : String} {s : SocketId} {d : Destination}
    {port : UInt16} (forwards : Forwards env draw world uuid s d port (request d port)) :
    port.toNat < 32768 ∧ d.Short ∧ Able env ∧ ∃ w, Online world w := by
  obtain ⟨-,result,next,w,m,ran,-,-,read⟩ := forwards
  by_cases possible : d.Short ∧ Able env ∧ ∃ w, Online world w
  · obtain ⟨message,carries,ran'⟩ := request_run env draw world uuid s possible.1 port
    rw [ran] at ran'
    simp only [Option.some.injEq,Prod.mk.injEq] at ran'
    have said := carries.2 w m (by rw [← ran'.2.2]; simp)
    rw [read] at said
    simp only [Option.some.injEq,Upstream.connect.injEq,true_and,and_true] at said
    exact ⟨(signedPort_eq port).mp said.symm,possible⟩
  · obtain ⟨failure,next',ran'⟩ := request_refused env draw world uuid s port possible
    simp [ran] at ran'

/-- A request is forwarded as it should be exactly when its port is below 32768, its
    name is shorter than 128 bytes, and the client can send at all. -/
theorem request_forwarded_iff (env : Env) (draw : Draw) (world : World) (uuid : String) (s : SocketId)
    (d : Destination) (port : UInt16) :
    Forwards env draw world uuid s d port (request d port) ↔
      port.toNat < 32768 ∧ d.Short ∧ Able env ∧ ∃ w, Online world w := by
  refine ⟨Forwards.sendable,?_⟩
  rintro ⟨low,short,able,w,online⟩
  obtain ⟨message,carries,ran⟩ := request_run env draw world uuid s short port
  obtain ⟨m,sent,read⟩ := carries.sends able online
  refine ⟨?_,.ok (),world.connect uuid s,w,m,by rw [ran,sent],by simp,online.1,?_⟩
  · rw [parse_request,if_pos short]
    simp
  · rw [read,(signedPort_eq port).mpr low]

/-- Port 32768 of 10.0.0.1 is asked for as port -32768. -/
theorem request_not_forwarded : Able Platforms.env ∧
    Online ((started.setWebSocket 0 true).answerLogin.setWs 0) 0 ∧
    ¬ Forwards Platforms.env Platforms.draw ((started.setWebSocket 0 true).answerLogin.setWs 0) Platforms.uuid 0
      (.address ⟨10,0,0,1⟩) 32768 (request (.address ⟨10,0,0,1⟩) 32768) := by
  refine ⟨by decide,by simp [Online],?_⟩
  intro forwards
  exact absurd forwards.sendable.1 (by decide)

end WSocks.Socks
