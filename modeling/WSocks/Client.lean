import WSocks.Messages

/-!
# The client

The handlers of `ClientWebSocket`. The state holds the two maps, the field `ws`
and what Vert.x keeps of every socket and every websocket; a handler may raise an
exception, which ends it and keeps what it has done so far.
-/

namespace WSocks.Client
open WSocks.Effects WSocks.Text WSocks.Buffers WSocks.Libraries WSocks.Messages

abbrev SocketId := Nat
abbrev WebSocketId := Nat

/-- What the handlers read and never change. -/
structure Env where
  platform : Platform
  userInfo : UserInfo

/-- The random choices of one event: `UUID.randomUUID()` and `Random().nextBytes`. -/
structure Draw where
  uuid : String
  bytes : Nat → UInt8

/-- What a socket does with the data it reads. -/
inductive DataHandler
  | bufferHandler (uuid : String)
  | relay (uuid : String)
  | handleQuery
  deriving DecidableEq

/-- A `NetSocket`. Once `close()` or `end()` was called it is `closing`; it is
    `closed` when its close event came. The close handler removes a uuid. -/
structure Socket where
  handler : Option DataHandler
  closeHandler : Option String
  closing : Bool
  closed : Bool
  deriving DecidableEq

namespace Socket

/-- After `handler(h)`. -/
@[simps] def handle (socket : Socket) (h : DataHandler) : Socket := { socket with handler := some h }
/-- After `closeHandler { connectMap.remove(uuid) }`. -/
@[simps] def onClose (socket : Socket) (uuid : String) : Socket := { socket with closeHandler := some uuid }
/-- After `close()` or `end()`. -/
@[simps] def shut (socket : Socket) : Socket := { socket with closing := true }
/-- After its close event. -/
@[simps] def gone (socket : Socket) : Socket := { socket with closed := true }
/-- A new connection. -/
def fresh : Socket := ⟨none,none,false,false⟩

end Socket

/-- What the client does to the outside. -/
inductive Output
  | write (s : SocketId) (bytes : Buffer)
  | close (s : SocketId)
  | finish (s : SocketId)
  | send (w : WebSocketId) (message : Buffer)
  | ping (w : WebSocketId)
  | closeWebSocket (w : WebSocketId)
  | login
  | closeServer
  deriving DecidableEq

/-- The fields of `ClientWebSocket`, the sockets and websockets (whether each is
    open), and how many calls of `login` have not been answered. -/
structure World where
  sockets : SocketId → Option Socket
  connectMap : String → Option SocketId
  dnsQueryMap : String → Option (SocketId × Buffer)
  ws : Option WebSocketId
  webSockets : WebSocketId → Option Bool
  logins : Nat

abbrev Handler := Action Failure World Output

/-! ### Changes of the state -/

namespace World

/-- Changes one socket. -/
@[simps -fullyApplied] def updateSocket (world : World) (s : SocketId) (change : Socket → Socket) : World :=
  { world with sockets := Function.update world.sockets s ((world.sockets s).map change) }
/-- Puts a socket in place, as Vert.x does for a new connection. -/
@[simps -fullyApplied] def openSocket (world : World) (s : SocketId) (socket : Socket) : World :=
  { world with sockets := Function.update world.sockets s (some socket) }
/-- `connectMap[uuid] = s`. -/
@[simps -fullyApplied] def connect (world : World) (uuid : String) (s : SocketId) : World :=
  { world with connectMap := Function.update world.connectMap uuid (some s) }
/-- `connectMap.remove(uuid)`. -/
@[simps -fullyApplied] def disconnect (world : World) (uuid : String) : World :=
  { world with connectMap := Function.update world.connectMap uuid none }
/-- `connectMap.clear()`. -/
@[simps -fullyApplied] def clear (world : World) : World := { world with connectMap := fun _ => none }
/-- `dnsQueryMap[uuid] = s to query`. -/
@[simps -fullyApplied] def ask (world : World) (uuid : String) (s : SocketId) (query : Buffer) : World :=
  { world with dnsQueryMap := Function.update world.dnsQueryMap uuid (some (s,query)) }
/-- `dnsQueryMap.remove(uuid)`. -/
@[simps -fullyApplied] def unask (world : World) (uuid : String) : World :=
  { world with dnsQueryMap := Function.update world.dnsQueryMap uuid none }
/-- `ws = w`. -/
@[simps -fullyApplied] def setWs (world : World) (w : WebSocketId) : World := { world with ws := some w }
/-- One more call of `login`, or one answer to it. -/
@[simps -fullyApplied] def callLogin (world : World) : World := { world with logins := world.logins + 1 }
@[simps -fullyApplied] def answerLogin (world : World) : World := { world with logins := world.logins - 1 }
/-- Opens or closes a websocket. -/
@[simps -fullyApplied] def setWebSocket (world : World) (w : WebSocketId) (isOpen : Bool) : World :=
  { world with webSockets := Function.update world.webSockets w (some isOpen) }

@[simp] theorem updateSocket_openSocket (world : World) (s : SocketId) (socket : Socket) (change : Socket → Socket) :
    (world.openSocket s socket).updateSocket s change = world.openSocket s (change socket) := by
  simp [updateSocket,openSocket]

end World

/-! ### Sockets and websockets -/

/-- `netSocket.write(bytes)`. -/
def write (s : SocketId) (bytes : Buffer) : Handler Unit := Action.emit (.write s bytes)

/-- `netSocket.close()`. -/
def close (s : SocketId) : Handler Unit := do
  Action.modify (fun world => world.updateSocket s Socket.shut)
  Action.emit (.close s)

/-- `netSocket.end()`. -/
def finish (s : SocketId) : Handler Unit := do
  Action.modify (fun world => world.updateSocket s Socket.shut)
  Action.emit (.finish s)

/-- `netSocket.handler(h)`. -/
def setHandler (s : SocketId) (h : DataHandler) : Handler Unit :=
  Action.modify (fun world => world.updateSocket s (fun socket => socket.handle h))

/-- Reads the `lateinit` field `ws`. -/
def readWs : Handler WebSocketId := do
  let world ← Action.get
  match world.ws with
  | some w => return w
  | none => Action.throw .uninitializedProperty

/-- `writeBinaryMessage(data)`, which a closed websocket refuses. -/
def writeBinaryMessage (w : WebSocketId) (data : Buffer) : Handler Unit := do
  let world ← Action.get
  if world.webSockets w = some true then Action.emit (.send w data) else Action.throw .illegalState

/-- `writePing(Buffer.buffer())`. -/
def writePing (w : WebSocketId) : Handler Unit := do
  let world ← Action.get
  if world.webSockets w = some true then Action.emit (.ping w) else Action.throw .illegalState

/-- `ws.close()`. -/
def closeWebSocket (env : Env) (w : WebSocketId) : Handler Unit := do
  let world ← Action.get
  if world.webSockets w = some true then
    Action.modify (fun world => world.setWebSocket w false)
    Action.emit (.closeWebSocket w)
  else env.platform.closeAgain

/-- `ByteArray(offset)` filled by `nextBytes`. -/
def randomBytes (draw : Draw) (offset : Int) : Except Failure Buffer :=
  if offset < 0 then .error .negativeArraySize else .ok ((List.range offset.toNat).map draw.bytes)

/-- `writeBinaryMessageWithOffset`. -/
def writeBinaryMessageWithOffset (env : Env) (draw : Draw) (w : WebSocketId) (data : Buffer) : Handler Unit := do
  if env.userInfo.offset = 0 then writeBinaryMessage w data
  else
    let bytes ← randomBytes draw env.userInfo.offset
    writeBinaryMessage w (bytes ++ data)

/-- `ws.writeBinaryMessageWithOffset(create)`: the field is read before the message
    is made. -/
def wsWrite (env : Env) (draw : Draw) (create : Attempt Failure Buffer) : Handler Unit := do
  let ws ← readWs
  let message ← create
  writeBinaryMessageWithOffset env draw ws message

/-! ### SOCKS connections -/

/-- `tryConnect`. -/
def tryConnect (env : Env) (draw : Draw) (uuid : String) (netSocket : SocketId) (host : String) (port : Int32) :
    Handler Unit := do
  Action.modify (fun world => world.connect uuid netSocket)
  wsWrite env draw (ClientConnect.create env.platform env.userInfo uuid host port)

/-- `handshakeHandler`. -/
def handshakeHandler (netSocket : SocketId) : Handler Unit :=
  write netSocket (appendByte (appendByte [] 0x05) 0x00)

/-- The host and the port that `requestHandler` reads, by the type of the address;
    `none` for a type it does not know. -/
def requestDestination (buffer : Buffer) (addressType : Int8) : Except Failure (Option (String × Int32)) :=
  if addressType = 0x01 then do
    let bytes ← getBytes buffer 4 8
    let host := match bytes with
      | [a,b,c,d] => hostAddress ⟨a,b,c,d⟩
      | _ => ""
    let port ← getShort buffer 8
    return some (host,port.toInt32)
  else if addressType = 0x03 then do
    let hostLen ← getByte buffer 4
    let host ← getString buffer 5 (5 + hostLen.toInt)
    let port ← getShort buffer (5 + hostLen.toInt)
    return some (host,port.toInt32)
  else return none

/-- `Inet4Address.getByName("127.0.0.1").address`. -/
def address : Buffer := [127,0,0,1]

/-- `requestHandler`. -/
def requestHandler (env : Env) (draw : Draw) (uuid : String) (netSocket : SocketId) (buffer : Buffer) :
    Handler Unit := do
  let cmd ← getByte buffer 1
  let addressType ← getByte buffer 3
  match ← requestDestination buffer addressType with
  | none => write netSocket (appendByte (appendByte [] 0x05) 0x08)
  | some (host,port) =>
    if cmd = 0x01 then tryConnect env draw uuid netSocket host port
    else if cmd = 0x03 then
      write netSocket (appendUnsignedShortLE
        (appendByte (appendByte (appendByte (appendByte [] 0x05) 0x00) 0x00) 0x01 ++ address) 29799)
    else write netSocket (appendByte (appendByte [] 0x05) 0x07)

/-- `bufferHandler`; after closing the socket for a wrong version it goes on. -/
def bufferHandler (env : Env) (draw : Draw) (uuid : String) (netSocket : SocketId) (buffer : Buffer) :
    Handler Unit := do
  let version ← getByte buffer 0
  if version ≠ 0x05 then close netSocket
  let methods ← getByte buffer 1
  if methods.toInt + 2 = buffer.length then handshakeHandler netSocket
  else requestHandler env draw uuid netSocket buffer

/-- The handler that `wsConnectedHandler` installs. -/
def relay (env : Env) (draw : Draw) (uuid : String) (buffer : Buffer) : Handler Unit :=
  wsWrite env draw (RawData.create env.platform env.userInfo uuid buffer)

/-- `wsConnectedHandler`. -/
def wsConnectedHandler (uuid : String) : Handler Unit := do
  let world ← Action.get
  match world.connectMap uuid with
  | none => return
  | some netSocket =>
    setHandler netSocket (.relay uuid)
    write netSocket (appendByte (appendByte (appendByte (appendByte [] 0x05) 0x00) 0x00) 0x01 ++ List.replicate 6 0x00)

/-- `wsReceivedRawHandler`. -/
def wsReceivedRawHandler (data : RawData) : Handler Unit := do
  let world ← Action.get
  match world.connectMap data.uuid with
  | none => return
  | some netSocket => write netSocket data.data

/-- A reference that is null raises an exception. -/
def nonNull {α : Type} : Option α → Except Failure α
  | some a => .ok a
  | none => .error .nullPointer

/-- `wsExceptionHandler`. -/
def wsExceptionHandler (e : Exception) : Handler Unit := do
  let uuid ← nonNull (← e.uuid)
  let world ← Action.get
  Action.modify (fun world => world.disconnect uuid)
  match world.connectMap uuid with
  | none => pure ()
  | some netSocket => close netSocket
  let _message ← nonNull (← e.message)

/-! ### DNS queries -/

/-- `getName` inside `handleQuery`: appends the labels to `sb` and returns the
    offset behind the name. -/
def getName (buffer : Buffer) (offset : Int) (sb : String) : Except Failure (Int × String) :=
  match getByte buffer offset with
  | .error failure => .error failure
  | .ok length =>
    if length = 0 then .ok (offset + 1,sb)
    else
      match _read : getBytes buffer (offset + 1) (offset + 1 + length.toInt) with
      | .error failure => .error failure
      | .ok bytes => getName buffer (offset + 1 + length.toInt) (sb ++ decodeUtf8 bytes ++ ".")
termination_by (buffer.length - offset).toNat
decreasing_by
  obtain ⟨front,back,whole,start,finish⟩ := getBytes_ok _read
  have total := congrArg List.length whole
  simp only [List.length_append] at total
  omega

/-- `removeSuffix(".")`. -/
def removeDot (text : String) : String :=
  if text.toList.getLast? = some '.' then String.ofList text.toList.dropLast else text

/-- `handleQuery`; the query is remembered before `ws` is read. -/
def handleQuery (env : Env) (draw : Draw) (socket : SocketId) (buffer : Buffer) : Handler Unit := do
  let (_,sb) ← getName buffer 14 ""
  let host := removeDot sb
  let uuid := draw.uuid
  Action.modify (fun world => world.ask uuid socket buffer)
  wsWrite env draw (DnsQuery.create env.platform env.userInfo uuid host)

/-- `response`. -/
def response (platform : Platform) (id : Int16) (ip : String) (query : Buffer) : Except Failure Buffer := do
  let inetAddress ← platform.getByName ip
  let buffer := appendShort [] id
  let buffer := appendUnsignedShort buffer 0x8180
  let buffer := appendUnsignedShort buffer 1
  let buffer := appendUnsignedShort buffer 1
  let buffer := appendUnsignedShort buffer 0
  let buffer := appendUnsignedShort buffer 0
  let buffer := buffer ++ query
  let buffer := appendUnsignedShort buffer 0xC00C
  let buffer := appendUnsignedShort buffer 1
  let buffer := appendUnsignedShort buffer 1
  let buffer := appendUnsignedInt buffer 86400
  let buffer := appendUnsignedShort buffer 4
  return buffer ++ inetAddress.address

/-- What `wsReceivedDNSHandler` writes for a remembered query. -/
def answer (platform : Platform) (host : Option String) (buffer : Buffer) : Except Failure Buffer := do
  let id ← getShort buffer 2
  let ip ← nonNull host
  let query ← getBuffer buffer 14 buffer.length
  let buf ← response platform id ip query
  return appendShort [] (Int16.ofNat buf.length) ++ buf

/-- `wsReceivedDNSHandler`. -/
def wsReceivedDNSHandler (env : Env) (data : DnsQuery) : Handler Unit := do
  let uuid ← nonNull (← data.uuid)
  let world ← Action.get
  Action.modify (fun world => world.unask uuid)
  match world.dnsQueryMap uuid with
  | none => return
  | some (sock,buffer) =>
    let bytes ← answer env.platform data.host buffer
    write sock bytes
    finish sock

/-! ### The websocket -/

/-- The handler of binary messages. -/
def binaryMessageHandler (env : Env) (message : Buffer) : Handler Unit := do
  if message.length < 4 then return
  let buffer ← if env.userInfo.offset ≠ 0 then getBuffer message env.userInfo.offset message.length else pure message
  let tag ← getIntLE buffer 0
  if tag = Flag.CONNECT_SUCCESS.ordinal then
    let success ← ConnectSuccess.ofBuffer env.platform env.userInfo buffer
    wsConnectedHandler success.uuid
  else if tag = Flag.EXCEPTION.ordinal then
    let e ← Exception.ofBuffer env.platform env.userInfo buffer
    wsExceptionHandler e
  else if tag = Flag.RAW.ordinal then
    let data ← RawData.ofBuffer env.platform env.userInfo buffer
    wsReceivedRawHandler data
  else if tag = Flag.DNS.ordinal then
    let data ← DnsQuery.ofBuffer env.platform env.userInfo buffer
    wsReceivedDNSHandler env data
  else return

/-- `login`: the answer comes as a later event. -/
def login : Handler Unit := do
  Action.modify (fun world => world.callLogin)
  Action.emit .login

/-- The handler that `login` passes to `websocket`. -/
def webSocketConnected (webSocket : WebSocketId) : Handler Unit := do
  writePing webSocket
  Action.modify (fun world => world.setWs webSocket)

/-- The exception handler of every websocket; it closes the current one. -/
def exceptionHandler (env : Env) : Handler Unit := do
  let ws ← readWs
  closeWebSocket env ws
  login

/-! ### Servers, timer and `stop` -/

/-- The connect handler of `initSocksServer`. -/
def socksConnectHandler (socket : SocketId) (uuid : String) : Handler Unit := do
  let world ← Action.get
  if world.ws = none then close socket
  else
    setHandler socket (.bufferHandler uuid)
    Action.modify (fun world => world.updateSocket socket (fun kept => kept.onClose uuid))

/-- The connect handler of the DNS server. -/
def dnsConnectHandler (socket : SocketId) : Handler Unit := setHandler socket .handleQuery

/-- What a socket does with data, by its handler. -/
def dataHandler (env : Env) (draw : Draw) (socket : SocketId) (buffer : Buffer) : DataHandler → Handler Unit
  | .bufferHandler uuid => bufferHandler env draw uuid socket buffer
  | .relay uuid => relay env draw uuid buffer
  | .handleQuery => handleQuery env draw socket buffer

/-- The close handler of a socket that has one. -/
def closeHandler : Option String → Handler Unit
  | some uuid => Action.modify (fun world => world.disconnect uuid)
  | none => return

/-- The handler of the periodic timer. -/
def periodic : Handler Unit := do
  let world ← Action.get
  match world.ws with
  | some ws => writePing ws
  | none => return

/-- `stop`. -/
def stop (env : Env) : Handler Unit := do
  Action.emit .closeServer
  let ws ← readWs
  closeWebSocket env ws
  Action.modify (fun world => world.clear)

end WSocks.Client
