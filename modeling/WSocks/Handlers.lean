import WSocks.Client

/-!
# What the handlers do

For every handler the state and the outputs it ends with. A message of the server
is first read, then handled; a chunk of a local client is first parsed, then
answered. The handlers themselves do both in one go, and the theorems of this
module say that nothing is lost by looking at the two parts separately.
-/

namespace WSocks.Handlers
open WSocks.Effects WSocks.Text WSocks.Buffers WSocks.Libraries WSocks.Messages WSocks.Client

/-! ### Writing to the websocket -/

/-- The random bytes in front of a message. -/
def pad (env : Env) (draw : Draw) : Buffer := (List.range env.userInfo.offset.toNat).map draw.bytes

/-- What `ws.writeBinaryMessageWithOffset` does with a message: it ends with an
    exception, or it sends the message behind as many random bytes as the offset. -/
def transmission (env : Env) (draw : Draw) (world : World) (message : Except Failure Buffer) :
    Except Failure Unit × List Output :=
  match world.ws,message with
  | none,_ => (.error .uninitializedProperty,[])
  | some _,.error failure => (.error failure,[])
  | some w,.ok frame =>
    if env.userInfo.offset < 0 then (.error .negativeArraySize,[])
    else if world.webSockets w = some true then (.ok (),[.send w (pad env draw ++ frame)])
    else (.error .illegalState,[])

theorem pad_length {env : Env} (draw : Draw) (nonneg : 0 ≤ env.userInfo.offset) :
    env.userInfo.offset = (pad env draw).length := by
  simp [pad,nonneg]

theorem writeBinaryMessageWithOffset_run (env : Env) (draw : Draw) (w : WebSocketId) (frame : Buffer) (world : World) :
    (writeBinaryMessageWithOffset env draw w frame).run world =
      some (if env.userInfo.offset < 0 then (.error .negativeArraySize,world,[])
        else if world.webSockets w = some true then (.ok (),world,[.send w (pad env draw ++ frame)])
        else (.error .illegalState,world,[])) := by
  by_cases zero : env.userInfo.offset = 0
  · by_cases isOpen : world.webSockets w = some true <;>
      simp [writeBinaryMessageWithOffset,writeBinaryMessage,pad,zero,isOpen]
  · by_cases negative : env.userInfo.offset < 0
    · simp [writeBinaryMessageWithOffset,randomBytes,zero,negative]
    · by_cases isOpen : world.webSockets w = some true <;>
        simp [writeBinaryMessageWithOffset,writeBinaryMessage,randomBytes,pad,zero,negative,isOpen]

theorem wsWrite_run (env : Env) (draw : Draw) (world : World) {create : Attempt Failure Buffer}
    {message : Except Failure Buffer} (made : create.run = some message) :
    (wsWrite env draw create).run world =
      some ((transmission env draw world message).1,world,(transmission env draw world message).2) := by
  cases connected : world.ws with
  | none => simp [wsWrite,readWs,transmission,connected]
  | some w =>
    cases message with
    | error failure => simp [wsWrite,readWs,transmission,connected,made]
    | ok frame =>
      simp only [wsWrite,readWs,transmission,connected,Action.run_bind]
      simp [writeBinaryMessageWithOffset_run,made,connected]
      split_ifs <;> simp

/-- The client can send: the current websocket is open. -/
def Online (world : World) (w : WebSocketId) : Prop := world.ws = some w ∧ world.webSockets w = some true

/-- What every user needs to send at all: a key that AES accepts and an offset that
    is not negative. -/
def Able (env : Env) : Prop := AesKey env.userInfo.key ∧ 0 ≤ env.userInfo.offset

instance (world : World) (w : WebSocketId) : Decidable (Online world w) := inferInstanceAs (Decidable (_ ∧ _))
instance (env : Env) : Decidable (Able env) := inferInstanceAs (Decidable (_ ∧ _))

/-- Only an open websocket carries a message, and only one. -/
theorem mem_transmission {env : Env} {draw : Draw} {world : World} {message : Except Failure Buffer} {o : Output}
    (member : o ∈ (transmission env draw world message).2) :
    ∃ w frame, Online world w ∧ message = .ok frame ∧ 0 ≤ env.userInfo.offset ∧ o = .send w (pad env draw ++ frame) ∧
      (transmission env draw world message) = (.ok (),[o]) := by
  unfold transmission at member ⊢
  split at member
  · simp at member
  · simp at member
  · rename_i w frame connected
    split_ifs at member ⊢ with negative isOpen
    · simp at member
    · obtain rfl := List.mem_singleton.mp member
      exact ⟨w,frame,⟨connected,isOpen⟩,rfl,not_lt.mp negative,rfl,rfl⟩
    · simp at member

theorem transmission_single (env : Env) (draw : Draw) (world : World) (message : Except Failure Buffer) :
    (transmission env draw world message).2 = [] ∨ ∃ w m, (transmission env draw world message).2 = [.send w m] := by
  rcases outputs : (transmission env draw world message).2 with _ | ⟨o,rest⟩
  · exact .inl rfl
  · obtain ⟨w,frame,-,-,-,rfl,single⟩ := mem_transmission (outputs ▸ List.mem_cons_self)
    exact .inr ⟨_,_,by rw [← outputs,single]⟩

theorem transmission_online {env : Env} {world : World} {w : WebSocketId} (online : Online world w)
    (nonneg : 0 ≤ env.userInfo.offset) (draw : Draw) (frame : Buffer) :
    transmission env draw world (.ok frame) = (.ok (),[.send w (pad env draw ++ frame)]) := by
  simp [transmission,online.1,online.2,not_lt.mpr nonneg]

/-- Offline nothing is sent. -/
theorem transmission_offline {env : Env} {draw : Draw} {world : World} {message : Except Failure Buffer}
    (offline : ∀ w, ¬ Online world w) : ∃ failure, transmission env draw world message = (.error failure,[]) := by
  unfold transmission
  split
  · exact ⟨_,rfl⟩
  · exact ⟨_,rfl⟩
  · rename_i w frame connected
    split_ifs with negative isOpen
    · exact ⟨_,rfl⟩
    · exact absurd ⟨connected,isOpen⟩ (offline w)
    · exact ⟨_,rfl⟩

/-! ### Messages to the server -/

/-- A message is made whenever AES accepts the key; else there is an exception. -/
theorem packMessage_run (env : Env) (flag : Flag) (body : Buffer) :
    ∃ message, (packMessage env.platform env.userInfo flag body).run = some message ∧
      ((∃ frame, message = .ok frame) ↔ AesKey env.userInfo.key) := by
  by_cases valid : AesKey env.userInfo.key
  · obtain ⟨frame,packed,-⟩ := packMessage_ok env.platform valid flag body
    exact ⟨.ok frame,by rw [packed]; rfl,by simp [valid]⟩
  · obtain ⟨failure,refused⟩ := packMessage_invalid env.platform valid flag body
    exact ⟨.error failure,by rw [refused]; rfl,by simp [valid]⟩

/-- What is sent for a message that the server reads as `received`, if anything. -/
def Carries (env : Env) (draw : Draw) (world : World) (received : Upstream) (message : Except Failure Buffer) : Prop :=
  ((∃ frame, message = .ok frame) ↔ AesKey env.userInfo.key) ∧
    ∀ w m, .send w m ∈ (transmission env draw world message).2 → upstream? env.platform env.userInfo m = some received

/-- With an able user and an open websocket exactly one message goes out. -/
theorem Carries.sends {env : Env} {draw : Draw} {world : World} {received : Upstream}
    {message : Except Failure Buffer} {w : WebSocketId} (carries : Carries env draw world received message)
    (able : Able env) (online : Online world w) :
    ∃ m, transmission env draw world message = (.ok (),[.send w m]) ∧
      upstream? env.platform env.userInfo m = some received := by
  obtain ⟨frame,rfl⟩ := carries.1.mpr able.1
  have sent := transmission_online online able.2 draw frame
  exact ⟨_,sent,carries.2 w _ (by simp [sent])⟩

theorem Carries.silent {env : Env} {draw : Draw} {world : World} {received : Upstream}
    {message : Except Failure Buffer} (carries : Carries env draw world received message)
    (unable : ¬ (Able env ∧ ∃ w, Online world w)) :
    ∃ failure, transmission env draw world message = (.error failure,[]) := by
  by_cases online : ∃ w, Online world w
  · obtain ⟨w,connected,isOpen⟩ := online
    cases message with
    | error failure => exact ⟨failure,by simp [transmission,connected]⟩
    | ok frame =>
      have valid := carries.1.mp ⟨frame,rfl⟩
      have negative : env.userInfo.offset < 0 := by
        by_contra nonneg
        exact unable ⟨⟨valid,not_lt.mp nonneg⟩,w,connected,isOpen⟩
      exact ⟨_,by simp [transmission,connected,negative]; rfl⟩
  · exact transmission_offline (fun w holds => online ⟨w,holds⟩)

/-- A message whose reading is known for every offset is carried. -/
private theorem carries_of_frame {env : Env} {draw : Draw} {world : World} {received : Upstream} {flag : Flag}
    {body : Buffer} {message : Except Failure Buffer}
    (made : (packMessage env.platform env.userInfo flag body).run = some message)
    (reads : AesKey env.userInfo.key → ∀ front : Buffer, env.userInfo.offset = front.length →
      ∃ frame, packMessage env.platform env.userInfo flag body = pure frame ∧
        upstream? env.platform env.userInfo (front ++ frame) = some received) :
    Carries env draw world received message := by
  obtain ⟨message',made',valid⟩ := packMessage_run env flag body
  obtain rfl := Option.some.inj (made.symm.trans made')
  refine ⟨valid,?_⟩
  intro w m member
  obtain ⟨w',frame,-,rfl,nonneg,same,-⟩ := mem_transmission member
  cases same
  obtain ⟨frame',packed,read⟩ := reads (valid.mp ⟨frame,rfl⟩) (pad env draw) (pad_length draw nonneg)
  rw [packed] at made
  cases made
  exact read

section Made
variable {env : Env} {message : Except Failure Buffer} (draw : Draw) (world : World)

theorem clientConnect_carries {uuid host : String} {port : Int32}
    (made : (ClientConnect.create env.platform env.userInfo uuid host port).run = some message) :
    Carries env draw world (.connect (some host) (some port) (some uuid)) message :=
  carries_of_frame made (fun valid _ strips => upstream?_connect env.platform valid strips uuid host port)

theorem rawData_carries {uuid : String} (canonical : CanonicalUuid uuid) {data : Buffer}
    (made : (RawData.create env.platform env.userInfo uuid data).run = some message) :
    Carries env draw world (.raw uuid data) message :=
  carries_of_frame made (fun valid _ strips => upstream?_raw env.platform valid strips canonical data)

theorem dnsQuery_carries {uuid host : String}
    (made : (DnsQuery.create env.platform env.userInfo uuid host).run = some message) :
    Carries env draw world (.dns (some host) (some uuid)) message :=
  carries_of_frame made (fun valid _ strips => upstream?_dns env.platform valid strips uuid host)

end Made

/-! ### Chunks of SOCKS clients -/

/-- What `bufferHandler` takes a chunk for. -/
inductive SocksRequest
  | greeting
  | unsupportedAddress
  | connect (host : String) (port : Int32)
  | associate
  | unsupportedCommand
  deriving DecidableEq

/-- What a request asks for, by its command and its destination. -/
def SocksRequest.ofCommand (cmd : Int8) : Option (String × Int32) → SocksRequest
  | none => .unsupportedAddress
  | some (host,port) =>
    if cmd = 0x01 then .connect host port else if cmd = 0x03 then .associate else .unsupportedCommand

/-- The parser inside `bufferHandler` and `requestHandler`. -/
def SocksRequest.parse (buffer : Buffer) : Except Failure SocksRequest := do
  let methods ← getByte buffer 1
  if methods.toInt + 2 = buffer.length then return .greeting
  let addressType ← getByte buffer 3
  let destination ← requestDestination buffer addressType
  return .ofCommand methods destination

/-- What is written back at once; nothing to a request to connect. -/
def SocksRequest.reply : SocksRequest → Buffer
  | .greeting => [0x05,0x00]
  | .unsupportedAddress => [0x05,0x08]
  | .connect _ _ => []
  | .associate => appendUnsignedShortLE ([0x05,0x00,0x00,0x01] ++ address) 29799
  | .unsupportedCommand => [0x05,0x07]

/-- The chunk does not begin with version 5. -/
def rejects (buffer : Buffer) : Bool :=
  match getByte buffer 0 with
  | .ok version => version ≠ 0x05
  | .error _ => false

/-- The state and the output after the check of the version. -/
def screened (world : World) (s : SocketId) (buffer : Buffer) : World × List Output :=
  if rejects buffer then (world.updateSocket s Socket.shut,[.close s]) else (world,[])

theorem tryConnect_run (env : Env) (draw : Draw) (uuid : String) (s : SocketId) (host : String) (port : Int32)
    (world : World) {message : Except Failure Buffer}
    (made : (ClientConnect.create env.platform env.userInfo uuid host port).run = some message) :
    (tryConnect env draw uuid s host port).run world =
      some ((transmission env draw world message).1,world.connect uuid s,(transmission env draw world message).2) := by
  simp [tryConnect,wsWrite_run env draw _ made]
  constructor <;> rfl

/-- The answer to a parsed request. -/
def serve (env : Env) (draw : Draw) (uuid : String) (s : SocketId) : SocksRequest → Handler Unit
  | .connect host port => tryConnect env draw uuid s host port
  | request => write s request.reply

private theorem serve_ofCommand (env : Env) (draw : Draw) (uuid : String) (s : SocketId) (cmd : Int8) (host : String)
    (port : Int32) :
    serve env draw uuid s (.ofCommand cmd (some (host,port))) =
      if cmd = 0x01 then tryConnect env draw uuid s host port
      else if cmd = 0x03 then
        write s (appendUnsignedShortLE
          (appendByte (appendByte (appendByte (appendByte [] 0x05) 0x00) 0x00) 0x01 ++ address) 29799)
      else write s (appendByte (appendByte [] 0x05) 0x07) := by
  rw [SocksRequest.ofCommand]
  split_ifs <;> rfl

/-- What is no greeting is parsed and answered as a request. -/
private theorem requestHandler_run (env : Env) (draw : Draw) (uuid : String) (s : SocketId) (buffer : Buffer)
    (world : World) {methods : Int8} (read : getByte buffer 1 = .ok methods)
    (request : methods.toInt + 2 ≠ buffer.length) :
    (requestHandler env draw uuid s buffer).run world =
      match SocksRequest.parse buffer with
      | .error failure => some (.error failure,world,[])
      | .ok request => (serve env draw uuid s request).run world := by
  cases typed : getByte buffer 3 with
  | error failure => simp [requestHandler,SocksRequest.parse,read,typed,request,bind,Except.bind]
  | ok addressType =>
    cases destination : requestDestination buffer addressType with
    | error failure => simp [requestHandler,SocksRequest.parse,read,typed,request,destination,bind,Except.bind]
    | ok target =>
      have parsed : SocksRequest.parse buffer = .ok (.ofCommand methods target) := by
        simp [SocksRequest.parse,read,typed,request,destination,bind,Except.bind,pure,Except.pure]
      rw [parsed]
      rcases target with _ | ⟨host,port⟩
      · simp [requestHandler,read,typed,destination,SocksRequest.ofCommand,serve,SocksRequest.reply,appendByte]
      · simp [requestHandler,read,typed,destination,serve_ofCommand]

/-- What follows the check of the version. -/
private theorem afterVersion_run (env : Env) (draw : Draw) (uuid : String) (s : SocketId) (buffer : Buffer) (world : World) :
    (do
      let methods ← getByte buffer 1
      if methods.toInt + 2 = buffer.length then handshakeHandler s
      else requestHandler env draw uuid s buffer : Handler Unit).run world =
      match SocksRequest.parse buffer with
      | .error failure => some (.error failure,world,[])
      | .ok request => (serve env draw uuid s request).run world := by
  cases read : getByte buffer 1 with
  | error failure => simp [SocksRequest.parse,read,bind,Except.bind]
  | ok methods =>
    by_cases greets : methods.toInt + 2 = buffer.length
    · have parsed : SocksRequest.parse buffer = .ok .greeting := by
        simp [SocksRequest.parse,read,greets,bind,Except.bind,pure,Except.pure]
      simp [parsed,greets,serve,handshakeHandler,SocksRequest.reply,appendByte]
    · simp [greets,requestHandler_run env draw uuid s buffer world read greets]

/-- `bufferHandler` checks the version, parses the chunk and answers it. -/
theorem bufferHandler_run (env : Env) (draw : Draw) (uuid : String) (s : SocketId) (buffer : Buffer) (world : World) :
    (bufferHandler env draw uuid s buffer).run world =
      match SocksRequest.parse buffer with
      | .error failure => some (.error failure,(screened world s buffer).1,(screened world s buffer).2)
      | .ok request =>
        ((serve env draw uuid s request).run (screened world s buffer).1).map
          (Action.after (screened world s buffer).2) := by
  have rest := afterVersion_run env draw uuid s buffer
  cases buffer with
  | nil => rfl
  | cons version tail =>
    have read : getByte (version :: tail) 0 = .ok (Int8.ofNat version.toNat) := getByte_at [] tail version rfl
    by_cases five : Int8.ofNat version.toNat = 0x05
    · have kept : screened world s (version :: tail) = (world,[]) := by simp [screened,rejects,read,five]
      rw [bufferHandler,kept]
      simp only [read,five,Action.run_bind,Action.run_lift,Action.sequel_ok]
      refine (congrArg (Option.map (Action.after [])) (rest world)).trans ?_
      cases SocksRequest.parse (version :: tail) <;> simp
    · have shut : screened world s (version :: tail) = (world.updateSocket s Socket.shut,[.close s]) := by
        simp [screened,rejects,read,five]
      rw [bufferHandler,shut]
      simp only [read,five,close,Action.run_bind,Action.run_lift,Action.sequel_ok,ne_eq,not_false_iff,if_true,
        Action.run_modify,Action.run_emit,Option.map_some,Action.after_nil,Option.map_id_fun,id]
      refine (congrArg (Option.map (Action.after [.close s])) (rest _)).trans ?_
      cases SocksRequest.parse (version :: tail) <;> simp

/-- What `bufferHandler` does with a chunk. -/
inductive Served (env : Env) (draw : Draw) (world : World) (uuid : String) (s : SocketId) (buffer : Buffer) :
    World → List Output → Prop
  | unparsed {failure : Failure} : SocksRequest.parse buffer = .error failure →
      Served env draw world uuid s buffer (screened world s buffer).1 (screened world s buffer).2
  | replied {request : SocksRequest} : SocksRequest.parse buffer = .ok request →
      (∀ host port, request ≠ .connect host port) →
      Served env draw world uuid s buffer (screened world s buffer).1
        ((screened world s buffer).2 ++ [.write s request.reply])
  | connected {host : String} {port : Int32} {message : Except Failure Buffer} :
      SocksRequest.parse buffer = .ok (.connect host port) →
      (ClientConnect.create env.platform env.userInfo uuid host port).run = some message →
      Served env draw world uuid s buffer ((screened world s buffer).1.connect uuid s)
        ((screened world s buffer).2 ++ (transmission env draw world message).2)

theorem screened_transmission (env : Env) (draw : Draw) (world : World) (s : SocketId) (buffer : Buffer)
    (message : Except Failure Buffer) :
    transmission env draw (screened world s buffer).1 message = transmission env draw world message := by
  rw [screened]
  split <;> rfl

theorem clientConnect_run (env : Env) (uuid host : String) (port : Int32) :
    ∃ message, (ClientConnect.create env.platform env.userInfo uuid host port).run = some message :=
  (packMessage_run env .CONNECT _).imp (fun _ made => made.1)

theorem rawData_run (env : Env) (uuid : String) (data : Buffer) :
    ∃ message, (RawData.create env.platform env.userInfo uuid data).run = some message :=
  (packMessage_run env .RAW _).imp (fun _ made => made.1)

theorem dnsQuery_run (env : Env) (uuid host : String) :
    ∃ message, (DnsQuery.create env.platform env.userInfo uuid host).run = some message :=
  (packMessage_run env .DNS _).imp (fun _ made => made.1)

theorem bufferHandler_served (env : Env) (draw : Draw) (world : World) (uuid : String) (s : SocketId)
    (buffer : Buffer) :
    (bufferHandler env draw uuid s buffer).Ensures world (fun _ => Served env draw world uuid s buffer) := by
  have ran := bufferHandler_run env draw uuid s buffer world
  cases parsed : SocksRequest.parse buffer with
  | error failure =>
    rw [parsed] at ran
    exact (Action.ensures_of_run ran).mpr (.unparsed parsed)
  | ok request =>
    rw [parsed] at ran
    cases request with
    | connect host port =>
      obtain ⟨message,made⟩ := clientConnect_run env uuid host port
      simp only [serve,tryConnect_run env draw uuid s host port _ made,screened_transmission,Option.map_some,
        Action.after_mk] at ran
      exact (Action.ensures_of_run ran).mpr (.connected parsed made)
    | _ => exact (Action.ensures_of_run ran).mpr (.replied parsed (by simp))

/-! ### Other events -/

theorem relay_run (env : Env) (draw : Draw) (uuid : String) (buffer : Buffer) (world : World)
    {message : Except Failure Buffer} (made : (RawData.create env.platform env.userInfo uuid buffer).run = some message) :
    (relay env draw uuid buffer).run world =
      some ((transmission env draw world message).1,world,(transmission env draw world message).2) :=
  wsWrite_run env draw world made

/-- A chunk in which no name ends is dropped; every other one is remembered and
    sent to the server. -/
theorem handleQuery_run (env : Env) (draw : Draw) (s : SocketId) (buffer : Buffer) (world : World) :
    (∃ failure, getName buffer 14 "" = .error failure ∧
      (handleQuery env draw s buffer).run world = some (.error failure,world,[])) ∨
    ∃ offset sb message, getName buffer 14 "" = .ok (offset,sb) ∧
      (DnsQuery.create env.platform env.userInfo draw.uuid (removeDot sb)).run = some message ∧
      (handleQuery env draw s buffer).run world =
        some ((transmission env draw world message).1,world.ask draw.uuid s buffer,
          (transmission env draw world message).2) := by
  rcases named : getName buffer 14 "" with failure | ⟨offset,sb⟩
  · exact .inl ⟨failure,rfl,by simp [handleQuery,named]⟩
  · obtain ⟨message,made⟩ := dnsQuery_run env draw.uuid (removeDot sb)
    refine .inr ⟨offset,sb,message,rfl,made,?_⟩
    have sent := wsWrite_run env draw (world.ask draw.uuid s buffer) made
    simp only [handleQuery,named]
    simp [sent]
    constructor <;> rfl

/-- The websockets may change, the maps and the sockets do not. -/
def MapsKept (world next : World) : Prop :=
  next.sockets = world.sockets ∧ next.connectMap = world.connectMap ∧ next.dnsQueryMap = world.dnsQueryMap

/-- An output that neither touches a socket nor carries a message. -/
def Quiet : Output → Prop
  | .write _ _ | .close _ | .finish _ | .send _ _ => False
  | .ping _ | .closeWebSocket _ | .login | .closeServer => True

private theorem closeWebSocket_ensures (env : Env) (w : WebSocketId) (world : World) :
    (closeWebSocket env w).Ensures world (fun _ next outputs =>
      MapsKept world next ∧ next.ws = world.ws ∧ ∀ o ∈ outputs, Quiet o) := by
  by_cases isOpen : world.webSockets w = some true <;> simp [closeWebSocket,isOpen,MapsKept,Quiet]

theorem exceptionHandler_ensures (env : Env) (world : World) :
    (exceptionHandler env).Ensures world (fun _ next outputs => MapsKept world next ∧ ∀ o ∈ outputs, Quiet o) := by
  rcases connected : world.ws with _ | w
  · simp [exceptionHandler,readWs,connected,MapsKept]
  · simp only [exceptionHandler,readWs,connected,Action.ensures_bind,Action.ensures_get,Action.ensures_pure]
    refine (closeWebSocket_ensures env w world).mono ?_
    rintro (failure | _) next outputs ⟨kept,-,quiet⟩
    · exact ⟨kept,quiet⟩
    · simpa [login,Quiet,MapsKept,or_imp,forall_and] using ⟨kept,quiet⟩

theorem periodic_ensures (world : World) :
    periodic.Ensures world (fun _ next outputs => next = world ∧ ∀ o ∈ outputs, Quiet o) := by
  rcases connected : world.ws with _ | w
  · simp [periodic,connected]
  · by_cases isOpen : world.webSockets w = some true <;> simp [periodic,writePing,connected,isOpen,Quiet]

theorem stop_ensures (env : Env) (world : World) :
    (stop env).Ensures world (fun _ next outputs => (MapsKept world next ∨ MapsKept world.clear next) ∧
      ∀ o ∈ outputs, Quiet o) := by
  rcases connected : world.ws with _ | w
  · simp [stop,readWs,connected,MapsKept,Quiet]
  · simp only [stop,readWs,connected,Action.ensures_bind,Action.ensures_get,Action.ensures_pure,Action.ensures_emit]
    refine (closeWebSocket_ensures env w world).mono ?_
    rintro (failure | _) next outputs ⟨kept,-,quiet⟩
    · exact ⟨.inl kept,by simpa [Quiet] using quiet⟩
    · simp only [Action.ensures_modify]
      exact ⟨.inr ⟨kept.1,rfl,kept.2.2⟩,by simpa [Quiet] using quiet⟩

/-! ### Frames of the server -/

/-- A message of the server; `ignored` when it is too short or of another type. -/
inductive Received
  | ignored
  | connected (success : ConnectSuccess)
  | exception (e : Exception)
  | raw (data : RawData)
  | dns (data : DnsQuery)

/-- Reads the message behind the offset by its tag. -/
def receiveTagged (env : Env) (buffer : Buffer) : Attempt Failure Received := do
  let tag ← getIntLE buffer 0
  if tag = Flag.CONNECT_SUCCESS.ordinal then return .connected (← ConnectSuccess.ofBuffer env.platform env.userInfo buffer)
  else if tag = Flag.EXCEPTION.ordinal then return .exception (← Exception.ofBuffer env.platform env.userInfo buffer)
  else if tag = Flag.RAW.ordinal then return .raw (← RawData.ofBuffer env.platform env.userInfo buffer)
  else if tag = Flag.DNS.ordinal then return .dns (← DnsQuery.ofBuffer env.platform env.userInfo buffer)
  else return .ignored

/-- The first part of `binaryMessageHandler`: strips the offset and reads the message. -/
def receive (env : Env) (message : Buffer) : Attempt Failure Received :=
  if message.length < 4 then pure .ignored
  else if env.userInfo.offset ≠ 0 then do
    receiveTagged env (← getBuffer message env.userInfo.offset message.length)
  else receiveTagged env message

/-- The second part. -/
def handle (env : Env) : Received → Handler Unit
  | .ignored => pure ()
  | .connected success => wsConnectedHandler success.uuid
  | .exception e => wsExceptionHandler e
  | .raw data => wsReceivedRawHandler data
  | .dns data => wsReceivedDNSHandler env data

/-- The message that the client makes of a frame, if it can read it. -/
def received? (env : Env) (message : Buffer) : Option Received :=
  match (receive env message).run with
  | some (.ok received) => some received
  | _ => none

private theorem unpackMessage_key {env : Env} {buffer body : Buffer}
    (read : (unpackMessage env.platform env.userInfo buffer).run = some (.ok body)) : AesKey env.userInfo.key := by
  obtain ⟨encrypted,-,decrypted⟩ := attempt_bind_ok.mp read
  obtain ⟨key,accepted,-⟩ := attempt_bind_ok.mp decrypted
  by_contra invalid
  obtain ⟨failure,refused⟩ := init_error invalid
  simp [refused] at accepted

private theorem receiveTagged_key {env : Env} {buffer : Buffer} {success : ConnectSuccess}
    (read : (receiveTagged env buffer).run = some (.ok (.connected success))) : AesKey env.userInfo.key := by
  obtain ⟨tag,-,tagged⟩ := attempt_bind_ok.mp read
  split_ifs at tagged
  · obtain ⟨_,made,-⟩ := attempt_bind_ok.mp tagged
    obtain ⟨body,unpacked,-⟩ := attempt_bind_ok.mp made
    exact unpackMessage_key unpacked
  all_goals
    first
    | (obtain ⟨_,-,other⟩ := attempt_bind_ok.mp tagged; simp at other)
    | simp at tagged

/-- A client that can read CONNECT_SUCCESS can send as well. -/
theorem able_of_connected {env : Env} {message : Buffer} {success : ConnectSuccess}
    (read : received? env message = some (.connected success)) : Able env := by
  have ran : (receive env message).run = some (.ok (.connected success)) := by
    rw [received?] at read
    split at read
    · rename_i received ran
      rw [ran,Option.some.inj read]
    · simp at read
  rw [receive] at ran
  split_ifs at ran with short shifted
  · simp at ran
  · obtain ⟨buffer,stripped,tagged⟩ := attempt_bind_ok.mp ran
    rw [attempt_lift_run,Option.some.injEq] at stripped
    obtain ⟨front,-,-,start,-⟩ := getBytes_ok stripped
    exact ⟨receiveTagged_key tagged,by omega⟩
  · exact ⟨receiveTagged_key ran,by omega⟩

private theorem handle_receiveTagged (env : Env) (buffer : Buffer) :
    (do handle env (← receiveTagged env buffer) : Handler Unit) = (do
      let tag ← getIntLE buffer 0
      if tag = Flag.CONNECT_SUCCESS.ordinal then
        wsConnectedHandler (← ConnectSuccess.ofBuffer env.platform env.userInfo buffer).uuid
      else if tag = Flag.EXCEPTION.ordinal then
        wsExceptionHandler (← Exception.ofBuffer env.platform env.userInfo buffer)
      else if tag = Flag.RAW.ordinal then wsReceivedRawHandler (← RawData.ofBuffer env.platform env.userInfo buffer)
      else if tag = Flag.DNS.ordinal then
        wsReceivedDNSHandler env (← DnsQuery.ofBuffer env.platform env.userInfo buffer)
      else return) := by
  rw [receiveTagged,Action.lift_bind,bind_assoc,Action.lift_except]
  congr 1
  funext tag
  split_ifs <;> simp [Action.lift_map,Action.lift_pure,handle]

/-- `binaryMessageHandler` reads the message and handles it. -/
theorem binaryMessageHandler_eq (env : Env) (message : Buffer) :
    binaryMessageHandler env message = (do handle env (← receive env message)) := by
  rw [binaryMessageHandler,receive]
  by_cases short : message.length < 4
  · simp [short,handle,Action.lift_pure]
  · by_cases shifted : env.userInfo.offset ≠ 0
    · rw [if_neg short,if_neg short,if_pos shifted,if_pos shifted,Action.lift_bind,bind_assoc,Action.lift_except]
      congr 1
      funext buffer
      exact (handle_receiveTagged env buffer).symm
    · rw [if_neg short,if_neg short,if_neg shifted,if_neg shifted,pure_bind]
      exact (handle_receiveTagged env message).symm

/-- Only a known uuid is answered. -/
def Known (world : World) : Received → Prop
  | .ignored => False
  | .connected success => world.connectMap success.uuid ≠ none
  | .exception e => ∃ uuid, e.uuid = .ok (some uuid) ∧ world.connectMap uuid ≠ none
  | .raw data => world.connectMap data.uuid ≠ none
  | .dns data => ∃ uuid, data.uuid = .ok (some uuid) ∧ world.dnsQueryMap uuid ≠ none

/-- The reply to a successful CONNECT. -/
def connectedReply : Buffer := [0x05,0x00,0x00,0x01,0,0,0,0,0,0]

/-- What the client does with a message of the server. -/
inductive Handled (env : Env) (world : World) : Received → World → List Output → Prop
  | unknown {received : Received} : ¬ Known world received → Handled env world received world []
  | connected {uuid : String} {s : SocketId} : world.connectMap uuid = some s →
      Handled env world (.connected ⟨uuid⟩) (world.updateSocket s (fun socket => socket.handle (.relay uuid)))
        [.write s connectedReply]
  | exception {e : Exception} {uuid : String} {s : SocketId} : e.uuid = .ok (some uuid) →
      world.connectMap uuid = some s →
      Handled env world (.exception e) ((world.disconnect uuid).updateSocket s Socket.shut) [.close s]
  | raw {data : RawData} {s : SocketId} : world.connectMap data.uuid = some s →
      Handled env world (.raw data) world [.write s data.data]
  | answered {data : DnsQuery} {uuid : String} {s : SocketId} {query bytes : Buffer} : data.uuid = .ok (some uuid) →
      world.dnsQueryMap uuid = some (s,query) → answer env.platform data.host query = .ok bytes →
      Handled env world (.dns data) ((world.unask uuid).updateSocket s Socket.shut) [.write s bytes,.finish s]
  | unanswered {data : DnsQuery} {uuid : String} {s : SocketId} {query : Buffer} {failure : Failure} :
      data.uuid = .ok (some uuid) → world.dnsQueryMap uuid = some (s,query) →
      answer env.platform data.host query = .error failure → Handled env world (.dns data) (world.unask uuid) []

theorem disconnect_unknown {world : World} {uuid : String} (unknown : world.connectMap uuid = none) :
    world.disconnect uuid = world := by
  simp [World.disconnect,← unknown]

theorem unask_unknown {world : World} {uuid : String} (unknown : world.dnsQueryMap uuid = none) :
    world.unask uuid = world := by
  simp [World.unask,← unknown]

private theorem wsConnectedHandler_handled (env : Env) (success : ConnectSuccess) (world : World) :
    (wsConnectedHandler success.uuid).Ensures world (fun _ => Handled env world (.connected success)) := by
  cases mapped : world.connectMap success.uuid with
  | none => simpa [wsConnectedHandler,mapped] using .unknown (by simp [Known,mapped])
  | some s => simpa [wsConnectedHandler,mapped,setHandler,write] using .connected mapped

private theorem wsReceivedRawHandler_handled (env : Env) (data : RawData) (world : World) :
    (wsReceivedRawHandler data).Ensures world (fun _ => Handled env world (.raw data)) := by
  cases mapped : world.connectMap data.uuid with
  | none => simpa [wsReceivedRawHandler,mapped] using .unknown (by simp [Known,mapped])
  | some s => simpa [wsReceivedRawHandler,mapped,write] using .raw mapped

/-- The message is logged last: when it is null the socket is closed all the same. -/
private theorem wsExceptionHandler_handled (env : Env) (e : Exception) (world : World) :
    (wsExceptionHandler e).Ensures world (fun _ => Handled env world (.exception e)) := by
  rcases named : e.uuid with failure | _ | uuid
  · simpa [wsExceptionHandler,named] using .unknown (by simp [Known,named])
  · simpa [wsExceptionHandler,named,nonNull] using .unknown (by simp [Known,named])
  · cases mapped : world.connectMap uuid with
    | none =>
      have kept : Handled env world (.exception e) world [] := .unknown (by simp [Known,named,mapped])
      rcases logged : e.message with failure | _ | text <;>
        simpa [wsExceptionHandler,named,nonNull,mapped,disconnect_unknown mapped,logged] using kept
    | some s =>
      have removed : Handled env world (.exception e) _ _ := .exception named mapped
      rcases logged : e.message with failure | _ | text <;>
        simpa [wsExceptionHandler,named,nonNull,mapped,close,logged] using removed

private theorem wsReceivedDNSHandler_handled (env : Env) (data : DnsQuery) (world : World) :
    (wsReceivedDNSHandler env data).Ensures world (fun _ => Handled env world (.dns data)) := by
  rcases named : data.uuid with failure | _ | uuid
  · simpa [wsReceivedDNSHandler,named] using .unknown (by simp [Known,named])
  · simpa [wsReceivedDNSHandler,named,nonNull] using .unknown (by simp [Known,named])
  · rcases mapped : world.dnsQueryMap uuid with _ | ⟨s,query⟩
    · have kept : Handled env world (.dns data) world [] := .unknown (by simp [Known,named,mapped])
      simpa [wsReceivedDNSHandler,named,nonNull,mapped,unask_unknown mapped] using kept
    · cases answered : answer env.platform data.host query with
      | error failure =>
        simpa [wsReceivedDNSHandler,named,nonNull,mapped,answered] using .unanswered named mapped answered
      | ok bytes =>
        simpa [wsReceivedDNSHandler,named,nonNull,mapped,answered,write,finish] using .answered named mapped answered

theorem handle_handled (env : Env) (received : Received) (world : World) :
    (handle env received).Ensures world (fun _ => Handled env world received) := by
  cases received with
  | ignored => simpa [handle] using .unknown (by simp [Known])
  | connected success => exact wsConnectedHandler_handled env success world
  | exception e => exact wsExceptionHandler_handled env e world
  | raw data => exact wsReceivedRawHandler_handled env data world
  | dns data => exact wsReceivedDNSHandler_handled env data world

/-- A frame that cannot be read changes nothing. -/
theorem binaryMessageHandler_handled (env : Env) (message : Buffer) (world : World) :
    (binaryMessageHandler env message).Ensures world (fun _ next outputs =>
      match received? env message with
      | some received => Handled env world received next outputs
      | none => next = world ∧ outputs = []) := by
  rw [binaryMessageHandler_eq]
  rcases read : (receive env message).run with _ | failure | received
  · simp [received?,read]
  · simp [received?,read]
  · simpa [received?,read] using handle_handled env received world

end WSocks.Handlers
