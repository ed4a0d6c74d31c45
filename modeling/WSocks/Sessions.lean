import WSocks.Traffic
import WSocks.Socks
import WSocks.Wire

/-!
# Sessions

The steps of a session that goes well, from login to the first data, each from any
state in which it can be taken.
-/

namespace WSocks.Sessions
open WSocks.Runs WSocks.Effects WSocks.Text WSocks.Buffers WSocks.Libraries WSocks.Messages WSocks.Client
  WSocks.Handlers WSocks.Proxy WSocks.Traffic WSocks.Socks WSocks.Wire

variable (env : Env) {world : World} {w : WebSocketId} {s : SocketId} {uuid : String}

theorem step_loggedIn (called : world.logins ≠ 0) (new : world.webSockets w = none) :
    step env world (.loggedIn w) = some ((world.setWebSocket w true).answerLogin.setWs w,⟨[.ping w],none⟩) := by
  simp [step,react,called,new,webSocketConnected,writePing,raised]

theorem step_accepted (free : world.sockets s = none) (connected : world.ws ≠ none) (uuid : String) :
    step env world (.accepted s uuid) =
      some (world.openSocket s ((Socket.fresh.handle (.bufferHandler uuid)).onClose uuid),⟨[],none⟩) := by
  simp [step,react,free,socksConnectHandler,setHandler,connected,raised]

theorem step_queryAccepted (free : world.sockets s = none) :
    step env world (.queryAccepted s) = some (world.openSocket s (Socket.fresh.handle .handleQuery),⟨[],none⟩) := by
  simp [step,react,free,dnsConnectHandler,setHandler,raised]

/-- When the current websocket fails, it is closed and the client logs in again. -/
theorem step_failed (online : Online world w) :
    step env world (.failed w) = some ((world.setWebSocket w false).callLogin,⟨[.closeWebSocket w,.login],none⟩) := by
  simp [step,react,exceptionHandler,readWs,closeWebSocket,login,online.1,online.2,raised]

section Reads
variable (reads : Reads world s (.bufferHandler uuid)) (draw : Draw)
include reads

/-- A chunk of version 5 that asks for anything but a connection is answered at once. -/
theorem step_replied {c : Buffer} {request : SocksRequest} (parsed : SocksRequest.parse (0x05 :: c) = .ok request)
    (other : ∀ host port, request ≠ .connect host port) :
    step env world (.data s (0x05 :: c) draw) = some (world,⟨[.write s request.reply],none⟩) := by
  have ran : (bufferHandler env draw uuid s (0x05 :: c)).run world = some (.ok (),world,[.write s request.reply]) := by
    rw [bufferHandler_run,parsed,screened_version]
    cases request <;> first | rfl | exact absurd rfl (other _ _)
  exact step_eq_of_run (react_reads reads _ draw) ran

theorem step_greeting (methods : Methods) :
    step env world (.data s methods.greeting draw) = some (world,⟨[.write s [0x05,0x00]],none⟩) :=
  step_replied env reads draw (parse_greeting methods) (by simp)

/-- A request that can be forwarded is, as a CONNECT message. -/
theorem step_forwarded {d : Destination} (short : d.Short) (port : UInt16) (able : Able env) (online : Online world w) :
    ∃ m, step env world (.data s (request d port) draw) = some (world.connect uuid s,⟨[.send w m],none⟩) ∧
      upstream? env.platform env.userInfo m = some (.connect (some d.host) (some (signedPort port)) (some uuid)) := by
  obtain ⟨message,carries,ran⟩ := request_run env draw world uuid s short port
  obtain ⟨m,sent,read⟩ := carries.sends able online
  rw [sent] at ran
  exact ⟨m,step_eq_of_run (react_reads reads _ draw) ran,read⟩

end Reads

/-- Data goes out as a RAW message. -/
theorem step_relayed (reads : Reads world s (.relay uuid)) (draw : Draw) (able : Able env) (online : Online world w)
    (canonical : CanonicalUuid uuid) (buffer : Buffer) :
    ∃ m, step env world (.data s buffer draw) = some (world,⟨[.send w m],none⟩) ∧
      upstream? env.platform env.userInfo m = some (.raw uuid buffer) := by
  obtain ⟨message,made⟩ := rawData_run env uuid buffer
  obtain ⟨m,sent,read⟩ := (rawData_carries draw world canonical made).sends able online
  have ran := relay_run env draw uuid buffer world made
  rw [sent] at ran
  exact ⟨m,step_eq_of_run (react_reads reads _ draw) ran,read⟩

/-- A query goes out as a DNS message. -/
theorem step_asked (reads : Reads world s .handleQuery) (draw : Draw) (able : Able env) (online : Online world w)
    {buffer : Buffer} {offset : Int} {sb : String} (named : getName buffer 14 "" = .ok (offset,sb)) :
    ∃ m, step env world (.data s buffer draw) = some (world.ask draw.uuid s buffer,⟨[.send w m],none⟩) ∧
      upstream? env.platform env.userInfo m = some (.dns (some (removeDot sb)) (some draw.uuid)) := by
  rcases handleQuery_run env draw s buffer world with ⟨failure,unnamed,-⟩ | ⟨_,_,message,named',made,ran⟩
  · simp [named] at unnamed
  · cases named.symm.trans named'
    obtain ⟨m,sent,read⟩ := (dnsQuery_carries draw (world.ask draw.uuid s buffer) made).sends able online
    rw [show transmission env draw world message = transmission env draw (world.ask draw.uuid s buffer) message from rfl,
      sent] at ran
    exact ⟨m,step_eq_of_run (react_reads reads _ draw) ran,read⟩

section Frames
variable {message : Buffer} (known : world.webSockets w ≠ none)
include known

private theorem step_frame {r : Received} (read : received? env message = some r) {result : Except Failure Unit}
    {next : World} {outputs : List Output} (ran : (handle env r).run world = some (result,next,outputs)) :
    step env world (.frame w message) = some (next,⟨outputs,raised result⟩) := by
  have whole : (binaryMessageHandler env message).run world = some (result,next,outputs) := by
    rw [received?] at read
    split at read
    · rename_i received received'
      cases read
      simpa [binaryMessageHandler_eq,received'] using ran
    · simp at read
  exact step_eq_of_run (by simp [react,known]) whole

/-- CONNECT_SUCCESS is answered, and from now on data is relayed. -/
theorem step_connected (read : received? env message = some (.connected ⟨uuid⟩)) (entry : world.connectMap uuid = some s) :
    step env world (.frame w message) = some (world.updateSocket s (fun socket => socket.handle (.relay uuid)),
      ⟨[.write s connectedReply],none⟩) := by
  have ran : (handle env (.connected ⟨uuid⟩)).run world =
      some (.ok (),world.updateSocket s (fun socket => socket.handle (.relay uuid)),[.write s connectedReply]) := by
    simp [handle,wsConnectedHandler,entry,setHandler,write]
    rfl
  exact step_frame env known read ran

theorem step_raw {data : RawData} (read : received? env message = some (.raw data))
    (entry : world.connectMap data.uuid = some s) :
    step env world (.frame w message) = some (world,⟨[.write s data.data],none⟩) := by
  have ran : (handle env (.raw data)).run world = some (.ok (),world,[.write s data.data]) := by
    simp [handle,wsReceivedRawHandler,entry,write]
  exact step_frame env known read ran

theorem step_answered {data : DnsQuery} {query bytes : Buffer} (read : received? env message = some (.dns data))
    (named : data.uuid = .ok (some uuid)) (entry : world.dnsQueryMap uuid = some (s,query))
    (answered : answer env.platform data.host query = .ok bytes) :
    step env world (.frame w message) = some ((world.unask uuid).updateSocket s Socket.shut,
      ⟨[.write s bytes,.finish s],none⟩) := by
  have ran : (handle env (.dns data)).run world =
      some (.ok (),(world.unask uuid).updateSocket s Socket.shut,[.write s bytes,.finish s]) := by
    simp [handle,wsReceivedDNSHandler,named,nonNull,entry,answered,write,finish]
  exact step_frame env known read ran

/-- When there is no answer to write, the query is forgotten all the same. -/
theorem step_unanswered {data : DnsQuery} {query : Buffer} {failure : Failure} (read : received? env message = some (.dns data))
    (named : data.uuid = .ok (some uuid)) (entry : world.dnsQueryMap uuid = some (s,query))
    (unanswered : answer env.platform data.host query = .error failure) :
    step env world (.frame w message) = some (world.unask uuid,⟨[],some failure⟩) := by
  have ran : (handle env (.dns data)).run world = some (.error failure,world.unask uuid,[]) := by
    simp [handle,wsReceivedDNSHandler,named,nonNull,entry,unanswered]
  exact step_frame env known read ran

end Frames

/-! ### A whole session -/

/-- After the login. -/
def online : World := (started.setWebSocket 0 true).answerLogin.setWs 0

/-- A connection that has sent nothing yet. -/
def accepted (uuid : String) : World := online.openSocket 0 ((Socket.fresh.handle (.bufferHandler uuid)).onClose uuid)

/-- One that was confirmed. -/
def relaying (uuid : String) : World :=
  ((accepted uuid).connect uuid 0).updateSocket 0 (fun socket => socket.handle (.relay uuid))

theorem online_online : Online online 0 := by simp [Online,online]
theorem accepted_online (uuid : String) : Online (accepted uuid) 0 := by simp [Online,accepted,online]
theorem accepted_reads (uuid : String) : Reads (accepted uuid) 0 (.bufferHandler uuid) := by
  simp [Reads,accepted,online,Socket.fresh]
theorem relaying_online (uuid : String) : Online (relaying uuid) 0 := by simp [Online,relaying,accepted,online]
theorem relaying_reads (uuid : String) : Reads (relaying uuid) 0 (.relay uuid) := by
  simp [Reads,relaying,accepted,online,Socket.fresh]

/-- The transitions of a session up to a request, which went out as the message `m`. -/
def opening (uuid : String) (methods : Methods) (d : Destination) (port : UInt16) (draw : Draw) (m : Buffer) : Past :=
  [⟨started,.loggedIn 0,⟨[.ping 0],none⟩,online⟩,
    ⟨online,.accepted 0 uuid,⟨[],none⟩,accepted uuid⟩,
    ⟨accepted uuid,.data 0 methods.greeting draw,⟨[.write 0 [0x05,0x00]],none⟩,accepted uuid⟩,
    ⟨accepted uuid,.data 0 (request d port) draw,⟨[.send 0 m],none⟩,(accepted uuid).connect uuid 0⟩]

/-- What follows: the confirmation, some data, which goes out as `m`, and some data back. -/
def relayed (uuid : String) (draw : Draw) (success raw data back m : Buffer) : Past :=
  [⟨(accepted uuid).connect uuid 0,.frame 0 success,⟨[.write 0 connectedReply],none⟩,relaying uuid⟩,
    ⟨relaying uuid,.data 0 data draw,⟨[.send 0 m],none⟩,relaying uuid⟩,
    ⟨relaying uuid,.frame 0 raw,⟨[.write 0 back],none⟩,relaying uuid⟩]

section Session
variable {env : Env} (able : Able env) (draw : Draw)
include able

theorem execute_opening (uuid : String) (methods : Methods) {d : Destination} (short : d.Short) (port : UInt16) :
    ∃ m, execute (step env) started
        [.loggedIn 0,.accepted 0 uuid,.data 0 methods.greeting draw,.data 0 (request d port) draw] =
          some (opening uuid methods d port draw m,(accepted uuid).connect uuid 0) ∧
      upstream? env.platform env.userInfo m = some (.connect (some d.host) (some (signedPort port)) (some uuid)) := by
  obtain ⟨m,forwarded,read⟩ := step_forwarded env (accepted_reads uuid) draw short port able (accepted_online uuid)
  refine ⟨m,?_,read⟩
  exact execute_of_step (step_loggedIn env (by simp [started]) rfl) <|
    execute_of_step (step_accepted env rfl (by simp [online_online.1]) uuid) <|
    execute_of_step (step_greeting env (accepted_reads uuid) draw methods) <|
    execute_of_step forwarded (execute.eq_1 _ _)

theorem execute_relayed {uuid : String} (canonical : CanonicalUuid uuid) {success raw : Buffer} (data back : Buffer)
    (confirms : received? env success = some (.connected ⟨uuid⟩)) (returns : received? env raw = some (.raw ⟨uuid,back⟩)) :
    ∃ m, execute (step env) ((accepted uuid).connect uuid 0) [.frame 0 success,.data 0 data draw,.frame 0 raw] =
        some (relayed uuid draw success raw data back m,relaying uuid) ∧
      upstream? env.platform env.userInfo m = some (.raw uuid data) := by
  obtain ⟨m,sent,read⟩ := step_relayed env (relaying_reads uuid) draw able (relaying_online uuid) canonical data
  refine ⟨m,?_,read⟩
  have entry : (relaying uuid).connectMap uuid = some 0 := by simp [relaying]
  exact execute_of_step (step_connected env (by simp [accepted,online]) confirms (by simp)) <|
    execute_of_step sent <|
    execute_of_step (step_raw env (by simp [(relaying_online uuid).2]) returns entry) (execute.eq_1 _ _)

/-- A whole session with the frames that the server makes for it. -/
theorem execute_session {uuid : String} (canonical : CanonicalUuid uuid) (methods : Methods) {d : Destination}
    (short : d.Short) (port : UInt16) (data back : Buffer) :
    ∃ success raw m m', ConnectSuccess.create env.platform env.userInfo uuid = pure success ∧
      RawData.create env.platform env.userInfo uuid back = pure raw ∧
      received? env (pad env draw ++ success) = some (.connected ⟨uuid⟩) ∧
      execute (step env) started
        ([.loggedIn 0,.accepted 0 uuid,.data 0 methods.greeting draw,.data 0 (request d port) draw] ++
          [.frame 0 (pad env draw ++ success),.data 0 data draw,.frame 0 (pad env draw ++ raw)]) =
        some (opening uuid methods d port draw m ++
          relayed uuid draw (pad env draw ++ success) (pad env draw ++ raw) data back m',relaying uuid) := by
  have strips := pad_length draw able.2
  obtain ⟨success,created,readable⟩ := connectSuccess_readable able.1 uuid
  obtain ⟨raw,created',readable'⟩ := rawData_readable able.1 canonical back
  have confirms := received?_prefixed ⟨_,strips,rfl⟩ readable
  have returns := received?_prefixed ⟨_,strips,rfl⟩ readable'
  obtain ⟨m,opens,-⟩ := execute_opening able draw uuid methods short port
  obtain ⟨m',relays,-⟩ := execute_relayed able draw canonical data back confirms returns
  exact ⟨success,raw,m,m',created,created',confirms,execute_append opens relays⟩

end Session

theorem able_env : Able Platforms.env := by decide

end WSocks.Sessions
