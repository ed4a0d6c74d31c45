import WSocks.Queries

/-!
# Frames that cannot be used

Two places where a frame of the server is taken before it is known to be usable. The
length of a frame is checked before the offset is stripped, and the tag is read
afterwards; a query is forgotten before the response to it is made.
-/

namespace WSocks.Frames
open WSocks.Runs WSocks.Effects WSocks.Endian WSocks.Text WSocks.Buffers WSocks.Libraries WSocks.Messages WSocks.Client
  WSocks.Handlers WSocks.Proxy WSocks.Ownership WSocks.Names WSocks.Queries

/-! ### The length of a frame -/

/-- The buffer that `binaryMessageHandler` reads the tag from. -/
def stripped (env : Env) (message : Buffer) : Except Failure Buffer :=
  if env.userInfo.offset ≠ 0 then getBuffer message env.userInfo.offset message.length else .ok message

/-- The check of the length does what it is for: a frame that it lets through has a tag
    behind the offset, so that both reads stay inside their buffers, and a frame without
    one is ignored. -/
structure Guarded (env : Env) (world : World) (message : Buffer) : Prop where
  through : ¬ message.length < 4 → env.userInfo.offset + 4 ≤ message.length
  inside : ¬ message.length < 4 → ∃ buffer tag, stripped env message = .ok buffer ∧ getIntLE buffer 0 = .ok tag
  ignored : (message.length : Int) < env.userInfo.offset + 4 →
    (binaryMessageHandler env message).run world = some (.ok (),world,[])

/-- Four bytes are a number. -/
theorem getIntLE_inside {buffer : Buffer} (long : 4 ≤ buffer.length) : ∃ tag, getIntLE buffer 0 = .ok tag := by
  have read := getBytes_between [] (buffer.take 4) (buffer.drop 4) (i := 0) (j := 0 + 4) rfl (by simp [long])
  rw [List.nil_append,List.take_append_drop] at read
  exact ⟨_,by rw [getIntLE,read]; rfl⟩

theorem getIntLE_beyond {buffer : Buffer} (short : buffer.length < 4) :
    getIntLE buffer 0 = .error .indexOutOfBounds := by
  rw [getIntLE,getBytes_beyond (by omega) (by omega)]
  rfl

/-- What is left behind the offset. -/
theorem stripped_inside (env : Env) {message : Buffer} (configured : 0 ≤ env.userInfo.offset)
    (long : env.userInfo.offset ≤ message.length) :
    stripped env message = .ok (message.drop env.userInfo.offset.toNat) := by
  unfold stripped
  split_ifs with shifted
  · have read := getBytes_between (message.take env.userInfo.offset.toNat) (message.drop env.userInfo.offset.toNat) []
      (i := env.userInfo.offset) (j := message.length) (by simp; omega) (by simp; omega)
    rwa [List.append_nil,List.take_append_drop] at read
  · push Not at shifted
    simp [shifted]

/-- The check is right exactly where the offset makes no difference to it. -/
theorem guarded_iff (env : Env) (world : World) (message : Buffer) (configured : 0 ≤ env.userInfo.offset) :
    Guarded env world message ↔
      env.userInfo.offset = 0 ∨ message.length < 4 ∨ env.userInfo.offset + 4 ≤ message.length := by
  constructor
  · intro guarded
    by_cases short : message.length < 4
    · exact .inr (.inl short)
    · exact .inr (.inr (guarded.through short))
  · intro holds
    have through : ¬ message.length < 4 → env.userInfo.offset + 4 ≤ message.length := by omega
    refine ⟨through,?_,?_⟩
    · intro long
      have enough := through long
      have left : 4 ≤ (message.drop env.userInfo.offset.toNat).length := by
        rw [List.length_drop]
        omega
      obtain ⟨tag,read⟩ := getIntLE_inside left
      exact ⟨_,tag,stripped_inside env configured (by omega),read⟩
    · intro missing
      have short : message.length < 4 := by omega
      simp [binaryMessageHandler,short]

/-- Every other frame without a tag ends in an exception, which changes nothing. -/
theorem untagged_raises (env : Env) (world : World) {message : Buffer} (configured : 0 ≤ env.userInfo.offset)
    (passes : ¬ message.length < 4) (untagged : (message.length : Int) < env.userInfo.offset + 4) :
    ∃ failure, (binaryMessageHandler env message).run world = some (.error failure,world,[]) := by
  have shifted : env.userInfo.offset ≠ 0 := by omega
  by_cases behind : env.userInfo.offset ≤ message.length
  · have read := stripped_inside env configured behind
    unfold stripped at read
    rw [if_pos shifted] at read
    have left : (message.drop env.userInfo.offset.toNat).length < 4 := by
      rw [List.length_drop]
      omega
    have short := getIntLE_beyond left
    exact ⟨.indexOutOfBounds,by simp [binaryMessageHandler,passes,shifted,read,short]⟩
  · have unread := getBytes_backwards message (Int.not_le.mp behind)
    exact ⟨.negativeArraySize,by simp [binaryMessageHandler,passes,shifted,getBuffer,unread]⟩

private def shiftedEnv : Env := ⟨Platforms.platform,{ Platforms.env.userInfo with offset := 4 }⟩

theorem guarded_tag : Guarded shiftedEnv Sessions.online [1,2,3,4,3,0,0,0] :=
  (guarded_iff shiftedEnv Sessions.online [1,2,3,4,3,0,0,0] (by decide)).mpr (by decide)

/-- With an offset of 4, a frame of four bytes is let through. -/
theorem padding_not_guarded : ¬ Guarded shiftedEnv Sessions.online [1,2,3,4] := by
  intro guarded
  exact absurd (guarded.through (by decide)) (by decide)

/-! ### Answers that have no address -/

/-- After an answer for a query of a socket, the response has been written and the socket
    ended, or the query is still remembered. -/
def Settled (next : World) (outputs : List Output) (uuid : String) (s : SocketId) (query : Buffer) : Prop :=
  (∃ bytes, outputs = [.write s bytes,.finish s]) ∨ next.dnsQueryMap uuid = some (s,query)

/-- A response is made of an address, so the host must be there and stand for one. -/
theorem answer_resolved {platform : Platform} {host : Option String} {query bytes : Buffer}
    (answered : answer platform host query = .ok bytes) : ∃ ip x, host = some ip ∧ platform.getByName ip = .ok x := by
  obtain ⟨id,-,named⟩ := bind_ok.mp answered
  obtain ⟨ip,present,read⟩ := bind_ok.mp named
  obtain ⟨rest,-,made⟩ := bind_ok.mp read
  obtain ⟨buffer,responded,-⟩ := bind_ok.mp made
  obtain ⟨x,resolved,-⟩ := bind_ok.mp responded
  cases host with
  | none => cases present
  | some ip' =>
    cases present
    exact ⟨ip,x,rfl,resolved⟩

/-- A query that is pending is answered exactly when the host in the answer is there and
    resolves; else it is forgotten without a response. -/
theorem settled_iff {env : Env} {past : Past} {world next : World} {w : WebSocketId} {m : Buffer} {reaction : Reaction}
    {data : DnsQuery} {uuid : String} {s : SocketId} {query : Buffer} (trace : Trace env past world)
    (pending : Pending env past uuid s query) (read : received? env m = some (.dns data))
    (named : data.uuid = .ok (some uuid)) (taken : step env world (.frame w m) = some (next,reaction)) :
    Settled next reaction.outputs uuid s query ↔
      ∃ host x, data.host = some host ∧ env.platform.getByName host = .ok x := by
  have entry := (pending_iff trace).mp pending
  have move := step_move taken
  constructor
  · intro settled
    rcases reply_move move read named entry with ⟨bytes,answered,-⟩ | ⟨failure,-,rfl,silent⟩
    · exact answer_resolved answered
    · simp [Settled,silent] at settled
  · rintro ⟨host,x,present,resolved⟩
    obtain ⟨header,rest,id,rfl,long,read'⟩ := query_header trace entry
    exact .inl ⟨_,answer_move move read named entry (by rw [present]; exact answer_ok resolved long read')⟩

theorem settled_example : ∃ next reaction past w m,
    Trace Platforms.env past (asking.ask Platforms.uuid 0 exampleQuery.buffer) ∧
    step Platforms.env (asking.ask Platforms.uuid 0 exampleQuery.buffer) (.frame w m) = some (next,reaction) ∧
    Settled next reaction.outputs Platforms.uuid 0 exampleQuery.buffer := by
  obtain ⟨reply,data,m,-,read,named,host,executed⟩ := execute_example
  obtain ⟨past,trace,taken⟩ := exchange_split (run_of_execute executed)
  have pending := (pending_iff trace).mpr (asking_entry Platforms.uuid exampleQuery.buffer)
  have resolved : Platforms.env.platform.getByName "93.184.216.34" = .ok (.inet4 ⟨93,184,216,34⟩) := by
    simp [Platform.getByName,literal_exampleAddress]
  exact ⟨_,_,past,0,reply,trace,taken,(settled_iff trace pending read named taken).mpr ⟨_,_,host,resolved⟩⟩

/-- The server answers with a name that does not resolve: the query is gone, and its
    socket is open and has got nothing. -/
theorem unresolved_swallowed : ∃ reply data past world,
    execute (step Platforms.env) started
      [.loggedIn 0,.queryAccepted 0,.data 0 exampleQuery.buffer Platforms.draw,.frame 0 reply] = some (past,world) ∧
    received? Platforms.env reply = some (.dns data) ∧ data.host = some "example.com" ∧
    world.sockets 0 = some (Socket.fresh.handle .handleQuery) ∧
    ∀ t ∈ past, t.event = .frame 0 reply → ¬ Settled t.after t.reaction.outputs Platforms.uuid 0 exampleQuery.buffer := by
  obtain ⟨reply,data,created,named,host,readable⟩ :=
    Wire.dnsQuery_readable Platforms.aesKey_key Platforms.uuid "example.com"
  have read := Wire.received?_prefixed ⟨[],rfl,rfl⟩ readable
  obtain ⟨offset,name⟩ := exampleQuery.named
  obtain ⟨m,sent,-⟩ := Sessions.step_asked Platforms.env asking_reads Platforms.draw Sessions.able_env asking_online name
  have unresolved : answer Platforms.env.platform data.host exampleQuery.buffer = .error .unknownHost := by
    rw [host]
    decide
  refine ⟨reply,data,_,_,execute_of_step (Sessions.step_loggedIn Platforms.env (by simp [started]) rfl) <|
    execute_of_step (Sessions.step_queryAccepted Platforms.env rfl) <|
    execute_of_step sent <|
    execute_of_step (Sessions.step_unanswered Platforms.env (by simp [asking_online.2]) read named
      (asking_entry Platforms.uuid exampleQuery.buffer) unresolved) (execute.eq_1 _ _),read,host,?_,?_⟩
  · simp [asking]
  · simp [Settled]

end WSocks.Frames
