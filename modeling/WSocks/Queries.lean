import WSocks.Calls
import WSocks.Names
import WSocks.Ownership

/-!
# DNS queries

The map of queries is the ledger of the queries that local clients send and of the
answers that the server sends. So an answer reaches the socket that asked, with
the id that it asked with, and no query is answered twice.
-/

namespace WSocks.Queries
open WSocks.Runs WSocks.Effects WSocks.Endian WSocks.Calls WSocks.Text WSocks.Buffers WSocks.Libraries WSocks.Messages
  WSocks.Client WSocks.Handlers WSocks.Proxy WSocks.Traffic WSocks.Ownership WSocks.Names

/-! ### The map is a ledger -/

/-- The call that an event makes: a chunk in which a name ends asks, a DNS message of
    the server answers. -/
def callOf (env : Env) (world : World) : Event → Option (Call String (SocketId × Buffer))
  | .data s buffer draw =>
    match world.sockets s,getName buffer 14 "" with
    | some ⟨some .handleQuery,_,_,false⟩,.ok _ => some (.ask draw.uuid (s,buffer))
    | _,_ => none
  | .frame _ m =>
    match received? env m with
    | some (.dns data) =>
      match data.uuid with
      | .ok (some uuid) => some (.answer uuid)
      | _ => none
    | _ => none
  | _ => none

/-- The calls of a past. -/
def calls (env : Env) (past : Past) : List (Call String (SocketId × Buffer)) :=
  past.filterMap (fun t => callOf env t.before t.event)

@[simp] theorem calls_nil (env : Env) : calls env [] = [] := rfl
@[simp] theorem calls_append (env : Env) (past : Past) (t : Transition World Event Reaction) :
    calls env (past ++ [t]) = calls env past ++ (callOf env t.before t.event).toList := by
  cases called : callOf env t.before t.event <;> simp [calls,called]

theorem callOf_asks {env : Env} {world : World} {s : SocketId} {buffer : Buffer} (draw : Draw) {name : Int × String}
    (reads : Reads world s .handleQuery) (named : getName buffer 14 "" = .ok name) :
    callOf env world (.data s buffer draw) = some (.ask draw.uuid (s,buffer)) := by
  obtain ⟨⟨_,_,_,_⟩,known,rfl,rfl⟩ := reads
  simp [callOf,known,named]

/-- Other chunks ask nothing. -/
theorem callOf_other {env : Env} {world : World} {s : SocketId} {h : DataHandler} (reads : Reads world s h)
    (other : h ≠ .handleQuery) (buffer : Buffer) (draw : Draw) : callOf env world (.data s buffer draw) = none := by
  obtain ⟨⟨_,_,_,_⟩,known,rfl,rfl⟩ := reads
  cases h with
  | handleQuery => contradiction
  | _ => simp [callOf,known]

theorem callOf_answers {env : Env} {world : World} {w : WebSocketId} {m : Buffer} {data : DnsQuery} {uuid : String}
    (read : received? env m = some (.dns data)) (named : data.uuid = .ok (some uuid)) :
    callOf env world (.frame w m) = some (.answer uuid) := by
  simp [callOf,read,named]

/-- Only a DNS message of the server answers. -/
theorem callOf_answer {env : Env} {world : World} {event : Event} {uuid : String}
    (answers : callOf env world event = some (.answer uuid)) :
    ∃ w m data, event = .frame w m ∧ received? env m = some (.dns data) ∧ data.uuid = .ok (some uuid) := by
  cases event with
  | data s buffer draw =>
    simp only [callOf] at answers
    split at answers <;> simp at answers
  | frame w m =>
    simp only [callOf] at answers
    split at answers
    · rename_i data read
      split at answers
      · rename_i named
        cases answers
        exact ⟨w,m,data,rfl,read,named⟩
      · simp at answers
    · simp at answers
  | _ => simp [callOf] at answers

/-- What a call makes of the map. -/
def recordCall (world : World) : Option (Call String (SocketId × Buffer)) → String → Option (SocketId × Buffer)
  | none => world.dnsQueryMap
  | some (.ask uuid entry) => Function.update world.dnsQueryMap uuid (some entry)
  | some (.answer uuid) => Function.update world.dnsQueryMap uuid none

/-- Every step does to the map what its call says. -/
theorem call_move {env : Env} {world next : World} {event : Event} {outputs : List Output}
    (move : Move env world event next outputs) : next.dnsQueryMap = recordCall world (callOf env world event) := by
  cases move with
  | failed kept => exact kept.2.2
  | stop kept => exact kept.elim (fun kept => kept.2.2) (fun kept => kept.2.2)
  | unread unread => simp [callOf,unread,recordCall]
  | @handled w m r _ _ read handled =>
    cases handled with
    | unknown unknown =>
      rw [callOf,read]
      cases r with
      | dns data =>
        rcases named : data.uuid with failure | _ | uuid
        · simp [recordCall,named]
        · simp [recordCall,named]
        · have absent : world.dnsQueryMap uuid = none := by simpa [Known,named] using unknown
          simp [recordCall,named,← absent]
      | _ => rfl
    | answered named => simp [callOf_answers read named,recordCall]
    | unanswered named => simp [callOf_answers read named,recordCall]
    | _ => simp [callOf,read,recordCall]
  | @served s _ buffer draw _ _ reads served =>
    have kept : (screened world s buffer).1.dnsQueryMap = world.dnsQueryMap := by
      rw [screened]
      split <;> rfl
    rw [callOf_other reads (by simp)]
    cases served <;> exact kept
  | relayed reads => rw [callOf_other reads (by simp)]; rfl
  | unnamed reads unnamed =>
    obtain ⟨⟨_,_,_,_⟩,known,rfl,rfl⟩ := reads
    simp [callOf,known,unnamed,recordCall]
  | asked reads named => simp [callOf_asks _ reads named,recordCall]
  | _ => rfl

/-- The map of queries is the ledger of all calls so far. -/
theorem dnsQueryMap_eq_ledger {env : Env} {past : Past} {world : World} (trace : Trace env past world) :
    world.dnsQueryMap = (ledger (calls env past)).waiting := by
  induction trace with
  | nil => rfl
  | snoc _ taken ih =>
    rw [call_move (step_move taken),calls_append]
    rcases callOf env _ _ with _ | call
    · simpa [recordCall] using ih
    · cases call <;> simp [recordCall,Ledger.record,ih]

/-! ### Answers -/

/-- A query that was sent, and no call of its uuid came after it. -/
def Pending (env : Env) (past : Past) (uuid : String) (s : SocketId) (query : Buffer) : Prop :=
  Waits uuid (s,query) (calls env past)

/-- No uuid is drawn for two queries. -/
def DistinctQueries (env : Env) (past : Past) : Prop := ∀ uuid, (asked uuid (calls env past)).length ≤ 1

theorem pending_iff {env : Env} {past : Past} {world : World} (trace : Trace env past world) {uuid : String}
    {s : SocketId} {query : Buffer} : Pending env past uuid s query ↔ world.dnsQueryMap uuid = some (s,query) := by
  rw [dnsQueryMap_eq_ledger trace]
  exact waiting_iff.symm

/-- What is written to sockets. -/
def writes (outputs : List Output) : List (SocketId × Buffer) :=
  outputs.filterMap (fun o => match o with
    | .write s bytes => some (s,bytes)
    | _ => none)

/-- What a transition writes for an answer with a uuid. -/
def responses (env : Env) (uuid : String) (t : Transition World Event Reaction) : List (SocketId × Buffer) :=
  if callOf env t.before t.event = some (.answer uuid) then writes t.reaction.outputs else []

/-- Every query in the map has a header. -/
theorem query_header {env : Env} {past : Past} {world : World} {uuid : String} {s : SocketId} {query : Buffer}
    (trace : Trace env past world) (entry : world.dnsQueryMap uuid = some (s,query)) :
    ∃ header rest id, query = header ++ rest ∧ header.length = 14 ∧ getShort (header ++ rest) 2 = .ok id := by
  induction trace with
  | nil => simp [started] at entry
  | snoc _ taken ih =>
    rcases query_move (step_move taken) entry with before | ⟨_,_,-,-,-,named⟩
    · exact ih before
    · exact getName_header named

/-- An answer for a query that waits goes to the socket that asked, and what is no answer
    goes nowhere. -/
theorem reply_move {env : Env} {world next : World} {outputs : List Output} {w : WebSocketId} {m : Buffer}
    {data : DnsQuery} {uuid : String} {s : SocketId} {query : Buffer}
    (move : Move env world (.frame w m) next outputs) (read : received? env m = some (.dns data))
    (named : data.uuid = .ok (some uuid)) (entry : world.dnsQueryMap uuid = some (s,query)) :
    (∃ bytes, answer env.platform data.host query = .ok bytes ∧ outputs = [.write s bytes,.finish s]) ∨
      ∃ failure, answer env.platform data.host query = .error failure ∧ next = world.unask uuid ∧ outputs = [] := by
  cases move with
  | unread unread => simp [read] at unread
  | handled read' handled =>
    cases read.symm.trans read'
    cases handled with
    | unknown unknown => simp [Known,named,entry] at unknown
    | answered named' entry' answered =>
      cases named.symm.trans named'
      cases entry.symm.trans entry'
      exact .inl ⟨_,answered,rfl⟩
    | unanswered named' entry' unanswered =>
      cases named.symm.trans named'
      cases entry.symm.trans entry'
      exact .inr ⟨_,unanswered,rfl,rfl⟩

theorem answer_move {env : Env} {world next : World} {outputs : List Output} {w : WebSocketId} {m : Buffer}
    {data : DnsQuery} {uuid : String} {s : SocketId} {query bytes : Buffer}
    (move : Move env world (.frame w m) next outputs) (read : received? env m = some (.dns data))
    (named : data.uuid = .ok (some uuid)) (entry : world.dnsQueryMap uuid = some (s,query))
    (answered : answer env.platform data.host query = .ok bytes) : outputs = [.write s bytes,.finish s] := by
  rcases reply_move move read named entry with ⟨bytes',answered',rfl⟩ | ⟨failure,unanswered,-,-⟩
  · cases answered.symm.trans answered'
    rfl
  · cases answered.symm.trans unanswered

/-- Every response uses up an entry of the map. -/
theorem writes_le {env : Env} {world next : World} {event : Event} {outputs : List Output} {uuid : String}
    (move : Move env world event next outputs) (answers : callOf env world event = some (.answer uuid)) :
    (writes outputs).length ≤ (world.dnsQueryMap uuid).toList.length := by
  obtain ⟨w,m,data,rfl,read,named⟩ := callOf_answer answers
  cases move with
  | unread => simp [writes]
  | handled read' handled =>
    cases read.symm.trans read'
    cases handled with
    | unknown => simp [writes]
    | answered named' entry =>
      cases named.symm.trans named'
      simp [writes,entry]
    | unanswered => simp [writes]

/-- So there are no more responses than answers that found a query. -/
theorem responses_le_found {env : Env} {past : Past} {world : World} (trace : Trace env past world) (uuid : String) :
    (past.flatMap (responses env uuid)).length ≤ ((ledger (calls env past)).found uuid).length := by
  induction trace with
  | nil => simp
  | @snoc before next past event reaction ran taken ih =>
    have split : ((past ++ [(⟨before,event,reaction,next⟩ : Transition World Event Reaction)]).flatMap (responses env uuid)).length =
        (past.flatMap (responses env uuid)).length + (responses env uuid ⟨before,event,reaction,next⟩).length := by
      simp only [List.flatMap_append,List.length_append,List.flatMap_cons,List.flatMap_nil,List.append_nil]
    rw [split,calls_append,responses]
    rcases called : callOf env before event with _ | ⟨uuid',entry⟩ | uuid'
    · simpa [called] using ih
    · simpa [called,Ledger.record] using ih
    · by_cases same : uuid' = uuid
      · subst same
        have used := writes_le (step_move taken) called
        rw [dnsQueryMap_eq_ledger ran] at used
        simp only [Option.toList_some,ledger_append,Ledger.record,Function.update_self,List.length_append,if_pos]
        exact Nat.add_le_add ih used
      · simpa [called,same,Ledger.record,Ne.symm same] using ih

/-- No query is answered twice. -/
theorem responses_once {env : Env} {past : Past} {world : World} (trace : Trace env past world)
    (distinct : DistinctQueries env past) (uuid : String) : (past.flatMap (responses env uuid)).length ≤ 1 := by
  have found := responses_le_found trace uuid
  have few := found_le_asked uuid (calls env past)
  have one := distinct uuid
  omega

/-- Answers find their queries: an answer with an IPv4 literal for a pending query is
    written to the socket that sent the query, with the id of the query, and to no other;
    an answer that nothing is pending for changes nothing; no query is answered twice. -/
structure Matched (env : Env) (past : Past) : Prop where
  answered : ∀ earlier t later w m data uuid s query host x, past = earlier ++ t :: later → t.event = .frame w m →
    received? env m = some (.dns data) → data.uuid = .ok (some uuid) → Pending env earlier uuid s query →
    data.host = some host → ipv4? host.toList = some x →
    ∃ bytes id, t.reaction.outputs = [.write s bytes,.finish s] ∧ getShort query 2 = .ok id ∧ getShort bytes 2 = .ok id
  ignored : ∀ earlier t later w m data, past = earlier ++ t :: later → t.event = .frame w m →
    received? env m = some (.dns data) →
    (∀ uuid s query, data.uuid = .ok (some uuid) → ¬ Pending env earlier uuid s query) →
    t.after = t.before ∧ t.reaction.outputs = []
  once : ∀ uuid, (past.flatMap (responses env uuid)).length ≤ 1

/-- They do in every run, whatever the order of queries and answers. -/
theorem answers_match (env : Env) {past : Past} {world : World} (trace : Trace env past world)
    (distinct : DistinctQueries env past) : Matched env past := by
  refine ⟨?_,?_,?_⟩
  · rintro earlier t later w m data uuid s query host x rfl event read named pending addressed literal
    obtain ⟨middle,before,rest⟩ := trace.split rfl
    obtain ⟨rfl,taken,-⟩ := rest.head
    have entry := (pending_iff before).mp pending
    obtain ⟨header,rest,id,rfl,long,id'⟩ := query_header before entry
    have resolved : env.platform.getByName host = .ok (.inet4 x) := by
      simp [Platform.getByName,literal?,literal]
    have move := step_move taken
    rw [event] at move
    have written := answer_move move read named entry (by rw [addressed]; exact answer_ok resolved long id')
    refine ⟨_,id,written,id',?_⟩
    rw [body,List.append_assoc,List.append_assoc,List.append_assoc,← List.append_assoc]
    exact getShort_appendShort _ _ id (by simp [appendShort])
  · rintro earlier t later w m data rfl event read unpending
    obtain ⟨middle,before,rest⟩ := trace.split rfl
    obtain ⟨rfl,taken,-⟩ := rest.head
    have move := step_move taken
    rw [event] at move
    refine unknown_frame move read ?_
    rintro ⟨uuid,named,known⟩
    obtain ⟨⟨s,query⟩,entry⟩ := Option.ne_none_iff_exists'.mp known
    exact unpending uuid s query named ((pending_iff before).mpr entry)
  · exact responses_once trace distinct

/-- The calls of a query and its answer. -/
theorem exchange_calls {env : Env} {q : Query} {draw : Draw} {m reply : Buffer} {x : InetAddress} {data : DnsQuery}
    (read : received? env reply = some (.dns data)) (named : data.uuid = .ok (some draw.uuid)) :
    calls env (exchange q draw m reply x) = [.ask draw.uuid (0,q.buffer),.answer draw.uuid] := by
  obtain ⟨offset,name⟩ := q.named
  have asks : callOf env asking (.data 0 q.buffer draw) = _ := callOf_asks draw asking_reads name
  have answers : callOf env (asking.ask draw.uuid 0 q.buffer) (.frame 0 reply) = some (.answer draw.uuid) := by
    simp [callOf,read,named]
  rw [calls,exchange,List.filterMap_cons_none rfl,List.filterMap_cons_none rfl]
  simp only [List.filterMap_cons,asks,answers,List.filterMap_nil]

theorem exchange_distinct {env : Env} {q : Query} {draw : Draw} {m reply : Buffer} {x : InetAddress} {data : DnsQuery}
    (read : received? env reply = some (.dns data)) (named : data.uuid = .ok (some draw.uuid)) :
    DistinctQueries env (exchange q draw m reply x) := by
  intro uuid
  rw [exchange_calls read named]
  by_cases same : draw.uuid = uuid <;> simp [asked,same]

theorem answers_match_example : ∃ reply past world,
    DnsQuery.create Platforms.env.platform Platforms.env.userInfo Platforms.uuid "93.184.216.34" = pure reply ∧
    execute (step Platforms.env) started
      [.loggedIn 0,.queryAccepted 0,.data 0 exampleQuery.buffer Platforms.draw,.frame 0 reply] = some (past,world) ∧
    Matched Platforms.env past := by
  obtain ⟨reply,data,m,created,read,named,-,executed⟩ := execute_example
  exact ⟨reply,_,_,created,executed,answers_match Platforms.env (run_of_execute executed) (exchange_distinct read named)⟩

end WSocks.Queries
