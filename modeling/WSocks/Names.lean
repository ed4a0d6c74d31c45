import WSocks.DnsFormat
import WSocks.Sessions

/-!
# DNS queries of local clients

What the client reads of a query, which is the name behind the header, and what it
writes for an answer.
-/

namespace WSocks.Names
open WSocks.Runs WSocks.Effects WSocks.Endian WSocks.DnsFormat WSocks.Text WSocks.Buffers WSocks.Libraries WSocks.Messages
  WSocks.Client WSocks.Handlers WSocks.Proxy WSocks.Sessions

/-- A query for the IPv4 address of a name: one question of type A and class IN with an
    uncompressed name, and any additional records. -/
structure Query where
  message : Message
  labels : List Label
  asks : message.questions = [⟨⟨labels,none⟩,1,1⟩]
  plain : message.answers = [] ∧ message.authority = []
  short : (Name.encode ⟨labels,none⟩).length ≤ 255
  fits : message.encode.length < 65536

/-- The query as a local client sends it over TCP. -/
def Query.buffer (q : Query) : Buffer := frame q.message.encode

/-- The length and the header. -/
def Query.header (q : Query) : Buffer :=
  beBytes 2 q.message.encode.length ++ word q.message.id ++ word q.message.flags ++ [0,1,0,0,0,0] ++
    beBytes 2 q.message.additional.length

/-- The question and the additional section. -/
def Query.rest (q : Query) : Buffer :=
  Name.encode ⟨q.labels,none⟩ ++ [0,1,0,1] ++ q.message.additional.flatMap Record.encode

theorem Query.buffer_eq (q : Query) : q.buffer = q.header ++ q.rest := by
  have one : beBytes 2 1 = [0,1] := rfl
  have zero : beBytes 2 0 = [0,0] := rfl
  have class1 : word 1 = [0,1] := rfl
  rw [Query.buffer,frame,Query.header,Query.rest]
  generalize q.message.encode.length = n
  simp [Message.encode,q.asks,q.plain,Question.encode,one,zero,class1]

theorem Query.header_length (q : Query) : q.header.length = 14 := by simp [Query.header,word]

/-! ### Names -/

/-- The labels of a name as text, each followed by a dot. -/
def dotted (labels : List Label) (sb : String) : String :=
  labels.foldl (fun sb label => sb ++ decodeUtf8 label.bytes ++ ".") sb

section
variable {buffer : Buffer} {offset : Int} {sb : String} {length : Int8} (read : getByte buffer offset = .ok length)
  (nonzero : ¬ length = 0)
include read nonzero

/-- A label that is not in the buffer ends `getName`. -/
theorem getName_cut {failure : Failure}
    (cut : getBytes buffer (offset + 1) (offset + 1 + length.toInt) = .error failure) :
    getName buffer offset sb = .error failure := by
  rw [getName,read]
  simp only [if_neg nonzero]
  split
  · rename_i failure' cut'
    cases cut.symm.trans cut'
    rfl
  · rename_i bytes got
    cases cut.symm.trans got

/-- Behind any other `getName` is called again. -/
theorem getName_label {bytes : Buffer}
    (got : getBytes buffer (offset + 1) (offset + 1 + length.toInt) = .ok bytes) :
    getName buffer offset sb = getName buffer (offset + 1 + length.toInt) (sb ++ decodeUtf8 bytes ++ ".") := by
  rw [getName,read]
  simp only [if_neg nonzero]
  split
  · rename_i failure cut
    cases got.symm.trans cut
  · rename_i bytes' got'
    cases got.symm.trans got'
    rfl

end

/-- `getName` reads every uncompressed name, and stops behind its zero. -/
theorem getName_labels (front : Buffer) (labels : List Label) (back : Buffer) (sb : String) :
    getName (front ++ (Name.encode ⟨labels,none⟩ ++ back)) front.length sb =
      .ok (front.length + (Name.encode ⟨labels,none⟩).length,dotted labels sb) := by
  induction labels generalizing front sb with
  | nil =>
    have zero : getByte (front ++ (Name.encode ⟨[],none⟩ ++ back)) front.length = .ok 0 := getByte_at front back 0 rfl
    rw [getName,zero]
    rfl
  | cons label labels ih =>
    have short := label.short
    have nonempty := label.nonempty
    have size : (UInt8.ofNat label.bytes.length).toNat = label.bytes.length :=
      UInt8.toNat_ofNat_of_lt' (lt_of_le_of_lt short (by decide))
    have signed := toInt_byte (UInt8.ofNat label.bytes.length)
    rw [size,if_pos (by omega)] at signed
    have split : front ++ (Name.encode ⟨label :: labels,none⟩ ++ back) =
        (front ++ label.encode) ++ (Name.encode ⟨labels,none⟩ ++ back) := by
      simp [Name.encode]
    have length : getByte (front ++ (Name.encode ⟨label :: labels,none⟩ ++ back)) front.length =
        .ok (Int8.ofNat label.bytes.length) := by
      have read := getByte_at front (label.bytes ++ (Name.encode ⟨labels,none⟩ ++ back))
        (UInt8.ofNat label.bytes.length) (i := front.length) rfl
      rw [size] at read
      rw [split]
      simpa [Label.encode] using read
    have bytes : getBytes (front ++ (Name.encode ⟨label :: labels,none⟩ ++ back)) (front.length + 1)
        (front.length + 1 + label.bytes.length) = .ok label.bytes := by
      have read := getBytes_between (front ++ [UInt8.ofNat label.bytes.length]) label.bytes
        (Name.encode ⟨labels,none⟩ ++ back) (i := front.length + 1) (j := front.length + 1 + label.bytes.length)
        (by simp) (by simp)
      rw [split]
      simpa [Label.encode] using read
    have positive : Int8.ofNat label.bytes.length ≠ 0 := by
      intro zero
      rw [zero] at signed
      simp at signed
      omega
    have named := ih (front ++ label.encode) (sb ++ decodeUtf8 label.bytes ++ ".")
    have next : ((front ++ label.encode).length : Int) = front.length + 1 + label.bytes.length := by
      simp [Label.encode]
      omega
    have whole : ((front ++ label.encode).length : Int) + (Name.encode ⟨labels,none⟩).length =
        front.length + (Name.encode ⟨label :: labels,none⟩).length := by
      simp [Name.encode]
      omega
    rw [whole] at named
    rw [← signed] at bytes next
    rw [getName_label length positive bytes,← next,split]
    exact named

theorem getName_encode (front : Buffer) (labels : List Label) (back : Buffer) (sb : String) :
    ∃ offset, getName (front ++ (Name.encode ⟨labels,none⟩ ++ back)) front.length sb = .ok (offset,dotted labels sb) :=
  ⟨_,getName_labels front labels back sb⟩

/-- The host that the server should be asked for. -/
def Query.host (q : Query) : String := removeDot (dotted q.labels "")

/-- Whatever follows a query, its name is read. -/
theorem Query.named_append (q : Query) (more : Buffer) :
    ∃ offset, getName (q.buffer ++ more) 14 "" = .ok (offset,dotted q.labels "") := by
  have read := getName_encode q.header q.labels ([0,1,0,1] ++ q.message.additional.flatMap Record.encode ++ more) ""
  rw [q.header_length] at read
  simpa [q.buffer_eq,Query.rest] using read

/-- So every query is remembered, and the server is asked for its name. -/
theorem Query.named (q : Query) : ∃ offset, getName q.buffer 14 "" = .ok (offset,dotted q.labels "") := by
  simpa using q.named_append []

/-! ### What is written for an answer -/

/-- The twelve bytes of a record before its address: a pointer to the name of the
    question, type A, class IN, a day to live and a length of four. -/
def recordHead : Buffer := [0xC0,0x0C,0,1,0,1,0,1,0x51,0x80,0,4]

/-- The response to what stands behind the header of a query. -/
def body (id : Int16) (rest address : Buffer) : Buffer :=
  appendShort [] id ++ [0x81,0x80,0,1,0,1,0,0,0,0] ++ rest ++ recordHead ++ address

theorem response_ok {platform : Platform} {ip : String} {x : InetAddress} (resolved : platform.getByName ip = .ok x)
    (id : Int16) (query : Buffer) : response platform id ip query = .ok (body id query x.address) := by
  rw [response,resolved]
  refine congrArg Except.ok ?_
  simp [body,recordHead,appendUnsignedShort,appendUnsignedInt,beBytes,leBytes]

/-- A query with a header is answered as soon as the address is known. -/
theorem answer_ok {platform : Platform} {ip : String} {x : InetAddress} (resolved : platform.getByName ip = .ok x)
    {header rest : Buffer} {id : Int16} (long : header.length = 14) (named : getShort (header ++ rest) 2 = .ok id) :
    answer platform (some ip) (header ++ rest) =
      .ok (appendShort [] (Int16.ofNat (body id rest x.address).length) ++ body id rest x.address) := by
  have behind := getBytes_between header rest [] (i := 14) (j := (header ++ rest).length) (by simp [long]) (by simp)
  rw [List.append_nil] at behind
  rw [answer,named,getBuffer,behind]
  simp [nonNull,response_ok resolved,bind,Except.bind,pure,Except.pure]

/-- A chunk in which a name ends has a header in front of it. -/
theorem getName_header {buffer : Buffer} {sb : String} {name : Int × String} (named : getName buffer 14 sb = .ok name) :
    ∃ header rest id, buffer = header ++ rest ∧ header.length = 14 ∧ getShort (header ++ rest) 2 = .ok id := by
  have long : 14 < buffer.length := by
    by_contra short
    rw [getName,getByte_beyond (by omega)] at named
    cases named
  rcases buffer with _ | ⟨a,_ | ⟨b,_ | ⟨c,_ | ⟨d,rest⟩⟩⟩⟩
  · simp at long
  · simp at long
  · simp at long
  · simp at long
  · have read := getShort_at [a,b] rest c d (i := 2) rfl
    exact ⟨a :: b :: c :: d :: rest.take 10,rest.drop 10,_,by simp,by simp at long ⊢; omega,by simpa using read⟩

/-- The id of a query as a signed number. -/
def Query.id (q : Query) : Int16 := Int16.ofNat q.message.id.toNat

theorem Query.getShort_id (q : Query) : getShort (q.header ++ q.rest) 2 = .ok q.id := by
  have split : q.header ++ q.rest = beBytes 2 q.message.encode.length ++ beBytes 2 q.message.id.toNat ++
      (word q.message.flags ++ [0,1,0,0,0,0] ++ beBytes 2 q.message.additional.length ++ q.rest) := by
    simp [Query.header,word]
  rw [split]
  exact getShort_between _ _ q.message.id.toNat_lt (by simp)

/-- What is written for an answer to a query. -/
def Query.response (q : Query) (address : Buffer) : Buffer :=
  appendShort [] (Int16.ofNat (body q.id q.rest address).length) ++ body q.id q.rest address

theorem Query.answer_ok (q : Query) {platform : Platform} {ip : String} {x : InetAddress}
    (resolved : platform.getByName ip = .ok x) : answer platform (some ip) q.buffer = .ok (q.response x.address) := by
  rw [q.buffer_eq]
  exact Names.answer_ok resolved q.header_length q.getShort_id

/-! ### A query in a session -/

/-- A connection to the DNS server. -/
def asking : World := online.openSocket 0 (Socket.fresh.handle .handleQuery)

theorem asking_reads : Reads asking 0 .handleQuery := by simp [Reads,asking,online,Socket.fresh]
theorem asking_online : Online asking 0 := by simp [Online,asking,online]
theorem asking_entry (uuid : String) (query : Buffer) : (asking.ask uuid 0 query).dnsQueryMap uuid = some (0,query) := by
  simp

/-- The transitions of a query, which goes out as `m`, and of its answer. -/
def exchange (q : Query) (draw : Draw) (m reply : Buffer) (x : InetAddress) : List (Runs.Transition World Event Reaction) :=
  [⟨started,.loggedIn 0,⟨[.ping 0],none⟩,online⟩,
    ⟨online,.queryAccepted 0,⟨[],none⟩,asking⟩,
    ⟨asking,.data 0 q.buffer draw,⟨[.send 0 m],none⟩,asking.ask draw.uuid 0 q.buffer⟩,
    ⟨asking.ask draw.uuid 0 q.buffer,.frame 0 reply,⟨[.write 0 (q.response x.address),.finish 0],none⟩,
      ((asking.ask draw.uuid 0 q.buffer).unask draw.uuid).updateSocket 0 Socket.shut⟩]

theorem execute_exchange {env : Env} (able : Able env) (draw : Draw) (q : Query) {reply : Buffer} {data : DnsQuery}
    {ip : String} {x : InetAddress} (read : received? env reply = some (.dns data))
    (named : data.uuid = .ok (some draw.uuid)) (host : data.host = some ip) (literal : literal? ip = some x) :
    ∃ m, execute (step env) started [.loggedIn 0,.queryAccepted 0,.data 0 q.buffer draw,.frame 0 reply] =
        some (exchange q draw m reply x,((asking.ask draw.uuid 0 q.buffer).unask draw.uuid).updateSocket 0 Socket.shut) ∧
      upstream? env.platform env.userInfo m = some (.dns (some q.host) (some draw.uuid)) := by
  obtain ⟨offset,name⟩ := q.named
  obtain ⟨m,sent,told⟩ := step_asked env asking_reads draw able asking_online name
  have resolved : env.platform.getByName ip = .ok x := by simp [Platform.getByName,literal]
  have answered : answer env.platform data.host q.buffer = .ok (q.response x.address) := by
    rw [host]
    exact q.answer_ok resolved
  refine ⟨m,?_,told⟩
  exact execute_of_step (step_loggedIn env (by simp [started]) rfl) <|
    execute_of_step (step_queryAccepted env rfl) <|
    execute_of_step sent <|
    execute_of_step (step_answered env (by simp [asking_online.2]) read named (by simp) answered) (execute.eq_1 _ _)

/-- A run with a query and its answer comes to the state between the two. -/
theorem exchange_split {env : Env} {q : Query} {draw : Draw} {m reply : Buffer} {x : InetAddress} {world : World}
    (trace : Trace env (exchange q draw m reply x) world) :
    ∃ past, Trace env past (asking.ask draw.uuid 0 q.buffer) ∧
      step env (asking.ask draw.uuid 0 q.buffer) (.frame 0 reply) =
        some (((asking.ask draw.uuid 0 q.buffer).unask draw.uuid).updateSocket 0 Socket.shut,
          ⟨[.write 0 (q.response x.address),.finish 0],none⟩) := by
  obtain ⟨middle,before,last⟩ := trace.split (List.take_append_drop 3 (exchange q draw m reply x)).symm
  obtain ⟨rfl,taken,-⟩ := last.head
  exact ⟨_,before,taken⟩

/-! ### A query for example.com -/

/-- The query that `dig example.com` sends without EDNS. -/
def exampleQuery : Query where
  message := ⟨0x1234,0x0100,
    [⟨⟨[⟨[101,120,97,109,112,108,101],by decide,by decide⟩,⟨[99,111,109],by decide,by decide⟩],none⟩,1,1⟩],[],[],[],by decide⟩
  labels := [⟨[101,120,97,109,112,108,101],by decide,by decide⟩,⟨[99,111,109],by decide,by decide⟩]
  asks := rfl
  plain := ⟨rfl,rfl⟩
  short := by decide
  fits := by decide

theorem literal_exampleAddress : literal? "93.184.216.34" = some (.inet4 ⟨93,184,216,34⟩) := by
  have text : "93.184.216.34".toList = dottedQuad ⟨93,184,216,34⟩ := by decide
  rw [literal?,text,ipv4?_dottedQuad]

/-- The server answers it. -/
theorem execute_example : ∃ reply data m,
    DnsQuery.create Platforms.env.platform Platforms.env.userInfo Platforms.uuid "93.184.216.34" = pure reply ∧
    received? Platforms.env reply = some (.dns data) ∧ data.uuid = .ok (some Platforms.uuid) ∧
    data.host = some "93.184.216.34" ∧
    execute (step Platforms.env) started
      [.loggedIn 0,.queryAccepted 0,.data 0 exampleQuery.buffer Platforms.draw,.frame 0 reply] =
        some (exchange exampleQuery Platforms.draw m reply (.inet4 ⟨93,184,216,34⟩),
          ((asking.ask Platforms.uuid 0 exampleQuery.buffer).unask Platforms.uuid).updateSocket 0 Socket.shut) := by
  obtain ⟨reply,data,created,named,host,readable⟩ :=
    Wire.dnsQuery_readable Platforms.aesKey_key Platforms.uuid "93.184.216.34"
  have read := Wire.received?_prefixed ⟨[],rfl,rfl⟩ readable
  obtain ⟨m,executed,-⟩ := execute_exchange able_env Platforms.draw exampleQuery read named host literal_exampleAddress
  exact ⟨reply,data,m,created,read,named,host,executed⟩

end WSocks.Names
