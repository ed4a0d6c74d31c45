import WSocks.Frames
import WSocks.Response

/-!
# The type of an answer

Every answer that the client writes is an IPv4 address, whatever was asked for. The
records of the query stand in front of it, so the reader of a response takes the first
of them for the answer.
-/

namespace WSocks.AnswerTypes
open WSocks.Runs WSocks.Effects WSocks.Endian WSocks.DnsFormat WSocks.Text WSocks.Buffers WSocks.Libraries WSocks.Messages
  WSocks.Client WSocks.Handlers WSocks.Proxy WSocks.Ownership WSocks.Names WSocks.Queries WSocks.Response

/-- A query with one question, for any name, type and class; it may carry records. -/
structure Inquiry where
  message : Message
  question : Question
  asks : message.questions = [question]

/-- The query as a local client sends it over TCP. -/
def Inquiry.buffer (q : Inquiry) : Buffer := frame q.message.encode

/-- The records behind the question. -/
def Inquiry.records (q : Inquiry) : List Record := q.message.answers ++ q.message.authority ++ q.message.additional

/-- A response, read as a message behind its length, has only answers of the type and the
    class that were asked for. -/
def Agrees (question : Question) (bytes : Buffer) : Prop :=
  ∃ response left, readMessage (bytes.drop 2) = some (response,left) ∧
    ∀ record ∈ response.answers, record.rtype = question.qtype ∧ record.rclass = question.qclass

/-- A query with a record has one of the type and class of its question first; one
    without asks for type A and class IN. -/
def Inquiry.Fits (q : Inquiry) : Prop :=
  match q.records with
  | [] => q.question.qtype = 1 ∧ q.question.qclass = 1
  | record :: _ => record.rtype = q.question.qtype ∧ record.rclass = q.question.qclass

/-! ### What a reader finds -/

/-- What the response repeats of a query. -/
def Inquiry.rest (q : Inquiry) : Buffer := q.question.encode ++ q.records.flatMap Record.encode

/-- Whoever is asked, the response is made of the id of the query and what follows its header. -/
theorem Inquiry.answer_ok (q : Inquiry) {platform : Platform} {ip : String} {x : InetAddress}
    (resolved : platform.getByName ip = .ok x) : ∃ length id,
      answer platform (some ip) q.buffer = .ok (appendShort [] length ++ body id q.rest x.address) := by
  have split : q.buffer = (beBytes 2 q.message.encode.length ++ beBytes 2 q.message.id.toNat ++
      (word q.message.flags ++ beBytes 2 q.message.questions.length ++ beBytes 2 q.message.answers.length ++
      beBytes 2 q.message.authority.length ++ beBytes 2 q.message.additional.length)) ++ q.rest := by
    have questions : q.message.questions.flatMap Question.encode = q.question.encode := by simp [q.asks]
    unfold Inquiry.buffer frame
    generalize q.message.encode.length = n
    simp [Message.encode,word,questions,Inquiry.rest,Inquiry.records]
  rw [split]
  refine ⟨_,Int16.ofNat q.message.id.toNat,Names.answer_ok resolved (by simp [word]) ?_⟩
  rw [List.append_assoc]
  exact getShort_between _ _ q.message.id.toNat_lt (by simp)

/-- The record that a reader takes for the answer. -/
def Inquiry.first (q : Inquiry) (address : Buffer) : Record := q.records.headD (pointed address)

theorem Inquiry.first_encode (q : Inquiry) {address : Buffer} (long : 4 ≤ address.length) :
    ∃ left, q.records.flatMap Record.encode ++ recordHead ++ address = (q.first address).encode ++ left := by
  unfold Inquiry.first
  cases q.records with
  | nil => exact ⟨_,pointed_encode long⟩
  | cons record records => exact ⟨_,by simp; rfl⟩

theorem Inquiry.fits_iff (q : Inquiry) (address : Buffer) :
    q.Fits ↔ (q.first address).rtype = q.question.qtype ∧ (q.first address).rclass = q.question.qclass := by
  unfold Inquiry.Fits Inquiry.first
  cases q.records with
  | nil => simp [pointed,eq_comm]
  | cons record records => rfl

/-- The reader of the response to a query finds the first record. -/
theorem agrees_body (q : Inquiry) (length : Int16) (id : Int16) {address : Buffer} (long : 4 ≤ address.length) :
    Agrees q.question (appendShort [] length ++ body id q.rest address) ↔ q.Fits := by
  obtain ⟨left,first⟩ := q.first_encode long
  have behind : (appendShort [] length ++ body id q.rest address).drop 2 =
      (replyTo id.toUInt16 q.question (q.first address)).encode ++ left := by
    rw [List.drop_left' (by simp [appendShort])]
    exact body_encode id q.question first
  unfold Agrees
  rw [behind,readMessage_encode,q.fits_iff address]
  constructor
  · rintro ⟨response,rest,read,agree⟩
    obtain ⟨rfl,-⟩ := Prod.mk.inj (Option.some.inj read)
    exact agree _ (List.mem_singleton_self _)
  · intro agree
    refine ⟨_,left,rfl,?_⟩
    intro record member
    rw [List.mem_singleton.mp member]
    exact agree

/-! ### Answers -/

theorem address_length (x : InetAddress) : 4 ≤ x.address.length := by
  cases x <;> simp [InetAddress.address,Ipv4.bytes,Ipv6.bytes_length]

/-- Whatever was asked for, the response to a query that waits has an answer of its type
    and class exactly when the query fits. -/
theorem agrees_iff {env : Env} {past : Past} {world next : World} {w : WebSocketId} {m bytes : Buffer} {reaction : Reaction}
    {uuid : String} {s : SocketId} (q : Inquiry) (trace : Trace env past world) (pending : Pending env past uuid s q.buffer)
    (taken : step env world (.frame w m) = some (next,reaction))
    (answers : callOf env world (.frame w m) = some (.answer uuid)) (written : .write s bytes ∈ reaction.outputs) :
    Agrees q.question bytes ↔ q.Fits := by
  have entry := (pending_iff trace).mp pending
  obtain ⟨w',m',data,same,read,named⟩ := callOf_answer answers
  cases same
  rcases reply_move (step_move taken) read named entry with ⟨bytes',answered,sent⟩ | ⟨failure,-,-,silent⟩
  · obtain rfl : bytes = bytes' := by simpa [sent] using written
    obtain ⟨ip,x,present,resolved⟩ := Frames.answer_resolved answered
    obtain ⟨length,id,made⟩ := q.answer_ok resolved
    rw [present,made] at answered
    cases answered
    exact agrees_body q length id (address_length x)
  · simp [silent] at written

/-! ### Queries for example.com -/

/-- The query for some type of record. -/
def exampleInquiry (qtype : UInt16) : Inquiry where
  message := ⟨0x1234,0x0100,[⟨⟨exampleQuery.labels,none⟩,qtype,1⟩],[],[],[],by simp⟩
  question := ⟨⟨exampleQuery.labels,none⟩,qtype,1⟩
  asks := rfl

theorem agrees_example : ∃ past world next reaction w m bytes,
    Trace Platforms.env past world ∧ step Platforms.env world (.frame w m) = some (next,reaction) ∧
    .write 0 bytes ∈ reaction.outputs ∧ Agrees (exampleInquiry 1).question bytes := by
  obtain ⟨reply,data,m,-,read,named,-,executed⟩ := execute_example
  obtain ⟨past,trace,taken⟩ := exchange_split (run_of_execute executed)
  have pending : Pending Platforms.env past Platforms.uuid 0 (exampleInquiry 1).buffer :=
    (pending_iff trace).mpr (asking_entry Platforms.uuid exampleQuery.buffer)
  refine ⟨past,_,_,_,0,reply,_,trace,taken,List.mem_cons_self,?_⟩
  exact (agrees_iff (exampleInquiry 1) trace pending taken (callOf_answers read named) List.mem_cons_self).mpr ⟨rfl,rfl⟩

/-- A client asks for the IPv6 address and is handed an IPv4 address. -/
theorem aaaa_disagrees : ∃ reply bytes past world,
    execute (step Platforms.env) started
      [.loggedIn 0,.queryAccepted 0,.data 0 (exampleInquiry 28).buffer Platforms.draw,.frame 0 reply] =
        some (past,world) ∧
    (∃ t ∈ past, t.event = .frame 0 reply ∧ .write 0 bytes ∈ t.reaction.outputs) ∧
    ¬ Agrees (exampleInquiry 28).question bytes := by
  obtain ⟨reply,data,created,named,host,readable⟩ :=
    Wire.dnsQuery_readable Platforms.aesKey_key Platforms.uuid "93.184.216.34"
  have read := Wire.received?_prefixed ⟨[],rfl,rfl⟩ readable
  have whole : (exampleInquiry 28).buffer.take 14 ++ (Name.encode ⟨exampleQuery.labels,none⟩ ++ [0,28,0,1]) =
      (exampleInquiry 28).buffer := by decide
  obtain ⟨offset,name⟩ := getName_encode ((exampleInquiry 28).buffer.take 14) exampleQuery.labels [0,28,0,1] ""
  rw [whole] at name
  obtain ⟨m,sent,-⟩ := Sessions.step_asked Platforms.env asking_reads Platforms.draw Sessions.able_env asking_online name
  have resolved : Platforms.env.platform.getByName "93.184.216.34" = .ok (.inet4 ⟨93,184,216,34⟩) := by
    simp [Platform.getByName,literal_exampleAddress]
  obtain ⟨length,id,answered⟩ := (exampleInquiry 28).answer_ok resolved
  rw [← host] at answered
  refine ⟨reply,_,_,_,execute_of_step (Sessions.step_loggedIn Platforms.env (by simp [started]) rfl) <|
    execute_of_step (Sessions.step_queryAccepted Platforms.env rfl) <|
    execute_of_step sent <|
    execute_of_step (Sessions.step_answered Platforms.env (by simp [asking_online.2]) read named
      (asking_entry Platforms.uuid (exampleInquiry 28).buffer) answered) (execute.eq_1 _ _),
    ⟨_,List.mem_of_getElem? (i := 3) rfl,rfl,List.mem_cons_self⟩,?_⟩
  rw [agrees_body (exampleInquiry 28) length id (address_length _)]
  rintro ⟨other,-⟩
  exact absurd other (by decide)

end WSocks.AnswerTypes
