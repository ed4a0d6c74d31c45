import WSocks.Queries

/-!
# The form of a response

A response is glued together from a fixed header, everything behind the header of
the query, and a record with a fixed head. That makes a message only if the query
ends with its question and the address has four bytes.
-/

namespace WSocks.Response
open WSocks.Effects WSocks.Endian WSocks.DnsFormat WSocks.Text WSocks.Buffers WSocks.Libraries WSocks.Messages
  WSocks.Client WSocks.Handlers WSocks.Names WSocks.Queries

/-! ### The response as a message -/

/-- The record at the end of a response: as many bytes of the address as it counts. -/
def pointed (address : Buffer) : Record where
  owner := ⟨[],some 12⟩
  rtype := 1
  rclass := 1
  ttl := 86400
  rdata := address.take 4
  fits := by simp

theorem pointed_encode {address : Buffer} (long : 4 ≤ address.length) :
    recordHead ++ address = (pointed address).encode ++ address.drop 4 := by
  have four : (address.take 4).length = 4 := by simpa using long
  have head : recordHead = (pointed address).owner.encode ++ word 1 ++ word 1 ++ beBytes 4 86400 ++ beBytes 2 4 := rfl
  rw [Record.encode,show (pointed address).rdata = address.take 4 from rfl,four,head]
  simp [pointed]

/-- A response with one answer. -/
def replyTo (id : UInt16) (question : Question) (record : Record) : Message where
  id := id
  flags := 0x8180
  questions := [question]
  answers := [record]
  authority := []
  additional := []
  fits := by simp

/-- The message that a reader makes of a response whose first record is known. -/
def reply (q : Query) (record : Record) : Message where
  id := q.message.id
  flags := 0x8180
  questions := q.message.questions
  answers := [record]
  authority := []
  additional := []
  fits := by simp [q.asks]

theorem appendShort_ofNat {n : Nat} (fits : n < 65536) : appendShort [] (Int16.ofNat n) = beBytes 2 n := by
  have same : (Int16.ofNat n).toUInt16.toNat = n := by simp; omega
  rw [appendShort,same,List.nil_append]

/-- The reader finds the first record behind the question, and whatever follows it. -/
theorem body_encode (id : Int16) (question : Question) {more address left : Buffer} {record : Record}
    (first : more ++ recordHead ++ address = record.encode ++ left) :
    body id (question.encode ++ more) address = (replyTo id.toUInt16 question record).encode ++ left := by
  have one : beBytes 2 1 = [0,1] := rfl
  have zero : beBytes 2 0 = [0,0] := rfl
  have flags : word 0x8180 = [0x81,0x80] := rfl
  rw [body,appendShort,List.nil_append]
  simp only [Message.encode,replyTo,word,List.flatMap_cons,List.flatMap_nil,List.length_cons,List.length_nil,one,zero,
    List.append_assoc,List.cons_append,List.nil_append,List.append_nil] at first flags ⊢
  rw [flags,first]
  rfl

theorem body_eq (q : Query) (address : Buffer) (record : Record) (left : Buffer)
    (first : q.message.additional.flatMap Record.encode ++ recordHead ++ address = record.encode ++ left) :
    body q.id q.rest address = (reply q record).encode ++ left := by
  have id : q.id.toUInt16 = q.message.id := by simp [Query.id]
  have same : replyTo q.id.toUInt16 ⟨⟨q.labels,none⟩,1,1⟩ record = reply q record := by
    simp [replyTo,reply,id,q.asks]
  have split : q.rest = Question.encode ⟨⟨q.labels,none⟩,1,1⟩ ++ q.message.additional.flatMap Record.encode := by
    have class1 : word 1 = [0,1] := rfl
    simp [Query.rest,Question.encode,class1]
  rw [← same,split]
  exact body_encode q.id _ first

/-- What follows the first record in the response to a query. -/
theorem body_left (q : Query) {x : InetAddress} :
    ∃ record left, body q.id q.rest x.address = (reply q record).encode ++ left ∧
      (left = [] ↔ q.message.additional = [] ∧ ∃ y, x = .inet4 y) := by
  cases more : q.message.additional with
  | nil =>
    have long : 4 ≤ x.address.length := by cases x <;> simp [InetAddress.address,Ipv4.bytes,Ipv6.bytes_length]
    refine ⟨_,_,body_eq q _ _ (x.address.drop 4) (by rw [more]; exact pointed_encode long),?_⟩
    cases x <;> simp [InetAddress.address,Ipv4.bytes,← List.length_eq_zero_iff,Ipv6.bytes_length]
  | cons record records =>
    refine ⟨record,_,body_eq q _ _ (records.flatMap Record.encode ++ recordHead ++ x.address) ?_,?_⟩
    · simp [more]
    · simp [recordHead]

/-! ### A query and its answer -/

/-- The bytes are a framed response to the query: nothing is left over, the id and the
    question are those of the query, and there is one answer, whose owner is the name
    that was asked for. A record holds as many bytes of data as it counts. -/
def Responds (q : Query) (bytes : Buffer) : Prop :=
  ∃ body response record, readFrame bytes = some body ∧ readMessage body = some (response,[]) ∧
    response.id = q.message.id ∧ response.questions = q.message.questions ∧ response.answers = [record] ∧
    record.owner.resolve body = some q.labels

/-- The pointer in the record leads to the name of the question. -/
private theorem resolve_pointed (q : Query) (address : Buffer) {record : Record} (left : Buffer) :
    (pointed address).owner.resolve ((reply q record).encode ++ left) = some q.labels := by
  have name : ((reply q record).encode ++ left).drop 12 =
      Name.encode ⟨q.labels,none⟩ ++ ([0,1,0,1] ++ record.encode ++ left) := by
    have class1 : word 1 = [0,1] := rfl
    have header : (reply q record).encode ++ left = (word q.message.id ++ word 0x8180 ++ beBytes 2 1 ++ beBytes 2 1 ++
        beBytes 2 0 ++ beBytes 2 0) ++ (Name.encode ⟨q.labels,none⟩ ++ ([0,1,0,1] ++ record.encode ++ left)) := by
      simp [Message.encode,reply,q.asks,Question.encode,class1]
    rw [header,List.drop_left' (by simp [word])]
  have followed : labelsAt ((reply q record).encode ++ left) 12 = some q.labels := by
    rw [labelsAt,name,readName_encode]
  change (labelsAt ((reply q record).encode ++ left) 12).map (fun labels => [] ++ labels) = some q.labels
  simp [followed]

private theorem readFrame_number {n : Nat} {bytes body : Bytes} (read : readFrame (beBytes 2 n ++ bytes) = some body) :
    body = bytes := by
  have same : beBytes 2 n = beBytes 2 (beValue (beBytes 2 n)) := by
    have back := beBytes_beValue (beBytes 2 n)
    rw [beBytes_length] at back
    exact back.symm
  have small : beValue (beBytes 2 n) < 256 ^ 2 := by simpa using beValue_lt (beBytes 2 n)
  rw [readFrame,same,readNumber_beBytes small] at read
  simp only [Option.ite_none_right_eq_some,Option.some.injEq] at read
  exact read.2.symm

/-- The response to a query is a message exactly when the query ends with its question
    and the address is an IPv4 address. -/
theorem responds_iff (q : Query) (x : InetAddress) :
    Responds q (q.response x.address) ↔
      q.message.additional = [] ∧ ∃ y, x = .inet4 y := by
  constructor
  · rintro ⟨parsed,response,record,framed,read,-⟩
    rw [Query.response,appendShort,List.nil_append] at framed
    obtain rfl := readFrame_number framed
    obtain ⟨first,left,split,ends⟩ := body_left q (x := x)
    rw [split,readMessage_encode] at read
    exact ends.mp (Prod.mk.inj (Option.some.inj read)).2
  · rintro ⟨alone,y,rfl⟩
    have split := body_eq q (InetAddress.inet4 y).address (pointed y.bytes) []
      (by rw [alone]; exact pointed_encode (le_refl 4))
    have small : (body q.id q.rest (InetAddress.inet4 y).address).length < 65536 := by
      have short := q.short
      simp [body,recordHead,Query.rest,alone,InetAddress.address,Ipv4.bytes,appendShort]
      omega
    rw [Query.response,appendShort_ofNat small]
    refine ⟨_,reply q (pointed y.bytes),pointed y.bytes,readFrame_frame small,?_,rfl,rfl,rfl,?_⟩
    · rw [split,readMessage_encode]
    · rw [split]
      exact resolve_pointed q y.bytes []

/-- A query comes on a socket, and then the answer for it comes from the server: what is
    written back is a response to the query. -/
def Answered (env : Env) (draw : Draw) (world : World) (s : SocketId) (q : Query) (data : DnsQuery) : Prop :=
  ∃ result next outputs result' next' bytes, (handleQuery env draw s q.buffer).run world = some (result,next,outputs) ∧
    (wsReceivedDNSHandler env data).run next = some (result',next',[.write s bytes,.finish s]) ∧ Responds q bytes

/-- What is written back is the response that `response` builds. -/
theorem answered_responds (env : Env) (draw : Draw) (world : World) (s : SocketId) (q : Query) (data : DnsQuery)
    {ip : String} {x : InetAddress} (named : data.uuid = .ok (some draw.uuid)) (host : data.host = some ip)
    (literal : literal? ip = some x) : Answered env draw world s q data ↔ Responds q (q.response x.address) := by
  obtain ⟨name,read⟩ := q.named
  have resolved : env.platform.getByName ip = .ok x := by simp [Platform.getByName,literal]
  have answered := q.answer_ok resolved
  rcases handleQuery_run env draw s q.buffer world with ⟨failure,unnamed,-⟩ | ⟨offset,sb,message,-,-,ran⟩
  · simp [unnamed] at read
  have entry : (world.ask draw.uuid s q.buffer).dnsQueryMap draw.uuid = some (s,q.buffer) := by simp
  have ran' : (wsReceivedDNSHandler env data).run (world.ask draw.uuid s q.buffer) = some (.ok (),
      ((world.ask draw.uuid s q.buffer).unask draw.uuid).updateSocket s Socket.shut,
      [.write s (q.response x.address),.finish s]) := by
    simp [wsReceivedDNSHandler,named,nonNull,host,answered,write,finish]
  constructor
  · rintro ⟨_,_,_,_,_,_,asked,written,responds⟩
    cases asked.symm.trans ran
    cases written.symm.trans ran'
    exact responds
  · intro responds
    exact ⟨_,_,_,_,_,_,ran,ran',responds⟩

/-- A query is answered with a response exactly when it carries no additional record and
    the answer is an IPv4 address. -/
theorem answered_iff (env : Env) (draw : Draw) (world : World) (s : SocketId) (q : Query) (data : DnsQuery) {ip : String}
    {x : InetAddress} (named : data.uuid = .ok (some draw.uuid)) (host : data.host = some ip)
    (literal : literal? ip = some x) :
    Answered env draw world s q data ↔ q.message.additional = [] ∧ ∃ y, x = .inet4 y :=
  (answered_responds env draw world s q data named host literal).trans (responds_iff q x)

private def answerTo (ip : String) : DnsQuery := ⟨[("host",.string ip),("uuid",.string Platforms.uuid)],some ip⟩

theorem answered_example : Answered Platforms.env Platforms.draw asking 0 exampleQuery (answerTo "93.184.216.34") :=
  (answered_iff Platforms.env Platforms.draw asking 0 exampleQuery (answerTo "93.184.216.34") rfl rfl
    literal_exampleAddress).mpr ⟨rfl,_,rfl⟩

/-- The answer is ::1, which has sixteen bytes. -/
theorem unanswered_example : literal? "::1" = some (.inet6 ⟨[0,0,0,0,0,0,0,1],rfl⟩) ∧
    ¬ Answered Platforms.env Platforms.draw asking 0 exampleQuery (answerTo "::1") := by
  have literal : literal? "::1" = some (.inet6 ⟨[0,0,0,0,0,0,0,1],rfl⟩) := by decide
  refine ⟨literal,?_⟩
  rw [answered_responds Platforms.env Platforms.draw asking 0 exampleQuery (answerTo "::1") rfl rfl literal,responds_iff]
  simp

end WSocks.Response
