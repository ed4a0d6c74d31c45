import WSocks.Parsing
import WSocks.Sessions

/-!
# Answers to greetings and requests

What a SOCKS5 client is told: which method it should use, and whether its request is
granted. A greeting is answered without looking at its methods, and most refusals are
too short to be replies.
-/

namespace WSocks.Negotiation
open WSocks.Effects WSocks.Endian WSocks.Text WSocks.Buffers WSocks.Libraries WSocks.Messages WSocks.Client WSocks.Handlers
  WSocks.Proxy WSocks.Traffic WSocks.Socks WSocks.Sessions WSocks.Parsing

/-! ### The method -/

/-- A greeting: one to 255 methods. -/
structure Greeting where
  methods : List UInt8
  nonempty : 1 ≤ methods.length
  fits : methods.length ≤ 255

def Greeting.buffer (greeting : Greeting) : Buffer := 0x05 :: UInt8.ofNat greeting.methods.length :: greeting.methods

/-- The method of no authentication if it is offered, else none, and nothing more. -/
def Selects (env : Env) (draw : Draw) (uuid : String) (s : SocketId) (world : World) (greeting : Greeting) : Prop :=
  (bufferHandler env draw uuid s greeting.buffer).run world =
    some (.ok (),world,[.write s (if 0x00 ∈ greeting.methods then [0x05,0x00] else [0x05,0xFF])])

private theorem count_toNat (greeting : Greeting) :
    (UInt8.ofNat greeting.methods.length).toNat = greeting.methods.length :=
  UInt8.toNat_ofNat_of_lt' (lt_of_le_of_lt greeting.fits (by decide))

/-- With fewer than 128 methods a greeting is one. -/
theorem greets_iff (greeting : Greeting) : Greets greeting.buffer ↔ greeting.methods.length < 128 := by
  unfold Greeting.buffer
  rw [greets_cons,UInt8.lt_iff_toNat_lt,count_toNat]
  exact and_iff_left rfl

/-- What is answered to a greeting with more methods says nothing about them. -/
private theorem many_run (env : Env) (draw : Draw) (uuid : String) (s : SocketId) (world : World) {greeting : Greeting}
    (many : ¬ greeting.methods.length < 128) :
    (∃ failure, (bufferHandler env draw uuid s greeting.buffer).run world = some (.error failure,world,[])) ∨
    ∃ rep, rep ≠ 0x00 ∧ rep ≠ 0xFF ∧
      (bufferHandler env draw uuid s greeting.buffer).run world = some (.ok (),world,[.write s [0x05,rep]]) := by
  have kept : screened world s greeting.buffer = (world,[]) := screened_version world s _
  rcases read : SocksRequest.parse greeting.buffer with failure | request
  · exact .inl ⟨failure,by rw [run_unparsed env draw uuid s world read,kept]⟩
  have taken := parsed greeting.buffer
  rw [read] at taken
  have refused : request = .unsupportedAddress ∨ request = .unsupportedCommand := by
    generalize whole : greeting.buffer = b at taken
    cases taken with
    | greeting greets => exact absurd ((greets_iff greeting).mp (whole ▸ greets)) many
    | unknown => exact .inl rfl
    | request =>
      obtain ⟨-,tail⟩ := List.cons.inj whole
      obtain ⟨rfl,-⟩ := List.cons.inj tail
      have one : UInt8.ofNat greeting.methods.length ≠ 0x01 := by
        intro same
        have value := count_toNat greeting
        rw [same] at value
        exact many (by rw [← value]; decide)
      have three : UInt8.ofNat greeting.methods.length ≠ 0x03 := by
        intro same
        have value := count_toNat greeting
        rw [same] at value
        exact many (by rw [← value]; decide)
      rw [ofCommand_eq,if_neg one,if_neg three]
      exact .inr rfl
  refine .inr ?_
  rcases refused with rfl | rfl
  · exact ⟨0x08,by decide,by decide,by rw [run_replied env draw uuid s world read (by simp),kept]; rfl⟩
  · exact ⟨0x07,by decide,by decide,by rw [run_replied env draw uuid s world read (by simp),kept]; rfl⟩

/-- A greeting is followed as it should be exactly when it offers fewer than 128 methods
    and no authentication among them. -/
theorem selects_iff (env : Env) (draw : Draw) (uuid : String) (s : SocketId) (world : World) (greeting : Greeting) :
    Selects env draw uuid s world greeting ↔ greeting.methods.length < 128 ∧ 0x00 ∈ greeting.methods := by
  have kept : screened world s greeting.buffer = (world,[]) := screened_version world s _
  unfold Selects
  by_cases few : greeting.methods.length < 128
  · have ran := run_replied env draw uuid s world (parse_of_greets ((greets_iff greeting).mpr few)) (by simp)
    rw [show 0x05 :: UInt8.ofNat greeting.methods.length :: greeting.methods = greeting.buffer from rfl,kept] at ran
    rw [ran]
    by_cases offered : 0x00 ∈ greeting.methods
    · simp [few,offered,SocksRequest.reply]
    · simp [offered,SocksRequest.reply]
  · constructor
    · intro selects
      rcases many_run env draw uuid s world few with ⟨failure,ran⟩ | ⟨rep,other,other',ran⟩
      · simp [ran] at selects
      · rw [ran] at selects
        split_ifs at selects <;> simp [other,other'] at selects
    · rintro ⟨below,-⟩
      exact absurd below few

/-- A client that offers only a user name and a password is told that it needs none. -/
theorem password_not_selected : ∃ greeting : Greeting, greeting.methods = [0x02] ∧
    ¬ Selects Platforms.env Platforms.draw Platforms.uuid 0 (accepted Platforms.uuid) greeting := by
  refine ⟨⟨[0x02],by decide,by decide⟩,rfl,?_⟩
  intro selects
  have read : SocksRequest.parse [0x05,0x01,0x02] = .ok .greeting := rfl
  have ran := run_replied Platforms.env Platforms.draw Platforms.uuid 0 (accepted Platforms.uuid) read (by simp)
  unfold Selects Greeting.buffer at selects
  rw [screened_version] at ran
  have same := ran.symm.trans selects
  simp [SocksRequest.reply] at same

/-! ### Replies -/

/-- The address in a request or in a reply. -/
inductive Address
  | ipv4 (x : Ipv4)
  | name (bytes : List UInt8) (fits : bytes.length ≤ 255)
  | ipv6 (x : Ipv6)

/-- The type of an address and the address. -/
def Address.field : Address → Buffer
  | .ipv4 x => 0x01 :: x.bytes
  | .name bytes _ => 0x03 :: UInt8.ofNat bytes.length :: bytes
  | .ipv6 x => 0x04 :: x.bytes

/-- A request with any command. -/
structure Request where
  cmd : UInt8
  address : Address
  port : UInt16

def Request.buffer (r : Request) : Buffer := [0x05,r.cmd,0x00] ++ r.address.field ++ beBytes 2 r.port.toNat

/-- The commands and the types of address that the front end has a branch for. -/
def Request.Supported (r : Request) : Prop :=
  (r.cmd = 0x01 ∨ r.cmd = 0x03) ∧ ∀ x, r.address ≠ .ipv6 x

/-- How far `recv_handler_done` comes with the bytes of a reply: it reads a header of four
    bytes, then an address and a port. -/
inductive Reading
  | waiting
  | error
  | up (rest : Buffer)

def recv_handler_done : Buffer → Reading
  | ver :: rep :: _ :: atyp :: rest =>
    if ver ≠ 0x05 then .error
    else if rep ≠ 0x00 then .error
    else if atyp = 0x01 then if rest.length < 6 then .waiting else .up (rest.drop 6)
    else if atyp = 0x04 then if rest.length < 18 then .waiting else .up (rest.drop 18)
    else .error
  | _ => .waiting

/-- One complete reply, which grants nothing that is not supported. -/
def Replies (r : Request) (bytes : Buffer) : Prop :=
  (∃ rep bound port, bytes = [0x05,rep,0x00] ++ Address.field bound ++ beBytes 2 (UInt16.toNat port) ∧
    (¬ r.Supported → rep ≠ 0x00)) ∧
  (recv_handler_done bytes = .error ∨ recv_handler_done bytes = .up [])

/-- What is written at once is one reply, if it is anything; and when the request asks for a
    connection, nothing is written at once and one reply when the server has connected. -/
structure Answers (env : Env) (draw : Draw) (uuid : String) (s : SocketId) (world : World) (r : Request) : Prop where
  atOnce : ∀ result next outputs, (bufferHandler env draw uuid s r.buffer).run world = some (result,next,outputs) →
    outputs.flatMap (writtenTo s) = [] ∨ Replies r (outputs.flatMap (writtenTo s))
  connected : ∀ host port, SocksRequest.parse r.buffer = .ok (.connect host port) →
    (∀ result next outputs, (bufferHandler env draw uuid s r.buffer).run world = some (result,next,outputs) →
      outputs.flatMap (writtenTo s) = []) ∧
    ∀ world' result next outputs, (wsConnectedHandler uuid).run world' = some (result,next,outputs) →
      world'.connectMap uuid = some s → Replies r (outputs.flatMap (writtenTo s))

/-- The requests that are answered so. -/
def Request.Answerable (r : Request) : Prop :=
  match r.address with
  | .ipv4 _ => r.cmd = 0x01 ∨ r.cmd = 0x03
  | .name bytes _ => r.cmd = 0x01 ∨ r.cmd = 0x03 ∨ 128 ≤ bytes.length
  | .ipv6 _ => False

/-! ### What a reply is -/

/-- A receiver of a complete reply has no bytes to wait for and none left. -/
theorem recv_reply (rep : UInt8) (bound : Address) (port : UInt16) :
    recv_handler_done ([0x05,rep,0x00] ++ bound.field ++ beBytes 2 port.toNat) = .error ∨
      recv_handler_done ([0x05,rep,0x00] ++ bound.field ++ beBytes 2 port.toNat) = .up [] := by
  by_cases granted : rep = 0x00
  · subst granted
    cases bound with
    | ipv4 x =>
      have six : (x.bytes ++ beBytes 2 port.toNat).length = 6 := by simp [Ipv4.bytes]
      have none : (x.bytes ++ beBytes 2 port.toNat).drop 6 = [] := List.drop_eq_nil_of_le (by omega)
      exact .inr (by simp [recv_handler_done,Address.field,six,none])
    | name bytes fits => exact .inl (by simp [recv_handler_done,Address.field])
    | ipv6 x =>
      have length := x.bytes_length
      have all : (x.bytes ++ beBytes 2 port.toNat).length = 18 := by simp [length]
      have none : (x.bytes ++ beBytes 2 port.toNat).drop 18 = [] := List.drop_eq_nil_of_le (by omega)
      exact .inr (by simp [recv_handler_done,Address.field,all,none])
  · cases bound <;> exact .inl (by simp [recv_handler_done,Address.field,granted])

theorem replies_of_supported {r : Request} (supported : r.Supported) (x : Ipv4) (port : UInt16) :
    Replies r ([0x05,0x00,0x00] ++ (Address.ipv4 x).field ++ beBytes 2 port.toNat) :=
  ⟨⟨0x00,.ipv4 x,port,rfl,absurd supported⟩,recv_reply 0x00 (.ipv4 x) port⟩

/-- Two bytes are no reply. -/
theorem not_replies_pair {r : Request} (a b : UInt8) : ¬ Replies r [a,b] := by
  rintro ⟨-,failed | up⟩
  · cases failed
  · cases up

/-! ### What requests are taken for -/

private def kind : Address → UInt8
  | .ipv4 _ => 0x01
  | .name _ _ => 0x03
  | .ipv6 _ => 0x04

private def body : Address → Buffer
  | .ipv4 x => x.bytes
  | .name bytes _ => UInt8.ofNat bytes.length :: bytes
  | .ipv6 x => x.bytes

private theorem buffer_eq (r : Request) :
    r.buffer = 0x05 :: r.cmd :: 0x00 :: kind r.address :: (body r.address ++ beBytes 2 r.port.toNat) := by
  rcases r with ⟨cmd,address,port⟩
  cases address <;> rfl

private theorem known_iff (r : Request) :
    kind r.address = 0x01 ∨ kind r.address = 0x03 ↔ ∀ x, r.address ≠ .ipv6 x := by
  cases r.address <;> simp [kind]

/-- All of a request is there, but a long name is not read. -/
private theorem answerable_iff (r : Request) : r.Answerable ↔
    Addressed (kind r.address :: (body r.address ++ beBytes 2 r.port.toNat)) ∧ (r.cmd = 0x01 ∨ r.cmd = 0x03) ∨
    (kind r.address = 0x01 ∨ kind r.address = 0x03) ∧
      ¬ Addressed (kind r.address :: (body r.address ++ beBytes 2 r.port.toNat)) := by
  unfold Request.Answerable
  cases r.address with
  | ipv4 x => simp [kind,body,Addressed,Ipv4.bytes]
  | name bytes fits =>
    have count : (UInt8.ofNat bytes.length).toNat = bytes.length :=
      UInt8.toNat_ofNat_of_lt' (lt_of_le_of_lt fits (by decide))
    have addressed : Addressed (kind (.name bytes fits) :: (body (.name bytes fits) ++ beBytes 2 r.port.toNat)) ↔
        bytes.length < 128 := by
      simp [kind,body,Addressed,UInt8.lt_iff_toNat_lt,count]
    rw [addressed]
    simp only [kind]
    by_cases short : bytes.length < 128
    · have notLong : ¬ 128 ≤ bytes.length := by omega
      simp [short,notLong]
    · have long : 128 ≤ bytes.length := by omega
      simp [short,long]
  | ipv6 x => simp [kind,Addressed]

/-- A request that looks like a greeting has another command than those known, and its
    name, if it has one, is short. -/
private theorem greets_not_answerable {r : Request} (greets : Greets r.buffer) : ¬ r.Answerable := by
  rw [buffer_eq,greets_cons,UInt8.lt_iff_toNat_lt] at greets
  obtain ⟨below,length⟩ := greets
  simp only [List.length_cons,List.length_append,beBytes_length] at length
  have high : 4 ≤ r.cmd.toNat := by omega
  have known : ¬ (r.cmd = 0x01 ∨ r.cmd = 0x03) := by
    rintro (one | three)
    · rw [one] at high
      exact absurd high (by decide)
    · rw [three] at high
      exact absurd high (by decide)
  unfold Request.Answerable
  cases address : r.address with
  | ipv4 x => exact known
  | name bytes fits =>
    have size : (body (.name bytes fits)).length = bytes.length + 1 := rfl
    rw [address,size] at length
    have small : r.cmd.toNat < 128 := below
    rintro (one | three | long)
    · exact known (.inl one)
    · exact known (.inr three)
    · omega
  | ipv6 x => exact id

/-- What the bytes of a request lead to. -/
private inductive Outcome (env : Env) (draw : Draw) (uuid : String) (s : SocketId) (world : World) (r : Request) : Prop
  | pair (b : UInt8) : (bufferHandler env draw uuid s r.buffer).run world = some (.ok (),world,[.write s [0x05,b]]) →
      ¬ r.Answerable → Outcome env draw uuid s world r
  | associate : SocksRequest.parse r.buffer = .ok .associate → r.Supported → r.Answerable → Outcome env draw uuid s world r
  | connect (host : String) (port : Int32) : SocksRequest.parse r.buffer = .ok (.connect host port) → r.Supported →
      r.Answerable → Outcome env draw uuid s world r
  | unread (failure : Failure) : SocksRequest.parse r.buffer = .error failure → r.Answerable → Outcome env draw uuid s world r

private theorem outcome (env : Env) (draw : Draw) (uuid : String) (s : SocketId) (world : World) (r : Request) :
    Outcome env draw uuid s world r := by
  have kept : screened world s r.buffer = (world,[]) := screened_version world s _
  have paired {request : SocksRequest} {b : UInt8} (read : SocksRequest.parse r.buffer = .ok request)
      (reply : request.reply = [0x05,b]) (other : ∀ host port, request ≠ .connect host port) :
      (bufferHandler env draw uuid s r.buffer).run world = some (.ok (),world,[.write s [0x05,b]]) := by
    rw [run_replied env draw uuid s world read other,kept,reply]
    rfl
  have read := parsed r.buffer
  generalize result : SocksRequest.parse r.buffer = parse at read
  generalize whole : r.buffer = b at read
  have answerable := answerable_iff r
  have known := known_iff r
  rw [buffer_eq] at whole
  cases read with
  | greeting greets =>
    refine .pair 0x00 (paired result rfl (by simp)) (greets_not_answerable ?_)
    rw [buffer_eq,whole]
    exact greets
  | unknown request one three =>
    cases whole
    refine .pair 0x08 (paired result rfl (by simp)) ?_
    rw [answerable]
    rintro (⟨addressed,-⟩ | ⟨typed,-⟩)
    · exact addressed.known.elim one three
    · exact typed.elim one three
  | @request _ _ _ _ _ target request addressed =>
    cases whole
    have typed := known.mp addressed.known
    rw [ofCommand_eq] at result
    split_ifs at result with one three
    · exact .connect _ _ result ⟨.inl one,typed⟩ (answerable.mpr (.inl ⟨addressed,.inl one⟩))
    · exact .associate result ⟨.inr three,typed⟩ (answerable.mpr (.inl ⟨addressed,.inr three⟩))
    · refine .pair 0x07 (paired result rfl (by simp)) ?_
      rw [answerable]
      rintro (⟨-,cmd⟩ | ⟨-,missing⟩)
      · exact cmd.elim one three
      · exact missing addressed
  | short request short =>
    rw [← whole] at short
    simp only [List.length_cons] at short
    omega
  | unread request typed missing =>
    cases whole
    exact .unread _ result (answerable.mpr (.inr ⟨typed,missing⟩))

section
variable {env : Env} {draw : Draw} {uuid : String} {s : SocketId} {world : World} {r : Request}

/-- An association is granted at once, with the address of the local relay. -/
private theorem answers_of_associate (read : SocksRequest.parse r.buffer = .ok .associate) (supported : r.Supported) :
    Answers env draw uuid s world r := by
  have kept : screened world s r.buffer = (world,[]) := screened_version world s _
  have ran := run_replied env draw uuid s world read (by simp)
  rw [kept] at ran
  constructor
  · intro result next outputs ran'
    cases ran.symm.trans ran'
    have form : SocksRequest.associate.reply =
        [0x05,0x00,0x00] ++ (Address.ipv4 ⟨127,0,0,1⟩).field ++ beBytes 2 (26484 : UInt16).toNat := by decide
    have replies := replies_of_supported supported ⟨127,0,0,1⟩ 26484
    rw [← form] at replies
    exact .inr (by simpa [writtenTo] using replies)
  · intro host port read'
    rw [read] at read'
    cases read'

/-- A connection is asked for at once and granted when the server has connected. -/
private theorem answers_of_connect {host : String} {port : Int32}
    (read : SocksRequest.parse r.buffer = .ok (.connect host port)) (supported : r.Supported) :
    Answers env draw uuid s world r := by
  have kept : screened world s r.buffer = (world,[]) := screened_version world s _
  obtain ⟨message,ran⟩ := run_connected env draw uuid s world read
  rw [kept] at ran
  have silent : ((transmission env draw world message).2).flatMap (writtenTo s) = [] := by
    rcases transmission_single env draw world message with none | ⟨w,m,single⟩
    · simp [none]
    · simp [single,writtenTo]
  have form : [0x05,0x00,0x00,0x01] ++ List.replicate 6 0x00 =
      [0x05,0x00,0x00] ++ (Address.ipv4 ⟨0,0,0,0⟩).field ++ beBytes 2 (0 : UInt16).toNat := by decide
  have replies := replies_of_supported supported ⟨0,0,0,0⟩ 0
  rw [← form] at replies
  constructor
  · intro result next outputs ran'
    cases ran.symm.trans ran'
    exact .inl silent
  · intro host' port' read'
    constructor
    · intro result next outputs ran'
      cases ran.symm.trans ran'
      exact silent
    · intro world' result next outputs later entry
      simp [wsConnectedHandler,entry,setHandler,write] at later
      obtain ⟨rfl,rfl,rfl⟩ := later
      simpa [writtenTo,appendByte] using replies

/-- Where the reader fails nothing is written. -/
private theorem answers_of_unread {failure : Failure} (read : SocksRequest.parse r.buffer = .error failure) :
    Answers env draw uuid s world r := by
  have kept : screened world s r.buffer = (world,[]) := screened_version world s _
  have ran := run_unparsed env draw uuid s world read
  rw [kept] at ran
  constructor
  · intro result next outputs ran'
    cases ran.symm.trans ran'
    exact .inl rfl
  · intro host port read'
    rw [read] at read'
    cases read'

private theorem not_answers_pair {b : UInt8}
    (ran : (bufferHandler env draw uuid s r.buffer).run world = some (.ok (),world,[.write s [0x05,b]])) :
    ¬ Answers env draw uuid s world r := by
  rintro ⟨atOnce,-⟩
  have written := atOnce _ _ _ ran
  simp only [List.flatMap_cons,List.flatMap_nil,writtenTo,if_true,List.append_nil] at written
  rcases written with silent | replies
  · cases silent
  · exact not_replies_pair _ _ replies

end

/-- A request is answered as it should be exactly when it is for an IPv4 address or a name,
    and its command is known or its name too long to be read. -/
theorem answers_iff (env : Env) (draw : Draw) (uuid : String) (s : SocketId) (world : World) (r : Request) :
    Answers env draw uuid s world r ↔ r.Answerable := by
  cases outcome env draw uuid s world r with
  | pair b ran refused => exact iff_of_false (not_answers_pair ran) refused
  | associate read supported answerable => exact iff_of_true (answers_of_associate read supported) answerable
  | connect host port read supported answerable => exact iff_of_true (answers_of_connect read supported) answerable
  | unread failure read answerable => exact iff_of_true (answers_of_unread read) answerable

/-- A client that asks to be listened for gets two bytes and waits for the rest. -/
theorem bind_not_answered :
    ¬ Answers Platforms.env Platforms.draw Platforms.uuid 0 (accepted Platforms.uuid) ⟨0x02,.ipv4 ⟨10,0,0,1⟩,80⟩ := by
  have read : SocksRequest.parse (Request.buffer ⟨0x02,.ipv4 ⟨10,0,0,1⟩,80⟩) = .ok .unsupportedCommand := rfl
  exact not_answers_pair (run_replied Platforms.env Platforms.draw Platforms.uuid 0 (accepted Platforms.uuid) read (by simp))

end WSocks.Negotiation
