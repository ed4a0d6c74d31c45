import WSocks.Parsing
import WSocks.Sessions

/-!
# Chunks of a SOCKS dialogue

The front end keeps no bytes between two chunks: every chunk is parsed as if it
were a whole message. So a cut inside the greeting or inside the request is always
noticed by the client, by an exception or by an answer that it did not expect.
-/

namespace WSocks.Chunks
open WSocks.Runs WSocks.Effects WSocks.Endian WSocks.Text WSocks.Buffers WSocks.Libraries WSocks.Messages
  WSocks.Client WSocks.Handlers WSocks.Proxy WSocks.Traffic WSocks.Socks WSocks.Sessions WSocks.Parsing

/-! ### A piece of a greeting -/

/-- A chunk that begins and does not finish a greeting is no greeting. It is taken for
    a request that cannot be read or that asks for something unknown. -/
theorem greeting_cut {methods : Methods} {c rest : Buffer} (whole : c ++ rest = methods.greeting) (begun : c ≠ [])
    (unfinished : rest ≠ []) :
    (∃ c', c = 0x05 :: c') ∧
    ((∃ failure, SocksRequest.parse c = .error failure) ∨ SocksRequest.parse c = .ok .unsupportedAddress ∨
      SocksRequest.parse c = .ok .unsupportedCommand) := by
  have more := List.length_pos_of_ne_nil unfinished
  have read := parsed c
  rcases c with _ | ⟨version,c⟩
  · contradiction
  obtain ⟨rfl,tail⟩ := List.cons_eq_cons.mp whole
  refine ⟨⟨c,rfl⟩,?_⟩
  generalize SocksRequest.parse (0x05 :: c) = parse at read
  rcases c with _ | ⟨count,given⟩
  · cases read with
    | greeting greets => exact greets.elim
    | short => exact .inl ⟨_,rfl⟩
  obtain ⟨rfl,offered⟩ := List.cons_eq_cons.mp tail
  have total : given.length + rest.length = methods.1.length := by
    rw [← List.length_append]
    exact congrArg List.length offered
  have few := methods.2
  have count : (UInt8.ofNat methods.1.length).toNat = methods.1.length :=
    UInt8.toNat_ofNat_of_lt' (lt_trans few (by decide))
  cases read with
  | greeting greets =>
    have complete := greets.2
    omega
  | unknown => exact .inr (.inl rfl)
  | request _ addressed =>
    -- a destination needs more methods than the commands 1 and 3 announce
    have long := addressed.length
    simp only [List.length_cons] at total long
    have noConnect : UInt8.ofNat methods.1.length ≠ 0x01 := by
      intro one
      rw [one] at count
      have value : (0x01 : UInt8).toNat = 1 := rfl
      omega
    have noAssociate : UInt8.ofNat methods.1.length ≠ 0x03 := by
      intro three
      rw [three] at count
      have value : (0x03 : UInt8).toNat = 3 := rfl
      omega
    rw [ofCommand_eq,if_neg noConnect,if_neg noAssociate]
    exact .inr (.inr rfl)
  | short | unread => exact .inl ⟨_,rfl⟩

/-! ### A piece of a request -/

/-- Before the last byte of a request, its destination is of a known type and not all there. -/
private theorem field_cut {d : Destination} {port : UInt16} {a : UInt8} {given rest : Buffer}
    (whole : a :: given ++ rest = d.field ++ beBytes 2 port.toNat) (unfinished : rest ≠ []) :
    (a = 0x01 ∨ a = 0x03) ∧ ¬ Addressed (a :: given) := by
  have more := List.length_pos_of_ne_nil unfinished
  have total := congrArg List.length whole
  rw [List.length_append,List.length_append,beBytes_length] at total
  cases d with
  | address x =>
    obtain ⟨rfl,-⟩ := List.cons_eq_cons.mp whole
    refine ⟨.inl rfl,?_⟩
    intro addressed
    have six : 6 ≤ given.length := addressed
    simp [Destination.field,Ipv4.bytes] at total
    omega
  | name n =>
    obtain ⟨rfl,named⟩ := List.cons_eq_cons.mp whole
    refine ⟨.inr rfl,?_⟩
    intro addressed
    rcases given with _ | ⟨count,given⟩
    · exact addressed
    · obtain ⟨rfl,-⟩ := List.cons_eq_cons.mp named
      obtain ⟨-,long⟩ : _ ∧ (UInt8.ofNat n.bytes.length).toNat + 2 ≤ given.length := addressed
      have count : (UInt8.ofNat n.bytes.length).toNat = n.bytes.length :=
        UInt8.toNat_ofNat_of_lt' (lt_of_le_of_lt n.fits (by decide))
      simp [Destination.field] at total
      omega

/-- A chunk that begins and does not finish a request cannot be read, or it is the
    first three bytes and taken for a greeting. -/
theorem request_cut {d : Destination} {port : UInt16} {c rest : Buffer} (whole : c ++ rest = request d port)
    (begun : c ≠ []) (unfinished : rest ≠ []) :
    (∃ c', c = 0x05 :: c') ∧ ((∃ failure, SocksRequest.parse c = .error failure) ∨ c = [0x05,0x01,0x00]) := by
  have form : request d port = 0x05 :: 0x01 :: 0x00 :: (d.field ++ beBytes 2 port.toNat) := rfl
  rw [form] at whole
  have read := parsed c
  rcases c with _ | ⟨version,c⟩
  · contradiction
  obtain ⟨rfl,tail⟩ := List.cons_eq_cons.mp whole
  refine ⟨⟨c,rfl⟩,?_⟩
  generalize SocksRequest.parse (0x05 :: c) = parse at read
  cases read with
  | greeting greets =>
    rcases c with _ | ⟨cmd,_ | ⟨reserved,given⟩⟩
    · exact greets.elim
    · obtain ⟨rfl,-⟩ := List.cons_eq_cons.mp tail
      exact absurd greets.2 (by decide)
    · obtain ⟨rfl,tail'⟩ := List.cons_eq_cons.mp tail
      obtain ⟨rfl,-⟩ := List.cons_eq_cons.mp tail'
      have one : (0x01 : UInt8).toNat = (0x00 :: given).length := greets.2
      have none : given = [] := List.length_eq_zero_iff.mp (by simpa using one.symm)
      exact .inr (by rw [none])
  | unknown _ first third =>
    obtain ⟨-,tail'⟩ := List.cons_eq_cons.mp tail
    obtain ⟨-,field⟩ := List.cons_eq_cons.mp tail'
    exact absurd (field_cut field unfinished).1 (by simp [first,third])
  | request _ addressed =>
    obtain ⟨-,tail'⟩ := List.cons_eq_cons.mp tail
    obtain ⟨-,field⟩ := List.cons_eq_cons.mp tail'
    exact absurd addressed (field_cut field unfinished).2
  | short | unread => exact .inl ⟨_,rfl⟩

/-! ### Dialogues -/

/-- The events that feed chunks to a socket, each with the random choices it would use. -/
def feed (s : SocketId) (chunks : List (Buffer × Draw)) : List Event :=
  chunks.map (fun chunk => .data s chunk.1 chunk.2)

/-- The bytes of some chunks, none of them empty, are a message. -/
def Cut (message : Buffer) (chunks : List (Buffer × Draw)) : Prop :=
  (∀ chunk ∈ chunks, chunk.1 ≠ []) ∧ (chunks.map Prod.fst).flatten = message

/-- Two ways to cut a dialogue look the same from outside, and the first one raises no
    exception: the same bytes are written back and the server reads the same messages. -/
def Agrees (env : Env) (world : World) (s : SocketId) (chunks reference : List (Buffer × Draw)) : Prop :=
  ∃ past next past' next', execute (step env) world (feed s chunks) = some (past,next) ∧
    execute (step env) world (feed s reference) = some (past',next') ∧ Calm past ∧
    collect (writtenTo s) past = collect (writtenTo s) past' ∧ collect (message env) past = collect (message env) past'

section Steps
variable (env : Env) {world : World} {uuid : String} {s : SocketId} (reads : Reads world s (.bufferHandler uuid))
  (draw : Draw)
include reads

/-- A chunk of version 5 that cannot be parsed raises an exception and does nothing else. -/
theorem step_unparsed {c : Buffer} {failure : Failure} (parsed : SocksRequest.parse (0x05 :: c) = .error failure) :
    step env world (.data s (0x05 :: c) draw) = some (world,⟨[],some failure⟩) := by
  have ran : (bufferHandler env draw uuid s (0x05 :: c)).run world = some (.error failure,world,[]) := by
    rw [bufferHandler_run,parsed,screened_version]
  exact step_eq_of_run (react_reads reads _ draw) ran

/-- A request writes nothing back. It raises an exception unless it goes out. -/
theorem step_request (d : Destination) (port : UInt16) :
    ∃ next reaction, step env world (.data s (request d port) draw) = some (next,reaction) ∧
      reaction.outputs.flatMap (writtenTo s) = [] ∧
      (reaction.raised = none ↔ d.Short ∧ Able env ∧ ∃ w, Online world w) ∧
      (reaction.raised = none → reaction.outputs.flatMap (message env) =
        [some (.connect (some d.host) (some (signedPort port)) (some uuid))]) := by
  by_cases possible : d.Short ∧ Able env ∧ ∃ w, Online world w
  · obtain ⟨message,carries,ran⟩ := request_run env draw world uuid s possible.1 port
    obtain ⟨w,online⟩ := possible.2.2
    obtain ⟨m,sent,read⟩ := carries.sends possible.2.1 online
    rw [sent] at ran
    exact ⟨_,_,step_eq_of_run (react_reads reads _ draw) ran,by simp [writtenTo],by simpa [raised] using possible,
      by simp [Traffic.message,read]⟩
  · obtain ⟨failure,next,ran⟩ := request_refused env draw world uuid s port possible
    exact ⟨_,_,step_eq_of_run (react_reads reads _ draw) ran,by simp,by simpa [raised] using possible,by simp [raised]⟩

/-- When both messages come in one chunk each, the reply to the greeting is all that is
    written back. -/
theorem execute_whole (draw' : Draw) (methods : Methods) (d : Destination) (port : UInt16) :
    ∃ past next, execute (step env) world (feed s [(methods.greeting,draw),(request d port,draw')]) = some (past,next) ∧
      collect (writtenTo s) past = [0x05,0x00] ∧
      (Calm past ↔ d.Short ∧ Able env ∧ ∃ w, Online world w) ∧
      (Calm past → collect (message env) past =
        [some (.connect (some d.host) (some (signedPort port)) (some uuid))]) := by
  obtain ⟨next,reaction,taken,silent,calm,told⟩ := step_request env reads draw' d port
  have greeted := step_greeting env reads draw methods
  refine ⟨_,next,execute_cons.mpr ⟨_,_,_,greeted,execute_cons.mpr ⟨_,_,_,taken,rfl,rfl⟩,rfl⟩,?_,?_,?_⟩
  · simp [writtenTo,silent]
  · simpa using calm
  · intro quiet
    have unraised : reaction.raised = none := by simpa using quiet
    simp [message,told unraised]

end Steps

/-- A cut into more than one chunk leaves something after the first. -/
private theorem cut_first {m c : Buffer} {draw : Draw} {chunks : List (Buffer × Draw)} (cut : Cut m ((c,draw) :: chunks)) :
    c ≠ [] ∧ (chunks = [] ∧ c = m ∨ ∃ rest, rest ≠ [] ∧ c ++ rest = m) := by
  obtain ⟨nonempty,whole⟩ := cut
  refine ⟨nonempty (c,draw) (by simp),?_⟩
  rcases chunks with _ | ⟨⟨c',draw'⟩,chunks⟩
  · exact .inl ⟨rfl,by simpa using whole⟩
  · refine .inr ⟨c' ++ (chunks.map Prod.fst).flatten,?_,by simpa using whole⟩
    have := nonempty (c',draw') (by simp)
    simp_all

section Split
variable (env : Env) {world : World} {uuid : String} {s : SocketId} (reads : Reads world s (.bufferHandler uuid))
include reads

/-- When the greeting is cut, the first chunk raises an exception, or what is written
    back does not begin as it should. -/
theorem greeting_split {methods : Methods} {c rest : Buffer} {draw : Draw} {events : List Event} {past : Past}
    {next : World} (begun : c ≠ []) (unfinished : rest ≠ []) (whole : c ++ rest = methods.greeting)
    (executed : execute (step env) world (.data s c draw :: events) = some (past,next)) (calm : Calm past) :
    collect (writtenTo s) past ≠ [0x05,0x00] := by
  obtain ⟨⟨c,rfl⟩,parsed⟩ := greeting_cut whole begun unfinished
  obtain ⟨middle,reaction,tail,taken,-,rfl⟩ := execute_cons.mp executed
  rcases parsed with ⟨failure,parsed⟩ | parsed | parsed
  · rw [step_unparsed env reads draw parsed] at taken
    cases taken
    simp at calm
  · rw [step_replied env reads draw parsed (by simp)] at taken
    cases taken
    simp [writtenTo,SocksRequest.reply]
  · rw [step_replied env reads draw parsed (by simp)] at taken
    cases taken
    simp [writtenTo,SocksRequest.reply]

/-- When the request is cut, the first chunk raises an exception, or something is
    written back. -/
theorem request_split {d : Destination} {port : UInt16} {c rest : Buffer} {draw : Draw} {events : List Event}
    {past : Past} {next : World} (begun : c ≠ []) (unfinished : rest ≠ []) (whole : c ++ rest = request d port)
    (executed : execute (step env) world (.data s c draw :: events) = some (past,next)) (calm : Calm past) :
    collect (writtenTo s) past ≠ [] := by
  obtain ⟨⟨c,rfl⟩,parsed⟩ := request_cut whole begun unfinished
  obtain ⟨middle,reaction,tail,taken,-,rfl⟩ := execute_cons.mp executed
  rcases parsed with ⟨failure,parsed⟩ | three
  · rw [step_unparsed env reads draw parsed] at taken
    cases taken
    simp at calm
  · obtain rfl : c = [0x01,0x00] := by simpa using three
    have parsed : SocksRequest.parse [0x05,0x01,0x00] = .ok .greeting := rfl
    rw [step_replied env reads draw parsed (by simp)] at taken
    cases taken
    simp [writtenTo,SocksRequest.reply]

/-- The way a dialogue is cut makes no difference exactly when it is not cut at all
    inside its two messages, and the request can be forwarded. -/
theorem chunks_agree_iff (methods : Methods) (d : Destination) (port : UInt16)
    {greetingChunks requestChunks : List (Buffer × Draw)} (greeting : Cut methods.greeting greetingChunks)
    (requests : Cut (request d port) requestChunks) (draw draw' : Draw) :
    Agrees env world s (greetingChunks ++ requestChunks) [(methods.greeting,draw),(request d port,draw')] ↔
      greetingChunks.length = 1 ∧ requestChunks.length = 1 ∧ d.Short ∧ Able env ∧ ∃ w, Online world w := by
  obtain ⟨past',next',executed',written',calm',told'⟩ := execute_whole env reads draw draw' methods d port
  rcases greetingChunks with _ | ⟨⟨c,draw₁⟩,greetingChunks⟩
  · simp [Cut,Methods.greeting] at greeting
  rcases requestChunks with _ | ⟨⟨c',draw₂⟩,requestChunks⟩
  · simp [Cut,request] at requests
  obtain ⟨begun,first⟩ := cut_first greeting
  obtain ⟨begun',first'⟩ := cut_first requests
  constructor
  · rintro ⟨past,next,past'',next'',executed,executed'',calm,written,told⟩
    rw [executed'] at executed''
    cases executed''
    rw [written'] at written
    rcases first with ⟨rfl,rfl⟩ | ⟨rest,unfinished,whole⟩
    · obtain ⟨middle,reaction,tail,taken,later,rfl⟩ := execute_cons.mp executed
      rw [step_greeting env reads draw₁ methods] at taken
      cases taken
      rcases first' with ⟨rfl,rfl⟩ | ⟨rest,unfinished,whole⟩
      · obtain ⟨last,reaction,tail,taken,-,rfl⟩ := execute_cons.mp later
        obtain ⟨next,reaction',taken',-,possible,-⟩ := step_request env reads draw₂ d port
        cases taken.symm.trans taken'
        simp only [calm_cons] at calm
        exact ⟨rfl,rfl,possible.mp calm.2.1⟩
      · have silent : collect (writtenTo s) tail = [] := by simpa [writtenTo] using written
        exact absurd silent (request_split env reads begun' unfinished whole later ((calm_cons _ _).mp calm).2)
    · exact absurd written (greeting_split env reads begun unfinished whole executed calm)
  · rintro ⟨one,one',possible⟩
    obtain ⟨rfl,rfl⟩ : greetingChunks = [] ∧ requestChunks = [] := by simpa using And.intro one one'
    obtain rfl : c = methods.greeting := by simpa using greeting.2
    obtain rfl : c' = request d port := by simpa using requests.2
    obtain ⟨past,next,executed,written,calm,told⟩ := execute_whole env reads draw₁ draw₂ methods d port
    exact ⟨past,next,past',next',executed,executed',calm.mpr possible,written.trans written'.symm,
      (told (calm.mpr possible)).trans (told' (calm'.mpr possible)).symm⟩

end Split

private def methods : Methods := ⟨[0x00],by decide⟩
private def destination : Destination := .address ⟨10,0,0,1⟩

/-- A dialogue that is not cut inside its messages. -/
theorem whole_chunks_agree :
    Agrees Platforms.env (accepted Platforms.uuid) 0 [(methods.greeting,Platforms.draw),(request destination 80,Platforms.draw)]
      [(methods.greeting,Platforms.draw),(request destination 80,Platforms.draw)] := by
  have greeting : Cut methods.greeting [(methods.greeting,Platforms.draw)] := by simp [Cut,Methods.greeting]
  have requests : Cut (request destination 80) [(request destination 80,Platforms.draw)] := by simp [Cut,request]
  exact (chunks_agree_iff Platforms.env (accepted_reads Platforms.uuid) methods destination 80 greeting requests
    Platforms.draw Platforms.draw).mpr ⟨rfl,rfl,trivial,able_env,0,accepted_online Platforms.uuid⟩

/-- A greeting that comes byte by byte is not answered as a whole one is. -/
theorem cut_greeting_disagrees :
    ¬ Agrees Platforms.env (accepted Platforms.uuid) 0
      [([0x05],Platforms.draw),([0x01,0x00],Platforms.draw),(request destination 80,Platforms.draw)]
      [(methods.greeting,Platforms.draw),(request destination 80,Platforms.draw)] := by
  have reads := accepted_reads Platforms.uuid
  rintro ⟨past,next,past',next',executed,executed',calm,written,-⟩
  obtain ⟨_,_,executed'',written',-,-⟩ :=
    execute_whole Platforms.env reads Platforms.draw Platforms.draw methods destination 80
  rw [executed'] at executed''
  cases executed''
  have cut : [0x05] ++ [0x01,0x00] = methods.greeting := rfl
  exact greeting_split Platforms.env reads (by simp) (by simp) cut executed calm (written.trans written')

end WSocks.Chunks