import WSocks.SocksDialogue
import WSocks.TcpOutcomes

/-!
# SOCKS clients at work

Every run of a SOCKS client, with any cuts of the connection, any order of events and any failure
of the system. What the TCP clients of tun2socks rely on is what such a run shows to its user.
-/

namespace WSocks.SocksRelay
open WSocks.Effects WSocks.Effects.Action WSocks.Runs WSocks.SocksClient WSocks.SocksDialogue
open WSocks.Socks (BAddr)
open WSocks.Negotiation (Reading)

section
variable {w w' : World} {event : Event} {reaction : Reaction} {infos : List BSocksClient_auth_info} {dest : BAddr}

theorem fine (kept : Kept w) (allowed : w.allows event) (stays : event ≠ .Free) : Fine w event := by
  cases event with
  | connector is_error init realloc => exact connector_fine kept allowed
  | written k realloc => exact written_fine kept allowed
  | read data realloc => exact read_fine kept allowed
  | connection closed => exact connection_fine kept allowed
  | Send data => exact send_fine kept allowed
  | Recv len => exact recv_fine kept allowed
  | Free => exact absurd rfl stays

/-- The invariant of a client that was initialized with its arguments. -/
structure Good (infos : List BSocksClient_auth_info) (dest : BAddr) (w : World) : Prop where
  infos : w.client.auth_info = infos
  dest : w.client.dest_addr = dest
  kept : w.freed = false → Kept w

theorem unfreed_of_allows (allowed : w.allows event) : w.freed = false := by
  cases event with
  | Free => exact allowed
  | _ => exact allowed.1

theorem unfailed_of_allows (allowed : w.allows event) (stays : event ≠ .Free) : w.failed = false := by
  cases event with
  | Free => exact absurd rfl stays
  | _ => exact allowed.2.1

/-- One event: the client is freed, or goes on. -/
theorem step_cases (good : Good infos dest w) (taken : step w event = some (w',reaction)) :
    w.allows event ∧ reaction.1 = .ok () ∧ Good infos dest w' ∧
      (event = .Free ∧ w' = release w ∧ reaction.2 = [] ∨ event ≠ .Free ∧ Outcome w event w' reaction.2) := by
  rw [step] at taken
  split_ifs at taken with allowed
  have kept := good.kept (unfreed_of_allows allowed)
  by_cases stays : event = .Free
  · subst stays
    rw [handler,run_free kept] at taken
    obtain ⟨rfl,rfl⟩ := Prod.mk.inj (Option.some.inj taken)
    exact ⟨allowed,rfl,⟨good.infos,good.dest,fun there => Bool.noConfusion there⟩,.inl ⟨rfl,rfl,rfl⟩⟩
  · obtain ⟨next,outputs,ran,outcome⟩ := fine kept allowed stays
    rw [ran] at taken
    obtain ⟨rfl,rfl⟩ := Prod.mk.inj (Option.some.inj taken)
    exact ⟨allowed,rfl,⟨outcome.infos.trans good.infos,outcome.dest.trans good.dest,fun _ => outcome.kept⟩,
      .inr ⟨stays,outcome⟩⟩

theorem init_good : Good infos dest (BSocksClient_Init infos dest) :=
  ⟨rfl,rfl,fun _ => ⟨rfl,fun _ => ⟨nofun,nofun⟩,fun _ => ⟨rfl,rfl,rfl⟩,nofun,fun _ => .connecting rfl rfl rfl⟩⟩

theorem run_good {past : List (Transition World Event Reaction)} (run : Run step (BSocksClient_Init infos dest) past w) :
    Good infos dest w :=
  run.invariant init_good (fun good taken => (step_cases good taken).2.2.1)

end

/-! ### Every run -/

def bothMethods : List BSocksClient_auth_info := [.none,.password [97] [98]]
def nearby : BAddr := .ipv4 ⟨10,0,0,1⟩ 80

/-- The messages come in pieces, and something is received and sent behind them. -/
def pieces : List Event := [.connector false true true,.written 1 true,.written 3 true,.read [0x05] true,
  .read [0x00] true,.written 10 true,.read [0x05,0x00,0x00] true,.read [0x01] true,.read [0,0,0,0,0,0] true,
  .Recv 4096,.read [1,2,3] true,.Send [7,8],.written 1 true]

section
variable {w : World} {infos : List BSocksClient_auth_info} {dest : BAddr}
  {past : List (Transition World Event Reaction)}

/-- What a client that is not up yet waits for. -/
inductive Awaits (w : World) : Prop
  | connector (allowed : ∀ is_error init realloc, w.allows (.connector is_error init realloc))
  | written (len : Nat) (some' : 0 < len) (allowed : ∀ k realloc, w.allows (.written k realloc) ↔ 0 < k ∧ k ≤ len)
  | read (len : Nat) (some' : 0 < len)
      (allowed : ∀ data realloc, w.allows (.read data realloc) ↔ 0 < data.length ∧ data.length ≤ len)

/-- No assertion fails, no memory is touched that has no value or is not the client's, and a
    client that has not failed waits for something until it is up. -/
theorem handlers_end (run : Run step (BSocksClient_Init infos dest) past w) :
    (∀ t ∈ past, t.reaction.1 = .ok ()) ∧
      (∀ event, w.allows event → ∃ w' outputs, step w event = some (w',.ok (),outputs)) ∧
      (w.freed = false → w.failed = false → w.client.state ≠ .UP → Awaits w) := by
  have good := run_good run
  refine ⟨?_,?_,?_⟩
  · intro t member
    obtain ⟨earlier,later,-,before,taken,-⟩ := run.mem member
    exact (step_cases (run_good before) taken).2.1
  · intro event allowed
    have kept := good.kept (unfreed_of_allows allowed)
    by_cases stays : event = .Free
    · subst stays
      exact ⟨release w,[],by rw [step,if_pos allowed,handler,run_free kept]; rfl⟩
    · obtain ⟨w',outputs,ran,-⟩ := fine kept allowed stays
      exact ⟨w',outputs,by rw [step,if_pos allowed,ran]; rfl⟩
  · intro there unfailed down
    cases (good.kept there).live unfailed with
    | connecting state => exact .connector (fun _ _ _ => ⟨there,unfailed,state⟩)
    | up state => exact absurd state down
    | @talking phase reaches at' =>
      cases phase with
      | sending earlier message before =>
        obtain ⟨m,used,-,-,-,-,-,short,-,sending,-⟩ := at'
        refine .written (message.length - used) (by omega) (fun k realloc => ?_)
        simp [World.allows,there,unfailed,sending,Sending.len]
        exact fun _ => decide_eq_true_iff
      | receiving earlier before dest total size =>
        obtain ⟨m,got,-,-,-,-,short,-,-,-,-,-,-,-,receiving⟩ := at'
        refine .read (total - got.length) (by omega) (fun data realloc => ?_)
        simp [World.allows,there,unfailed,receiving,Receiving.len]
        exact fun _ => decide_eq_true_iff

theorem handlers_end_pieces : ∃ past w, execute step (BSocksClient_Init bothMethods nearby) pieces = some (past,w) ∧
    ∀ t ∈ past, t.reaction.1 = .ok () := by
  obtain ⟨past,w,executed⟩ : ∃ past w, execute step (BSocksClient_Init bothMethods nearby) pieces = some (past,w) :=
    ⟨_,_,rfl⟩
  exact ⟨past,w,executed,(handlers_end (run_of_execute executed)).1⟩

end

/-! ### What the user sees -/

/-- What passes between a client and its user. -/
inductive Visible
  | told (event : TcpClients.Event)
  | send (data : Bytes)
  | recv (len : Nat)
  | free

def Output.visible : Output → Visible
  | .event .UP => .told .socks_up
  | .event .ERROR => .told .socks_error
  | .event .ERROR_CLOSED => .told .socks_closed
  | .sent data_len => .told (.send_done data_len)
  | .received data => .told (.recv_done data)

def Event.visible : Event → List Visible
  | .Send data => [.send data]
  | .Recv len => [.recv len]
  | .Free => [.free]
  | _ => []

def visible (t : Transition World Event Reaction) : List Visible :=
  Event.visible t.event ++ t.reaction.2.map Output.visible

/-- The user is told no more than it may be told, and its calls are accepted, by the SOCKS clients
    that the TCP clients of tun2socks are verified with. -/
def Contract (socks : TcpClients.Socks) (v : Visible) (socks' : TcpClients.Socks) : Prop :=
  match v with
  | .told event => ∀ slot : TcpClients.Slot, slot.socks = socks → slot.allows event ∧ (slot.notes event).socks = socks'
  | .send data => ∀ w : TcpClients.World, w.client.isSome → w.socks = socks →
      (TcpClients.StreamPassInterface_Sender_Send data).run w = some (.ok (),{w with socks := socks'},[])
  | .recv len => ∀ w : TcpClients.World, w.client.isSome → w.socks = socks →
      (TcpClients.StreamRecvInterface_Receiver_Recv len).run w = some (.ok (),{w with socks := socks'},[])
  | .free => ∀ w : TcpClients.World, w.client.isSome → w.socks = socks →
      TcpClients.BSocksClient_Free.run w = some (.ok (),{w with socks := socks'},[])

inductive Follows : TcpClients.Socks → List Visible → TcpClients.Socks → Prop
  | nil {socks : TcpClients.Socks} : Follows socks [] socks
  | snoc {socks socks' socks'' : TcpClients.Socks} {seen : List Visible} {v : Visible} :
      Follows socks seen socks' → Contract socks' v socks'' → Follows socks (seen ++ [v]) socks''

def userSending (w : World) : Option Bytes :=
  match w.sending with
  | some (.user data) => some data
  | _ => none

def userReceiving (w : World) : Option Nat :=
  match w.receiving with
  | some (.user len) => some len
  | _ => none

/-- What a client is to its user. -/
structure Abstracts (infos : List BSocksClient_auth_info) (dest : BAddr) (w : World) (socks : TcpClients.Socks) : Prop where
  freed : socks.freed = w.freed
  failed : socks.failed = w.failed
  up : socks.up = decide (w.client.state = .UP)
  sending : socks.sending = userSending w
  receiving : socks.receiving = userReceiving w
  before : w.client.state ≠ .UP → socks.taken = [] ∧ socks.given = []
  dialogue : w.client.state = .UP → ∃ said read rsv atyp address, Authenticated infos said read ∧
    addressLength atyp = some (List.length address) ∧ w.sent = said ++ Socks.auth_finished dest ++ socks.taken ∧
    w.consumed = read ++ [SOCKS_VERSION,SOCKS_REP_SUCCEEDED,rsv,atyp] ++ address ++ socks.given

section
variable {w w' : World} {infos : List BSocksClient_auth_info} {dest : BAddr} {socks : TcpClients.Socks} {event : Event}
  {outputs : List Output}

theorem unasked_user (unasked : Unasked w) : userSending w = none ∧ userReceiving w = none := by
  constructor
  · rw [userSending]
    split
    · exact absurd ‹_› (unasked.sending _)
    · rfl
  · rw [userReceiving]
    split
    · exact absurd ‹_› (unasked.receiving _)
    · rfl

theorem visible_nil (allowed : w.allows event) (down : w.client.state ≠ .UP) (stays : event ≠ .Free) :
    Event.visible event = [] := by
  cases event with
  | Send data => exact absurd allowed.2.2.1 down
  | Recv len => exact absurd allowed.2.2.1 down
  | Free => exact absurd rfl stays
  | _ => rfl

theorem follows_single {socks' : TcpClients.Socks} {v : Visible} (contract : Contract socks v socks') :
    Follows socks [v] socks' := by
  have follows := Follows.snoc (.nil : Follows socks [] socks) contract
  exact follows

theorem Follows.append {socks' socks'' : TcpClients.Socks} {seen more : List Visible} (first : Follows socks seen socks')
    (second : Follows socks' more socks'') : Follows socks (seen ++ more) socks'' := by
  induction second with
  | nil => rwa [List.append_nil]
  | snoc _ contract ih =>
    rw [← List.append_assoc]
    exact .snoc ih contract

/-- A client that is down shows its user nothing but that it has failed, or that it is up. -/
theorem Abstracts.down (abstracts : Abstracts infos dest w socks) (kept : Kept w) (kept' : Kept w')
    (before : w.client.state ≠ .UP) (after : w'.client.state ≠ .UP) (freed : w'.freed = w.freed) :
    Abstracts infos dest w' {socks with failed := w'.failed} where
  freed := abstracts.freed.trans freed.symm
  failed := rfl
  up := abstracts.up.trans (by rw [decide_eq_false before,decide_eq_false after])
  sending := by rw [abstracts.sending,(unasked_user (kept.unasked before)).1,(unasked_user (kept'.unasked after)).1]
  receiving := by rw [abstracts.receiving,(unasked_user (kept.unasked before)).2,(unasked_user (kept'.unasked after)).2]
  before _ := abstracts.before before
  dialogue up := absurd up after

theorem Abstracts.failed' (abstracts : Abstracts infos dest w socks) :
    Abstracts infos dest (fail w) {socks with failed := true} where
  freed := abstracts.freed
  failed := rfl
  up := abstracts.up
  sending := abstracts.sending
  receiving := abstracts.receiving
  before := abstracts.before
  dialogue := abstracts.dialogue

/-- The user sees what it may see, whatever the client does. -/
theorem contract_step (good : Good infos dest w) (good' : Good infos dest w') (abstracts : Abstracts infos dest w socks)
    (allowed : w.allows event) (stays : event ≠ .Free) (outcome : Outcome w event w' outputs) :
    ∃ socks', Follows socks (Event.visible event ++ outputs.map Output.visible) socks' ∧ Abstracts infos dest w' socks' := by
  have there := unfreed_of_allows allowed
  have unfailed := unfailed_of_allows allowed stays
  have kept := good.kept there
  have kept' := outcome.kept
  have there' : socks.freed = false := abstracts.freed.trans there
  have unfailed' : socks.failed = false := abstracts.failed.trans unfailed
  cases outcome.told with
  | talks before after unfailed'' =>
    refine ⟨socks,?_,?_⟩
    · rw [visible_nil allowed before stays]
      exact .nil
    · have same : {socks with failed := w'.failed} = socks := by rw [unfailed'',← unfailed']
      rw [← same]
      exact abstracts.down kept kept' before after outcome.freed
  | up before relays sending receiving unfailed'' =>
    refine ⟨{socks with up := true},?_,?_⟩
    · rw [visible_nil allowed before stays]
      refine follows_single ?_
      rintro slot rfl
      exact ⟨⟨by simp [there'],by simp [unfailed'],by simp [abstracts.up,before]⟩,rfl⟩
    · have nothing := abstracts.before before
      obtain ⟨said,read,rsv,atyp,address,authenticated,known,sent,consumed⟩ := relays.dialogue
      rw [good'.infos] at authenticated
      exact {
        freed := abstracts.freed.trans outcome.freed.symm
        failed := unfailed'.trans unfailed''.symm
        up := by simp [relays.state]
        sending := by rw [abstracts.sending,(unasked_user (kept.unasked before)).1,userSending,sending]
        receiving := by rw [abstracts.receiving,(unasked_user (kept.unasked before)).2,userReceiving,receiving]
        before := fun down => absurd relays.state down
        dialogue := fun _ => ⟨said,read,rsv,atyp,address,authenticated,known,
          by rw [nothing.1,sent,good'.dest],by rw [nothing.2,consumed]⟩}
  | error before after failed _ =>
    refine ⟨{socks with failed := true},?_,?_⟩
    · rw [visible_nil allowed before stays]
      refine follows_single ?_
      rintro slot rfl
      exact ⟨⟨by simp [there'],by simp [unfailed']⟩,rfl⟩
    · rw [← failed]
      exact abstracts.down kept kept' before after outcome.freed
  | broken same =>
    refine ⟨{socks with failed := true},follows_single ?_,by rw [same]; exact abstracts.failed'⟩
    rintro slot rfl
    exact ⟨⟨by simp [there'],by simp [unfailed']⟩,rfl⟩
  | closed up same =>
    refine ⟨{socks with failed := true},follows_single ?_,by rw [same]; exact abstracts.failed'⟩
    rintro slot rfl
    exact ⟨⟨by simp [there'],by simp [unfailed'],by simp [abstracts.up,up]⟩,rfl⟩
  | @written k realloc data up sending same =>
    have outstanding : socks.sending = some data := by rw [abstracts.sending,userSending,sending]
    obtain ⟨-,-,some',within⟩ := allowed
    refine ⟨{socks with sending := none,taken := socks.taken ++ data.take k},follows_single ?_,?_⟩
    · rintro slot rfl
      refine ⟨⟨by simp [there'],by simp [unfailed'],some',?_⟩,?_⟩
      · rw [sending] at within
        rw [outstanding]
        exact within
      · simp [TcpClients.Slot.notes,outstanding]
    · obtain ⟨said,read,rsv,atyp,address,authenticated,known,sent,consumed⟩ := abstracts.dialogue up
      subst same
      exact ⟨abstracts.freed,abstracts.failed,abstracts.up,rfl,abstracts.receiving,fun down => absurd up down,
        fun _ => ⟨said,read,rsv,atyp,address,authenticated,known,by simp only [sent,List.append_assoc],consumed⟩⟩
  | @read data realloc len up receiving same =>
    have outstanding : socks.receiving = some len := by rw [abstracts.receiving,userReceiving,receiving]
    obtain ⟨-,-,some',within⟩ := allowed
    refine ⟨{socks with receiving := none,given := socks.given ++ data},follows_single ?_,?_⟩
    · rintro slot rfl
      refine ⟨⟨by simp [there'],by simp [unfailed'],some',?_⟩,rfl⟩
      rw [receiving] at within
      rw [outstanding]
      exact within
    · obtain ⟨said,read,rsv,atyp,address,authenticated,known,sent,consumed⟩ := abstracts.dialogue up
      subst same
      exact ⟨abstracts.freed,abstracts.failed,abstracts.up,abstracts.sending,rfl,fun down => absurd up down,
        fun _ => ⟨said,read,rsv,atyp,address,authenticated,known,sent,by simp only [consumed,List.append_assoc]⟩⟩
  | @send data same =>
    obtain ⟨-,-,up,idle,some'⟩ := allowed
    have nothing : socks.sending = none := by rw [abstracts.sending,userSending,idle]
    refine ⟨{socks with sending := some data},follows_single ?_,?_⟩
    · rintro client present rfl
      obtain ⟨c,present⟩ := Option.isSome_iff_exists.mp present
      have nonempty : data ≠ [] := List.ne_nil_of_length_pos some'
      exact TcpOutcomes.run_onSocks present there' (by simp [abstracts.up,up,nothing,nonempty]) _
    · subst same
      exact ⟨abstracts.freed,abstracts.failed,abstracts.up,rfl,abstracts.receiving,abstracts.before,abstracts.dialogue⟩
  | @recv len same =>
    obtain ⟨-,-,up,idle,some'⟩ := allowed
    have nothing : socks.receiving = none := by rw [abstracts.receiving,userReceiving,idle]
    refine ⟨{socks with receiving := some len},follows_single ?_,?_⟩
    · rintro client present rfl
      obtain ⟨c,present⟩ := Option.isSome_iff_exists.mp present
      exact TcpOutcomes.run_onSocks present there' (by simp [abstracts.up,up,nothing,some']) _
    · subst same
      exact ⟨abstracts.freed,abstracts.failed,abstracts.up,abstracts.sending,rfl,abstracts.before,abstracts.dialogue⟩

/-- Whatever happens to a client and its connection, its user sees a SOCKS client as the TCP
    clients of tun2socks are verified with it. What was sent for the user is just behind the
    request, and what it received is all that was read behind the reply. -/
theorem contract {past : List (Transition World Event Reaction)}
    (run : Run step (BSocksClient_Init infos dest) past w) :
    ∃ socks, Follows ⟨false,false,false,none,none,[],[]⟩ (past.flatMap visible) socks ∧ Abstracts infos dest w socks := by
  induction run with
  | nil =>
    exact ⟨_,.nil,rfl,rfl,rfl,rfl,rfl,fun _ => ⟨rfl,rfl⟩,nofun⟩
  | @snoc w w' past event reaction run taken ih =>
    obtain ⟨socks,follows,abstracts⟩ := ih
    have good := run_good run
    obtain ⟨allowed,-,good',(⟨rfl,rfl,silent⟩ | ⟨stays,outcome⟩)⟩ := step_cases good taken
    · have there : socks.freed = false := abstracts.freed.trans allowed
      refine ⟨{socks with freed := true,sending := none,receiving := none},?_,?_⟩
      · rw [List.flatMap_append,List.flatMap_singleton,visible,silent]
        refine follows.append (follows_single ?_)
        rintro client present rfl
        obtain ⟨c,present⟩ := Option.isSome_iff_exists.mp present
        exact TcpOutcomes.run_onSocks present there rfl _
      · exact ⟨rfl,abstracts.failed,abstracts.up,rfl,rfl,abstracts.before,abstracts.dialogue⟩
    · obtain ⟨socks',more,abstracts'⟩ := contract_step good good' abstracts allowed stays outcome
      exact ⟨socks',by rw [List.flatMap_append,List.flatMap_singleton]; exact follows.append more,abstracts'⟩

theorem contract_pieces : ∃ past w socks, execute step (BSocksClient_Init bothMethods nearby) pieces = some (past,w) ∧
    Follows ⟨false,false,false,none,none,[],[]⟩
      [.told .socks_up,.recv 4096,.told (.recv_done [1,2,3]),.send [7,8],.told (.send_done 1)] socks ∧
    Abstracts bothMethods nearby w socks := by
  obtain ⟨past,w,executed,seen⟩ : ∃ past w,
      execute step (BSocksClient_Init bothMethods nearby) pieces = some (past,w) ∧ past.flatMap visible =
        [.told .socks_up,.recv 4096,.told (.recv_done [1,2,3]),.send [7,8],.told (.send_done 1)] := ⟨_,_,rfl,rfl⟩
  obtain ⟨socks,follows,abstracts⟩ := contract (run_of_execute executed)
  exact ⟨past,w,socks,executed,seen ▸ follows,abstracts⟩

end

end WSocks.SocksRelay
