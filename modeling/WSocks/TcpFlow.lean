import WSocks.TcpSafety
import WSocks.Runs

/-!
# What passes through tun2socks

All TCP connections of the device together, in any order of callbacks. No callback ends
with a fault; lwIP learns from every callback whether it may still use the connection;
bytes pass in their order, and a side that is closed has got all that was there for it.
-/

namespace WSocks.TcpFlow
open WSocks.Effects WSocks.Effects.Action WSocks.TcpClients WSocks.TcpOutcomes WSocks.TcpSafety WSocks.Runs

theorem fine (lwip : Answers) {s : Slot} {n : Nat} {event : Event} (kept : Kept s) (counted : s.client.isSome → 0 < n)
    (allowed : s.allows event) : Fine lwip s n event := by
  cases event with
  | recv p => exact recv_fine kept allowed
  | fin => exact fin_fine kept counted allowed
  | err => exact err_fine kept counted allowed
  | sent len => exact sent_fine kept counted allowed
  | socks_up => exact socks_up_fine kept allowed
  | socks_error => exact socks_error_fine kept counted allowed
  | socks_closed => exact socks_closed_fine kept counted allowed
  | send_done data_len => exact send_done_fine kept counted allowed
  | recv_done data => exact recv_done_fine kept counted allowed
  | returns => exact returns_fine kept allowed
  | murder => exact murder_fine kept counted allowed

/-- The invariant of all connections. -/
structure Good (s : System) : Prop where
  kept : ∀ slot ∈ s.slots, Kept slot
  counted : s.num_clients = s.slots.countP (fun slot => slot.client.isSome)

/-- A new connection, whether it is accepted or not. -/
theorem accept_kept (malloc init : Bool) (n : Nat) :
    ∃ r w, (listener_accept_func malloc init).run ⟨Slot.fresh,n⟩ = some (.ok r,w,[]) ∧ Kept (w.toSlot.accepted (.ok r)) ∧
      w.num_clients = n + (if (w.toSlot.accepted (.ok r)).client.isSome then 1 else 0) := by
  have refused : ∃ r w, (some (.ok (some err_t.ERR_MEM),⟨Slot.fresh,n⟩,[]) :
      Option (Except Fault Returned × World × List Empty)) = some (.ok r,w,[]) ∧ Kept (w.toSlot.accepted (.ok r)) ∧
      w.num_clients = n + (if (w.toSlot.accepted (.ok r)).client.isSome then 1 else 0) := by
    refine ⟨_,_,rfl,⟨⟨List.nil_prefix,List.nil_prefix,le_rfl⟩,by simp [Slot.accepted,Slot.fresh],fun _ => ⟨rfl,rfl⟩,?_,?_⟩,rfl⟩
    · intro c impossible
      cases impossible
    · intro c impossible
      cases impossible
  cases malloc with
  | false => exact refused
  | true =>
    cases init with
    | false => exact refused
    | true =>
      refine ⟨none,⟨⟨some ⟨false,[],false,false,none,0,false,0⟩,some false,⟨none,true,true,false,false,[],0,[],0⟩,
        ⟨false,false,false,none,none,[],[]⟩⟩,n + 1⟩,rfl,⟨⟨List.nil_prefix,List.nil_prefix,le_rfl⟩,?_,by simp [Slot.accepted],
        ?_,?_⟩,rfl⟩
      · intro dead same
        exact (Option.some.inj same).symm
      · rintro c same
        cases same
        exact {
          closed := rfl
          freed := rfl
          up := rfl
          err := fun _ => rfl
          early := fun _ => ⟨rfl,rfl,rfl,rfl⟩
          quiet := fun _ => rfl
          sending := fun _ => ⟨rfl,fun _ => rfl,fun _ => rfl,fun _ => rfl,nofun,Nat.zero_le _⟩
          writing := nofun
          receiving := nofun
          released := nofun
          lingers := nofun}
      · intro c _ _
        rfl

/-! ### One step of the system -/

section
variable {s s' : System} {slot : Slot} {i : Nat} {event : Event} {lwip : Answers} {reaction : Except Fault Returned}

theorem Good.positive (good : Good s) (found : s.slots[i]? = some slot) (present : slot.client.isSome) :
    0 < s.num_clients := by
  rw [good.counted,List.countP_pos_iff]
  exact ⟨slot,List.mem_of_getElem? found,present⟩

/-- A callback on one connection, and what it does. -/
theorem step_event (good : Good s) (taken : step s (.event i event lwip) = some (s',reaction)) :
    ∃ slot r w, s.slots[i]? = some slot ∧ slot.allows event ∧ reaction = .ok r ∧
      s' = ⟨s.slots.set i w.toSlot,w.num_clients⟩ ∧ Outcome slot s.num_clients event r w := by
  rw [step] at taken
  rcases found : s.slots[i]? with _ | slot
  · simp [found] at taken
  rw [found] at taken
  by_cases allowed : slot.allows event
  · simp only [Option.bind_eq_bind,Option.bind_some,if_pos allowed] at taken
    rcases fine lwip (good.kept slot (List.mem_of_getElem? found)) (good.positive found) allowed with
      ⟨stuck,-⟩ | ⟨r,w,ran,outcome⟩
    · rw [stuck] at taken
      cases taken
    · rw [ran] at taken
      obtain ⟨rfl,rfl⟩ := Prod.mk.inj (Option.some.inj taken)
      exact ⟨slot,r,w,rfl,allowed,rfl,rfl,outcome⟩
  · simp [if_neg allowed] at taken

theorem good_set (good : Good s) {n : Nat} {next : Slot} (found : s.slots[i]? = some slot) (kept : Kept next)
    (counted : n + (if slot.client.isSome then 1 else 0) = s.num_clients + (if next.client.isSome then 1 else 0)) :
    Good ⟨s.slots.set i next,n⟩ := by
  obtain ⟨inside,same⟩ := List.getElem?_eq_some_iff.mp found
  refine ⟨?_,?_⟩
  · intro other member
    rcases List.mem_or_eq_of_mem_set member with old | rfl
    · exact good.kept other old
    · exact kept
  · have least : (if slot.client.isSome then 1 else 0) ≤ s.slots.countP (fun slot => slot.client.isSome) := by
      split_ifs with present
      · exact List.countP_pos_iff.mpr ⟨slot,List.mem_of_getElem? found,present⟩
      · exact Nat.zero_le _
    have before := good.counted
    rw [List.countP_set inside,same]
    dsimp only
    omega

theorem step_good (good : Good s) {input : Input} (taken : step s input = some (s',reaction)) :
    (∃ r, reaction = .ok r) ∧ Good s' := by
  cases input with
  | accept malloc init =>
    obtain ⟨r,w,ran,kept,counted⟩ := accept_kept malloc init s.num_clients
    rw [step,ran] at taken
    obtain ⟨rfl,rfl⟩ := Prod.mk.inj (Option.some.inj taken)
    refine ⟨⟨r,rfl⟩,?_,?_⟩
    · intro slot member
      rcases List.mem_append.mp member with old | new
      · exact good.kept slot old
      · rw [List.mem_singleton.mp new]
        exact kept
    · dsimp only
      rw [counted,List.countP_append,good.counted,List.countP_singleton]
  | event i event lwip =>
    obtain ⟨slot,r,w,found,allowed,rfl,rfl,outcome⟩ := step_event good taken
    exact ⟨⟨r,rfl⟩,good_set good found outcome.kept outcome.counted⟩

end

/-- There are no connections yet. -/
def System.empty : System := ⟨[],0⟩

theorem run_good {s : System} {past : List (Transition System Input (Except Fault Returned))}
    (run : Run step System.empty past s) : Good s :=
  run.invariant ⟨by simp [System.empty],rfl⟩ (fun good taken => (step_good good taken).2)

/-! ### Every run -/

/-- lwIP has room for everything. -/
def roomy : Answers := ⟨.ERR_OK,[(TCP_WND,.ERR_OK)],.ERR_OK⟩

/-- The device connects, sends two bytes and is done before the server has taken them. -/
def brief : List Input := [.accept true true,.event 0 .returns roomy,.event 0 .socks_up roomy,
  .event 0 (.recv [1,2]) roomy,.event 0 .returns roomy,.event 0 .fin roomy]

private theorem executed_brief : ∃ past s slot c, execute step System.empty brief = some (past,s) ∧ s.slots = [slot] ∧
    slot.client = some c ∧ c.client_closed ∧ c.buf = [1,2] ∧ slot.pcb.received = [1,2] := by
  exact ⟨_,_,_,_,rfl,rfl,rfl,rfl,rfl,rfl⟩

section
variable {s : System} {past : List (Transition System Input (Except Fault Returned))}

/-- No callback ends with a failed assertion, an access to freed memory or a call that is not
    allowed; the counter is right; and every callback that can come is taken to its end. -/
theorem callbacks_end (run : Run step System.empty past s) :
    (∀ t ∈ past, ∃ r, t.reaction = .ok r) ∧ s.num_clients = s.slots.countP (fun slot => slot.client.isSome) ∧
      ∀ i slot event lwip, s.slots[i]? = some slot → slot.allows event → CLIENT_SOCKS_RECV_BUF_SIZE < lwip.writes.length →
        ∃ s' r, step s (.event i event lwip) = some (s',.ok r) := by
  have good := run_good run
  refine ⟨?_,good.counted,?_⟩
  · intro t member
    obtain ⟨earlier,later,-,before,taken,-⟩ := run.mem member
    exact (step_good (run_good before) taken).1
  · intro i slot event lwip found allowed enough
    rcases fine lwip (good.kept slot (List.mem_of_getElem? found)) (good.positive found) allowed with
      ⟨-,few⟩ | ⟨r,w,ran,-⟩
    · omega
    · refine ⟨⟨s.slots.set i w.toSlot,w.num_clients⟩,r,?_⟩
      rw [step,found]
      simp [allowed,ran]

theorem callbacks_end_brief : ∃ past s, execute step System.empty brief = some (past,s) ∧
    (∀ t ∈ past, ∃ r, t.reaction = .ok r) ∧ s.num_clients = s.slots.countP (fun slot => slot.client.isSome) := by
  obtain ⟨past,s,-,-,executed,-⟩ := executed_brief
  have ended := callbacks_end (run_of_execute executed)
  exact ⟨past,s,executed,ended.1,ended.2.1⟩

/-- lwIP is told that a connection was given up exactly when it was: otherwise it would go on
    with freed memory, or keep a connection that nobody uses. No data are ever refused. -/
theorem callbacks_return (run : Run step System.empty past s) {t : Transition System Input (Except Fault Returned)}
    (member : t ∈ past) {i : Nat} {event : Event} {lwip : Answers} (input : t.event = .event i event lwip) {err : err_t}
    (returned : t.reaction = .ok (some err)) :
    ∃ slot, t.after.slots[i]? = some slot ∧
      (err = .ERR_ABRT ∧ slot.pcb.ended.isSome ∨ err = .ERR_OK ∧ slot.pcb.ended = none) := by
  obtain ⟨earlier,later,-,before,taken,-⟩ := run.mem member
  rw [input] at taken
  obtain ⟨slot,r,w,found,-,same,after,outcome⟩ := step_event (run_good before) taken
  rw [returned] at same
  obtain rfl := Except.ok.inj same
  refine ⟨w.toSlot,?_,outcome.returned err rfl⟩
  rw [after,List.getElem?_set_self (List.getElem?_eq_some_iff.mp found).1]

theorem callbacks_return_brief : ∃ past s t slot, execute step System.empty brief = some (past,s) ∧ t ∈ past ∧
    t.reaction = .ok (some .ERR_ABRT) ∧ t.after.slots[0]? = some slot ∧ slot.pcb.ended.isSome := by
  obtain ⟨past,s,t,executed,member,input,returned⟩ : ∃ past s t, execute step System.empty brief = some (past,s) ∧
      t ∈ past ∧ t.event = .event 0 .fin roomy ∧ t.reaction = .ok (some .ERR_ABRT) :=
    ⟨_,_,_,rfl,List.mem_of_getLast? rfl,rfl,rfl⟩
  obtain ⟨slot,found,told⟩ := callbacks_return (run_of_execute executed) member input returned
  refine ⟨past,s,t,slot,executed,member,returned,found,?_⟩
  rcases told with ⟨-,ended⟩ | ⟨same,-⟩
  · exact ended
  · cases same

/-- Bytes pass in their order, whatever becomes of the two sides. As long as both are there,
    the client holds exactly what one side gave and the other has not taken, and the window
    of the connection is what room is left. -/
theorem bytes_pass (run : Run step System.empty past s) {slot : Slot} (member : slot ∈ s.slots) :
    slot.socks.taken <+: slot.pcb.received ∧ slot.pcb.written <+: slot.socks.given ∧
      ∀ c, slot.client = some c →
        (c.socks_closed = false → slot.pcb.received = slot.socks.taken ++ c.buf) ∧
        (c.client_closed = false → c.socks_closed = false → slot.pcb.received.length = slot.pcb.recved + c.buf.length ∧
          c.buf.length ≤ TCP_WND) ∧
        (c.client_closed = false → c.socks_up → slot.socks.given = slot.pcb.written ++ unsent c ∧
          slot.pcb.written.length = slot.pcb.acked + c.socks_recv_tcp_pending) := by
  have kept := (run_good run).kept slot member
  refine ⟨kept.ordered.upstream,kept.ordered.downstream,?_⟩
  intro c present
  have fits := kept.fits c present
  refine ⟨fun there => (fits.sending there).buffered,?_,?_⟩
  · intro up there
    exact ⟨(fits.sending there).window up,(fits.sending there).room⟩
  · intro up ready
    exact ⟨(fits.writing ready up).buffered,(fits.writing ready up).pending⟩

theorem bytes_pass_brief : ∃ past s slot, execute step System.empty brief = some (past,s) ∧ slot ∈ s.slots ∧
    slot.pcb.received = [1,2] ∧ slot.socks.taken <+: slot.pcb.received := by
  obtain ⟨past,s,slot,c,executed,single,-,-,-,received⟩ := executed_brief
  have member : slot ∈ s.slots := by simp [single]
  exact ⟨past,s,slot,executed,member,received,(bytes_pass (run_of_execute executed) member).1⟩

/-- A side that is given up in an orderly way has got all that was there for it: the server all
    bytes that were received, and the connection all bytes that the server gave. -/
theorem sides_close (run : Run step System.empty past s) {t : Transition System Input (Except Fault Returned)}
    (member : t ∈ past) {i : Nat} {event : Event} {lwip : Answers} (input : t.event = .event i event lwip) :
    ∃ slot slot', t.before.slots[i]? = some slot ∧ t.after.slots[i]? = some slot' ∧
      (event ≠ .socks_error → event ≠ .socks_closed → event ≠ .murder → slot.socks.freed = false → slot'.socks.freed →
        slot'.socks.taken = slot'.pcb.received) ∧
      (event ≠ .fin → slot.pcb.ended = none → slot'.pcb.ended = some .closed →
        slot'.pcb.written = slot'.socks.given ∧ slot'.pcb.acked = slot'.pcb.written.length) := by
  obtain ⟨earlier,later,-,before,taken,-⟩ := run.mem member
  rw [input] at taken
  obtain ⟨slot,r,w,found,-,-,after,outcome⟩ := step_event (run_good before) taken
  refine ⟨slot,w.toSlot,found,?_,outcome.drained,outcome.closed⟩
  rw [after,List.getElem?_set_self (List.getElem?_eq_some_iff.mp found).1]

theorem sides_close_brief : ∃ past s t slot slot',
    execute step System.empty (brief ++ [.event 0 (.send_done 2) roomy]) = some (past,s) ∧ t ∈ past ∧
      t.before.slots[0]? = some slot ∧ t.after.slots[0]? = some slot' ∧ slot.socks.freed = false ∧
      slot'.socks.freed ∧ slot'.socks.taken = slot'.pcb.received := by
  obtain ⟨past,s,t,executed,member,input,before,after⟩ : ∃ past s t,
      execute step System.empty (brief ++ [.event 0 (.send_done 2) roomy]) = some (past,s) ∧ t ∈ past ∧
        t.event = .event 0 (.send_done 2) roomy ∧ t.before.slots.map (fun slot => slot.socks.freed) = [false] ∧
        t.after.slots.map (fun slot => slot.socks.freed) = [true] :=
    ⟨_,_,_,rfl,List.mem_of_getLast? rfl,rfl,rfl,rfl⟩
  obtain ⟨slot,slot',found,found',drained,-⟩ := sides_close (run_of_execute executed) member input
  have there : slot.socks.freed = false := by
    have same := congrArg (fun freed => freed[0]?) before
    simpa [found] using same
  have gone : slot'.socks.freed = true := by
    have same := congrArg (fun freed => freed[0]?) after
    simpa [found'] using same
  exact ⟨past,s,t,slot,slot',executed,member,found,found',there,gone,drained nofun nofun nofun there gone⟩

/-- What a client waits for: each side that it still has can go on, and can be done. -/
structure Awaits (s : Slot) (c : tcp_client) : Prop where
  connecting : c.socks_closed = false → c.socks_up = false → s.allows .socks_up
  sending : c.socks_closed = false → c.socks_up → c.buf ≠ [] → ∃ data, data ≠ [] ∧ data <+: c.buf ∧
    ∀ k, s.allows (.send_done k) ↔ 0 < k ∧ k ≤ data.length
  window : c.client_closed = false → c.socks_closed = false → s.dead_client = none → s.pcb.finished = false →
    ∀ p, s.allows (.recv p) ↔ 0 < p.length ∧ c.buf.length + p.length ≤ TCP_WND
  receiving : c.client_closed = false → c.socks_closed = false → c.socks_up → c.socks_recv_buf = none →
    ∀ data, s.allows (.recv_done data) ↔ 0 < data.length ∧ data.length ≤ CLIENT_SOCKS_RECV_BUF_SIZE
  acknowledging : c.client_closed = false → c.socks_up → c.socks_recv_buf.isSome ∨ c.socks_closed → s.dead_client = none →
    0 < c.socks_recv_tcp_pending ∧ ∀ len, s.allows (.sent len) ↔ 0 < len ∧ len ≤ c.socks_recv_tcp_pending
  lingering : c.client_closed → c.socks_closed = false ∧ c.buf ≠ []

/-- No client is left waiting for nothing. -/
theorem clients_await (run : Run step System.empty past s) {slot : Slot} (member : slot ∈ s.slots) {c : tcp_client}
    (present : slot.client = some c) : Awaits slot c := by
  have kept := (run_good run).kept slot member
  have fits := kept.fits c present
  have usable : c.client_closed = false → slot.pcb.ended = none := by
    intro up
    simpa [up] using fits.closed
  refine ⟨?_,?_,?_,?_,?_,?_⟩
  · intro there down
    refine ⟨?_,?_,?_⟩
    · simp [← fits.freed,there]
    · simp [kept.unfailed c present there]
    · simp [← fits.up,down]
  · intro there ready nonempty
    obtain ⟨data,outstanding,some',inside⟩ := (fits.sending there).busy (fits.up.symm.trans ready) nonempty
    refine ⟨data,some',inside,fun k => ?_⟩
    simp [Slot.allows,← fits.freed,there,kept.unfailed c present there,outstanding]
  · intro up there free unfinished p
    have room := (fits.sending there).window up
    simp only [Slot.allows,free,usable up,(fits.sending there).registered up,unfinished]
    simp only [true_and,Bool.false_eq_true,not_false_eq_true]
    omega
  · intro up there ready empty data
    have outstanding := (fits.writing ready up).receiving there empty
    simp [Slot.allows,← fits.freed,there,kept.unfailed c present there,outstanding]
  · intro up ready rest free
    have writing := fits.writing ready up
    have pending : 0 < c.socks_recv_tcp_pending := by
      rcases holds : c.socks_recv_buf with _ | data
      · rcases rest with impossible | freed
        · simp [holds] at impossible
        · simpa [holds] using (fits.released freed).2.2
      · exact (writing.waiting data holds).2.2.2
    refine ⟨pending,fun len => ?_⟩
    have length := writing.pending
    simp only [Slot.allows,free,usable up,writing.registered,true_and]
    omega
  · intro down
    refine ⟨?_,fits.lingers down⟩
    by_contra freed
    exact absurd (fits.released (by simpa using freed)).1 (by simp [down])

theorem clients_await_brief : ∃ past s slot c, execute step System.empty brief = some (past,s) ∧ slot ∈ s.slots ∧
    slot.client = some c ∧ Awaits slot c := by
  obtain ⟨past,s,slot,c,executed,single,present,-⟩ := executed_brief
  have member : slot ∈ s.slots := by simp [single]
  exact ⟨past,s,slot,c,executed,member,present,clients_await (run_of_execute executed) member present⟩

/-! ### A client whose connection is gone -/

/-- How many bytes the server has taken from connection `i`. -/
def takenBy (i : Nat) : Input → Nat
  | .event j (.send_done data_len) _ => if j = i then data_len else 0
  | _ => 0

/-- Nothing else ends the client of connection `i`. -/
def Unbothered (i : Nat) (input : Input) : Prop :=
  ∀ lwip, input ≠ .event i .socks_error lwip ∧ input ≠ .event i .socks_closed lwip ∧ input ≠ .event i .murder lwip

/-- A connection that is gone: `n` more bytes than `start` of those it had received were taken. -/
structure Lingers (received : Bytes) (start n : Nat) (slot : Slot) : Prop where
  same : slot.pcb.received = received
  ended : slot.pcb.ended.isSome
  taken : slot.socks.taken.length = start + n
  gone : slot.client = none → slot.socks.taken = received

theorem linger_event {received : Bytes} {start n k : Nat} {slot : Slot} {event : Event} {r : Returned} {w : World}
    (kept : Kept slot) (lingers : Lingers received start n slot) (allowed : slot.allows event)
    (outcome : Outcome slot k event r w) (unbothered : event ≠ .socks_error ∧ event ≠ .socks_closed ∧ event ≠ .murder)
    (i : Nat) (lwip : Answers) : Lingers received start (n + takenBy i (.event i event lwip)) w.toSlot := by
  obtain ⟨same,ended,taken,gone⟩ := lingers
  -- a connection that is gone does not call back
  have noted : (slot.notes event).pcb = slot.pcb ∧
      (slot.notes event).socks.taken.length = start + (n + takenBy i (.event i event lwip)) ∧
      (slot.socks.freed → (slot.notes event).socks.taken = slot.socks.taken) := by
    cases event with
    | recv p => simp [allowed.2.1] at ended
    | fin => simp [allowed.2.1] at ended
    | err => simp [allowed.2.1] at ended
    | sent len => simp [allowed.2.1] at ended
    | send_done data_len =>
      obtain ⟨there,-,-,within⟩ := allowed
      obtain ⟨data,outstanding,bounded⟩ := (Option.any_eq_true _ _).mp within
      have less : data_len ≤ data.length := by simpa using bounded
      refine ⟨rfl,?_,fun freed => absurd freed there⟩
      simp only [Slot.notes,outstanding,Option.getD_some,List.length_append,List.length_take,taken,takenBy,if_pos]
      omega
    | socks_up => exact ⟨rfl,taken,fun _ => rfl⟩
    | socks_error => exact absurd rfl unbothered.1
    | socks_closed => exact absurd rfl unbothered.2.1
    | recv_done data => exact ⟨rfl,taken,fun _ => rfl⟩
    | returns => exact ⟨rfl,taken,fun _ => rfl⟩
    | murder => exact absurd rfl unbothered.2.2
  obtain ⟨received',taken',-⟩ := outcome.steady
  have received'' : w.pcb.received = received := by rw [received',noted.1,same]
  refine ⟨received'',outcome.ended ended,by rw [taken',noted.2.1],fun none' => ?_⟩
  by_cases freed : slot.socks.freed
  · have before : slot.client = none := by
      by_contra some'
      obtain ⟨c,present⟩ := Option.ne_none_iff_exists'.mp some'
      have fits := kept.fits c present
      have up := (fits.released (fits.freed.trans freed)).1
      rw [fits.closed,ended] at up
      cases up
    rw [taken',noted.2.2 freed,gone before]
  · rw [outcome.drained unbothered.1 unbothered.2.1 unbothered.2.2 (by simpa using freed) (outcome.kept.gone none').2,
      received'']

theorem linger_step {s s' : System} {i : Nat} {slot : Slot} {received : Bytes} {start n : Nat} {input : Input}
    {reaction : Except Fault Returned} (good : Good s) (found : s.slots[i]? = some slot)
    (lingers : Lingers received start n slot) (taken : step s input = some (s',reaction))
    (unbothered : Unbothered i input) :
    ∃ slot', s'.slots[i]? = some slot' ∧ Lingers received start (n + takenBy i input) slot' := by
  cases input with
  | accept malloc init =>
    obtain ⟨r,w,ran,-,-⟩ := accept_kept malloc init s.num_clients
    rw [step,ran] at taken
    obtain ⟨rfl,-⟩ := Prod.mk.inj (Option.some.inj taken)
    exact ⟨slot,by rw [List.getElem?_append_left (List.getElem?_eq_some_iff.mp found).1,found],lingers⟩
  | event j event lwip =>
    obtain ⟨slot',r,w,found',allowed,-,rfl,outcome⟩ := step_event good taken
    by_cases same : j = i
    · subst same
      obtain rfl := Option.some.inj (found.symm.trans found')
      refine ⟨w.toSlot,List.getElem?_set_self (List.getElem?_eq_some_iff.mp found).1,?_⟩
      refine linger_event (good.kept slot (List.mem_of_getElem? found)) lingers allowed outcome ?_ j lwip
      obtain ⟨unfailed,unclosed,spared⟩ := unbothered lwip
      exact ⟨fun same => unfailed (by rw [same]),fun same => unclosed (by rw [same]),fun same => spared (by rw [same])⟩
    · refine ⟨slot,(List.getElem?_set_ne same).trans found,?_⟩
      have nothing : takenBy i (.event j event lwip) = 0 := by
        cases event with
        | send_done data_len => exact if_neg same
        | _ => rfl
      rw [nothing]
      exact lingers

/-- A client whose connection is gone passes the rest to the server, byte for byte, and is freed
    when all of it was taken, whatever happens to the other connections. -/
theorem lingering_drains (run : Run step System.empty past s) {i : Nat} {slot : Slot} (found : s.slots[i]? = some slot)
    {c : tcp_client} (present : slot.client = some c) (closed : c.client_closed)
    {later : List (Transition System Input (Except Fault Returned))} {s' : System} (run' : Run step s later s')
    (unbothered : ∀ t ∈ later, Unbothered i t.event) :
    ∃ slot', s'.slots[i]? = some slot' ∧ slot'.pcb.received = slot.pcb.received ∧
      (slot'.client = none ∧ slot'.socks.taken = slot.pcb.received ∧
          (later.map (fun t => takenBy i t.event)).sum = c.buf.length ∨
        ∃ c', slot'.client = some c' ∧ c'.client_closed ∧ c'.buf ≠ [] ∧
          c'.buf = c.buf.drop (later.map (fun t => takenBy i t.event)).sum) := by
  have good := run_good run
  have kept := good.kept slot (List.mem_of_getElem? found)
  have fits := kept.fits c present
  have whole : ∀ {slot : Slot} {c : tcp_client}, Kept slot → slot.client = some c → slot.pcb.ended.isSome →
      c.client_closed ∧ c.buf ≠ [] ∧ slot.pcb.received = slot.socks.taken ++ c.buf := by
    intro slot c kept present ended
    have fits := kept.fits c present
    have closed : c.client_closed = true := fits.closed.trans ended
    have there : c.socks_closed = false := by
      by_contra freed
      exact absurd (fits.released (by simpa using freed)).1 (by simp [closed])
    exact ⟨closed,fits.lingers closed,(fits.sending there).buffered⟩
  have ended : slot.pcb.ended.isSome := fits.closed.symm.trans closed
  have buffered := (whole kept present ended).2.2
  obtain ⟨-,good',slot',found',lingers⟩ := run'.history
    (I := fun past s => Good s ∧ ∃ slot', s.slots[i]? = some slot' ∧
      Lingers slot.pcb.received slot.socks.taken.length (past.map (fun t => takenBy i t.event)).sum slot')
    ⟨good,slot,found,rfl,ended,rfl,by simp [present]⟩ (by
      rintro earlier t rest split ⟨good,slot',found',lingers⟩
      have taken := run'.taken split
      refine ⟨(step_good good taken).2,?_⟩
      rw [List.map_append,List.sum_append,List.map_singleton,List.sum_singleton]
      exact linger_step good found' lingers taken (unbothered t (by simp [split])))
  refine ⟨slot',found',lingers.same,?_⟩
  have kept' := good'.kept slot' (List.mem_of_getElem? found')
  rcases present' : slot'.client with _ | c'
  · left
    have taken := lingers.gone present'
    have length := lingers.taken
    rw [taken,buffered,List.length_append] at length
    exact ⟨rfl,taken,by omega⟩
  · right
    obtain ⟨closed',nonempty,buffered'⟩ := whole kept' present' lingers.ended
    refine ⟨c',rfl,closed',nonempty,?_⟩
    have rest : c'.buf = slot.pcb.received.drop slot'.socks.taken.length := by
      rw [← lingers.same,buffered',List.drop_left]
    rw [rest,lingers.taken,buffered,List.drop_append,List.drop_eq_nil_of_le (Nat.le_add_right _ _),List.nil_append,
      Nat.add_sub_cancel_left]

theorem lingering_drains_brief : ∃ past s later s' slot', execute step System.empty brief = some (past,s) ∧
    execute step s [.event 0 (.send_done 1) roomy,.event 0 (.send_done 1) roomy] = some (later,s') ∧
    s'.slots[0]? = some slot' ∧ slot'.client = none ∧ slot'.socks.taken = [1,2] := by
  obtain ⟨past,s,slot,c,later,s',executed,found,present,closed,holds,received,executed',events⟩ :
      ∃ past s slot c later s', execute step System.empty brief = some (past,s) ∧ s.slots[0]? = some slot ∧
        slot.client = some c ∧ c.client_closed ∧ c.buf = [1,2] ∧ slot.pcb.received = [1,2] ∧
        execute step s [.event 0 (.send_done 1) roomy,.event 0 (.send_done 1) roomy] = some (later,s') ∧
        later.map Transition.event = [.event 0 (.send_done 1) roomy,.event 0 (.send_done 1) roomy] :=
    ⟨_,_,_,_,_,_,rfl,rfl,rfl,rfl,rfl,rfl,rfl,rfl⟩
  have unbothered : ∀ t ∈ later, Unbothered 0 t.event := by
    intro t member lwip
    have among := List.mem_map_of_mem (f := Transition.event) member
    rw [events] at among
    simp only [List.mem_cons,List.not_mem_nil,or_false,or_self] at among
    rw [among]
    exact ⟨nofun,nofun,nofun⟩
  obtain ⟨slot',found',-,drained⟩ := lingering_drains (run_of_execute executed) found present closed
    (run_of_execute executed') unbothered
  have sum : (later.map (fun t => takenBy 0 t.event)).sum = 2 := by
    have split : later.map (fun t => takenBy 0 t.event) = (later.map Transition.event).map (takenBy 0) := by
      rw [List.map_map]
      rfl
    rw [split,events]
    rfl
  rw [sum,holds] at drained
  rcases drained with ⟨none',taken,-⟩ | ⟨c',-,-,nonempty,rest⟩
  · exact ⟨past,s,later,s',slot',executed,executed',found',none',taken.trans received⟩
  · exact absurd rest nonempty

end

end WSocks.TcpFlow
