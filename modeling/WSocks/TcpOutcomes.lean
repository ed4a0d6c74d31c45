import WSocks.TcpClients

/-!
# What the functions of a TCP client do

Each function is run once, from any state in which it may be called. Giving up one side of
a client gives up the other side too, or leaves it to the data that it still has to pass on.
-/

namespace WSocks.TcpOutcomes
open WSocks.Effects WSocks.Effects.Action WSocks.TcpClients

/-! ### Calls that are allowed -/

section
variable {w : World} {c : tcp_client}

theorem run_deref (present : w.client = some c) : deref.run w = some (.ok c,w,[]) := by
  simp [deref,present]

theorem run_ASSERT {p : Prop} [Decidable p] (holds : p) : (ASSERT p).run w = some (.ok (),w,[]) := by
  simp [ASSERT,holds]

theorem run_assign (present : w.client = some c) (change : tcp_client → tcp_client) :
    (assign change).run w = some (.ok (),{w with client := some (change c)},[]) := by
  simp [assign,run_deref present,present]

theorem run_onPcb (present : w.client = some c) (usable : w.pcb.ended = none) (change : Pcb → Pcb) :
    (onPcb change).run w = some (.ok (),{w with pcb := change w.pcb},[]) := by
  simp [onPcb,run_deref present,usable]

theorem run_onSocks (present : w.client = some c) (there : w.socks.freed = false) {allows : Socks → Bool}
    (allowed : allows w.socks) (change : Socks → Socks) :
    (onSocks allows change).run w = some (.ok (),{w with socks := change w.socks},[]) := by
  simp [onSocks,run_deref present,there,allowed]

/-! ### What giving up leaves -/

/-- The memory of the client is freed. -/
def finish (w : World) : World := {w with client := none,num_clients := w.num_clients - 1}

/-- The SOCKS client is freed. -/
def freeSocks (w : World) : World :=
  {w with socks := {w.socks with freed := true,sending := none,receiving := none}}

/-- The connection is given up, with all its callbacks. -/
def endPcb (w : World) (ending : Ending) : World :=
  {w with pcb := {w.pcb with err := false,recv := false,sent := false,ended := some ending}}

/-- A callback in progress learns that the client is killed. -/
def kill (w : World) : World := {w with dead_client := w.dead_client.map (fun _ => true)}

/-- The connection is gone: the SOCKS client goes too, unless it still has data to send. -/
def handled (w : World) (c : tcp_client) : World :=
  if c.socks_closed then finish (kill w)
  else if c.buf = [] then finish (freeSocks (kill w))
  else {kill w with client := some {c with client_closed := true}}

/-- The end of a connection that was closed, or aborted where that failed. -/
def endingOf (close : err_t) : Ending := if close = .ERR_OK then .closed else .aborted

/-- The SOCKS client is gone: the connection goes too, unless it still has data to write. -/
def released (close : err_t) (w : World) (c : tcp_client) : World :=
  if c.client_closed then finish (freeSocks w)
  else if c.socks_up ∧ (c.socks_recv_buf.isSome ∨ 0 < c.socks_recv_tcp_pending) then
    {freeSocks w with client := some {c with socks_closed := true},pcb := {w.pcb with recv := false}}
  else finish (kill (endPcb (freeSocks w) (endingOf close)))

theorem run_client_dealloc (present : w.client = some c) (down : c.client_closed) (freed : c.socks_closed)
    (counted : 0 < w.num_clients) : client_dealloc.run w = some (.ok (),finish w,[]) := by
  simp [client_dealloc,run_deref present,run_ASSERT,down,freed,counted,finish]

theorem run_killClient : killClient.run w = some (.ok (),kill w,[]) := rfl

theorem run_BSocksClient_Free (present : w.client = some c) (there : w.socks.freed = false) :
    BSocksClient_Free.run w = some (.ok (),freeSocks w,[]) := run_onSocks present there rfl _

/-- The connection is gone and the SOCKS client already was. -/
theorem run_handle_last (close : err_t) (depth : Nat) (present : w.client = some c) (up : c.client_closed = false)
    (freed : c.socks_closed) (counted : 0 < w.num_clients) :
    (client_handle_freed_client close (depth + 1)).run w = some (.ok (),finish (kill w),[]) := by
  have present' : (kill w).client = some c := present
  rw [client_handle_freed_client,run_seq (run_deref present),run_seq (run_ASSERT (by simp [up])),
    run_seq run_killClient,run_seq (run_assign present' _),if_neg (by simp [freed]),if_neg (by simp [freed])]
  exact run_client_dealloc rfl rfl freed counted

/-- The SOCKS client is gone and the connection already was. -/
theorem run_free_socks_last (close : err_t) (depth : Nat) (present : w.client = some c) (down : c.client_closed)
    (there : c.socks_closed = false) (there' : w.socks.freed = false) (counted : 0 < w.num_clients) :
    (client_free_socks close (depth + 1)).run w = some (.ok (),finish (freeSocks w),[]) := by
  have present' : (freeSocks w).client = some c := present
  have rest : ∀ f : PUnit → Act Unit, (∀ u, (f u).run w = some (.ok (),finish (freeSocks w),[])) →
      (if c.socks_up = true then if ¬ c.client_closed = true then tcp_recv false >>= f else f () else f ()).run w =
        some (.ok (),finish (freeSocks w),[]) := by
    intro f same
    split_ifs <;> simp_all
  rw [client_free_socks,run_seq (run_deref present),run_seq (run_ASSERT (by simp [there]))]
  apply rest
  intro u
  rw [run_seq (run_BSocksClient_Free present there'),run_seq (run_assign present' _),if_neg (by simp [down]),
    if_neg (by simp [down])]
  exact run_client_dealloc rfl down rfl counted

theorem run_handle_freed (close : err_t) (depth : Nat) (present : w.client = some c) (up : c.client_closed = false)
    (agree : c.socks_closed = w.socks.freed) (counted : 0 < w.num_clients) :
    (client_handle_freed_client close (depth + 2)).run w = some (.ok (),handled w c,[]) := by
  by_cases freed : c.socks_closed
  · rw [run_handle_last close (depth + 1) present up freed counted,handled,if_pos freed]
  have there : c.socks_closed = false := by simpa using freed
  have present' : (kill w).client = some c := present
  rw [client_handle_freed_client,run_seq (run_deref present),run_seq (run_ASSERT (by simp [up])),
    run_seq run_killClient,run_seq (run_assign present' _),handled,if_neg freed]
  by_cases empty : c.buf = []
  · rw [if_neg (by simp [empty]),if_pos (by simp [freed]),if_pos empty]
    exact run_free_socks_last close depth rfl rfl there (agree.symm.trans there) counted
  · rw [if_pos ⟨empty,freed⟩,if_neg empty]
    rfl

/-- The callbacks of a connection are removed before it is given up. -/
def silence (w : World) : World := {w with pcb := {w.pcb with err := false,recv := false,sent := false}}

theorem run_silence {α : Type} {m : Act α} (present : w.client = some c) (usable : w.pcb.ended = none) :
    (do tcp_err false; tcp_recv false; tcp_sent false; m).run w = m.run (silence w) := by
  rw [tcp_err,run_seq (run_onPcb present usable _),tcp_recv,run_seq (run_onPcb (by exact present) (by exact usable) _),
    tcp_sent,run_seq (run_onPcb (by exact present) (by exact usable) _)]
  rfl

/-- The connection is closed, or aborted where that fails. -/
theorem run_free_client (close : err_t) (depth : Nat) (present : w.client = some c) (up : c.client_closed = false)
    (usable : w.pcb.ended = none) :
    (client_free_client close (depth + 1)).run w =
      (client_handle_freed_client close depth).run (endPcb w (endingOf close)) := by
  rw [client_free_client,run_seq (run_deref present),run_seq (run_ASSERT (by simp [up]))]
  rw [run_silence present usable]
  by_cases good : close = .ERR_OK
  · have closed : (tcp_close close).run (silence w) = some (.ok close,endPcb w (endingOf close),[]) := by
      rw [tcp_close,run_seq (run_onPcb (by exact present) (by exact usable) _)]
      simp [good,endPcb,endingOf,silence]
    rw [run_seq closed]
    simp [good]
  · have refused : (tcp_close close).run (silence w) = some (.ok close,silence w,[]) := by
      rw [tcp_close,run_seq (run_onPcb (by exact present) (by exact usable) _)]
      simp [good]
    have aborted : tcp_abort.run (silence w) = some (.ok (),endPcb w (endingOf close),[]) := by
      rw [tcp_abort,run_onPcb (by exact present) (by exact usable)]
      simp [good,endPcb,endingOf,silence]
    rw [run_seq refused]
    dsimp only
    rw [if_pos good,run_seq aborted]

theorem run_free_socks (close : err_t) (depth : Nat) (present : w.client = some c) (there : c.socks_closed = false)
    (there' : w.socks.freed = false) (agree : c.client_closed = w.pcb.ended.isSome) (counted : 0 < w.num_clients) :
    (client_free_socks close (depth + 3)).run w = some (.ok (),released close w c,[]) := by
  by_cases down : c.client_closed
  · rw [run_free_socks_last close (depth + 2) present down there there' counted,released,if_pos down]
  have up : c.client_closed = false := by simpa using down
  have usable : w.pcb.ended = none := by simpa [up] using agree
  have last : ∀ {w' : World}, w'.client = some {c with socks_closed := true} → w'.pcb.ended = none →
      0 < w'.num_clients → (client_free_client close (depth + 2)).run w' =
        some (.ok (),finish (kill (endPcb w' (endingOf close))),[]) := by
    intro w' present' usable' counted'
    rw [run_free_client close (depth + 1) present' up usable']
    exact run_handle_last close depth present' up rfl counted'
  rw [client_free_socks,run_seq (run_deref present),run_seq (run_ASSERT (by simp [there]))]
  by_cases ready : c.socks_up
  · dsimp only
    rw [if_pos ready,if_pos (by simp [up]),tcp_recv,run_seq (run_onPcb present usable _),
      run_seq (run_BSocksClient_Free (by exact present) (by exact there')),run_seq (run_assign (by exact present) _)]
    by_cases data : c.socks_recv_buf.isSome ∨ 0 < c.socks_recv_tcp_pending
    · rw [if_pos ⟨ready,data,down⟩,released,if_neg down,if_pos ⟨ready,data⟩]
      rfl
    · rw [if_neg (by tauto),if_pos down,released,if_neg down,if_neg (by tauto)]
      exact last rfl usable counted
  · dsimp only
    rw [if_neg ready,run_seq (run_BSocksClient_Free present there'),run_seq (run_assign (by exact present) _),
      if_neg (by tauto),if_pos down,released,if_neg down,if_neg (by tauto)]
    exact last rfl usable counted

theorem run_abort_client (lwip : Answers) (present : w.client = some c) (up : c.client_closed = false)
    (usable : w.pcb.ended = none) (agree : c.socks_closed = w.socks.freed) (counted : 0 < w.num_clients) :
    (client_abort_client lwip).run w = some (.ok (),handled (endPcb w .aborted) c,[]) := by
  have aborted : tcp_abort.run (silence w) = some (.ok (),endPcb w .aborted,[]) := by
    rw [tcp_abort,run_onPcb (by exact present) (by exact usable)]
    rfl
  rw [client_abort_client,run_seq (run_deref present),run_seq (run_ASSERT (by simp [up])),run_silence present usable,
    run_seq aborted]
  exact run_handle_freed lwip.close 2 present up agree counted

/-! ### What asking the SOCKS client leaves -/

theorem run_Sender_Send {data : Bytes} (present : w.client = some c) (there : w.socks.freed = false)
    (ready : w.socks.up) (idle : w.socks.sending = none) (nonempty : data ≠ []) :
    (StreamPassInterface_Sender_Send data).run w = some (.ok (),{w with socks := {w.socks with sending := some data}},[]) := by
  rw [StreamPassInterface_Sender_Send,run_onSocks present there]
  simp [ready,idle,nonempty]

theorem run_send_to_socks (present : w.client = some c) (open' : c.socks_closed = false) (up : c.socks_up)
    (there : w.socks.freed = false) (ready : w.socks.up) (idle : w.socks.sending = none) (nonempty : c.buf ≠ []) :
    client_send_to_socks.run w = some (.ok (),{w with socks := {w.socks with sending := some c.buf}},[]) := by
  rw [client_send_to_socks,run_seq (run_deref present),run_seq (run_ASSERT (by simp [open'])),run_seq (run_ASSERT up),
    run_seq (run_ASSERT nonempty)]
  exact run_Sender_Send present there ready idle nonempty

theorem run_recv_initiate (present : w.client = some c) (up : c.client_closed = false) (open' : c.socks_closed = false)
    (up' : c.socks_up) (empty : c.socks_recv_buf = none) (there : w.socks.freed = false) (ready : w.socks.up)
    (idle : w.socks.receiving = none) :
    client_socks_recv_initiate.run w =
      some (.ok (),{w with socks := {w.socks with receiving := some CLIENT_SOCKS_RECV_BUF_SIZE}},[]) := by
  rw [client_socks_recv_initiate,run_seq (run_deref present),run_seq (run_ASSERT (by simp [up])),
    run_seq (run_ASSERT (by simp [open'])),run_seq (run_ASSERT up'),run_seq (run_ASSERT empty),
    StreamRecvInterface_Receiver_Recv,run_onSocks present there]
  simp [ready,idle,CLIENT_SOCKS_RECV_BUF_SIZE]

/-! ### What writing leaves -/

/-- A client that has written `m` bytes more. -/
def wrote (c : tcp_client) (m : Nat) : tcp_client :=
  {c with socks_recv_buf_sent := c.socks_recv_buf_sent + m,socks_recv_tcp_pending := c.socks_recv_tcp_pending + m}

/-- The next `m` bytes were written. -/
def queued (w : World) (c : tcp_client) (data : Bytes) (m : Nat) : World :=
  {w with client := some (wrote c m),pcb := {w.pcb with written := w.pcb.written ++ (data.drop c.socks_recv_buf_sent).take m}}

theorem queued_zero (present : w.client = some c) (data : Bytes) : queued w c data 0 = w := by
  obtain ⟨⟨client,dead_client,pcb,socks⟩,num_clients⟩ := w
  dsimp only at present
  subst present
  simp [queued,wrote]

theorem queued_queued (data : Bytes) (m m' : Nat) :
    queued (queued w c data m) (wrote c m) data m' = queued w c data (m + m') := by
  simp only [queued,wrote,List.append_assoc,Nat.add_assoc,List.take_add,List.drop_drop]

theorem run_queueOut (data : Bytes) (answers : List (Nat × err_t)) (present : w.client = some c)
    (usable : w.pcb.ended = none) (within : c.socks_recv_buf_sent ≤ data.length) :
    (queueOut data answers).run w = none ∧ answers.length ≤ data.length - c.socks_recv_buf_sent ∨
      ∃ good m, c.socks_recv_buf_sent + m ≤ data.length ∧
        (queueOut data answers).run w = some (.ok good,queued w c data m,[]) := by
  induction answers generalizing w c with
  | nil => exact .inl ⟨rfl,Nat.zero_le _⟩
  | cons answer answers ih =>
    obtain ⟨sndbuf,answer⟩ := answer
    rw [queueOut,run_seq (run_deref present)]
    dsimp only
    by_cases full : min (data.length - c.socks_recv_buf_sent) sndbuf = 0
    · rw [if_pos full]
      exact .inr ⟨true,0,within,by rw [queued_zero present]; rfl⟩
    rw [if_neg full]
    set m := min (data.length - c.socks_recv_buf_sent) sndbuf
    have fits : c.socks_recv_buf_sent + m ≤ data.length := by omega
    by_cases good : answer = .ERR_OK
    · have written : (tcp_write ((data.drop c.socks_recv_buf_sent).take m) answer).run w = some (.ok answer,{w with
          pcb := {w.pcb with written := w.pcb.written ++ (data.drop c.socks_recv_buf_sent).take m}},[]) := by
        rw [tcp_write,run_seq (run_onPcb present usable _)]
        simp [good]
      rw [run_seq written,if_neg (by simp [good]),run_seq (run_assign (by exact present) _)]
      have moved : (queued w c data m).client = some (wrote c m) := rfl
      change ((deref >>= _).run (queued w c data m)) = none ∧ _ ∨ ∃ good k, _ ∧
        ((deref >>= _).run (queued w c data m)) = some (.ok good,queued w c data k,[])
      rw [run_seq (run_deref moved)]
      by_cases more : (wrote c m).socks_recv_buf_sent < data.length
      · rw [if_pos more]
        rcases ih moved (by exact usable) fits with ⟨stuck,few⟩ | ⟨good',m',fits',ran⟩
        · refine .inl ⟨stuck,?_⟩
          simp only [wrote,List.length_cons] at few ⊢
          omega
        · refine .inr ⟨good',m + m',?_,?_⟩
          · rw [← Nat.add_assoc]
            exact fits'
          · rw [ran,queued_queued]
      · rw [if_neg more]
        exact .inr ⟨true,m,fits,rfl⟩
    · have refused : (tcp_write ((data.drop c.socks_recv_buf_sent).take m) answer).run w = some (.ok answer,w,[]) := by
        rw [tcp_write,run_seq (run_onPcb present usable _)]
        simp [good]
      rw [run_seq refused,if_pos good]
      exact .inr ⟨_,0,within,by rw [queued_zero present]; rfl⟩

/-- How sending out ends: the connection is aborted, the rest waits for an acknowledgement, or
    nothing is left. -/
inductive SentOut (w : World) (c : tcp_client) (data : Bytes) : Bool → World → Prop
  | aborted (m : Nat) : c.socks_recv_buf_sent + m ≤ data.length →
      SentOut w c data false (handled (endPcb (queued w c data m) .aborted) (wrote c m))
  | waiting (m : Nat) : c.socks_recv_buf_sent + m < data.length → 0 < c.socks_recv_tcp_pending + m →
      SentOut w c data true {queued w c data m with client := some {wrote c m with socks_recv_waiting := true}}
  | whole (m : Nat) : c.socks_recv_buf_sent + m = data.length →
      SentOut w c data true {queued w c data m with client := some {wrote c m with socks_recv_buf := none}}

theorem run_send_out (lwip : Answers) {data : Bytes} (present : w.client = some c) (up : c.client_closed = false)
    (usable : w.pcb.ended = none) (agree : c.socks_closed = w.socks.freed) (counted : 0 < w.num_clients)
    (ready : c.socks_up) (holds : c.socks_recv_buf = some data) (within : c.socks_recv_buf_sent < data.length)
    (idle : c.socks_recv_waiting = false) :
    (client_socks_recv_send_out lwip).run w = none ∧ lwip.writes.length ≤ data.length ∨
      ∃ good w', (client_socks_recv_send_out lwip).run w = some (.ok good,w',[]) ∧ SentOut w c data good w' := by
  have buffer : c.socks_recv_buf.getD [] = data := by rw [holds]; rfl
  rw [client_socks_recv_send_out,run_seq (run_deref present)]
  dsimp only
  rw [buffer,run_seq (run_ASSERT (by simp [up])),run_seq (run_ASSERT ready),run_seq (run_ASSERT (by omega)),
    run_seq (run_ASSERT within),run_seq (run_ASSERT (by simp [idle]))]
  rcases run_queueOut data lwip.writes present usable within.le with ⟨stuck,few⟩ | ⟨good,m,fits,ran⟩
  · left
    rw [run_bind,stuck,sequel_none]
    exact ⟨rfl,few.trans (Nat.sub_le _ _)⟩
  right
  have aborts : (do client_abort_client lwip; return false : Act Bool).run (queued w c data m) =
      some (.ok false,handled (endPcb (queued w c data m) .aborted) (wrote c m),[]) := by
    rw [run_seq (run_abort_client lwip (w := queued w c data m) (c := wrote c m) rfl up usable agree counted)]
    rfl
  rw [run_seq ran]
  by_cases failed : good
  · rw [if_neg (by simp [failed]),tcp_output]
    have output : (do onPcb id; return lwip.output : Act err_t).run (queued w c data m) =
        some (.ok lwip.output,queued w c data m,[]) := by
      rw [run_seq (run_onPcb (w := queued w c data m) (c := wrote c m) rfl usable id)]
      rfl
    rw [run_seq output]
    by_cases sent : lwip.output = .ERR_OK
    · rw [if_neg (by simp [sent]),run_seq (run_deref (w := queued w c data m) (c := wrote c m) rfl)]
      by_cases more : (wrote c m).socks_recv_buf_sent < data.length
      · rw [if_pos more]
        by_cases confirmed : (wrote c m).socks_recv_tcp_pending = 0
        · rw [if_pos confirmed]
          exact ⟨false,_,aborts,.aborted m fits⟩
        · rw [if_neg confirmed,run_seq (run_assign (w := queued w c data m) (c := wrote c m) rfl _)]
          exact ⟨true,_,rfl,.waiting m more (Nat.pos_of_ne_zero confirmed)⟩
      · rw [if_neg more,run_seq (run_assign (w := queued w c data m) (c := wrote c m) rfl _)]
        exact ⟨true,_,rfl,.whole m (le_antisymm fits (Nat.le_of_not_lt more))⟩
    · rw [if_pos sent]
      exact ⟨false,_,aborts,.aborted m fits⟩
  · rw [if_pos failed]
    exact ⟨false,_,aborts,.aborted m fits⟩

end

end WSocks.TcpOutcomes
