import WSocks.Sessions

/-!
# Reconnecting

The exception handler of a websocket closes the websocket that `ws` holds, whichever it
is, and logs in. As long as exception events come only from the current websocket, and
not again from one that has caused a login, there is never more than one websocket.
-/

namespace WSocks.Reconnection
open WSocks.Runs WSocks.Effects WSocks.Text WSocks.Buffers WSocks.Libraries WSocks.Messages WSocks.Client WSocks.Handlers
  WSocks.Proxy WSocks.Traffic WSocks.Sessions

/-- An exception event closes no other websocket than its own, no websocket causes two
    logins, and the one that `ws` holds is the only one that may be open. -/
structure Safe (past : Past) : Prop where
  closes : ∀ t ∈ past, ∀ w, t.event = .failed w → ∀ w', w' ≠ w → t.after.webSockets w' = t.before.webSockets w'
  once : past.Pairwise (fun t u => ∀ w, t.event = .failed w → u.event = .failed w →
    .login ∈ t.reaction.outputs → .login ∉ u.reaction.outputs)
  held : ∀ t ∈ past, ∀ w, t.after.webSockets w = some true → t.after.ws = some w

/-- Closing what `ws` holds goes through, and the exception handler comes to its login. -/
def Relogs (env : Env) (world : World) : Prop :=
  ∃ w, world.ws = some w ∧ (world.webSockets w = some true ∨ env.platform.closeAgain = .ok ())

/-- The websocket had an exception event that caused a login. -/
def Lost (env : Env) (past : Past) (w : WebSocketId) : Prop := ∃ t ∈ past, t.event = .failed w ∧ Relogs env t.before

/-- An exception event comes while no other websocket is current and open, and if it
    causes a login it is the first of its websocket that does. -/
def Timely (env : Env) (past : Past) (world : World) : Event → Prop
  | .failed w => (∀ w', Online world w' → w' = w) ∧ (Relogs env world → ¬ Lost env past w)
  | _ => True

/-! ### What an exception event does -/

variable {env : Env} {world next : World} {w : WebSocketId} {reaction : Reaction}

/-- It closes the current websocket if that is open, and logs in if closing goes through. -/
theorem failed_cases (taken : step env world (.failed w) = some (next,reaction)) :
    (¬ Relogs env world ∧ next = world ∧ reaction.outputs = []) ∨
    (Relogs env world ∧ .login ∈ reaction.outputs ∧
      ((∃ w', Online world w' ∧ next = (world.setWebSocket w' false).callLogin) ∨
        (∀ w', ¬ Online world w') ∧ next = world.callLogin)) := by
  by_cases known : world.webSockets w = none
  · simp [step,react,known] at taken
  cases connected : world.ws with
  | none =>
    simp [step,react,known,exceptionHandler,readWs,connected] at taken
    obtain ⟨rfl,rfl⟩ := taken
    exact .inl ⟨by simp [Relogs,connected],rfl,rfl⟩
  | some w' =>
    by_cases isOpen : world.webSockets w' = some true
    · simp [step,react,known,exceptionHandler,readWs,connected,closeWebSocket,isOpen,login] at taken
      obtain ⟨rfl,rfl⟩ := taken
      exact .inr ⟨⟨w',connected,.inl isOpen⟩,by simp,.inl ⟨w',⟨connected,isOpen⟩,rfl⟩⟩
    · have offline : ∀ w'', ¬ Online world w'' := by
        rintro w'' ⟨connected',isOpen'⟩
        cases connected.symm.trans connected'
        exact isOpen isOpen'
      cases again : env.platform.closeAgain with
      | error failure =>
        simp [step,react,known,exceptionHandler,readWs,connected,closeWebSocket,isOpen,again] at taken
        obtain ⟨rfl,rfl⟩ := taken
        exact .inl ⟨by simp [Relogs,connected,isOpen,again],rfl,rfl⟩
      | ok =>
        simp [step,react,known,exceptionHandler,readWs,connected,closeWebSocket,isOpen,again,login] at taken
        obtain ⟨rfl,rfl⟩ := taken
        exact .inr ⟨⟨w',connected,.inr again⟩,by simp,.inr ⟨offline,rfl⟩⟩

/-- So it causes a login exactly when closing goes through. -/
theorem login_iff (taken : step env world (.failed w) = some (next,reaction)) :
    .login ∈ reaction.outputs ↔ Relogs env world := by
  rcases failed_cases taken with ⟨quiet,-,silent⟩ | ⟨relogs,logs,-⟩
  · exact iff_of_false (by simp [silent]) quiet
  · exact iff_of_true logs relogs

/-! ### Other events -/

/-- Websockets may be closed, and nothing else about them changes. -/
structure Dims (world next : World) : Prop where
  ws : next.ws = world.ws
  logins : next.logins = world.logins
  opens : ∀ w, next.webSockets w = some true → world.webSockets w = some true
  known : ∀ w, next.webSockets w = none ↔ world.webSockets w = none

theorem Dims.of_eq (ws : next.ws = world.ws) (logins : next.logins = world.logins)
    (webSockets : next.webSockets = world.webSockets) : Dims world next :=
  ⟨ws,logins,fun w isOpen => by rw [← webSockets]; exact isOpen,fun w => by rw [webSockets]⟩

theorem Dims.setWebSocket (world : World) {w : WebSocketId} (known : world.webSockets w ≠ none) :
    Dims world (world.setWebSocket w false) := by
  refine ⟨rfl,rfl,?_,?_⟩
  · intro w' isOpen
    by_cases same : w' = w
    · simp [same] at isOpen
    · simpa [same] using isOpen
  · intro w'
    by_cases same : w' = w
    · simp [same,known]
    · simp [same]

private theorem dims_stop (taken : step env world .stop = some (next,reaction)) : Dims world next := by
  cases connected : world.ws with
  | none =>
    simp [step,react,stop,readWs,connected] at taken
    exact taken.1 ▸ .of_eq rfl rfl rfl
  | some w =>
    by_cases isOpen : world.webSockets w = some true
    · simp [step,react,stop,readWs,connected,closeWebSocket,isOpen] at taken
      rw [← taken.1]
      obtain ⟨ws,logins,opens,known⟩ := Dims.setWebSocket world (w := w) (by simp [isOpen])
      exact ⟨ws,logins,opens,known⟩
    · cases again : env.platform.closeAgain with
      | error failure =>
        simp [step,react,stop,readWs,connected,closeWebSocket,isOpen,again] at taken
        exact taken.1 ▸ .of_eq rfl rfl rfl
      | ok =>
        simp [step,react,stop,readWs,connected,closeWebSocket,isOpen,again] at taken
        exact taken.1 ▸ .of_eq rfl rfl rfl

/-- Only logins and exception events open websockets or call for one. -/
theorem dims_step {event : Event} (taken : step env world event = some (next,reaction)) :
    Dims world next ∨ (∃ w, event = .loggedIn w) ∨ event = .loginFailed ∨ ∃ w, event = .failed w := by
  have move := step_move taken
  generalize reaction.outputs = outputs at move
  cases move with
  | loggedIn => exact .inr (.inl ⟨_,rfl⟩)
  | loginFailed => exact .inr (.inr (.inl rfl))
  | failed => exact .inr (.inr (.inr ⟨_,rfl⟩))
  | @disconnected w =>
    by_cases known : world.webSockets w = none
    · simp [step,react,known] at taken
    · exact .inl (.setWebSocket world known)
  | stop => exact .inl (dims_stop taken)
  | handled _ handled => cases handled <;> exact .inl (.of_eq rfl rfl rfl)
  | served _ served =>
    refine .inl ?_
    cases served <;> (simp only [screened]; split <;> exact .of_eq rfl rfl rfl)
  | _ => exact .inl (.of_eq rfl rfl rfl)

/-! ### One websocket -/

/-- Only the current websocket may be open, and none while a login is awaited. All others
    that have been opened were lost, and so is the current one when a login is awaited. -/
structure Single (env : Env) (past : Past) (world : World) : Prop where
  held : ∀ w, world.webSockets w = some true → world.ws = some w
  few : world.logins ≤ 1
  idle : 0 < world.logins → ∀ w, world.webSockets w ≠ some true
  replaced : ∀ w, world.webSockets w ≠ none → world.ws = some w ∨ Lost env past w
  awaited : 0 < world.logins → ∀ w, world.webSockets w ≠ none → Lost env past w

theorem Lost.append {past later : Past} (lost : Lost env past w) : Lost env (past ++ later) w := by
  obtain ⟨t,member,rest⟩ := lost
  exact ⟨t,List.mem_append_left _ member,rest⟩

theorem single_started : Single env [] started := by
  refine ⟨?_,le_refl 1,?_,?_,?_⟩ <;> simp [started]

theorem Single.dims {past later : Past} (single : Single env past world) (dims : Dims world next) :
    Single env (past ++ later) next := by
  obtain ⟨ws,logins,opens,known⟩ := dims
  refine ⟨?_,logins ▸ single.few,?_,?_,?_⟩
  · intro w isOpen
    rw [ws]
    exact single.held w (opens w isOpen)
  · intro awaited w isOpen
    exact single.idle (logins ▸ awaited) w (opens w isOpen)
  · intro w there
    rw [ws]
    exact (single.replaced w (mt (known w).mpr there)).imp_right Lost.append
  · intro awaited w there
    exact (single.awaited (logins ▸ awaited) w (mt (known w).mpr there)).append

/-- The websocket that a login brings takes the place of one that was lost. -/
private theorem single_loggedIn {past later : Past} (single : Single env past world)
    (taken : step env world (.loggedIn w) = some (next,reaction)) : Single env (past ++ later) next := by
  by_cases possible : world.logins = 0 ∨ world.webSockets w ≠ none
  · simp [step,react,possible] at taken
  simp [step,react,possible,webSocketConnected,writePing] at taken
  obtain ⟨rfl,-⟩ := taken
  push Not at possible
  have awaited : 0 < world.logins := Nat.pos_of_ne_zero possible.1
  have few := single.few
  have answered : ¬ 0 < world.logins - 1 := by omega
  refine ⟨?_,?_,fun more => absurd more answered,?_,fun more => absurd more answered⟩
  · intro w' isOpen
    by_cases same : w' = w
    · simp [same]
    · exact absurd (by simpa [same] using isOpen) (single.idle awaited w')
  · show world.logins - 1 ≤ 1
    omega
  · intro w' there
    by_cases same : w' = w
    · exact .inl (by simp [same])
    · exact .inr (single.awaited awaited w' (by simpa [same] using there)).append

/-- A websocket that is lost is the current one, and no login is awaited yet. -/
private theorem single_failed {past : Past} (single : Single env past world)
    (taken : step env world (.failed w) = some (next,reaction)) (timely : Timely env past world (.failed w)) :
    Single env (past ++ [⟨world,.failed w,reaction,next⟩]) next := by
  have there : world.webSockets w ≠ none := by
    intro unknown
    simp [step,react,unknown] at taken
  rcases failed_cases taken with ⟨-,rfl,-⟩ | ⟨relogs,-,closed⟩
  · exact single.dims (.of_eq rfl rfl rfl)
  have first := timely.2 relogs
  have none_awaited : world.logins = 0 := by
    by_contra awaited
    exact first (single.awaited (Nat.pos_of_ne_zero awaited) w there)
  have lost : ∀ w', world.webSockets w' ≠ none → Lost env (past ++ [⟨world,.failed w,reaction,next⟩]) w' := by
    intro w' there'
    rcases single.replaced w' there' with current | old
    · obtain rfl : w = w' := Option.some.inj (((single.replaced w there).resolve_right first).symm.trans current)
      exact ⟨_,List.mem_append_right _ (List.mem_singleton_self _),rfl,relogs⟩
    · exact old.append
  have silent : (∀ w', next.webSockets w' ≠ some true) ∧ next.ws = world.ws ∧ next.logins = 1 ∧
      ∀ w', next.webSockets w' = none ↔ world.webSockets w' = none := by
    rcases closed with ⟨w',⟨connected,isOpen⟩,rfl⟩ | ⟨offline,rfl⟩
    · obtain ⟨-,-,opens,known⟩ := Dims.setWebSocket world (w := w') (by simp [isOpen])
      refine ⟨?_,rfl,by simp [none_awaited],known⟩
      intro w'' isOpen'
      obtain rfl : w' = w'' := Option.some.inj (connected.symm.trans (single.held w'' (opens w'' isOpen')))
      simp at isOpen'
    · refine ⟨?_,rfl,by simp [none_awaited],fun _ => Iff.rfl⟩
      intro w'' isOpen'
      exact offline w'' ⟨single.held w'' isOpen',isOpen'⟩
  obtain ⟨closed,ws,logins,known⟩ := silent
  refine ⟨fun w' isOpen => absurd isOpen (closed w'),by omega,fun _ => closed,?_,?_⟩
  · intro w' there'
    exact .inr (lost w' (mt (known w').mpr there'))
  · intro _ w' there'
    exact lost w' (mt (known w').mpr there')

theorem single_step {past : Past} {event : Event} (single : Single env past world)
    (taken : step env world event = some (next,reaction)) (timely : Timely env past world event) :
    Single env (past ++ [⟨world,event,reaction,next⟩]) next := by
  rcases dims_step taken with dims | ⟨w,rfl⟩ | rfl | ⟨w,rfl⟩
  · exact single.dims dims
  · exact single_loggedIn single taken
  · by_cases possible : world.logins = 0
    · simp [step,react,possible] at taken
    simp [step,react,possible] at taken
    obtain ⟨rfl,-⟩ := taken
    have few := single.few
    have answered : ¬ 0 < world.logins - 1 := by omega
    refine ⟨single.held,?_,fun more => absurd more answered,?_,fun more => absurd more answered⟩
    · show world.logins - 1 ≤ 1
      omega
    · intro w there
      exact (single.replaced w there).imp_right Lost.append
  · exact single_failed single taken timely

/-! ### Every run -/

/-- Exception events are safe in a run exactly when they are timely. -/
theorem safe_iff (env : Env) {past : Past} {world : World} (trace : Trace env past world) :
    Safe past ↔ Obeys (Timely env) past := by
  constructor
  · intro safe earlier t later whole
    have taken := trace.taken whole
    have member : t ∈ past := by simp [whole]
    cases event : t.event with
    | failed w =>
      rw [event] at taken
      constructor
      · intro w' online
        by_contra other
        rcases failed_cases taken with ⟨quiet,-⟩ | ⟨-,-,⟨w'',online',after⟩ | ⟨offline,-⟩⟩
        · exact quiet ⟨w',online.1,.inl online.2⟩
        · obtain rfl : w' = w'' := Option.some.inj (online.1.symm.trans online'.1)
          have kept := safe.closes t member w event w' other
          simp [after,online.2] at kept
        · exact offline w' online
      · rintro relogs ⟨u,inside,event',relogs'⟩
        obtain ⟨front,back,rfl⟩ := List.append_of_mem inside
        have pair : past = front ++ u :: (back ++ t :: later) := by simp [whole]
        have taken' := trace.taken pair
        rw [event'] at taken'
        exact pairwise_iff_split.mp safe.once front u back t later pair w event' event ((login_iff taken').mpr relogs')
          ((login_iff taken).mpr relogs)
    | _ => trivial
  · intro timely
    have singles := trace.history (I := Single env) single_started (by
      intro earlier t later whole single
      exact single_step single (trace.taken whole) (timely earlier t later whole))
    refine ⟨?_,?_,?_⟩
    · intro t member w event w' other
      obtain ⟨earlier,later,whole⟩ := List.append_of_mem member
      have taken := trace.taken whole
      have here := timely earlier t later whole
      rw [event] at taken here
      rcases failed_cases taken with ⟨-,same,-⟩ | ⟨-,-,⟨w'',online,after⟩ | ⟨-,after⟩⟩
      · rw [same]
      · obtain rfl := here.1 w'' online
        simp [after,other]
      · simp [after]
    · rw [pairwise_iff_split]
      intro front t middle u back whole w event event' logs logs'
      have later : past = (front ++ t :: middle) ++ u :: back := by simp [whole]
      have taken := trace.taken whole
      have taken' := trace.taken later
      have here := timely _ u back later
      rw [event] at taken
      rw [event'] at taken' here
      exact here.2 ((login_iff taken').mp logs') ⟨t,by simp,event,(login_iff taken).mp logs⟩
    · intro t member w isOpen
      obtain ⟨earlier,later,whole⟩ := List.append_of_mem member
      have single := single_step (singles.1 earlier t later whole) (trace.taken whole) (timely earlier t later whole)
      exact single.held w isOpen

/-! ### Two websockets, one after the other -/

/-- After the first websocket was lost. -/
def disconnected : World := (online.setWebSocket 0 false).callLogin

/-- After the second login. -/
def reconnected : World := ((disconnected.setWebSocket 1 true).answerLogin).setWs 1

theorem reconnected_online : Online reconnected 1 := by simp [Online,reconnected]

/-- The transitions up to the second login. -/
private def reconnection : Past :=
  [⟨started,.loggedIn 0,⟨[.ping 0],none⟩,online⟩,
    ⟨online,.failed 0,⟨[.closeWebSocket 0,.login],none⟩,disconnected⟩,
    ⟨disconnected,.loggedIn 1,⟨[.ping 1],none⟩,reconnected⟩]

private theorem execute_reconnection :
    execute (step Platforms.env) started [.loggedIn 0,.failed 0,.loggedIn 1] = some (reconnection,reconnected) :=
  execute_of_step (step_loggedIn Platforms.env (by simp [started]) rfl) <|
    execute_of_step (step_failed Platforms.env online_online) <|
    execute_of_step (step_loggedIn Platforms.env (by simp [disconnected]) (by simp [disconnected,online,started]))
      (execute.eq_1 _ _)

theorem safe_reconnection : ∃ past world,
    execute (step Platforms.env) started [.loggedIn 0,.failed 0,.loggedIn 1,.failed 1] = some (past,world) ∧ Safe past := by
  have executed := execute_append execute_reconnection
    (execute_of_step (step_failed Platforms.env reconnected_online) (execute.eq_1 _ _))
  refine ⟨_,_,executed,(safe_iff Platforms.env (run_of_execute executed)).mpr ?_⟩
  simp [reconnection,Timely,Lost,Online,online,reconnected]

/-- The first websocket has another exception event after it was replaced: the second one
    is closed for it. -/
theorem late_event_closes : ∃ past world,
    execute (step Platforms.env) started [.loggedIn 0,.failed 0,.loggedIn 1,.failed 0] = some (past,world) ∧
    ¬ Safe past := by
  have late : step Platforms.env reconnected (.failed 0) =
      some ((reconnected.setWebSocket 1 false).callLogin,⟨[.closeWebSocket 1,.login],none⟩) := by
    simp [step,react,exceptionHandler,readWs,closeWebSocket,login,raised,reconnected,disconnected]
  refine ⟨_,_,execute_append execute_reconnection (execute_of_step late (execute.eq_1 _ _)),?_⟩
  intro safe
  have kept := safe.closes _ (List.mem_append_right _ (List.mem_singleton_self _)) 0 rfl 1 (by decide)
  simp [reconnected_online.2] at kept

end WSocks.Reconnection
