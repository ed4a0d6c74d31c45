import WSocks.Runs
import WSocks.Libraries

/-!
# The launcher

`Launcher` starts and stops the client from the thread of the service, while Vert.x
deploys on threads of its own and reports the id of a deployment by a callback. So
the static field `ID` may lag behind the deployment that a call of `stop` is meant for.
-/

namespace WSocks.Launcher
open WSocks.Runs WSocks.Buffers WSocks.Libraries

abbrev DeploymentId := Nat

/-- How far Vert.x has come with a verticle. -/
inductive Stage
  | deploying
  | deployed
  | failed
  | undeploying
  | undeployed
  deriving DecidableEq

/-- A verticle, and whether the handler of its deployment has run. -/
structure Deployment where
  stage : Stage
  reported : Bool
  deriving DecidableEq

/-- Where the thread of the service is: in neither method, before the `return` of
    `start`, or between `undeploy` and `ID=null` in `stop`. -/
inductive Caller
  | idle
  | inStart
  | inStop
  deriving DecidableEq

/-- The static fields (`vertx` as "not null"), the deployments of Vert.x and the caller. -/
structure State where
  vertx : Bool
  ID : Option DeploymentId
  deployments : DeploymentId → Option Deployment
  caller : Caller

/-- The arguments of `start`. -/
structure Arguments where
  server : String
  port : Int32
  user : String
  pass : String
  offset : Int32
  doZip : Bool

/-- The configuration that `start` makes of its arguments. -/
def Arguments.config (arguments : Arguments) : JsonObject :=
  ((((((JsonObject.put [] "remote.ip" (.string arguments.server)).put "remote.port" (.number arguments.port)).put "user"
    (.string arguments.user)).put "pass" (.string arguments.pass)).put "offset" (.number arguments.offset)).put "zip"
    (.boolean arguments.doZip))

inductive Event
  | start (id : DeploymentId) (arguments : Arguments)
  | startReturns
  | stop
  | stopReturns
  | completes (id : DeploymentId) (succeeds : Bool)
  | reports (id : DeploymentId)
  | undeployed (id : DeploymentId)

/-- What the launcher asks of Vert.x, and what its methods give back. -/
inductive Output
  | deploy (id : DeploymentId) (config : JsonObject)
  | undeploy (id : Option DeploymentId)
  | started (id : Option DeploymentId)
  | stopped (result : Except Failure Bool)

/-- Changes the stage of a deployment. -/
def State.setStage (state : State) (id : DeploymentId) (stage : Stage) : State :=
  { state with
    deployments := Function.update state.deployments id
      ((state.deployments id).map (fun deployment => { deployment with stage := stage })) }

/-- `vertx.undeploy(id)`: a deployed verticle begins to stop. -/
def State.undeploy (state : State) : Option DeploymentId → State
  | none => state
  | some id =>
    match state.deployments id with
    | some ⟨.deployed,_⟩ => state.setStage id .undeploying
    | _ => state

/-- One event. The ids of Vert.x are new; `undeployNull` is what `undeploy(null)` does. -/
def step (undeployNull : Except Failure Unit) (state : State) : Event → Option (State × List Output)
  | .start id arguments =>
    if state.caller = .idle ∧ state.deployments id = none then
      some ({ state with
        vertx := true
        deployments := Function.update state.deployments id (some ⟨.deploying,false⟩)
        caller := .inStart },[.deploy id arguments.config])
    else none
  | .startReturns =>
    if state.caller = .inStart then some ({ state with caller := .idle },[.started state.ID]) else none
  | .stop =>
    if state.caller ≠ .idle then none
    else if state.vertx = false then some (state,[.stopped (.ok false)])
    else
      match state.ID,undeployNull with
      | none,.error failure => some (state,[.undeploy none,.stopped (.error failure)])
      | id,_ => some ({ state.undeploy id with caller := .inStop },[.undeploy id])
  | .stopReturns =>
    if state.caller = .inStop then some ({ state with ID := none,caller := .idle },[.stopped (.ok true)]) else none
  | .completes id succeeds =>
    match state.deployments id with
    | some ⟨.deploying,_⟩ => some (state.setStage id (if succeeds then .deployed else .failed),[])
    | _ => none
  | .reports id =>
    match state.deployments id with
    | some ⟨.deploying,_⟩ => none
    | some ⟨stage,false⟩ => some ({ state with
        ID := if stage = .failed then state.ID else some id
        deployments := Function.update state.deployments id (some ⟨stage,true⟩) },[])
    | _ => none
  | .undeployed id =>
    match state.deployments id with
    | some ⟨.undeploying,_⟩ => some (state.setStage id .undeployed,[])
    | _ => none

/-- Before the first call. -/
def initial : State := ⟨false,none,fun _ => none,.idle⟩

abbrev Past := List (Transition State Event (List Output))

abbrev Trace (undeployNull : Except Failure Unit) (past : Past) (state : State) : Prop :=
  Run (step undeployNull) initial past state

/-! ### The life cycle -/

/-- The stage of a deployment. -/
def At (state : State) (id : DeploymentId) (stage : Stage) : Prop := (state.deployments id).map Deployment.stage = some stage

inductive Call
  | start
  | stop
  deriving DecidableEq

def call? : Event → Option Call
  | .start _ _ => some .start
  | .stop => some .stop
  | _ => none

/-- The calls of the service, in order. -/
def calls (past : Past) : List Call := past.filterMap (fun t => call? t.event)

/-- What the service relies on: `undeploy` names a verticle that is deployed; while calls
    alternate there is one such verticle at most; and when the last call was `stop` and no
    deployment is under way, there is none. -/
structure LifeCycle (past : Past) (state : State) : Prop where
  named : ∀ t ∈ past, ∀ id, .undeploy id ∈ t.reaction → ∃ n, id = some n ∧ At t.before n .deployed
  single : (calls past).IsChain (· ≠ ·) → ∀ n m, At state n .deployed → At state m .deployed → n = m
  none : (calls past).getLast? = some .stop → (∀ n, ¬ At state n .deploying) → ∀ n, ¬ At state n .deployed

/-- `start` is called only when nothing is deployed or about to be, and `stop` only before
    Vert.x was started or when `ID` is set. -/
def Settled (state : State) : Event → Prop
  | .start _ _ => ∀ n, ¬ At state n .deploying ∧ ¬ At state n .deployed
  | .stop => state.vertx = false ∨ state.ID ≠ none
  | _ => True

/-! ### What a step does to a deployment -/

/-- A verticle that is deployed or about to be. -/
def Live (state : State) (id : DeploymentId) : Prop := At state id .deploying ∨ At state id .deployed

/-- The change of a deployment, by the event that makes it. -/
inductive Changes (state : State) (id : DeploymentId) : Event → Deployment → Prop
  | start {arguments : Arguments} : state.caller = .idle → state.deployments id = none →
      Changes state id (.start id arguments) ⟨.deploying,false⟩
  | stop {reported : Bool} : state.caller = .idle → state.ID = some id →
      state.deployments id = some ⟨.deployed,reported⟩ → Changes state id .stop ⟨.undeploying,reported⟩
  | completes {succeeds reported : Bool} : state.deployments id = some ⟨.deploying,reported⟩ →
      Changes state id (.completes id succeeds) ⟨if succeeds then .deployed else .failed,reported⟩
  | reports {stage : Stage} : stage ≠ .deploying → state.deployments id = some ⟨stage,false⟩ →
      Changes state id (.reports id) ⟨stage,true⟩
  | undeployed {reported : Bool} : state.deployments id = some ⟨.undeploying,reported⟩ →
      Changes state id (.undeployed id) ⟨.undeployed,reported⟩

variable {undeployNull : Except Failure Unit} {state next : State} {event : Event} {outputs : List Output}

theorem setStage_deployments (state : State) (id : DeploymentId) (stage : Stage) {deployment : Deployment}
    (known : state.deployments id = some deployment) :
    (state.setStage id stage).deployments = Function.update state.deployments id (some ⟨stage,deployment.reported⟩) := by
  simp [State.setStage,known]

private theorem updated {id n : DeploymentId} {deployment : Deployment}
    (same : next.deployments = Function.update state.deployments id (some deployment))
    (changes : Changes state id event deployment) :
    next.deployments n = state.deployments n ∨
      ∃ deployment, Changes state n event deployment ∧ next.deployments n = some deployment := by
  by_cases here : n = id
  · subst here
    exact .inr ⟨deployment,changes,by simp [same]⟩
  · exact .inl (by simp [same,here])

/-- A step leaves a deployment alone or changes it as its event says. -/
theorem deployment_step (taken : step undeployNull state event = some (next,outputs)) (n : DeploymentId) :
    next.deployments n = state.deployments n ∨
      ∃ deployment, Changes state n event deployment ∧ next.deployments n = some deployment := by
  cases event with
  | start id arguments =>
    simp only [step,Option.ite_none_right_eq_some,Option.some.injEq,Prod.mk.injEq] at taken
    obtain ⟨⟨idle,free⟩,rfl,-⟩ := taken
    exact updated rfl (.start idle free)
  | startReturns =>
    simp only [step,Option.ite_none_right_eq_some,Option.some.injEq,Prod.mk.injEq] at taken
    obtain ⟨-,rfl,-⟩ := taken
    exact .inl rfl
  | stop =>
    simp only [step] at taken
    split_ifs at taken with busy unset
    · cases taken
      exact .inl rfl
    · split at taken
      · cases taken
        exact .inl rfl
      · rename_i id _ _
        cases taken
        rcases named : state.ID with _ | id
        · exact .inl rfl
        · cases known : state.deployments id with
          | none => exact .inl (by simp [State.undeploy,known])
          | some deployment =>
            obtain ⟨stage,reported⟩ := deployment
            cases stage with
            | deployed =>
              refine updated ?_ (.stop (not_not.mp busy) named known)
              simp only [State.undeploy,known]
              exact setStage_deployments state id .undeploying known
            | _ => exact .inl (by simp [State.undeploy,known])
  | stopReturns =>
    simp only [step,Option.ite_none_right_eq_some,Option.some.injEq,Prod.mk.injEq] at taken
    obtain ⟨-,rfl,-⟩ := taken
    exact .inl rfl
  | completes id succeeds =>
    simp only [step] at taken
    split at taken
    · rename_i known
      cases taken
      exact updated (setStage_deployments state id _ known) (.completes known)
    · cases taken
  | reports id =>
    simp only [step] at taken
    split at taken
    · cases taken
    · rename_i stage other known
      cases taken
      exact updated rfl (.reports other known)
    · cases taken
  | undeployed id =>
    simp only [step] at taken
    split at taken
    · rename_i known
      cases taken
      exact updated (setStage_deployments state id _ known) (.undeployed known)
    · cases taken

/-- Only `start` makes a verticle live. -/
theorem live_step (taken : step undeployNull state event = some (next,outputs)) {n : DeploymentId}
    (live : Live next n) : Live state n ∨ ∃ arguments, event = .start n arguments := by
  rcases deployment_step taken n with same | ⟨deployment,changes,same⟩
  · exact .inl (by simpa [Live,At,same] using live)
  · cases changes with
    | start => exact .inr ⟨_,rfl⟩
    | stop => simp [Live,At,same] at live
    | completes known => exact .inl (.inl (by simp [At,known]))
    | reports waits known => exact .inl (by simpa [Live,At,same,known] using live)
    | undeployed => simp [Live,At,same] at live

/-- The change of the fields and of the caller. -/
inductive Controls (state : State) : Event → State → List Output → Prop
  | start {id : DeploymentId} {arguments : Arguments} {next : State} : state.caller = .idle → next.caller = .inStart →
      next.ID = state.ID → next.vertx = true → Controls state (.start id arguments) next [.deploy id arguments.config]
  | startReturns {next : State} : next.caller = .idle → state.caller = .inStart → next.ID = state.ID →
      next.vertx = state.vertx → Controls state .startReturns next [.started state.ID]
  | unstarted : state.caller = .idle → state.vertx = false → Controls state .stop state [.stopped (.ok false)]
  | refused {failure : Failure} : state.caller = .idle → state.vertx = true → state.ID = none →
      Controls state .stop state [.undeploy none,.stopped (.error failure)]
  | stop {next : State} : state.caller = .idle → state.vertx = true → next = { state.undeploy state.ID with caller := .inStop } →
      next.ID = state.ID → next.vertx = state.vertx → Controls state .stop next [.undeploy state.ID]
  | stopReturns {next : State} : next.caller = .idle → next.ID = none → next.vertx = state.vertx →
      Controls state .stopReturns next [.stopped (.ok true)]
  | reported {id : DeploymentId} {stage : Stage} {next : State} : stage ≠ .failed → stage ≠ .deploying →
      state.deployments id = some ⟨stage,false⟩ → next.deployments id = some ⟨stage,true⟩ → next.ID = some id →
      next.caller = state.caller → next.vertx = state.vertx → Controls state (.reports id) next []
  | other {event : Event} {next : State} : call? event = none → next.ID = state.ID → next.caller = state.caller →
      next.vertx = state.vertx → Controls state event next []

theorem controls_step (taken : step undeployNull state event = some (next,outputs)) :
    Controls state event next outputs := by
  cases event with
  | start id arguments =>
    simp only [step,Option.ite_none_right_eq_some,Option.some.injEq,Prod.mk.injEq] at taken
    obtain ⟨⟨idle,-⟩,rfl,rfl⟩ := taken
    exact .start idle rfl rfl rfl
  | startReturns =>
    simp only [step,Option.ite_none_right_eq_some,Option.some.injEq,Prod.mk.injEq] at taken
    obtain ⟨busy,rfl,rfl⟩ := taken
    exact .startReturns rfl busy rfl rfl
  | stop =>
    have kept : ∀ id, (state.undeploy id).ID = state.ID ∧ (state.undeploy id).vertx = state.vertx := by
      intro id
      cases id with
      | none => exact ⟨rfl,rfl⟩
      | some id => rw [State.undeploy]; split <;> exact ⟨rfl,rfl⟩
    simp only [step] at taken
    split_ifs at taken with busy unset
    · cases taken
      exact .unstarted (not_not.mp busy) unset
    · have used : state.vertx = true := by simpa using unset
      split at taken
      · rename_i unnamed
        cases taken
        exact .refused (not_not.mp busy) used unnamed
      · cases taken
        exact .stop (not_not.mp busy) used rfl (kept _).1 (kept _).2
  | stopReturns =>
    simp only [step,Option.ite_none_right_eq_some,Option.some.injEq,Prod.mk.injEq] at taken
    obtain ⟨-,rfl,rfl⟩ := taken
    exact .stopReturns rfl rfl rfl
  | completes id succeeds =>
    simp only [step] at taken
    split at taken
    · cases taken
      exact .other rfl rfl rfl rfl
    · cases taken
  | reports id =>
    simp only [step] at taken
    split at taken
    · cases taken
    · rename_i stage other known
      cases taken
      by_cases failed : stage = .failed
      · exact .other rfl (if_pos failed) rfl rfl
      · exact .reported failed other known (by simp) (if_neg failed) rfl rfl
    · cases taken
  | undeployed id =>
    simp only [step] at taken
    split at taken
    · cases taken
      exact .other rfl rfl rfl rfl
    · cases taken

/-! ### While calls are settled -/

/-- What settled calls keep: one verticle at most is live; `ID` names it once its handler
    has run; a verticle that was told to stop had been reported. -/
structure Sound (state : State) : Prop where
  one : ∀ n m, Live state n → Live state m → n = m
  known : ∀ n, state.ID = some n → state.caller ≠ .inStop → state.deployments n = some ⟨.deployed,true⟩
  stopping : state.caller = .inStop → ∀ n, ¬ Live state n
  retired : ∀ n stage reported, state.deployments n = some ⟨stage,reported⟩ →
    stage = .undeploying ∨ stage = .undeployed → reported = true
  unused : state.vertx = false → ∀ n, state.deployments n = none

theorem sound_initial : Sound initial := ⟨by simp [Live,At,initial],by simp [initial],by simp [initial],by simp [initial],
  by simp [initial]⟩

section Sound
variable (sound : Sound state) (settled : Settled state event)
  (taken : step undeployNull state event = some (next,outputs))
include sound settled taken

private theorem one_step (n m : DeploymentId) (left : Live next n) (right : Live next m) : n = m := by
  rcases live_step taken left with before | ⟨_,rfl⟩ <;> rcases live_step taken right with before' | ⟨_,event⟩
  · exact sound.one n m before before'
  · subst event
    exact absurd before (not_or.mpr (settled n))
  · exact absurd before' (not_or.mpr (settled m))
  · cases event
    rfl

private theorem retired_step (n : DeploymentId) (stage : Stage) (reported : Bool)
    (after : next.deployments n = some ⟨stage,reported⟩) (gone : stage = .undeploying ∨ stage = .undeployed) :
    reported = true := by
  rcases deployment_step taken n with same | ⟨deployment,changes,same⟩
  · exact sound.retired n stage reported (same ▸ after) gone
  · cases same.symm.trans after
    cases changes with
    | start => simp at gone
    | stop idle named known =>
      have reported := sound.known n named (by simp [idle])
      simpa [known] using reported
    | @completes succeeds => cases succeeds <;> simp at gone
    | reports => rfl
    | undeployed known => exact sound.retired n _ _ known (.inl rfl)

omit sound settled in
/-- A deployed verticle stays so, unless it is told to stop. -/
private theorem deployed_kept {n : DeploymentId} (known : state.deployments n = some ⟨.deployed,true⟩)
    (stays : ¬ (event = .stop ∧ state.caller = .idle ∧ state.ID = some n)) :
    next.deployments n = some ⟨.deployed,true⟩ := by
  rcases deployment_step taken n with same | ⟨deployment,changes,same⟩
  · exact same.trans known
  · cases changes with
    | start _ free => simp [known] at free
    | stop idle named => exact absurd ⟨rfl,idle,named⟩ stays
    | completes known' => simp [known] at known'
    | reports _ known' => simp [known] at known'
    | undeployed known' => simp [known] at known'

private theorem known_step (n : DeploymentId) (named : next.ID = some n) (running : next.caller ≠ .inStop) :
    next.deployments n = some ⟨.deployed,true⟩ := by
  cases controls_step taken with
  | start idle _ same =>
    exact deployed_kept taken (sound.known n (same ▸ named) (by simp [idle])) (by simp)
  | startReturns _ busy same =>
    exact deployed_kept taken (sound.known n (same ▸ named) (by simp [busy])) (by simp)
  | unstarted idle => exact sound.known n named (by simp [idle])
  | refused idle => exact sound.known n named (by simp [idle])
  | stop _ _ whole => simp [whole] at running
  | stopReturns _ unset => simp [unset] at named
  | @reported id stage _ failed deploying known after same =>
    obtain rfl : id = n := Option.some.inj (same.symm.trans named)
    cases stage with
    | deployed => exact after
    | undeploying => exact absurd (sound.retired id _ _ known (.inl rfl)) (by simp)
    | undeployed => exact absurd (sound.retired id _ _ known (.inr rfl)) (by simp)
    | failed => exact absurd rfl failed
    | deploying => exact absurd rfl deploying
  | other quiet same sameCaller =>
    refine deployed_kept taken (sound.known n (same ▸ named) (sameCaller ▸ running)) ?_
    rintro ⟨rfl,-⟩
    simp [call?] at quiet

private theorem stopping_step (stopping : next.caller = .inStop) (n : DeploymentId) : ¬ Live next n := by
  intro live
  have before : Live state n := (live_step taken live).resolve_right (by
    rintro ⟨arguments,rfl⟩
    cases controls_step taken with
    | start _ caller => simp [caller] at stopping
    | other quiet => simp [call?] at quiet)
  cases controls_step taken with
  | start _ caller => simp [caller] at stopping
  | startReturns caller => simp [caller] at stopping
  | unstarted idle => simp [idle] at stopping
  | refused idle => simp [idle] at stopping
  | stop idle _ whole =>
    rcases settled with unset | set
    · simp [Live,At,sound.unused unset n] at before
    · obtain ⟨m,named⟩ := Option.ne_none_iff_exists'.mp set
      have known := sound.known m named (by simp [idle])
      obtain rfl := sound.one n m before (.inr (by simp [At,known]))
      rw [whole] at live
      simp [Live,At,State.undeploy,named,known,State.setStage] at live
  | stopReturns caller => simp [caller] at stopping
  | reported _ _ _ _ _ caller => exact sound.stopping (caller ▸ stopping) n before
  | other _ _ caller => exact sound.stopping (caller ▸ stopping) n before

private theorem unused_step (unused : next.vertx = false) (n : DeploymentId) : next.deployments n = none := by
  have before : state.vertx = false := by
    cases controls_step taken with
    | start _ _ _ used => simp [used] at unused
    | startReturns _ _ _ same => exact same ▸ unused
    | unstarted => exact unused
    | refused => exact unused
    | stop _ _ _ _ same => exact same ▸ unused
    | stopReturns _ _ same => exact same ▸ unused
    | reported _ _ _ _ _ _ same => exact same ▸ unused
    | other _ _ _ same => exact same ▸ unused
  have free := sound.unused before n
  rcases deployment_step taken n with same | ⟨deployment,changes,same⟩
  · exact same.trans free
  · cases changes with
    | start =>
      cases controls_step taken with
      | start _ _ _ used => simp [used] at unused
      | other quiet => simp [call?] at quiet
    | stop _ _ known => simp [free] at known
    | completes known => simp [free] at known
    | reports _ known => simp [free] at known
    | undeployed known => simp [free] at known

theorem sound_step : Sound next :=
  ⟨one_step sound settled taken,known_step sound settled taken,stopping_step sound settled taken,
    retired_step sound settled taken,unused_step sound settled taken⟩

/-- `undeploy` is called with the id of a deployed verticle. -/
theorem named_step {id : Option DeploymentId} (called : .undeploy id ∈ outputs) :
    ∃ n, id = some n ∧ At state n .deployed := by
  cases controls_step taken with
  | refused _ used unset =>
    rcases settled with unused | set
    · simp [used] at unused
    · exact absurd unset set
  | stop idle used =>
    rcases settled with unused | set
    · simp [used] at unused
    · obtain ⟨n,named⟩ := Option.ne_none_iff_exists'.mp set
      obtain rfl : id = state.ID := by simpa using called
      exact ⟨n,named,by simp [At,sound.known n named (by simp [idle])]⟩
  | _ => simp at called

end Sound

theorem calls_append (past : Past) (t : Transition State Event (List Output)) :
    calls (past ++ [t]) = calls past ++ (call? t.event).toList := by
  cases called : call? t.event <;> simp [calls,called]

/-- After a settled `stop` nothing is live. -/
private theorem stop_step (sound : Sound state) (settled : Settled state .stop)
    (taken : step undeployNull state .stop = some (next,outputs)) (n : DeploymentId) : ¬ Live next n := by
  intro live
  have before : Live state n := (live_step taken live).resolve_right (by simp)
  cases controls_step taken with
  | unstarted _ unset => simp [Live,At,sound.unused unset n] at before
  | refused _ used unset =>
    rcases settled with unused | set
    · simp [used] at unused
    · exact absurd unset set
  | stop _ _ whole => exact stopping_step sound settled taken (by simp [whole]) n live
  | other quiet => simp [call?] at quiet

private theorem ended_step {earlier : Past} {t : Transition State Event (List Output)} (sound : Sound t.before)
    (ended : (calls earlier).getLast? = some .stop → ∀ n, ¬ Live t.before n) (settled : Settled t.before t.event)
    (taken : step undeployNull t.before t.event = some (t.after,t.reaction))
    (last : (calls (earlier ++ [t])).getLast? = some .stop) (n : DeploymentId) : ¬ Live t.after n := by
  rw [calls_append] at last
  cases called : call? t.event with
  | none =>
    intro live
    rcases live_step taken live with before | ⟨arguments,event⟩
    · exact ended (by simpa [called] using last) n before
    · simp [event,call?] at called
  | some call =>
    obtain rfl : call = .stop := by simpa [called] using last
    have event : t.event = .stop := by
      cases event : t.event <;> simp [event,call?] at called ⊢
    rw [event] at settled taken
    exact stop_step sound settled taken n

/-- While calls are settled the life cycle is as it should be. -/
theorem life_cycle (undeployNull : Except Failure Unit) {past : Past} {state : State} (trace : Trace undeployNull past state)
    (settled : Obeys (fun _ => Settled) past) : LifeCycle past state := by
  obtain ⟨along,sound,ended⟩ := trace.history
    (I := fun earlier state => Sound state ∧ ((calls earlier).getLast? = some .stop → ∀ n, ¬ Live state n))
    ⟨sound_initial,by simp [calls]⟩ (by
      intro earlier t later whole before
      have taken := trace.taken whole
      have here := settled earlier t later whole
      exact ⟨sound_step before.1 here taken,ended_step before.1 before.2 here taken⟩)
  refine ⟨?_,fun _ n m left right => sound.one n m (.inr left) (.inr right),?_⟩
  · intro t member id called
    obtain ⟨earlier,later,whole⟩ := List.append_of_mem member
    exact named_step (along earlier t later whole).1 (settled earlier t later whole) (trace.taken whole) called
  · intro last _ n deployed
    exact ended last n (.inr deployed)

private def arguments : Arguments := ⟨"10.0.0.1",1080,"user","pass",0,false⟩

/-- A state with one verticle. -/
private def one (ID : Option DeploymentId) (stage : Stage) (reported : Bool) (caller : Caller) : State :=
  ⟨true,ID,Function.update (fun _ => none) 0 (some ⟨stage,reported⟩),caller⟩

private theorem one_start : step undeployNull initial (.start 0 arguments) =
    some (one none .deploying false .inStart,[.deploy 0 arguments.config]) := rfl
private theorem one_startReturns : step undeployNull (one none .deploying false .inStart) .startReturns =
    some (one none .deploying false .idle,[.started none]) := rfl
private theorem one_completes : step undeployNull (one none .deploying false .idle) (.completes 0 true) =
    some (one none .deployed false .idle,[]) := by
  simp [step,one,State.setStage]
private theorem one_reports : step undeployNull (one none .deployed false .idle) (.reports 0) =
    some (one (some 0) .deployed true .idle,[]) := by
  simp [step,one]
private theorem one_stop : step undeployNull (one (some 0) .deployed true .idle) .stop =
    some (one (some 0) .undeploying true .inStop,[.undeploy (some 0)]) := by
  simp [step,one,State.undeploy,State.setStage]

/-- A verticle that is deployed, reported and then stopped. -/
theorem life_cycle_stopped : ∃ past state, execute (step (.error .nullPointer)) initial
    [.start 0 arguments,.startReturns,.completes 0 true,.reports 0,.stop,.stopReturns] = some (past,state) ∧
    LifeCycle past state := by
  have executed : execute (step (.error .nullPointer)) initial
      [.start 0 arguments,.startReturns,.completes 0 true,.reports 0,.stop,.stopReturns] = some (_,_) :=
    execute_of_step one_start <| execute_of_step one_startReturns <| execute_of_step one_completes <|
      execute_of_step one_reports <| execute_of_step one_stop <| execute_of_step rfl (execute.eq_1 _ _)
  exact ⟨_,_,executed,life_cycle _ (run_of_execute executed) (by simp [Settled,initial,At,one])⟩

/-- The service stops before the deployment is reported: `undeploy` gets null, and the
    verticle stays when the deployment completes. -/
theorem life_cycle_fails : ∃ past state, execute (step (.error .nullPointer)) initial
    [.start 0 arguments,.startReturns,.stop,.completes 0 true,.reports 0] = some (past,state) ∧
    ¬ LifeCycle past state := by
  refine ⟨_,_,execute_of_step one_start <| execute_of_step one_startReturns <| execute_of_step rfl <|
    execute_of_step one_completes <| execute_of_step one_reports (execute.eq_1 _ _),?_⟩
  rintro ⟨-,-,gone⟩
  refine gone rfl ?_ 0 rfl
  intro n
  by_cases zero : n = 0 <;> simp [At,one,zero]

end WSocks.Launcher
