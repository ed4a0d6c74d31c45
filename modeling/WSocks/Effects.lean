import Mathlib

/-!
# Actions with faults, a state and emitted outputs

An action runs from a state to a result, the state it leaves and the outputs it
emitted. A fault ends it early and keeps the changes made so far, as an
exception does; an action that never ends has no result at all. `Ensures` is the
weakest precondition of an action, with one rule for each way to build one.
-/

namespace WSocks.Effects

/-- A computation that ends with a value or a fault, or never ends (`none`). -/
abbrev Attempt (Fault : Type) := ExceptT Fault Option

section Attempt
variable {Fault α β : Type}

@[simp] theorem attempt_lift_ok (a : α) : (liftM (.ok a : Except Fault α) : Attempt Fault α) = pure a := rfl
@[simp] theorem attempt_lift_error (fault : Fault) :
    (liftM (.error fault : Except Fault α) : Attempt Fault α) = throw fault := rfl
@[simp] theorem attempt_throw_bind (fault : Fault) (f : α → Attempt Fault β) :
    ((throw fault : Attempt Fault α) >>= f) = throw fault := rfl

/-- A sequence ends with a value when both parts do. -/
theorem attempt_bind_ok {m : Attempt Fault α} {f : α → Attempt Fault β} {b : β} :
    (m >>= f).run = some (.ok b) ↔ ∃ a, m.run = some (.ok a) ∧ (f a).run = some (.ok b) := by
  rw [ExceptT.run_bind]
  rcases m.run with _ | _ | a <;> simp

@[simp] theorem attempt_lift_run (body : Except Fault α) : (liftM body : Attempt Fault α).run = some body := rfl
@[simp] theorem attempt_pure_run (a : α) : (pure a : Attempt Fault α).run = some (.ok a) := rfl

end Attempt

/-- An action over a state that emits outputs. -/
structure Action (Fault State Output α : Type) where
  run : State → Option (Except Fault α × State × List Output)

namespace Action

variable {Fault State Output α β : Type}

/-- The outputs of what came before go first. -/
def after (earlier : List Output) (result : Except Fault β × State × List Output) :
    Except Fault β × State × List Output := (result.1,result.2.1,earlier ++ result.2.2)

/-- Goes on after the first part of a sequence, unless it ended with a fault. -/
def sequel (first : Option (Except Fault α × State × List Output)) (f : α → Action Fault State Output β) :
    Option (Except Fault β × State × List Output) :=
  match first with
  | none => none
  | some (.error fault,next,outputs) => some (.error fault,next,outputs)
  | some (.ok a,next,outputs) => ((f a).run next).map (after outputs)

instance : Monad (Action Fault State Output) where
  pure a := ⟨fun state => some (.ok a,state,[])⟩
  bind m f := ⟨fun state => sequel (m.run state) f⟩

/-- Ends the action with a fault. -/
def throw (fault : Fault) : Action Fault State Output α := ⟨fun state => some (.error fault,state,[])⟩
/-- The current state. -/
def get : Action Fault State Output State := ⟨fun state => some (.ok state,state,[])⟩
/-- Changes the state. -/
def modify (change : State → State) : Action Fault State Output Unit :=
  ⟨fun state => some (.ok (),change state,[])⟩
/-- Emits one output. -/
def emit (output : Output) : Action Fault State Output Unit := ⟨fun state => some (.ok (),state,[output])⟩
/-- Swallows a fault; what was changed before it stays. -/
def suppress (body : Action Fault State Output Unit) : Action Fault State Output Unit :=
  ⟨fun state => (body.run state).map (fun ran => (.ok (),ran.2))⟩
/-- An attempt that touches no state. -/
def attempt (body : Attempt Fault α) : Action Fault State Output α :=
  ⟨fun state => body.run.map (fun result => (result,state,[]))⟩

instance : MonadLift (Except Fault) (Action Fault State Output) where
  monadLift body := attempt (ExceptT.mk (some body))
instance : MonadLift (Attempt Fault) (Action Fault State Output) where
  monadLift := attempt

/-! ### Running an action -/

@[simp] theorem after_mk (earlier later : List Output) (result : Except Fault β) (state : State) :
    after earlier (result,state,later) = (result,state,earlier ++ later) := rfl
@[simp] theorem after_nil : (after [] : Except Fault β × State × List Output → _) = id := by funext result; rfl
@[simp] theorem sequel_none (f : α → Action Fault State Output β) : sequel none f = none := rfl
@[simp] theorem sequel_error (fault : Fault) (state : State) (outputs : List Output)
    (f : α → Action Fault State Output β) :
    sequel (some (.error fault,state,outputs)) f = some (.error fault,state,outputs) := rfl
@[simp] theorem sequel_ok (a : α) (state : State) (outputs : List Output) (f : α → Action Fault State Output β) :
    sequel (some (.ok a,state,outputs)) f = ((f a).run state).map (after outputs) := rfl
@[simp] theorem run_bind (m : Action Fault State Output α) (f : α → Action Fault State Output β) (state : State) :
    (m >>= f).run state = sequel (m.run state) f := rfl
@[simp] theorem run_pure (a : α) (state : State) :
    (pure a : Action Fault State Output α).run state = some (.ok a,state,[]) := rfl
@[simp] theorem run_throw (fault : Fault) (state : State) :
    (throw fault : Action Fault State Output α).run state = some (.error fault,state,[]) := rfl
@[simp] theorem run_get (state : State) :
    (get : Action Fault State Output State).run state = some (.ok state,state,[]) := rfl
@[simp] theorem run_modify (change : State → State) (state : State) :
    (modify change : Action Fault State Output Unit).run state = some (.ok (),change state,[]) := rfl
@[simp] theorem run_emit (output : Output) (state : State) :
    (emit output : Action Fault State Output Unit).run state = some (.ok (),state,[output]) := rfl
/-- A sequence goes on where its first part has ended. -/
theorem run_seq {m : Action Fault State Output α} {f : α → Action Fault State Output β} {a : α} {state next : State}
    (first : m.run state = some (.ok a,next,[])) : (m >>= f).run state = (f a).run next := by
  rw [run_bind,first,sequel_ok,after_nil,Option.map_id]
  rfl
@[simp] theorem run_lift (body : Except Fault α) (state : State) :
    (liftM body : Action Fault State Output α).run state = some (body,state,[]) := rfl
@[simp] theorem run_attempt (body : Attempt Fault α) (state : State) :
    (liftM body : Action Fault State Output α).run state = body.run.map (fun result => (result,state,[])) := rfl

/-! ### Actions form a monad, and attempts are part of it -/

@[ext] theorem ext {m n : Action Fault State Output α} (same : ∀ state, m.run state = n.run state) : m = n := by
  cases m
  cases n
  exact congrArg mk (funext same)

theorem after_append (earlier later : List Output) (result : Except Fault β × State × List Output) :
    after earlier (after later result) = after (earlier ++ later) result := by
  simp [after]

instance : LawfulMonad (Action Fault State Output) := LawfulMonad.mk' _
  (fun m => by
    ext1 state
    rcases ran : m.run state with _ | ⟨_ | a,next,outputs⟩ <;> simp [Functor.map,ran])
  (fun a f => by ext1 state; simp)
  (fun m f g => by
    ext1 state
    rcases ran : m.run state with _ | ⟨_ | a,next,outputs⟩
    · simp [ran]
    · simp [ran]
    · rcases ran' : (f a).run next with _ | ⟨_ | b,next',outputs'⟩
      · simp [ran,ran']
      · simp [ran,ran']
      · simp only [run_bind,ran,ran',sequel_ok,Option.map_some,after_mk,Option.map_map]
        congr 1
        funext result
        exact (after_append _ _ _).symm)

theorem run_map (f : α → β) (m : Action Fault State Output α) (state : State) :
    (f <$> m).run state = (m.run state).map (fun ran => (ran.1.map f,ran.2)) := by
  rw [← bind_pure_comp,run_bind]
  rcases m.run state with _ | ⟨_ | a,next,outputs⟩ <;> simp [Except.map]

theorem lift_pure (a : α) : (liftM (pure a : Attempt Fault α) : Action Fault State Output α) = pure a := rfl

theorem lift_except (body : Except Fault α) :
    (liftM (liftM body : Attempt Fault α) : Action Fault State Output α) = liftM body := by
  cases body <;> rfl

/-- The parts of an attempt are parts of the action. -/
theorem lift_bind (body : Attempt Fault α) (f : α → Attempt Fault β) :
    (liftM (body >>= f) : Action Fault State Output β) = liftM body >>= fun a => liftM (f a) := by
  ext1 state
  rcases ran : body.run with _ | failure | a
  · simp [ran]
  · simp [ran]
  · rw [run_bind,run_attempt,run_attempt,ExceptT.run_bind,ran]
    simp

theorem lift_map (f : α → β) (body : Attempt Fault α) :
    (liftM (f <$> body) : Action Fault State Output β) = f <$> liftM body := by
  rw [← bind_pure_comp,← bind_pure_comp,lift_bind]
  rfl

/-! ### Weakest preconditions -/

/-- Whatever the action ends with from the state satisfies the condition. -/
def Ensures (m : Action Fault State Output α) (state : State)
    (Q : Except Fault α → State → List Output → Prop) : Prop :=
  ∀ result next outputs, m.run state = some (result,next,outputs) → Q result next outputs

variable {Q : Except Fault α → State → List Output → Prop}

theorem Ensures.mono {m : Action Fault State Output α} {state : State}
    {Q' : Except Fault α → State → List Output → Prop} (ensures : m.Ensures state Q)
    (weaker : ∀ result next outputs, Q result next outputs → Q' result next outputs) : m.Ensures state Q' :=
  fun result next outputs ran => weaker _ _ _ (ensures result next outputs ran)

theorem ensures_of_run {m : Action Fault State Output α} {state next : State} {result : Except Fault α}
    {outputs : List Output} (ran : m.run state = some (result,next,outputs)) :
    m.Ensures state Q ↔ Q result next outputs := by
  constructor
  · intro ensures
    exact ensures _ _ _ ran
  · intro holds result' next' outputs' ran'
    rw [ran] at ran'
    cases ran'
    exact holds

@[simp] theorem ensures_pure (a : α) (state : State) :
    (pure a : Action Fault State Output α).Ensures state Q ↔ Q (.ok a) state [] := ensures_of_run (by simp)
@[simp] theorem ensures_throw (fault : Fault) (state : State) :
    (throw fault : Action Fault State Output α).Ensures state Q ↔ Q (.error fault) state [] :=
  ensures_of_run (by simp)
@[simp] theorem ensures_get {Q : Except Fault State → State → List Output → Prop} (state : State) :
    (get : Action Fault State Output State).Ensures state Q ↔ Q (.ok state) state [] := ensures_of_run (by simp)
@[simp] theorem ensures_modify {Q : Except Fault Unit → State → List Output → Prop} (change : State → State)
    (state : State) : (modify change : Action Fault State Output Unit).Ensures state Q ↔ Q (.ok ()) (change state) [] :=
  ensures_of_run (by simp)
@[simp] theorem ensures_emit {Q : Except Fault Unit → State → List Output → Prop} (output : Output) (state : State) :
    (emit output : Action Fault State Output Unit).Ensures state Q ↔ Q (.ok ()) state [output] :=
  ensures_of_run (by simp)
@[simp] theorem ensures_lift (body : Except Fault α) (state : State) :
    (liftM body : Action Fault State Output α).Ensures state Q ↔ Q body state [] := ensures_of_run (by simp)
@[simp] theorem ensures_attempt (body : Attempt Fault α) (state : State) :
    (liftM body : Action Fault State Output α).Ensures state Q ↔ ∀ result, body.run = some result → Q result state [] := by
  simp only [Ensures,run_attempt,Option.map_eq_some_iff,Prod.mk.injEq]
  constructor
  · intro ensures result ran
    exact ensures _ _ _ ⟨result,ran,rfl,rfl,rfl⟩
  · rintro holds result next outputs ⟨_,ran,rfl,rfl,rfl⟩
    exact holds _ ran

@[simp] theorem ensures_suppress {Q : Except Fault Unit → State → List Output → Prop}
    (body : Action Fault State Output Unit) (state : State) :
    (suppress body).Ensures state Q ↔ body.Ensures state (fun _ next outputs => Q (.ok ()) next outputs) := by
  constructor
  · intro ensures result next outputs ran
    exact ensures _ _ _ (by simp [suppress,ran])
  · intro ensures result next outputs ran
    obtain ⟨⟨result',next',outputs'⟩,ran',same⟩ := Option.map_eq_some_iff.mp ran
    cases same
    exact ensures _ _ _ ran'

/-- The rule of sequencing: a fault of the first part must satisfy the condition
    as it is, and after a value the second part must establish it. -/
@[simp] theorem ensures_bind {Q : Except Fault β → State → List Output → Prop} (m : Action Fault State Output α)
    (f : α → Action Fault State Output β) (state : State) :
    (m >>= f).Ensures state Q ↔ m.Ensures state (fun result next outputs =>
      match result with
      | .error fault => Q (.error fault) next outputs
      | .ok a => (f a).Ensures next (fun result' next' later => Q result' next' (outputs ++ later))) := by
  constructor
  · intro ensures result next outputs ran
    cases result with
    | error fault => exact ensures _ _ _ (by simp [ran])
    | ok a =>
      intro result' next' later ran'
      exact ensures _ _ _ (by simp [ran,ran'])
  · intro ensures result next outputs ran
    rw [run_bind] at ran
    rcases first : m.run state with _ | ⟨_ | a,middle,earlier⟩
    · simp [first] at ran
    · simp only [first,sequel_error,Option.some.injEq,Prod.mk.injEq] at ran
      obtain ⟨rfl,rfl,rfl⟩ := ran
      exact ensures _ _ _ first
    · simp only [first,sequel_ok,Option.map_eq_some_iff] at ran
      obtain ⟨⟨result',next',later⟩,ran',same⟩ := ran
      cases same
      exact ensures _ _ _ first _ _ _ ran'

@[simp] theorem ensures_map {Q : Except Fault β → State → List Output → Prop} (f : α → β)
    (m : Action Fault State Output α) (state : State) :
    (f <$> m).Ensures state Q ↔ m.Ensures state (fun result next outputs => Q (result.map f) next outputs) := by
  rw [← bind_pure_comp,ensures_bind]
  refine forall₄_congr (fun result next outputs _ => ?_)
  cases result <;> simp [Except.map]

/-! ### Actions that end -/

/-- The action ends from every state. -/
def Ends (m : Action Fault State Output α) : Prop := ∀ state, ∃ ran, m.run state = some ran

theorem ends_pure (a : α) : (pure a : Action Fault State Output α).Ends := fun _ => ⟨_,rfl⟩
theorem ends_throw (fault : Fault) : (throw fault : Action Fault State Output α).Ends := fun _ => ⟨_,rfl⟩
theorem ends_get : (get : Action Fault State Output State).Ends := fun _ => ⟨_,rfl⟩
theorem ends_modify (change : State → State) : (modify change : Action Fault State Output Unit).Ends := fun _ => ⟨_,rfl⟩
theorem ends_lift (body : Except Fault α) : (liftM body : Action Fault State Output α).Ends := fun _ => ⟨_,rfl⟩

theorem Ends.suppress {body : Action Fault State Output Unit} (ends : body.Ends) : (suppress body).Ends := by
  intro state
  obtain ⟨ran,same⟩ := ends state
  exact ⟨(.ok (),ran.2),by simp [Action.suppress,same]⟩

theorem Ends.bind {m : Action Fault State Output α} {f : α → Action Fault State Output β} (first : m.Ends)
    (rest : ∀ a, (f a).Ends) : (m >>= f).Ends := by
  intro state
  obtain ⟨⟨_ | a,next,outputs⟩,ran⟩ := first state
  · exact ⟨_,by rw [run_bind,ran]; rfl⟩
  · obtain ⟨ran',same⟩ := rest a next
    exact ⟨after outputs ran',by rw [run_bind,ran,sequel_ok,same]; rfl⟩

/-- An action that ends has a result that satisfies what it ensures. -/
theorem Ends.exists {m : Action Fault State Output α} {state : State} (ends : m.Ends) (ensures : m.Ensures state Q) :
    ∃ result next outputs, m.run state = some (result,next,outputs) ∧ Q result next outputs := by
  obtain ⟨⟨result,next,outputs⟩,ran⟩ := ends state
  exact ⟨result,next,outputs,ran,ensures _ _ _ ran⟩

end Action
end WSocks.Effects
