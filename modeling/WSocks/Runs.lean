import Mathlib

/-!
# Runs of a transition system

A system takes one event at a time and answers with a reaction. A run records
every transition, so that a property may speak about two moments of it. The
induction over a run is packaged once for an invariant that every step keeps, and
once for a relation between past and state that the transitions of this run keep.
-/

namespace WSocks.Runs

/-- One step taken: the state before, the event, the reaction and the state after. -/
structure Transition (State Event Reaction : Type) where
  before : State
  event : Event
  reaction : Reaction
  after : State

variable {State Event Reaction : Type}

/-- The transitions from one state to another, oldest first. -/
inductive Run (step : State → Event → Option (State × Reaction)) (s : State) :
    List (Transition State Event Reaction) → State → Prop
  | nil : Run step s [] s
  | snoc {s' s'' : State} {past : List (Transition State Event Reaction)} {event : Event} {reaction : Reaction} :
      Run step s past s' → step s' event = some (s'',reaction) →
      Run step s (past ++ [⟨s',event,reaction,s''⟩]) s''

/-- Feeds the events one after another; `none` when one of them cannot happen. -/
def execute (step : State → Event → Option (State × Reaction)) (s : State) :
    List Event → Option (List (Transition State Event Reaction) × State)
  | [] => some ([],s)
  | event :: rest =>
    match step s event with
    | none => none
    | some (next,reaction) =>
      (execute step next rest).map (fun result => (⟨s,event,reaction,next⟩ :: result.1,result.2))

/-- A condition on the past, the state and the event holds at every step. -/
def Obeys (C : List (Transition State Event Reaction) → State → Event → Prop)
    (past : List (Transition State Event Reaction)) : Prop :=
  ∀ earlier t later, past = earlier ++ t :: later → C earlier t.before t.event

variable {step : State → Event → Option (State × Reaction)} {s s' s'' : State}
  {past more : List (Transition State Event Reaction)}

/-- A relation holds between any two elements in their order. -/
theorem pairwise_iff_split {α : Type} {R : α → α → Prop} {log : List α} :
    log.Pairwise R ↔ ∀ front x middle y back, log = front ++ x :: (middle ++ y :: back) → R x y := by
  induction log with
  | nil => simp
  | cons z rest ih =>
    rw [List.pairwise_cons,ih]
    constructor
    · rintro ⟨first,others⟩ front x middle y back whole
      rcases front with _ | ⟨z',front⟩
      · obtain ⟨rfl,rfl⟩ := List.cons.inj whole
        exact first y (by simp)
      · obtain ⟨rfl,same⟩ := List.cons.inj whole
        exact others front x middle y back same
    · intro pairs
      refine ⟨?_,fun front x middle y back whole => pairs (z :: front) x middle y back (by simp [whole])⟩
      intro y member
      obtain ⟨middle,back,rfl⟩ := List.append_of_mem member
      exact pairs [] z middle y back rfl

/-! ### What happened since -/

/-- Something happened, and since then nothing that undoes it. -/
def Since {α : Type} (P Q : α → Prop) (log : List α) : Prop :=
  ∃ before x after, log = before ++ x :: after ∧ P x ∧ ∀ y ∈ after, ¬ Q y

section
variable {α : Type} {P Q : α → Prop} {log later : List α}

theorem not_since (never : ∀ x ∈ log, ¬ P x) : ¬ Since P Q log := by
  rintro ⟨before,x,after,rfl,happened,-⟩
  exact never x (by simp) happened

theorem since_of_mem {x : α} (member : x ∈ log) (happened : P x) (kept : ∀ y ∈ log, ¬ Q y) : Since P Q log := by
  obtain ⟨before,after,rfl⟩ := List.append_of_mem member
  exact ⟨before,x,after,rfl,happened,fun y inside => kept y (by simp [inside])⟩

theorem since_append : Since P Q (log ++ later) ↔ Since P Q later ∨ Since P Q log ∧ ∀ y ∈ later, ¬ Q y := by
  constructor
  · rintro ⟨before,x,after,whole,happened,kept⟩
    rcases List.append_eq_append_iff.mp whole with ⟨middle,rfl,rest⟩ | ⟨middle,rfl,rest⟩
    · exact .inl ⟨middle,x,after,rest,happened,kept⟩
    · rcases middle with _ | ⟨y,middle⟩
      · exact .inl ⟨[],x,after,by simpa using rest.symm,happened,kept⟩
      · obtain ⟨rfl,rfl⟩ := List.cons.inj rest
        exact .inr ⟨⟨before,x,middle,rfl,happened,fun y inside => kept y (by simp [inside])⟩,
          fun y inside => kept y (by simp [inside])⟩
  · rintro (⟨before,x,after,rfl,happened,kept⟩ | ⟨⟨before,x,after,rfl,happened,kept⟩,still⟩)
    · exact ⟨log ++ before,x,after,by simp,happened,kept⟩
    · refine ⟨before,x,after ++ later,by simp,happened,?_⟩
      intro y member
      rcases List.mem_append.mp member with old | new
      · exact kept y old
      · exact still y new

theorem since_concat {x : α} : Since P Q (log ++ [x]) ↔ P x ∨ Since P Q log ∧ ¬ Q x := by
  have single : Since P Q [x] ↔ P x := by
    constructor
    · rintro ⟨before,y,after,whole,happened,-⟩
      obtain ⟨-,rfl,-⟩ : before = [] ∧ y = x ∧ after = [] := by
        rcases before with _ | ⟨z,before⟩
        · simpa [eq_comm] using whole
        · simp at whole
      exact happened
    · intro happened
      exact ⟨[],x,[],rfl,happened,by simp⟩
  rw [since_append,single]
  simp

end

theorem execute_cons {event : Event} {events : List Event} :
    execute step s (event :: events) = some (past,s'') ↔
      ∃ s' reaction tail, step s event = some (s',reaction) ∧ execute step s' events = some (tail,s'') ∧
        past = ⟨s,event,reaction,s'⟩ :: tail := by
  rw [execute]
  rcases step s event with _ | ⟨s',reaction⟩ <;> simp [eq_comm]

theorem execute_of_step {event : Event} {reaction : Reaction} {events : List Event}
    (taken : step s event = some (s',reaction)) (rest : execute step s' events = some (past,s'')) :
    execute step s (event :: events) = some (⟨s,event,reaction,s'⟩ :: past,s'') :=
  execute_cons.mpr ⟨s',reaction,past,taken,rest,rfl⟩

theorem execute_append {events events' : List Event} (first : execute step s events = some (past,s'))
    (second : execute step s' events' = some (more,s'')) :
    execute step s (events ++ events') = some (past ++ more,s'') := by
  induction events generalizing s past with
  | nil =>
    simp only [execute,Option.some.injEq,Prod.mk.injEq] at first
    obtain ⟨rfl,rfl⟩ := first
    exact second
  | cons event rest ih =>
    obtain ⟨next,reaction,tail,taken,ran,rfl⟩ := execute_cons.mp first
    exact execute_of_step taken (ih ran)

/-- If every event can be taken from every good state and leads to a good state, then
    any list of events can be executed from there. -/
theorem execute_total {Inv : State → Prop} {P : Transition State Event Reaction → Prop}
    (taken : ∀ s event, Inv s → ∃ s' reaction, step s event = some (s',reaction) ∧ Inv s' ∧ P ⟨s,event,reaction,s'⟩)
    (initially : Inv s) (events : List Event) :
    ∃ past s', execute step s events = some (past,s') ∧ ∀ t ∈ past, P t ∧ Inv t.after := by
  induction events generalizing s with
  | nil => exact ⟨[],s,rfl,by simp⟩
  | cons event rest ih =>
    obtain ⟨next,reaction,stepped,kept,holds⟩ := taken s event initially
    obtain ⟨past,s',ran,all⟩ := ih kept
    refine ⟨_,s',execute_of_step stepped ran,?_⟩
    intro t member
    rcases List.mem_cons.mp member with rfl | later
    · exact ⟨holds,kept⟩
    · exact all t later

@[simp] theorem obeys_nil (C : List (Transition State Event Reaction) → State → Event → Prop) : Obeys C [] := by
  simp [Obeys]
/-- A condition on a longer past is one on its first step and one on the rest. -/
@[simp] theorem obeys_cons {C : List (Transition State Event Reaction) → State → Event → Prop}
    {t : Transition State Event Reaction} :
    Obeys C (t :: past) ↔ C [] t.before t.event ∧ Obeys (fun earlier => C (t :: earlier)) past := by
  constructor
  · intro obeys
    exact ⟨obeys [] t past rfl,fun earlier t' later whole => obeys (t :: earlier) t' later (by simp [whole])⟩
  · rintro ⟨first,rest⟩ earlier t' later whole
    rcases earlier with _ | ⟨t'',earlier⟩
    · obtain ⟨rfl,rfl⟩ := List.cons.inj whole
      exact first
    · obtain ⟨rfl,same⟩ := List.cons.inj whole
      exact rest earlier t' later same

/-- A condition on a longer past is one on its last step too. -/
theorem obeys_snoc {C : List (Transition State Event Reaction) → State → Event → Prop}
    {t : Transition State Event Reaction} : Obeys C (past ++ [t]) ↔ Obeys C past ∧ C past t.before t.event := by
  constructor
  · intro obeys
    exact ⟨fun earlier t' later whole => obeys earlier t' (later ++ [t]) (by simp [whole]),obeys past t [] rfl⟩
  · rintro ⟨before,last⟩ earlier t' later whole
    rcases List.eq_nil_or_concat later with rfl | ⟨front,t'',rfl⟩
    · obtain ⟨rfl,same⟩ := List.append_inj' whole rfl
      rwa [← List.singleton_inj.mp same]
    · rw [List.concat_eq_append,← List.cons_append,← List.append_assoc] at whole
      exact before earlier t' front (List.append_inj' whole rfl).1

theorem Run.append (first : Run step s past s') (second : Run step s' more s'') :
    Run step s (past ++ more) s'' := by
  induction second with
  | nil => simpa using first
  | snoc _ taken ih => rw [← List.append_assoc]; exact .snoc ih taken

theorem Run.single {event : Event} {reaction : Reaction} (taken : step s event = some (s',reaction)) :
    Run step s [⟨s,event,reaction,s'⟩] s' := .snoc .nil taken

theorem run_of_execute {events : List Event} (executed : execute step s events = some (past,s')) :
    Run step s past s' := by
  induction events generalizing s past with
  | nil =>
    simp only [execute,Option.some.injEq,Prod.mk.injEq] at executed
    obtain ⟨rfl,rfl⟩ := executed
    exact .nil
  | cons event rest ih =>
    obtain ⟨next,reaction,tail,taken,ran,rfl⟩ := execute_cons.mp executed
    exact (Run.single taken).append (ih ran)

/-- A run falls apart at every point of its past. -/
theorem Run.split {earlier later : List (Transition State Event Reaction)} (run : Run step s past s')
    (whole : past = earlier ++ later) : ∃ middle, Run step s earlier middle ∧ Run step middle later s' := by
  induction run generalizing later with
  | nil =>
    obtain ⟨rfl,rfl⟩ := List.append_eq_nil_iff.mp whole.symm
    exact ⟨s,.nil,.nil⟩
  | @snoc middle s' past event reaction ran taken ih =>
    rcases List.eq_nil_or_concat later with rfl | ⟨front,last,rfl⟩
    · rw [List.append_nil] at whole
      exact ⟨s',whole ▸ .snoc ran taken,.nil⟩
    · rw [List.concat_eq_append,← List.append_assoc] at whole
      obtain ⟨split,same⟩ := List.append_inj' whole rfl
      obtain ⟨between,first,second⟩ := ih split
      refine ⟨between,first,?_⟩
      rw [List.concat_eq_append,← List.singleton_inj.mp same]
      exact .snoc second taken

theorem Run.eq_of_nil (run : Run step s [] s') : s' = s := by
  generalize empty : [] = past at run
  cases run with
  | nil => rfl
  | snoc => simp at empty

/-- The first transition of a run was taken from its first state. -/
theorem Run.head {t : Transition State Event Reaction} {later : List (Transition State Event Reaction)}
    (run : Run step s (t :: later) s') :
    t.before = s ∧ step s t.event = some (t.after,t.reaction) ∧ Run step t.after later s' := by
  obtain ⟨middle,first,second⟩ := run.split (List.singleton_append (x := t)).symm
  generalize single : [t] = one at first
  cases first with
  | nil => simp at single
  | @snoc start _ past event reaction ran taken =>
    have parts : [] ++ [t] = past ++ [⟨start,event,reaction,middle⟩] := by simpa using single
    obtain ⟨rfl,same⟩ := List.append_inj' parts rfl
    obtain rfl := List.singleton_inj.mp same
    obtain rfl := ran.eq_of_nil
    exact ⟨rfl,taken,second⟩

/-- Every transition of a run is a step. -/
theorem Run.taken {t : Transition State Event Reaction} {earlier later : List (Transition State Event Reaction)}
    (run : Run step s past s') (whole : past = earlier ++ t :: later) :
    step t.before t.event = some (t.after,t.reaction) := by
  obtain ⟨middle,-,rest⟩ := run.split whole
  obtain ⟨rfl,taken,-⟩ := rest.head
  exact taken

/-- Every transition of a run was taken from a state that a shorter run reaches. -/
theorem Run.mem {t : Transition State Event Reaction} (run : Run step s past s') (member : t ∈ past) :
    ∃ earlier later, past = earlier ++ t :: later ∧ Run step s earlier t.before ∧
      step t.before t.event = some (t.after,t.reaction) ∧ Run step t.after later s' := by
  obtain ⟨earlier,later,whole⟩ := List.append_of_mem member
  obtain ⟨middle,first,second⟩ := run.split whole
  obtain ⟨same,taken,rest⟩ := second.head
  rw [← same] at first taken
  exact ⟨earlier,later,whole,first,taken,rest⟩

/-- What holds at first and is kept by every step holds at the end of every run. -/
theorem Run.invariant {Inv : State → Prop} (run : Run step s past s') (initially : Inv s)
    (kept : ∀ {s event s' reaction}, Inv s → step s event = some (s',reaction) → Inv s') : Inv s' := by
  induction run with
  | nil => exact initially
  | snoc _ taken ih => exact kept ih taken

/-- A relation between the past and the state that holds at first and is kept by the
    transitions of this run holds at every moment of it. -/
theorem Run.history {I : List (Transition State Event Reaction) → State → Prop} (run : Run step s past s')
    (initially : I [] s)
    (kept : ∀ earlier t later, past = earlier ++ t :: later → I earlier t.before → I (earlier ++ [t]) t.after) :
    (∀ earlier t later, past = earlier ++ t :: later → I earlier t.before) ∧ I past s' := by
  induction run with
  | nil => exact ⟨by simp,initially⟩
  | @snoc s' s'' past event reaction _ taken ih =>
    obtain ⟨along,reached⟩ :=
      ih (fun earlier t later whole => kept earlier t (later ++ [⟨s',event,reaction,s''⟩]) (by simp [whole]))
    refine ⟨?_,kept past _ [] rfl reached⟩
    intro earlier t later whole
    rcases List.eq_nil_or_concat later with rfl | ⟨front,last,rfl⟩
    · obtain ⟨rfl,same⟩ := List.append_inj' whole rfl
      rw [← List.singleton_inj.mp same]
      exact reached
    · rw [List.concat_eq_append,← List.cons_append,← List.append_assoc] at whole
      exact along earlier t front (List.append_inj' whole rfl).1

/-- The same for a property of the states. -/
theorem Run.carries {I : State → Prop} (run : Run step s past s') (initially : I s)
    (kept : ∀ t ∈ past, I t.before → I t.after) : (∀ t ∈ past, I t.before) ∧ I s' := by
  obtain ⟨along,reached⟩ := run.history (I := fun _ => I) initially
    (fun _ t _ whole => kept t (by simp [whole]))
  refine ⟨?_,reached⟩
  intro t member
  obtain ⟨earlier,later,whole⟩ := List.append_of_mem member
  exact along earlier t later whole

/-- Where every step takes what comes in and is left, and gives what goes out and is left then, so
    does a run. -/
theorem Run.conserves {α : Type} {P : Reaction → Prop} {L : State → List α → Prop} {f : Event → List α}
    {g : Reaction → List α} (run : Run step s past s') (initially : L s [])
    (kept : ∀ {s left event s' reaction}, L s left → step s event = some (s',reaction) →
      P reaction ∧ ∃ left', L s' left' ∧ left ++ f event = g reaction ++ left') :
    (∀ t ∈ past, P t.reaction) ∧
      ∃ left, L s' left ∧ past.flatMap (fun t => f t.event) = past.flatMap (fun t => g t.reaction) ++ left := by
  induction run with
  | nil => exact ⟨by simp,[],initially,rfl⟩
  | @snoc middle next past event reaction _ taken ih =>
    obtain ⟨all,left,before,conserved⟩ := ih
    obtain ⟨last,left',after,conserved'⟩ := kept before taken
    refine ⟨List.forall_mem_append.mpr ⟨all,List.forall_mem_singleton.mpr last⟩,left',after,?_⟩
    rw [List.flatMap_append,List.flatMap_append,List.flatMap_singleton,List.flatMap_singleton]
    calc past.flatMap (fun t => f t.event) ++ f event
        = past.flatMap (fun t => g t.reaction) ++ (left ++ f event) := by rw [conserved,List.append_assoc]
      _ = past.flatMap (fun t => g t.reaction) ++ (g reaction ++ left') := by rw [conserved']
      _ = past.flatMap (fun t => g t.reaction) ++ g reaction ++ left' := (List.append_assoc _ _ _).symm

end WSocks.Runs
