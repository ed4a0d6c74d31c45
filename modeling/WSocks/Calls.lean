import Mathlib

/-!
# Calls and answers

A table of calls that wait for their answers. A call enters a value under a key,
an answer takes the value out again. Whatever the order, an answer finds what the
last call of its key entered and no answer has taken since, and no call is
answered twice.
-/

namespace WSocks.Calls
variable {K V : Type}

/-- A value asked for under a key, or an answer for the key. -/
inductive Call (K V : Type)
  | ask (k : K) (v : V)
  | answer (k : K)
  deriving DecidableEq

def Call.key : Call K V → K
  | .ask k _ => k
  | .answer k => k

/-- What waits under every key, and what the answers have found so far. -/
structure Ledger (K V : Type) where
  waiting : K → Option V
  found : K → List V

/-- The values asked for under a key. -/
def asked [DecidableEq K] (k : K) (calls : List (Call K V)) : List V :=
  calls.filterMap (fun call => match call with
    | .ask k' v => if k' = k then some v else none
    | .answer _ => none)

variable [DecidableEq K]

/-- An ask replaces what waits under its key, an answer takes it out. -/
def Ledger.record (ledger : Ledger K V) : Call K V → Ledger K V
  | .ask k v => { ledger with waiting := Function.update ledger.waiting k (some v) }
  | .answer k => ⟨Function.update ledger.waiting k none,
      Function.update ledger.found k (ledger.found k ++ (ledger.waiting k).toList)⟩

/-- The ledger after some calls, oldest first. -/
def ledger (calls : List (Call K V)) : Ledger K V := calls.foldl Ledger.record ⟨fun _ => none,fun _ => []⟩

@[simp] theorem ledger_nil : ledger ([] : List (Call K V)) = ⟨fun _ => none,fun _ => []⟩ := rfl
@[simp] theorem ledger_append (calls : List (Call K V)) (call : Call K V) :
    ledger (calls ++ [call]) = (ledger calls).record call := List.foldl_concat ..

@[simp] theorem asked_nil (k : K) : asked k ([] : List (Call K V)) = [] := rfl
@[simp] theorem asked_append (k : K) (calls later : List (Call K V)) :
    asked k (calls ++ later) = asked k calls ++ asked k later := List.filterMap_append

/-- Every answer that found something had an ask of its own, and so has what waits. -/
theorem found_le_asked (k : K) (calls : List (Call K V)) :
    ((ledger calls).found k).length + ((ledger calls).waiting k).toList.length ≤ (asked k calls).length := by
  induction calls using List.reverseRecOn with
  | nil => simp
  | append_singleton calls call ih =>
    cases call with
    | ask k' v =>
      by_cases same : k = k'
      · subst same
        simp [Ledger.record,asked] at ih ⊢
        omega
      · simpa [Ledger.record,same,asked,Ne.symm same] using ih
    | answer k' =>
      by_cases same : k = k'
      · subst same
        simpa [Ledger.record,asked] using ih
      · simpa [Ledger.record,same,asked] using ih

/-- A value was asked for under a key, and no later call has the key. -/
def Waits (k : K) (v : V) (calls : List (Call K V)) : Prop :=
  ∃ earlier later, calls = earlier ++ .ask k v :: later ∧ ∀ call ∈ later, call.key ≠ k

omit [DecidableEq K] in
theorem waits_append {k : K} {v : V} {calls : List (Call K V)} {call : Call K V} :
    Waits k v (calls ++ [call]) ↔ call = .ask k v ∨ call.key ≠ k ∧ Waits k v calls := by
  constructor
  · rintro ⟨earlier,later,whole,quiet⟩
    rcases List.eq_nil_or_concat later with rfl | ⟨front,last,rfl⟩
    · exact .inl (List.singleton_inj.mp (List.append_inj' whole rfl).2)
    · rw [List.concat_eq_append] at whole quiet
      rw [← List.cons_append,← List.append_assoc] at whole
      obtain ⟨split,same⟩ := List.append_inj' whole rfl
      obtain rfl := List.singleton_inj.mp same
      exact .inr ⟨quiet call (by simp),earlier,front,split,fun c member => quiet c (by simp [member])⟩
  · rintro (rfl | ⟨other,earlier,later,rfl,quiet⟩)
    · exact ⟨calls,[],rfl,by simp⟩
    · refine ⟨earlier,later ++ [call],by simp,?_⟩
      intro c member
      rcases List.mem_append.mp member with old | now
      · exact quiet c old
      · rwa [List.mem_singleton.mp now]

/-- That is what the ledger keeps. -/
theorem waiting_iff {k : K} {v : V} {calls : List (Call K V)} :
    (ledger calls).waiting k = some v ↔ Waits k v calls := by
  induction calls using List.reverseRecOn with
  | nil => simp [Waits]
  | append_singleton calls call ih =>
    rw [waits_append,← ih,ledger_append]
    cases call with
    | ask k' v' =>
      by_cases same : k = k'
      · subst same
        simp [Ledger.record,Call.key]
      · simp [Ledger.record,Call.key,same,Ne.symm same]
    | answer k' =>
      by_cases same : k = k'
      · subst same
        simp [Ledger.record,Call.key]
      · simp [Ledger.record,Call.key,same,Ne.symm same]

end WSocks.Calls
