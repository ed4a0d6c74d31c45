import WSocks.Manager

/-!
# Deleting a profile

Deleting a profile removes a list of keys that is written out by hand, and two
attributes are not on it. They come back when a profile of the same name is added.
-/

namespace WSocks.Deletion
open WSocks.Runs WSocks.Buffers WSocks.Profiles WSocks.ProfileKeys WSocks.Manager

/-- The manager is called, or a setter of a profile. -/
inductive Use
  | call (operation : Operation)
  | set (profile : Profile) (setter : Setter)

def use (prof_default : String) (manager : ProfileManager) : Use → Option (ProfileManager × Except Failure Answer)
  | .call operation => step prof_default manager operation
  | .set profile setter => some ({manager with mPref := setter.call profile manager.mPref},.ok .nothing)

/-- Every attribute reads as that of a profile nobody ever used. -/
def Fresh (profile : Profile) (pref : SharedPreferences) : Prop :=
  ∀ getter : Getter, getter.call profile pref = getter.call profile .empty

/-- The attributes that `delete` leaves out have their defaults. -/
def Unset (profile : Profile) (pref : SharedPreferences) : Prop :=
  profile.getDoZip pref = .ok false ∧ profile.getOffset pref = .ok 0

variable {prof_default : String} {manager : ProfileManager} {names : List String}

/-! ### What a deletion leaves -/

/-- `delete` reaches every attribute that is read but two. -/
theorem deleted_iff (getter : Getter) : getter.attribute ∈ Profile.deleted ↔ getter ≠ .doZip ∧ getter ≠ .offset := by
  cases getter <;> decide

theorem delete_getter (profile : Profile) (pref : SharedPreferences) (getter : Getter) :
    getter.call profile (profile.delete pref) =
      getter.call profile (if getter = .doZip ∨ getter = .offset then pref else .empty) := by
  apply Getter.call_congr
  by_cases left : getter = .doZip ∨ getter = .offset
  · rw [if_pos left]
    apply delete_other
    intro k removed same
    rw [← key_inj.mp same,deleted_iff] at removed
    exact left.elim removed.1 removed.2
  · rw [if_neg left]
    exact delete_same ((deleted_iff getter).mpr (not_or.mp left))

/-- Nothing is left of a profile exactly when the other two were unset. -/
theorem fresh_delete_iff (profile : Profile) (pref : SharedPreferences) :
    Fresh profile (profile.delete pref) ↔ Unset profile pref := by
  have zip : Getter.doZip.call profile pref = Getter.doZip.call profile .empty ↔ profile.getDoZip pref = .ok false := by
    show (profile.getDoZip pref).map Value.boolean = .ok (.boolean false) ↔ _
    rcases profile.getDoZip pref with failure | b <;> simp [Except.map]
  have offset : Getter.offset.call profile pref = Getter.offset.call profile .empty ↔ profile.getOffset pref = .ok 0 := by
    show (profile.getOffset pref).map Value.int = .ok (.int 0) ↔ _
    rcases profile.getOffset pref with failure | n <;> simp [Except.map]
  rw [Unset,← zip,← offset]
  constructor
  · intro fresh
    have zipFresh := fresh .doZip
    have offsetFresh := fresh .offset
    rw [delete_getter,if_pos (.inl rfl)] at zipFresh
    rw [delete_getter,if_pos (.inr rfl)] at offsetFresh
    exact ⟨zipFresh,offsetFresh⟩
  · rintro ⟨noZip,noOffset⟩ getter
    rw [delete_getter]
    by_cases left : getter = .doZip ∨ getter = .offset
    · rw [if_pos left]
      rcases left with rfl | rfl
      · exact noZip
      · exact noOffset
    · rw [if_neg left]

/-- What is read of a profile depends on none of the manager's keys. -/
private theorem fresh_congr {name : String} {pref pref' : SharedPreferences}
    (same : ∀ key, PREF_PROFILE ≠ key → PREF_LAST_PROFILE ≠ key → pref' key = pref key) :
    Fresh ⟨name⟩ pref' ↔ Fresh ⟨name⟩ pref := by
  refine forall_congr' ?_
  intro getter
  have reads := attribute_read getter
  rw [Getter.call_congr (same _ (key_ne_profile reads name) (key_ne_last reads name))]

/-! ### Removed and added again -/

/-- Setters keep what holds of the manager. -/
private theorem holds_set (holds : Holds prof_default manager names) (profile : Profile) (setter : Setter) :
    Holds prof_default {manager with mPref := setter.call profile manager.mPref} names := by
  obtain ⟨name⟩ := profile
  refine ⟨holds.each,?_,holds.profiles,holds.distinct,?_⟩
  · simpa only [SharedPreferences.getString,setter_profile] using holds.text
  · simpa only [setter_last] using holds.last

private theorem use_keeps {after : ProfileManager} {answer : Except Failure Answer} {request : Use}
    (holds : ∃ names, Holds prof_default manager names) (used : use prof_default manager request = some (after,answer)) :
    ∃ names, Holds prof_default after names := by
  obtain ⟨names,holds⟩ := holds
  cases request with
  | call operation =>
    obtain ⟨after',answer',taken,kept,-⟩ := holds.step operation
    have same := Option.some.inj (taken.symm.trans used)
    rw [Prod.mk.injEq] at same
    rwa [← same.1]
  | set profile setter =>
    have same := Option.some.inj used
    rw [Prod.mk.injEq] at same
    rw [← same.1]
    exact ⟨names,holds_set holds profile setter⟩

/-- However the profiles are used, the manager keeps its list. -/
private theorem reached {uses : List Use} {past : List (Transition ProfileManager Use (Except Failure Answer))}
    (executed : execute (use prof_default) ⟨.empty,[]⟩ (.call .create :: uses) = some (past,manager)) :
    ∃ names, Holds prof_default manager names := by
  obtain ⟨opened,initially⟩ := created prof_default
  obtain ⟨first,reaction,tail,taken,rest,-⟩ := execute_cons.mp executed
  have same := Option.some.inj (opened.symm.trans taken)
  obtain rfl := (Prod.mk.inj same).1
  exact (run_of_execute rest).invariant ⟨[],initially⟩ use_keeps

/-- However the profiles were used before, a profile that is removed and added again has
    forgotten everything exactly when its two attributes were unset. -/
theorem forgotten_iff {uses : List Use} {past : List (Transition ProfileManager Use (Except Failure Answer))}
    (executed : execute (use prof_default) ⟨.empty,[]⟩ (.call .create :: uses) = some (past,manager))
    (name : ProfileName) (member : name.text ∈ manager.mProfiles) (other : name.text ≠ prof_default) :
    ∃ removed added, step prof_default manager (.removeProfile name.text) = some (removed,.ok (.removed true)) ∧
      step prof_default removed (.addProfile name) = some (added,.ok (.profile (some ⟨name.text⟩))) ∧
      (Fresh ⟨name.text⟩ added.mPref ↔ Unset ⟨name.text⟩ manager.mPref) := by
  obtain ⟨names,holds⟩ := reached executed
  obtain ⟨removed,removes,kept,deletes⟩ := holds.removeProfile other member
  have absent : name.text ∉ removed.mProfiles := by
    rw [kept.profiles]
    intro inside
    rcases List.mem_cons.mp inside with same | behind
    · exact other same
    · exact (List.nodup_cons.mp holds.distinct).2.not_mem_erase behind
  obtain ⟨added,adds,-,keeps⟩ := kept.addProfile absent
  refine ⟨removed,added,step_of_run ?_,step_of_run ?_,?_⟩
  · simp [Operation.call,removes,Effects.Action.run_map,Except.map]
  · simp [Operation.call,adds,Effects.Action.run_map,Except.map]
  · rw [fresh_congr keeps,fresh_congr deletes,fresh_delete_iff]

/-! ### A profile for work -/

def work : ProfileName := ⟨"work",by decide,by decide,by decide⟩

/-- A server is forgotten, and compression that was switched off again does no harm. -/
theorem forgotten_server : ∃ past manager removed added,
    execute (use "Default") ⟨.empty,[]⟩ [.call .create,.call (.addProfile work),.set ⟨"work"⟩ (.server "10.0.0.1"),
      .set ⟨"work"⟩ (.doZip true),.set ⟨"work"⟩ (.doZip false)] = some (past,manager) ∧
    Profile.getServer ⟨"work"⟩ manager.mPref = .ok "10.0.0.1" ∧
    step "Default" manager (.removeProfile "work") = some (removed,.ok (.removed true)) ∧
    step "Default" removed (.addProfile work) = some (added,.ok (.profile (some ⟨"work"⟩))) ∧
    Fresh ⟨"work"⟩ added.mPref := by
  obtain ⟨past,manager,executed,server,member,unset⟩ : ∃ past manager,
      execute (use "Default") ⟨.empty,[]⟩ [.call .create,.call (.addProfile work),.set ⟨"work"⟩ (.server "10.0.0.1"),
        .set ⟨"work"⟩ (.doZip true),.set ⟨"work"⟩ (.doZip false)] = some (past,manager) ∧
      Profile.getServer ⟨"work"⟩ manager.mPref = .ok "10.0.0.1" ∧ "work" ∈ manager.mProfiles ∧
      Unset ⟨"work"⟩ manager.mPref :=
    ⟨_,_,execute_of_step rfl (execute_of_step rfl (execute_of_step rfl (execute_of_step rfl (execute_of_step rfl
      (execute.eq_1 _ _))))),rfl,by decide,rfl,rfl⟩
  obtain ⟨removed,added,removes,adds,fresh⟩ := forgotten_iff executed work member (by decide)
  exact ⟨past,manager,removed,added,executed,server,removes,adds,fresh.mpr unset⟩

/-- Compression is still on after the profile was removed and added again. -/
theorem zip_survives : ∃ past manager removed added,
    execute (use "Default") ⟨.empty,[]⟩ [.call .create,.call (.addProfile work),.set ⟨"work"⟩ (.doZip true)] =
      some (past,manager) ∧
    step "Default" manager (.removeProfile "work") = some (removed,.ok (.removed true)) ∧
    step "Default" removed (.addProfile work) = some (added,.ok (.profile (some ⟨"work"⟩))) ∧
    Profile.getDoZip ⟨"work"⟩ added.mPref = .ok true ∧ ¬ Fresh ⟨"work"⟩ added.mPref := by
  refine ⟨_,_,_,_,execute_of_step rfl (execute_of_step rfl (execute_of_step rfl (execute.eq_1 _ _))),rfl,rfl,rfl,?_⟩
  intro fresh
  have seen := fresh .doZip
  revert seen
  decide

end WSocks.Deletion
