import WSocks.Profiles

/-!
# The keys of profiles

When two profiles may share a key. The attributes are such that only keys of the same
attribute can be equal, so all depends on what becomes of the names.
-/

namespace WSocks.ProfileKeys
open WSocks.Strings WSocks.Buffers WSocks.Profiles

/-- A name that the dialog may supply. -/
structure ProfileName where
  text : String
  nonempty : text ≠ ""
  trimmed : Trimmed text
  line : '\n' ∉ text.toList

/-- Two spaces for every underscore. -/
def widen (name : String) : String := replace '_' "  " name

/-! ### Names -/

/-- Escaping is widening, but with underscores for spaces. -/
theorem prefPrefix_toList (name : String) :
    (prefPrefix name).toList = (widen name).toList.map (fun c => if c = ' ' then '_' else c) := by
  simp only [prefPrefix,widen,replace,String.toList_ofList,List.flatMap_assoc,List.map_flatMap]
  refine List.flatMap_congr ?_
  intro c _
  by_cases underscore : c = '_'
  · subst underscore
    decide
  · rw [if_neg underscore,if_neg underscore]
    by_cases space : c = ' ' <;> simp [space]

theorem underscore_not_mem_widen (name : String) : '_' ∉ (widen name).toList := by
  intro member
  simp only [widen,replace,String.toList_ofList,List.mem_flatMap] at member
  obtain ⟨c,-,inside⟩ := member
  by_cases underscore : c = '_'
  · rw [if_pos underscore] at inside
    revert inside
    decide
  · rw [if_neg underscore,List.mem_singleton] at inside
    exact underscore inside.symm

/-- Two names are escaped alike exactly when they are widened alike. -/
theorem prefPrefix_eq_iff {name name' : String} : prefPrefix name = prefPrefix name' ↔ widen name = widen name' := by
  have back : ∀ text : List Char, '_' ∉ text →
      (text.map (fun c => if c = ' ' then '_' else c)).map (fun c => if c = '_' then ' ' else c) = text := by
    intro text free
    rw [List.map_map]
    refine (List.map_congr_left ?_).trans (List.map_id text)
    intro c member
    have other : c ≠ '_' := by
      rintro rfl
      exact free member
    by_cases space : c = ' ' <;> simp [space,other]
  constructor
  · intro same
    have lists := congrArg String.toList same
    rw [prefPrefix_toList,prefPrefix_toList] at lists
    rw [← String.toList_inj,← back _ (underscore_not_mem_widen name),← back _ (underscore_not_mem_widen name'),lists]
  · intro same
    rw [← String.toList_inj,prefPrefix_toList,prefPrefix_toList,same]

/-- The last character of a name is no space, so an escaped name ends with two
    underscores if it ends with one. -/
theorem prefPrefix_no_part (name : ProfileName) (front : List Char) :
    (prefPrefix name.text).toList ≠ front ++ "dns_".toList := by
  have nonempty : name.text.toList ≠ [] := by simpa using name.nonempty
  have last := name.trimmed.getLast nonempty
  have split := List.dropLast_append_getLast nonempty
  generalize name.text.toList.getLast nonempty = c at last split
  intro same
  simp only [prefPrefix,replace,String.toList_ofList,List.flatMap_assoc] at same
  rw [← split,List.flatMap_append] at same
  have ends := congrArg List.reverse same
  by_cases underscore : c = '_'
  · subst underscore
    simp at ends
  · have other : c ≠ ' ' := by
      rintro rfl
      exact absurd last (by decide)
    simp [underscore,other] at ends

/-! ### Attributes -/

/-- The attributes that have a setter. -/
def written : List String :=
  ["server","port","username","password","zip","offset","route","perapp","appbypass","applist","auto"]

/-- Those that have a getter. -/
def read : List String := written ++ ["dns","dns_port"]

theorem attribute_written (setter : Setter) : setter.attribute ∈ written := by
  cases setter <;> simp [Setter.attribute,written]

theorem attribute_read (getter : Getter) : getter.attribute ∈ read := by
  cases getter <;> decide

/-- One attribute ends with another only if they are the same, apart from the two ports. -/
private theorem suffixes : ∀ a ∈ read, ∀ b ∈ read, a.toList <:+ b.toList →
    a = b ∨ a = "port" ∧ b = "dns_port" := by
  decide +kernel

/-- No attribute ends the keys of the manager. -/
private theorem manager_keys : ∀ a ∈ read, ¬ a.toList <:+ PREF_PROFILE.toList ∧ ¬ a.toList <:+ PREF_LAST_PROFILE.toList := by
  decide +kernel

theorem key_toList (name k : String) : (Profile.key ⟨name⟩ k).toList = (prefPrefix name).toList ++ k.toList := by
  simp [Profile.key]

/-- The attributes of one profile have different keys. -/
theorem key_inj {name a b : String} : Profile.key ⟨name⟩ a = Profile.key ⟨name⟩ b ↔ a = b := by
  rw [← String.toList_inj,key_toList,key_toList,List.append_cancel_left_eq,String.toList_inj]

private theorem key_ne {name key a : String} (other : ¬ a.toList <:+ key.toList) : key ≠ Profile.key ⟨name⟩ a := by
  rintro rfl
  rw [key_toList] at other
  exact other (List.suffix_append _ _)

/-- No attribute is kept under a key of the manager, whatever the name. -/
theorem key_ne_profile {a : String} (reads : a ∈ read) (name : String) : PREF_PROFILE ≠ Profile.key ⟨name⟩ a :=
  key_ne (manager_keys a reads).1

theorem key_ne_last {a : String} (reads : a ∈ read) (name : String) : PREF_LAST_PROFILE ≠ Profile.key ⟨name⟩ a :=
  key_ne (manager_keys a reads).2

/-- So the setters leave the keys of the manager alone. -/
theorem setter_profile (setter : Setter) (name : String) (pref : SharedPreferences) :
    setter.call ⟨name⟩ pref PREF_PROFILE = pref PREF_PROFILE := by
  rw [setter.call_eq]
  exact SharedPreferences.put_other (key_ne_profile (List.mem_append_left _ (attribute_written setter)) name)

theorem setter_last (setter : Setter) (name : String) (pref : SharedPreferences) :
    setter.call ⟨name⟩ pref PREF_LAST_PROFILE = pref PREF_LAST_PROFILE := by
  rw [setter.call_eq]
  exact SharedPreferences.put_other (key_ne_last (List.mem_append_left _ (attribute_written setter)) name)

private theorem key_eq_of_suffix {name name' : ProfileName} {a b : String} (reads : a ∈ read) (reads' : b ∈ read)
    (same : (prefPrefix name.text).toList ++ a.toList = (prefPrefix name'.text).toList ++ b.toList)
    (nested : a.toList <:+ b.toList) : a = b ∧ prefPrefix name.text = prefPrefix name'.text := by
  rcases suffixes a reads b reads' nested with rfl | ⟨rfl,rfl⟩
  · exact ⟨rfl,String.toList_inj.mp (List.append_cancel_right same)⟩
  · have split : "dns_port".toList = "dns_".toList ++ "port".toList := by decide
    rw [split,← List.append_assoc] at same
    exact absurd (List.append_cancel_right same) (prefPrefix_no_part name _)

/-- Equal keys are keys of one attribute, and their names are escaped alike. -/
theorem key_eq {name name' : ProfileName} {a b : String} (reads : a ∈ read) (reads' : b ∈ read)
    (same : Profile.key ⟨name.text⟩ a = Profile.key ⟨name'.text⟩ b) :
    a = b ∧ prefPrefix name.text = prefPrefix name'.text := by
  have lists := congrArg String.toList same
  rw [key_toList,key_toList] at lists
  have whole : b.toList <:+ (prefPrefix name.text).toList ++ a.toList := by
    rw [lists]
    exact List.suffix_append _ _
  rcases List.suffix_or_suffix_of_suffix (List.suffix_append _ a.toList) whole with nested | nested
  · exact key_eq_of_suffix reads reads' lists nested
  · obtain ⟨rfl,alike⟩ := key_eq_of_suffix reads' reads lists.symm nested
    exact ⟨rfl,alike.symm⟩

/-! ### Isolation -/

/-- Nothing that is set for one profile is seen in the other or by the manager: their
    attributes have different keys, which are none of the manager's. -/
structure Isolated (name name' : String) : Prop where
  keys : ∀ a ∈ read, ∀ b ∈ read, Profile.key ⟨name⟩ a ≠ Profile.key ⟨name'⟩ b
  getters : ∀ (setter : Setter) (getter : Getter) (pref : SharedPreferences),
    getter.call ⟨name'⟩ (setter.call ⟨name⟩ pref) = getter.call ⟨name'⟩ pref
  profiles : ∀ (setter : Setter) (pref : SharedPreferences), setter.call ⟨name⟩ pref PREF_PROFILE = pref PREF_PROFILE
  last : ∀ (setter : Setter) (pref : SharedPreferences), setter.call ⟨name⟩ pref PREF_LAST_PROFILE = pref PREF_LAST_PROFILE

/-- Profiles whose names are escaped alike share every attribute. -/
theorem shared {name name' : String} (same : widen name = widen name') : ¬ Isolated name name' := by
  rintro ⟨-,getters,-,-⟩
  have alike : prefPrefix name = prefPrefix name' := prefPrefix_eq_iff.mpr same
  have seen := getters (.server "10.0.0.1") .server .empty
  simp [Getter.call,Setter.call,Profile.getServer,Profile.setServer,Profile.key,alike,SharedPreferences.getString,
    SharedPreferences.empty,Except.map] at seen

/-- Two profiles are isolated exactly when their names differ even with two spaces for
    every underscore. -/
theorem isolated_iff (name name' : ProfileName) :
    Isolated name.text name'.text ↔ widen name.text ≠ widen name'.text := by
  constructor
  · intro isolated same
    exact shared same isolated
  · intro different
    have keys : ∀ a ∈ read, ∀ b ∈ read, Profile.key ⟨name.text⟩ a ≠ Profile.key ⟨name'.text⟩ b := by
      intro a reads b reads' same
      exact different (prefPrefix_eq_iff.mp (key_eq reads reads' same).2)
    refine ⟨keys,?_,?_,?_⟩
    · intro setter getter pref
      refine Getter.call_congr ?_
      rw [setter.call_eq]
      have writes : setter.attribute ∈ read := List.mem_append_left _ (attribute_written setter)
      exact SharedPreferences.put_other (keys _ writes _ (attribute_read getter)).symm
    · intro setter pref
      exact setter_profile setter _ pref
    · intro setter pref
      exact setter_last setter _ pref

/-- An underscore and two spaces: what is set for `a_b` is read for `a  b`. -/
theorem underscore_shared : ∃ name name' : ProfileName, name.text = "a_b" ∧ name'.text = "a  b" ∧
    ¬ Isolated name.text name'.text :=
  ⟨⟨"a_b",by decide,by decide,by decide⟩,⟨"a  b",by decide,by decide,by decide⟩,rfl,rfl,shared (by decide)⟩

end WSocks.ProfileKeys
