import Mathlib

/-!
# Lists with a common ending

How long an ending two lists have in common, and a store whose entries write out
only their fronts and leave the rest to an earlier entry. Whatever ends an entry is
written out by some entry that is not later.
-/

namespace WSocks.Endings

variable {β γ : Type} [DecidableEq β]

/-- How many elements two lists have in common at their heads. -/
def agreed : List β → List β → Nat
  | x :: xs,y :: ys => if x = y then agreed xs ys + 1 else 0
  | _,_ => 0

/-- How many elements two lists have in common at their ends. -/
def common (xs ys : List β) : Nat := agreed xs.reverse ys.reverse

theorem le_agreed {xs ys : List β} {n : Nat} :
    n ≤ agreed xs ys ↔ ∃ zs : List β, zs.length = n ∧ zs <+: xs ∧ zs <+: ys := by
  induction xs generalizing ys n with
  | nil =>
    constructor
    · intro few
      exact ⟨[],by simpa [agreed,eq_comm] using few,List.nil_prefix,List.nil_prefix⟩
    · rintro ⟨zs,rfl,inside,-⟩
      simp [List.prefix_nil.mp inside]
  | cons x xs ih =>
    rcases ys with _ | ⟨y,ys⟩
    · constructor
      · intro few
        exact ⟨[],by simpa [agreed,eq_comm] using few,List.nil_prefix,List.nil_prefix⟩
      · rintro ⟨zs,rfl,-,inside⟩
        simp [List.prefix_nil.mp inside]
    rcases n with _ | n
    · simp only [Nat.zero_le,true_iff]
      exact ⟨[],rfl,List.nil_prefix,List.nil_prefix⟩
    by_cases same : x = y
    · subst same
      rw [agreed,if_pos rfl,Nat.succ_le_succ_iff,ih]
      constructor
      · rintro ⟨zs,rfl,left,right⟩
        exact ⟨x :: zs,rfl,List.cons_prefix_cons.mpr ⟨rfl,left⟩,List.cons_prefix_cons.mpr ⟨rfl,right⟩⟩
      · rintro ⟨zs,many,left,right⟩
        rcases zs with _ | ⟨z,zs⟩
        · simp at many
        · exact ⟨zs,by simpa using many,(List.cons_prefix_cons.mp left).2,(List.cons_prefix_cons.mp right).2⟩
    · rw [agreed,if_neg same]
      constructor
      · intro few
        omega
      · rintro ⟨zs,many,left,right⟩
        rcases zs with _ | ⟨z,zs⟩
        · simp at many
        · exact absurd ((List.cons_prefix_cons.mp left).1.symm.trans (List.cons_prefix_cons.mp right).1) same

/-- The common endings of two lists are as long as `common` says, or shorter. -/
theorem le_common {xs ys : List β} {n : Nat} :
    n ≤ common xs ys ↔ ∃ zs : List β, zs.length = n ∧ zs <:+ xs ∧ zs <:+ ys := by
  rw [common,le_agreed]
  constructor
  · rintro ⟨zs,rfl,left,right⟩
    exact ⟨zs.reverse,by simp,by simpa using List.reverse_suffix.mpr left,by simpa using List.reverse_suffix.mpr right⟩
  · rintro ⟨zs,rfl,left,right⟩
    exact ⟨zs.reverse,by simp,List.reverse_prefix.mpr left,List.reverse_prefix.mpr right⟩

theorem common_ending (xs ys : List β) : ∃ zs : List β, zs.length = common xs ys ∧ zs <:+ xs ∧ zs <:+ ys :=
  le_common.mp le_rfl

/-! ### Entries that share their endings -/

/-- An entry of a store: what it stands for, and how much of it is written out. -/
structure Entry (β : Type) where
  whole : List β
  own : Nat

/-- What an entry does not write out ends an earlier entry. -/
def Shares (store : List (Entry β)) : Prop :=
  ∀ before entry after, store = before ++ entry :: after → entry.own < entry.whole.length →
    ∃ earlier ∈ before, entry.whole.drop entry.own <:+ earlier.whole

/-- The ending begins in the part that is written out. -/
def Entry.Owns (entry : Entry β) (ending : List β) : Prop :=
  ending <:+ entry.whole ∧ entry.whole.length < entry.own + ending.length

omit [DecidableEq β] in
/-- Whatever ends an entry is owned by that entry or by an earlier one. -/
theorem owner {store : List (Entry β)} (shares : Shares store) {before after : List (Entry β)} {entry : Entry β}
    (split : store = before ++ entry :: after) {ending : List β} (ends : ending <:+ entry.whole)
    (nonempty : ending ≠ []) : entry.Owns ending ∨ ∃ earlier ∈ before, earlier.Owns ending := by
  -- the induction goes from an entry to the one that it leaves its rest to
  induction size : before.length using Nat.strong_induction_on generalizing before entry after with
  | _ size ih =>
    subst size
    by_cases begins : entry.whole.length < entry.own + ending.length
    · exact .inl ⟨ends,begins⟩
    · right
      have positive := List.length_pos_iff.mpr nonempty
      obtain ⟨earlier,member,rest⟩ := shares before entry after split (by omega)
      have inside : ending <:+ entry.whole.drop entry.own :=
        List.suffix_of_suffix_length_le ends (List.drop_suffix _ _) (by rw [List.length_drop]; omega)
      obtain ⟨front,middle,rfl⟩ := List.append_of_mem member
      have split' : store = front ++ earlier :: (middle ++ entry :: after) := by simp [split]
      rcases ih front.length (by simp) split' (inside.trans rest) rfl with owned | ⟨first,among,owned⟩
      · exact ⟨earlier,by simp,owned⟩
      · exact ⟨first,by simp [among],owned⟩

omit [DecidableEq β] in
theorem Shares.concat {store : List (Entry β)} (shares : Shares store) {entry : Entry β}
    (last : entry.own < entry.whole.length → ∃ earlier ∈ store, entry.whole.drop entry.own <:+ earlier.whole) :
    Shares (store ++ [entry]) := by
  intro before entry' after split more
  rcases List.eq_nil_or_concat after with rfl | ⟨after,final,rfl⟩
  · obtain ⟨rfl,same⟩ := List.append_inj' split rfl
    obtain rfl := List.singleton_inj.mp same
    exact last more
  · rw [List.concat_eq_append,← List.cons_append,← List.append_assoc] at split
    exact shares before entry' after (List.append_inj' split rfl).1 more

/-! ### The first of the best -/

/-- Keeps the best admitted element; one that is only as good does not replace it. -/
def firstBest (score : γ → Nat) (admits : γ → Bool) (best : Option γ) : List γ → Option γ
  | [] => best
  | x :: xs => firstBest score admits (if best.elim 0 score < score x ∧ admits x then some x else best) xs

/-- The best of what has been seen: nothing admitted is better, nothing before it is as good. -/
private def Best (score : γ → Nat) (admits : γ → Bool) (seen : List γ) (best : Option γ) : Prop :=
  (∀ y ∈ seen, admits y → score y ≤ best.elim 0 score) ∧ ∀ x, best = some x →
    0 < score x ∧ admits x ∧ ∃ before after, seen = before ++ x :: after ∧ ∀ y ∈ before, admits y → score y < score x

private theorem best_step {score : γ → Nat} {admits : γ → Bool} {seen : List γ} {best : Option γ} {x : γ}
    (kept : Best score admits seen best) :
    Best score admits (seen ++ [x]) (if best.elim 0 score < score x ∧ admits x then some x else best) := by
  obtain ⟨most,found⟩ := kept
  by_cases better : best.elim 0 score < score x ∧ admits x
  · rw [if_pos better]
    refine ⟨?_,?_⟩
    · intro y member admitted
      rcases List.mem_append.mp member with old | new
      · exact (most y old admitted).trans better.1.le
      · rw [List.mem_singleton.mp new]
        exact le_rfl
    · rintro x' same
      obtain rfl := Option.some.inj same
      refine ⟨by omega,better.2,seen,[],rfl,?_⟩
      intro y member admitted
      exact (most y member admitted).trans_lt better.1
  · rw [if_neg better]
    refine ⟨?_,?_⟩
    · intro y member admitted
      rcases List.mem_append.mp member with old | new
      · exact most y old admitted
      · rw [List.mem_singleton.mp new] at admitted ⊢
        exact Nat.le_of_not_lt (fun more => better ⟨more,admitted⟩)
    · intro x' same
      obtain ⟨positive,admitted,before,after,rfl,less⟩ := found x' same
      exact ⟨positive,admitted,before,after ++ [x],by simp,less⟩

private theorem best_run {score : γ → Nat} {admits : γ → Bool} {seen xs : List γ} {best : Option γ}
    (kept : Best score admits seen best) : Best score admits (seen ++ xs) (firstBest score admits best xs) := by
  induction xs generalizing seen best with
  | nil => simpa [firstBest] using kept
  | cons x xs ih =>
    have moved := ih (best_step (x := x) kept)
    rwa [List.append_assoc] at moved

/-- The element that is kept is better than everything admitted before it. -/
theorem firstBest_spec {score : γ → Nat} {admits : γ → Bool} {xs : List γ} {x : γ}
    (found : firstBest score admits none xs = some x) :
    0 < score x ∧ admits x ∧ ∃ before after, xs = before ++ x :: after ∧ ∀ y ∈ before, admits y → score y < score x := by
  have nothing : Best score admits [] none := ⟨by simp,by simp⟩
  exact (best_run nothing).2 x found

end WSocks.Endings
