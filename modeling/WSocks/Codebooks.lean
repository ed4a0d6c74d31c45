import Mathlib

/-!
# Codebooks

An encoding that is given by a table for some values and by a code for all others.
What the code writes is marked, so that no entry of the table is taken for it.
-/

namespace WSocks.Codebooks

/-- A table of encoded values, and a code behind a mark for every other value. -/
structure Codebook (α β : Type) [DecidableEq β] where
  table : List (α × List β)
  mark : List β
  code : α → List β
  uncode : List β → Option α
  uncode_code : ∀ a, uncode (code a) = some a
  unmarked : ∀ entry ∈ table, ¬ mark <+: entry.2
  distinct : (table.map Prod.snd).Nodup

variable {α β : Type} [DecidableEq α] [DecidableEq β] (book : Codebook α β)

def Codebook.encode (a : α) : List β :=
  match book.table.lookup a with
  | some word => word
  | none => book.mark ++ book.code a

def Codebook.decode (word : List β) : Option α :=
  if book.mark <+: word then book.uncode (word.drop book.mark.length)
  else (book.table.find? (fun entry => entry.2 = word)).map Prod.fst

omit [DecidableEq α] in
/-- An entry of the table is found again by its word. -/
theorem find_of_mem {table : List (α × List β)} (distinct : (table.map Prod.snd).Nodup) {entry : α × List β}
    (member : entry ∈ table) : table.find? (fun other => other.2 = entry.2) = some entry := by
  induction table with
  | nil => simp at member
  | cons head rest ih =>
    rw [List.map_cons,List.nodup_cons] at distinct
    rcases List.mem_cons.mp member with rfl | later
    · simp
    · have other : head.2 ≠ entry.2 := fun same => distinct.1 (same ▸ List.mem_map_of_mem later)
      rw [List.find?_cons_of_neg (by simpa using other)]
      exact ih distinct.2 later

theorem decode_encode (a : α) : book.decode (book.encode a) = some a := by
  cases listed : book.table.lookup a with
  | none =>
    rw [Codebook.encode,listed,Codebook.decode,if_pos (List.prefix_append _ _),List.drop_left]
    exact book.uncode_code a
  | some word =>
    have member : (a,word) ∈ book.table := by
      obtain ⟨before,after,whole,-⟩ := List.lookup_eq_some_iff.mp listed
      simp [whole]
    rw [Codebook.encode,listed,Codebook.decode,if_neg (book.unmarked _ member),find_of_mem book.distinct member]
    rfl

end WSocks.Codebooks
