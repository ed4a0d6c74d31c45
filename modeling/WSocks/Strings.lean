import Mathlib

/-!
# Java strings

The methods of `java.lang.String` on which the profiles and the lists of
applications rest: `trim`, `split` and `replace` with a single character, and
Groovy's `join`.
-/

namespace WSocks.Strings

/-- The characters that `trim` takes off: space and all below it. -/
def Blank (c : Char) : Bool := c ≤ ' '

/-- `trim()`. -/
def trim (text : String) : String := String.ofList ((text.toList.dropWhile Blank).rdropWhile Blank)

/-- `split(separator)`: the pieces without empty ones at the end; a text without the
    separator is its own piece, even the empty one. -/
def split (separator : Char) (text : String) : List String :=
  if separator ∈ text.toList then ((text.toList.splitOn separator).rdropWhile List.isEmpty).map String.ofList
  else [text]

/-- `join(separator)`. -/
def join (separator : Char) (texts : List String) : String :=
  String.ofList ([separator].intercalate (texts.map String.toList))

/-- `replace(target, replacement)` for a target of one character. -/
def replace (target : Char) (replacement text : String) : String :=
  String.ofList (text.toList.flatMap (fun c => if c = target then replacement.toList else [c]))

/-- The number that digits stand for. -/
def decimal? (digits : List Char) : Option Nat :=
  if digits ≠ [] ∧ digits.all Char.isDigit then some (digits.foldl (fun n c => 10 * n + (c.toNat - '0'.toNat)) 0)
  else none

/-- Groovy's `toInteger()` on a text of ASCII characters. -/
def toInteger? (text : String) : Option Int32 :=
  match (trim text).toList with
  | '-' :: digits => (decimal? digits).bind (fun n => if n ≤ 2 ^ 31 then some (-(Int32.ofNat n)) else none)
  | '+' :: digits => (decimal? digits).bind (fun n => if n < 2 ^ 31 then some (Int32.ofNat n) else none)
  | digits => (decimal? digits).bind (fun n => if n < 2 ^ 31 then some (Int32.ofNat n) else none)

/-! ### Trimmed texts -/

/-- A text that `trim` leaves as it is. -/
def Trimmed (text : String) : Prop := trim text = text

instance (text : String) : Decidable (Trimmed text) := inferInstanceAs (Decidable (_ = _))

theorem trim_toList (text : String) : (trim text).toList = (text.toList.dropWhile Blank).rdropWhile Blank := by
  simp [trim]

/-- The last character of a trimmed text is not blank. -/
theorem Trimmed.getLast {text : String} (trimmed : Trimmed text) (nonempty : text.toList ≠ []) :
    Blank (text.toList.getLast nonempty) = false := by
  have same : (text.toList.dropWhile Blank).rdropWhile Blank = text.toList := by
    rw [← trim_toList]
    exact congrArg String.toList trimmed
  have last := List.rdropWhile_last_not Blank (text.toList.dropWhile Blank) (by rw [same]; exact nonempty)
  simpa [same] using last

/-! ### Splitting and joining -/

/-- Pieces at the end that are empty do not matter to who skips empty pieces. -/
private theorem filter_rdropWhile (pieces : List (List Char)) :
    (pieces.rdropWhile List.isEmpty).filter (· ≠ []) = pieces.filter (· ≠ []) := by
  induction pieces using List.reverseRecOn with
  | nil => rfl
  | append_singleton front last ih =>
    by_cases empty : last = []
    · rw [List.rdropWhile_concat_pos _ _ _ (by simp [empty]),ih]
      simp [empty]
    · rw [List.rdropWhile_concat_neg _ _ _ (by simpa using empty)]

/-- The pieces that are not empty. -/
theorem filter_split (separator : Char) (text : String) :
    (split separator text).filter (· ≠ "") = ((text.toList.splitOn separator).filter (· ≠ [])).map String.ofList := by
  unfold split
  by_cases inside : separator ∈ text.toList
  · rw [if_pos inside,List.filter_map,← filter_rdropWhile]
    refine congrArg (List.map String.ofList) (List.filter_congr ?_)
    intro piece _
    simp
  · rw [if_neg inside,List.splitOn_eq_singleton inside]
    by_cases empty : text = ""
    · simp [empty]
    · have other : text.toList ≠ [] := by simpa using empty
      simp [empty]

/-- Joined texts are found again, if they are not empty and do not contain the separator. -/
theorem filter_split_join {separator : Char} {texts : List String}
    (each : ∀ text ∈ texts, text ≠ "" ∧ separator ∉ text.toList) :
    (split separator (join separator texts)).filter (· ≠ "") = texts := by
  rw [filter_split,join,String.toList_ofList]
  by_cases none : texts = []
  · subst none
    rfl
  · rw [List.splitOn_intercalate separator (by simpa using fun text member => (each text member).2) (by simpa using none)]
    have kept : (texts.map String.toList).filter (· ≠ []) = texts.map String.toList := by
      rw [List.filter_eq_self]
      intro piece member
      obtain ⟨text,inside,rfl⟩ := List.mem_map.mp member
      simpa using (each text inside).1
    rw [kept,List.map_map]
    simp [Function.comp_def]

end WSocks.Strings
