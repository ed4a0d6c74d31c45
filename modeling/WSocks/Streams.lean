import Mathlib

/-!
# Sources drained by a loop

A source is read chunk by chunk until it reports that it is finished; the loop
that drains it may end with the collected items, end with a fault, or never end.
`Emits` says what a source still delivers, and the loop collects exactly that.
-/

namespace WSocks.Streams

/-- A source of items: the state of the stream, whether it is finished, and one
    read, which delivers a chunk or fails. -/
structure Source (Fault Item : Type) where
  Stream : Type
  finished : Stream → Bool
  read : Stream → Except Fault (List Item × Stream)

variable {Fault Item : Type}

/-- Reads a source to its end into `output`: `none` when the loop never ends. -/
def Source.drain (source : Source Fault Item) (stream : source.Stream) (output : List Item) :
    Option (Except Fault (List Item)) :=
  if source.finished stream then some (.ok output)
  else match source.read stream with
    | .error fault => some (.error fault)
    | .ok (chunk,next) => source |>.drain next (output ++ chunk)
partial_fixpoint

/-- The items that the stream still delivers before it is finished. -/
inductive Emits (source : Source Fault Item) : source.Stream → List Item → Prop
  | done {stream : source.Stream} : source.finished stream = true → Emits source stream []
  | more {stream next : source.Stream} {chunk rest : List Item} : source.finished stream = false →
      source.read stream = .ok (chunk,next) → Emits source next rest → Emits source stream (chunk ++ rest)

/-- The loop ends with everything the stream delivers, after what it had. -/
theorem drain_of_emits {source : Source Fault Item} {stream : source.Stream} {items : List Item}
    (emits : Emits source stream items) :
    ∀ output, source.drain stream output = some (.ok (output ++ items)) := by
  induction emits with
  | done finished =>
    intro output
    rw [Source.drain]
    simp [finished]
  | @more stream next chunk rest running step _ ih =>
    intro output
    rw [Source.drain]
    simp [running,step,ih,List.append_assoc]

/-- A stream that delivers nothing and stays as it is keeps the loop going for ever. -/
theorem drain_stalled {source : Source Fault Item} {stream : source.Stream}
    (running : source.finished stream = false) (stalled : source.read stream = .ok ([],stream))
    (output : List Item) : source.drain stream output = none := by
  have sound := Source.drain.partial_correctness source (fun at_ _ _ => at_ ≠ stream)
  by_contra ends
  obtain ⟨result,ended⟩ := Option.ne_none_iff_exists'.mp ends
  refine sound ?_ stream output result ended rfl
  rintro loop ih stream' output' result' step rfl
  simp only [running,stalled,Bool.false_eq_true,if_false] at step
  exact ih _ _ _ step rfl

/-- The loop comes to a stream that delivers nothing and stays as it is. -/
inductive Stalls (source : Source Fault Item) : source.Stream → Prop
  | here {stream : source.Stream} : source.finished stream = false → source.read stream = .ok ([],stream) →
      Stalls source stream
  | later {stream next : source.Stream} {chunk : List Item} : source.finished stream = false →
      source.read stream = .ok (chunk,next) → Stalls source next → Stalls source stream

theorem drain_of_stalls {source : Source Fault Item} {stream : source.Stream} (stalls : Stalls source stream) :
    ∀ output, source.drain stream output = none := by
  induction stalls with
  | here running stalled => exact drain_stalled running stalled
  | @later stream next chunk running step _ ih =>
    intro output
    rw [Source.drain]
    simp [running,step,ih]

/-- If every read either makes a measure smaller or changes nothing, then the loop goes on
    for ever only when it comes to a read that changes nothing. -/
theorem drain_eq_none_iff {source : Source Fault Item} {left : source.Stream → Nat}
    (progress : ∀ stream chunk next, source.finished stream = false → source.read stream = .ok (chunk,next) →
      chunk = [] ∧ next = stream ∨ left next < left stream) (stream : source.Stream) (output : List Item) :
    source.drain stream output = none ↔ Stalls source stream := by
  constructor
  · intro endless
    induction bound : left stream using Nat.strong_induction_on generalizing stream output with
    | _ n ih =>
      rw [Source.drain] at endless
      by_cases finished : source.finished stream = true
      · simp [finished] at endless
      · have running : source.finished stream = false := by simpa using finished
        cases step : source.read stream with
        | error fault => simp [running,step] at endless
        | ok pair =>
          obtain ⟨chunk,next⟩ := pair
          simp only [running,step,Bool.false_eq_true,if_false] at endless
          rcases progress stream chunk next running step with ⟨rfl,rfl⟩ | smaller
          · exact .here running step
          · exact .later running step (ih (left next) (by omega) next _ endless rfl)
  · intro stalls
    exact drain_of_stalls stalls output

end WSocks.Streams
