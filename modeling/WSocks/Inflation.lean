import WSocks.Platforms

/-!
# Decompression that never ends

The loop of `Zlib.decompress` asks only whether the inflater is finished. A stream that
wants more input or a dictionary is never finished and keeps the loop going.
-/

namespace WSocks.Inflation
open WSocks.Streams WSocks.Buffers WSocks.Libraries WSocks.Messages WSocks.Platforms

/-- Reading into a buffer of the given size comes to a stream that is not finished, but
    wants more input or a dictionary. -/
inductive Starves (inflater : Inflater) (size : Nat) : inflater.Stream → Prop
  | here {stream : inflater.Stream} : inflater.finished stream = false → inflater.starved stream = true →
      Starves inflater size stream
  | later {stream next : inflater.Stream} {chunk : Buffer} : inflater.finished stream = false →
      inflater.inflate stream size = .ok (chunk,next) → Starves inflater size next → Starves inflater size stream

/-- Only a starved stream gives nothing and stays as it is. -/
theorem stalls_iff (inflater : Inflater) {size : Nat} (positive : 0 < size) (stream : (inflater.source size).Stream) :
    Stalls (inflater.source size) stream ↔ Starves inflater size stream := by
  constructor
  · intro stalls
    induction stalls with
    | @here stream running stalled =>
      refine .here running ?_
      by_contra fed
      have smaller := inflater.inflate_progress stream size [] stream positive running (by simpa using fed) stalled
      exact absurd smaller (lt_irrefl _)
    | later running step _ ih => exact .later running step ih
  · intro starves
    induction starves with
    | @here stream running starved => exact .here running (inflater.inflate_starved stream size running starved)
    | later running step _ ih => exact .later running step ih

/-- A read that is not starved makes progress. -/
theorem inflate_left (inflater : Inflater) (size : Nat) (positive : 0 < size) (stream next : inflater.Stream)
    (chunk : Buffer) (running : inflater.finished stream = false)
    (step : inflater.inflate stream size = .ok (chunk,next)) :
    chunk = [] ∧ next = stream ∨ inflater.remaining next < inflater.remaining stream := by
  cases starved : inflater.starved stream with
  | true =>
    rw [inflater.inflate_starved stream size running starved] at step
    cases step
    exact .inl ⟨rfl,rfl⟩
  | false => exact .inr (inflater.inflate_progress stream size chunk next positive running starved step)

/-- The data of a stream that starves. -/
def Endless (platform : Platform) (data : Buffer) : Prop :=
  Starves platform.zip.inflater 1024 (platform.zip.inflater.setInput data)

theorem decompress_eq_none_iff (platform : Platform) (data : Buffer) :
    (Zlib.decompress platform data).run = none ↔ Endless platform data := by
  have progress := inflate_left platform.zip.inflater 1024 (by omega)
  exact (drain_eq_none_iff (fun stream chunk next => progress stream next chunk) _ _).trans
    (stalls_iff platform.zip.inflater (by omega) _)

/-- Decompression ends exactly when the stream does not starve, and with `zip` on a message
    is decrypted, or refused, exactly when the stream inside does not. -/
theorem decompress_ends_iff (platform : Platform) :
    (∀ data, (∃ result, (Zlib.decompress platform data).run = some result) ↔ ¬ Endless platform data) ∧
    ∀ encrypted raw, (∃ result, (Aes.decrypt platform encrypted raw true).run = some result) ↔
      ∀ value, AesKey raw → platform.cipher.decrypt raw Aes.iv encrypted = .ok value → ¬ Endless platform value := by
  have ends : ∀ data, (∃ result, (Zlib.decompress platform data).run = some result) ↔ ¬ Endless platform data := by
    intro data
    rw [← decompress_eq_none_iff,← Ne.eq_def,Option.ne_none_iff_exists']
  refine ⟨ends,?_⟩
  intro encrypted raw
  by_cases valid : AesKey raw
  · rcases decrypted : platform.cipher.decrypt raw Aes.iv encrypted with failure | value
    · simp [Aes.decrypt,init_ok valid,decrypted]
    · simpa [Aes.decrypt,init_ok valid,decrypted,valid] using ends value
  · obtain ⟨failure,refused⟩ := init_error valid
    simp [Aes.decrypt,refused,valid]

/-- Nothing at all is a stream that wants input. -/
theorem empty_never_ends : ¬ ∃ result, (Zlib.decompress platform []).run = some result := by
  have stalled : (inflater.source 1024).drain (some [] : Option Buffer) [] = none := drain_stalled rfl rfl []
  rintro ⟨result,ended⟩
  exact absurd (stalled.symm.trans ended) (by simp)

end WSocks.Inflation
