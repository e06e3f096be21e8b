import Mathlib.Tactic.Common
import Playpen.Evaluation

/-!
# What a guest leaves behind

A program that ends by itself is known by what it wrote, in order, and by how it
ended (`Behaviour.transcript?`). The streams of its evaluation hold what one
write of everything it sent to them would have left, however it divided its
output and went from one stream to the other (`runProgram_transcript`).
-/

namespace Playpen

/-! ## Streams after many writes -/

/-- What was sent to a stream by these writes. -/
def sentTo (stream : Nat) (writes : List (Nat × Bytes)) : Bytes :=
  (writes.filter fun w => w.1 == stream).flatMap Prod.snd

theorem sentTo_cons (stream : Nat) (w : Nat × Bytes) (writes : List (Nat × Bytes)) :
    sentTo stream (w :: writes) =
      if w.1 = stream then w.2 ++ sentTo stream writes else sentTo stream writes := by
  by_cases h : w.1 = stream
  · rw [if_pos h, sentTo, List.filter_cons_of_pos (by simpa using h), List.flatMap_cons, sentTo]
  · rw [if_neg h, sentTo, List.filter_cons_of_neg (by simpa using h), sentTo]

namespace Capture

theorem write_nil (c : Capture) : c.write [] = c :=
  eq_of_bytes_eq rfl (by rw [bytes_write, List.take_nil, List.append_nil])

/-- Nothing is lost of what is shorter than the capacity. -/
theorem bytes_write_empty {capacity : Nat} {bs : Bytes} (h : bs.length ≤ capacity) :
    ((empty capacity).write bs).bytes = bs := by
  rw [bytes_write, bytes_empty, List.nil_append]
  exact List.take_of_length_le h

theorem isFull_write_empty {capacity : Nat} {bs : Bytes} :
    ((empty capacity).write bs).isFull ↔ capacity ≤ bs.length := by
  rw [isFull_iff, bytes_write, capacity_write, bytes_empty, List.nil_append, List.length_take]
  change capacity ≤ min capacity bs.length ↔ _
  omega

end Capture

namespace Streams

theorem write_eq (s : Streams) (stream : Nat) (bs : Bytes) :
    s.write stream bs =
      { s with
        output := if stream = 1 then s.output.write bs else s.output
        diagnostics := if stream = 2 then s.diagnostics.write bs else s.diagnostics } :=
  match stream with
  | 0 | 1 | 2 | _ + 3 => rfl

/-- Each stream holds what one write of all that was sent to it leaves. -/
theorem foldl_write (writes : List (Nat × Bytes)) (s : Streams) :
    writes.foldl (fun s w => s.write w.1 w.2) s =
      { s with
        output := s.output.write (sentTo 1 writes)
        diagnostics := s.diagnostics.write (sentTo 2 writes) } := by
  induction writes generalizing s with
  | nil =>
    change s = { s with output := s.output.write [], diagnostics := s.diagnostics.write [] }
    rw [Capture.write_nil, Capture.write_nil]
  | cons w writes ih =>
    have hwrite (c : Capture) (stream : Nat) :
        (if w.1 = stream then c.write w.2 else c).write (sentTo stream writes) =
          c.write (sentTo stream (w :: writes)) := by
      rw [sentTo_cons]
      split
      · exact Capture.write_append c _ _
      · rfl
    rw [List.foldl_cons, ih, write_eq, hwrite, hwrite]

end Streams

/-! ## Runs of programs -/

namespace Guest

/-- What a program that ended by itself did. -/
structure Transcript where
  /-- What it wrote and to which streams, in order. -/
  writes : List (Nat × Bytes)
  /-- The input that it left unread. -/
  unread : Bytes
  halt : Halt

/-- What a program does that has `unread` to read, if it ends by itself. -/
def Behaviour.transcript? (unread : Bytes) : Behaviour → Option Transcript
  | .halt h => some ⟨[], unread, h⟩
  | .spin => none
  | .write stream bs next =>
    (next.transcript? unread).map fun t => { t with writes := (stream, bs) :: t.writes }
  | .read limit? next =>
    let n := limit?.getD unread.length
    (next (unread.take n)).transcript? (unread.drop n)
  | .pause _ next => next.transcript? unread

end Guest

namespace Evaluation

open Guest

/-- A program that ends by itself is run to its end. -/
theorem runProgram_transcript {b : Behaviour} : ∀ {t : Transcript} {e : Evaluation},
    b.transcript? e.streams.unread = some t →
      runProgram none e b =
        { e with
          phase := .ended (.ofHalt e.cancelled t.halt)
          streams :=
            { unread := t.unread
              output := e.streams.output.write (sentTo 1 t.writes)
              diagnostics := e.streams.diagnostics.write (sentTo 2 t.writes) } } := by
  induction b with
  | halt h =>
    intro t e ht
    obtain rfl := Option.some.inj ht
    change _ = { e with
      phase := _
      streams := ⟨_, e.streams.output.write [], e.streams.diagnostics.write []⟩ }
    rw [Capture.write_nil, Capture.write_nil, runProgram]
  | spin => exact fun ht => nomatch ht
  | write stream bs next ih =>
    intro t e ht
    obtain ⟨t', ht', rfl⟩ := Option.map_eq_some_iff.1 ht
    have hunread : (e.streams.write stream bs).unread = e.streams.unread := by
      rw [Streams.write_eq]
    have hfold := Streams.foldl_write ((stream, bs) :: t'.writes) e.streams
    rw [List.foldl_cons, Streams.foldl_write] at hfold
    have hout : (e.streams.write stream bs).output.write (sentTo 1 t'.writes) = _ :=
      congrArg Streams.output hfold
    have herr : (e.streams.write stream bs).diagnostics.write (sentTo 2 t'.writes) = _ :=
      congrArg Streams.diagnostics hfold
    rw [runProgram, ih (hunread ▸ ht'), hout, herr]
  | read limit? next ih =>
    intro t e ht
    rw [runProgram]
    exact ih _ ht
  | pause d next ih =>
    intro t e ht
    rw [runProgram]
    exact ih ht

end Evaluation

end Playpen
