import Playpen.Input

/-!
# Streams of a run

What connects a program to its surroundings: the input it has not read yet, and
two captured streams, its output and its diagnostics. A captured stream keeps
the beginning of what is written to it, up to its capacity, and drops the rest;
however the program cuts what it writes, the stream holds the same
(`Capture.write_append`).

A stream that is full may have lost something, so it counts as overflowed
whether or not it did.
-/

namespace Playpen

/-- The beginning of what was written, at most `capacity` bytes of it. -/
structure Capture where
  capacity : Nat
  kept : Array UInt8
deriving DecidableEq, Repr

namespace Capture

/-- Nothing written yet. -/
def empty (capacity : Nat) : Capture := ⟨capacity, #[]⟩

/-- One write: what does not fit is lost. -/
def write (c : Capture) (bs : Bytes) : Capture :=
  { c with kept := c.kept ++ bs.take (c.capacity - c.kept.size) }

/-- What was kept. -/
def bytes (c : Capture) : Bytes := c.kept.toList

/-- There is no room left. -/
def isFull (c : Capture) : Bool := c.capacity ≤ c.kept.size

/-- The text of what was kept. -/
def text (c : Capture) : String := String.ofList (Utf8.decode c.bytes)

@[simp]
theorem bytes_empty (capacity : Nat) : (empty capacity).bytes = [] := rfl

@[simp]
theorem bytes_write (c : Capture) (bs : Bytes) :
    (c.write bs).bytes = c.bytes ++ bs.take (c.capacity - c.bytes.length) := by
  simp [bytes, write]

theorem isFull_iff (c : Capture) : c.isFull ↔ c.capacity ≤ c.bytes.length := by
  simp [isFull, bytes]

@[simp]
theorem capacity_write (c : Capture) (bs : Bytes) : (c.write bs).capacity = c.capacity := rfl

/-- A capture is its capacity and what it kept. -/
theorem eq_of_bytes_eq {c d : Capture} (hc : c.capacity = d.capacity) (hb : c.bytes = d.bytes) :
    c = d := by
  obtain ⟨n, k⟩ := c
  obtain ⟨m, l⟩ := d
  exact (Capture.mk.injEq ..).mpr ⟨hc, Array.ext' hb⟩

/-- Two writes keep what one write of both would. -/
theorem write_append (c : Capture) (bs cs : Bytes) :
    (c.write bs).write cs = c.write (bs ++ cs) := by
  refine eq_of_bytes_eq rfl ?_
  simp only [bytes_write, capacity_write, List.length_append, List.length_take, List.take_append,
    List.append_assoc, List.append_cancel_left_eq]
  congr 1
  omega

end Capture

/-- The streams of one or more runs. -/
structure Streams where
  /-- The input not read yet. -/
  unread : Bytes
  output : Capture
  diagnostics : Capture
deriving DecidableEq, Repr

namespace Streams

/-- Streams with this input, of which each keeps `capacity` bytes. -/
def ofInput (input : Input) (capacity : Nat) : Streams :=
  ⟨input.bytes, .empty capacity, .empty capacity⟩

/-- A program writes to stream 1, its output, or to stream 2, its diagnostics.
    There are no others: what is written to them is lost. -/
def write (s : Streams) (stream : Nat) (bs : Bytes) : Streams :=
  match stream with
  | 1 => { s with output := s.output.write bs }
  | 2 => { s with diagnostics := s.diagnostics.write bs }
  | _ => s

/-- The next bytes of the input: at most `limit?`, or all of them. -/
def read (s : Streams) (limit? : Option Nat) : Bytes × Streams :=
  let n := limit?.getD s.unread.length
  (s.unread.take n, { s with unread := s.unread.drop n })

/-- A captured stream may have lost something. -/
def overflowed (s : Streams) : Bool := s.output.isFull || s.diagnostics.isFull

end Streams

end Playpen
