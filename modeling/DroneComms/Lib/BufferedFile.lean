import Mathlib.Data.List.Basic

/-!
# Buffered files

A file that is open for writing behind a text and a binary buffer, line by line.  A `write`
that returns may leave its line in a buffer.  When the disk raises, the file keeps what its
binary buffer has, to try again, and drops what its text buffer has.

How large the buffers are is left open: the environment says how many lines reach the disk,
and how many of the others are kept when it raises.  A line that is on the disk in part only is
not on the disk.
-/

namespace DroneComms

universe u

/-- The lines of a file that are on the disk, and those that are in its buffers. -/
structure BufferedFile (α : Type u) where
  disk : List α := []
  pending : List α := []
deriving DecidableEq

namespace BufferedFile

variable {α : Type u} (f : BufferedFile α)

/-- A write that returns, and `saved` of the lines that were pending behind it. -/
def write (line : α) (saved : ℕ) : BufferedFile α where
  disk := f.disk ++ (f.pending ++ [line]).take saved
  pending := (f.pending ++ [line]).drop saved

/-- A flush that returns. -/
def flush : BufferedFile α where
  disk := f.disk ++ f.pending

/-- A write, a flush or a close that raises, with `saved` pending lines on the disk and the
next `kept` still in the binary buffer. -/
def cut (saved kept : ℕ) : BufferedFile α where
  disk := f.disk ++ f.pending.take saved
  pending := (f.pending.drop saved).take kept

/-- The pending lines that are dropped then. -/
def dropped (saved kept : ℕ) : List α := (f.pending.drop saved).drop kept

/-- The lines that are on the disk or pending. -/
def lines : List α := f.disk ++ f.pending

theorem lines_write (line : α) (saved : ℕ) : (f.write line saved).lines = f.lines ++ [line] := by
  simp only [lines, write, List.append_assoc, List.take_append_drop]

theorem lines_flush : f.flush.lines = f.lines := List.append_nil _

theorem lines_cut (saved kept : ℕ) :
    (f.cut saved kept).lines ++ f.dropped saved kept = f.lines := by
  simp only [lines, cut, dropped, List.append_assoc, List.take_append_drop]

end BufferedFile

end DroneComms
