import Mathlib.Tactic

/-! # Seekable files

A file is its content and the position where the next read or write takes place.
-/
namespace Diago.Lib

structure File (α : Type) where
  content : List α := []
  pos : ℕ := 0

namespace File

variable {α : Type}

def seek (f : File α) (offset : ℕ) : File α := { f with pos := offset }

/-- Reads until `n` elements were read or the file ends. -/
def readFull (f : File α) (n : ℕ) : List α × File α :=
  let data := (f.content.drop f.pos).take n
  (data, { f with pos := f.pos + data.length })

def rest (f : File α) : List α := f.content.drop f.pos

theorem readFull_fst (f : File α) (n : ℕ) : (f.readFull n).1 = f.rest.take n := rfl

theorem rest_readFull (f : File α) (n : ℕ) : (f.readFull n).2.rest = f.rest.drop n := by
  simp only [readFull, rest, List.length_take, List.length_drop, List.drop_drop]
  obtain h | h := le_total n (f.content.length - f.pos)
  · rw [min_eq_left h]
  · rw [min_eq_right h, List.drop_of_length_le (by omega), List.drop_of_length_le (by omega)]

@[simp] theorem rest_seek_zero (f : File α) : (f.seek 0).rest = f.content := rfl

variable [Zero α]

def write (f : File α) (data : List α) : File α where
  content := f.content.take f.pos ++ List.replicate (f.pos - f.content.length) 0 ++ data ++
    f.content.drop (f.pos + data.length)
  pos := f.pos + data.length

theorem write_at_end {f : File α} (h : f.pos = f.content.length) (data : List α) :
    f.write data = ⟨f.content ++ data, (f.content ++ data).length⟩ := by
  simp [write, h]

theorem write_at_start (old data tail : List α) (h : old.length = data.length) (pos : ℕ) :
    (((⟨old ++ tail, pos⟩ : File α).seek 0).write data).content = data ++ tail := by
  simp [write, seek, ← h]

end File

end Diago.Lib
