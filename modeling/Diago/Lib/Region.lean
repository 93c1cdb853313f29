import Mathlib.Tactic

/-! # Regions of a buffer

A slice of a buffer is a region of it: it shows what the buffer holds there when it is
read. Copying fills a buffer from its beginning with as much as it has room for.
-/
namespace Diago.Lib

variable {α : Type}

structure Region where
  off : ℕ
  len : ℕ

namespace Region

def view (p : Region) (buf : List α) : List α := (buf.drop p.off).take p.len

def tail (p : Region) (n : ℕ) : Region := ⟨p.off + n, p.len - n⟩

theorem view_tail (p : Region) (n : ℕ) (buf : List α) :
    (p.tail n).view buf = (p.view buf).drop n := by
  simp [view, tail, List.drop_take]

end Region

def copied (dst src : List α) : ℕ := min dst.length src.length

def copyInto (dst src : List α) : List α := src.take dst.length ++ dst.drop src.length

@[simp] theorem length_copyInto (dst src : List α) : (copyInto dst src).length = dst.length := by
  simp only [copyInto, List.length_append, List.length_take, List.length_drop]
  omega

theorem copied_le (dst src : List α) : copied dst src ≤ dst.length := min_le_left _ _

theorem take_copyInto (dst src : List α) :
    (copyInto dst src).take (copied dst src) = src.take dst.length := by
  have hlen : (src.take dst.length).length = copied dst src := List.length_take
  rw [copyInto, ← hlen, List.take_left]

theorem drop_copied (dst src : List α) : src.drop (copied dst src) = src.drop dst.length := by
  obtain h | h := le_total dst.length src.length
  · rw [copied, min_eq_left h]
  · rw [copied, min_eq_right h, List.drop_length, List.drop_of_length_le h]

theorem Region.view_copyInto {p : Region} {dst src : List α} (hsrc : p.off + p.len ≤ src.length)
    (hdst : src.length ≤ dst.length) : p.view (copyInto dst src) = p.view src := by
  rw [copyInto, List.take_of_length_le hdst, view, view,
    List.drop_append_of_le_length (by omega), List.take_append_of_le_length]
  rw [List.length_drop]
  omega

end Diago.Lib
