import Diago.Lib.Bytes

/-! # Text read line by line

The lines of a text are its segments that end in a line feed, each without one
carriage return before it. A text written as lines with CRLF after each is read
back as those lines.
-/
namespace Diago.Lib

abbrev lineFeed : UInt8 := 0x0A
abbrev carriageReturn : UInt8 := 0x0D

def OneLine (s : Bytes) : Prop := lineFeed ∉ s

instance (s : Bytes) : Decidable (OneLine s) := inferInstanceAs (Decidable (_ ∉ _))

@[simp] theorem oneLine_append {s t : Bytes} : OneLine (s ++ t) ↔ OneLine s ∧ OneLine t := by
  simp [OneLine]

@[simp] theorem oneLine_cons {b : UInt8} {s : Bytes} :
    OneLine (b :: s) ↔ b ≠ lineFeed ∧ OneLine s := by
  simp [OneLine, eq_comm]

@[simp] theorem oneLine_nil : OneLine [] := by simp [OneLine]

theorem OneLine.of_subset {s t : Bytes} (h : OneLine t) (hsub : ∀ b ∈ s, b ∈ t) : OneLine s :=
  fun hmem => h (hsub _ hmem)

theorem OneLine.of_graphic {s : Bytes} (h : ∀ b ∈ s, Graphic b) : OneLine s := by
  intro hmem
  have hnot : ¬ Graphic lineFeed := by decide
  exact hnot (h lineFeed hmem)

theorem NoSpace.oneLine {s : Bytes} (h : NoSpace s) : OneLine s := by
  intro hmem
  obtain ⟨t, u, rfl⟩ := List.append_of_mem hmem
  have hzero := (spaceLen_eq_zero _).mp (h (lineFeed :: u) (List.suffix_append t _))
  exact hzero [lineFeed] (by decide) (by simp)

theorem OneLine.intercalate {sep : Bytes} {ls : List Bytes} (hsep : OneLine sep)
    (h : ∀ l ∈ ls, OneLine l) : OneLine (sep.intercalate ls) := by
  have hne {s : Bytes} (hs : OneLine s) : ∀ b ∈ s, b ≠ lineFeed := by
    rintro b hb rfl
    exact hs hb
  intro hmem
  exact forall_mem_intercalate (hne hsep) (fun l hl => hne (h l hl)) lineFeed hmem rfl

/-- The segments of a list that end in `d`, without it. What follows the last `d` is dropped. -/
def segments {α : Type} [DecidableEq α] (d : α) : (cur rest : List α) → List (List α)
  | _, [] => []
  | cur, x :: rest => if x = d then cur :: segments d [] rest else segments d (cur ++ [x]) rest

def unfinished {α : Type} [DecidableEq α] (d : α) : (cur rest : List α) → List α
  | cur, [] => cur
  | cur, x :: rest => if x = d then unfinished d [] rest else unfinished d (cur ++ [x]) rest

def stripReturn (l : Bytes) : Bytes :=
  if l.getLast? = some carriageReturn then l.dropLast else l

def lines (data : Bytes) : List Bytes := (segments lineFeed [] data).map stripReturn

def lastLine (data : Bytes) : Bytes := unfinished lineFeed [] data

def writeLines (ls : List Bytes) : Bytes := ls.flatMap fun l => l ++ [carriageReturn, lineFeed]

section Segments
variable {α : Type} [DecidableEq α] {d : α}

theorem segments_append (cur l rest : List α) (h : d ∉ l) :
    segments d cur (l ++ d :: rest) = (cur ++ l) :: segments d [] rest := by
  induction l generalizing cur with
  | nil => simp [segments]
  | cons x l ih =>
    simp only [List.mem_cons, not_or] at h
    have hx : x ≠ d := fun hx => h.1 hx.symm
    rw [List.cons_append, segments, if_neg hx, ih _ h.2]
    simp

/-- The segments of a text and of what follows it: the first of those is still begun in the text. -/
theorem segments_append_list (cur s t : List α) :
    segments d cur (s ++ t) = segments d cur s ++ segments d (unfinished d cur s) t := by
  induction s generalizing cur with
  | nil => rfl
  | cons x s ih =>
    by_cases hx : x = d
    · simp [segments, unfinished, hx, ih]
    · simp [segments, unfinished, hx, ih]

theorem segments_flatMap (ls : List (List α)) (h : ∀ l ∈ ls, d ∉ l) :
    segments d [] (ls.flatMap fun l => l ++ [d]) = ls := by
  induction ls with
  | nil => rfl
  | cons l ls ih =>
    simp only [List.forall_mem_cons] at h
    rw [List.flatMap_cons, List.append_assoc, List.singleton_append, segments_append _ _ _ h.1,
      ih h.2]
    simp

theorem not_mem_segments (cur s : List α) (hcur : d ∉ cur) : ∀ l ∈ segments d cur s, d ∉ l := by
  induction s generalizing cur with
  | nil => simp [segments]
  | cons x s ih =>
    by_cases hx : x = d
    · rw [segments, if_pos hx]
      simp only [List.forall_mem_cons]
      exact ⟨hcur, ih [] (by simp)⟩
    · rw [segments, if_neg hx]
      apply ih
      simp [hcur, Ne.symm hx]

end Segments

theorem stripReturn_append (l : Bytes) : stripReturn (l ++ [carriageReturn]) = l := by
  simp [stripReturn]

theorem stripReturn_subset (l : Bytes) : ∀ b ∈ stripReturn l, b ∈ l := by
  intro b hb
  unfold stripReturn at hb
  split at hb
  · exact List.mem_of_mem_dropLast hb
  · exact hb

theorem stripReturn_of_ne {l : Bytes} (h : l.getLast? ≠ some carriageReturn) :
    stripReturn l = l := if_neg h

theorem lines_append {l : Bytes} (h : lineFeed ∉ l) (rest : Bytes) :
    lines (l ++ lineFeed :: rest) = stripReturn l :: lines rest := by
  rw [lines, segments_append _ _ _ h]
  rfl

theorem lines_append_crlf (data : Bytes) :
    lines (data ++ [carriageReturn, lineFeed]) = lines data ++ [lastLine data] := by
  have hlast : segments lineFeed (unfinished lineFeed [] data) [carriageReturn, lineFeed] =
      [unfinished lineFeed [] data ++ [carriageReturn]] := rfl
  rw [lines, segments_append_list, hlast, List.map_append, List.map_singleton, stripReturn_append]
  rfl

theorem lineFeed_not_mem {data l : Bytes} (h : l ∈ lines data) : lineFeed ∉ l := by
  rw [lines, List.mem_map] at h
  obtain ⟨seg, hseg, rfl⟩ := h
  intro hmem
  exact not_mem_segments [] data (by simp) seg hseg (stripReturn_subset seg _ hmem)

theorem lines_writeLines {ls : List Bytes} (h : ∀ l ∈ ls, lineFeed ∉ l) :
    lines (writeLines ls) = ls := by
  have hwrite : writeLines ls =
      (ls.map (· ++ [carriageReturn])).flatMap fun l => l ++ [lineFeed] := by
    simp [writeLines, List.flatMap_map]
  rw [lines, hwrite, segments_flatMap]
  · simp [Function.comp_def, stripReturn_append]
  · simp only [List.forall_mem_map, List.mem_append, List.mem_singleton, not_or]
    exact fun l hl => ⟨h l hl, by decide⟩

end Diago.Lib
