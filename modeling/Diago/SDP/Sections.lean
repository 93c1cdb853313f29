import Diago.Lib.Lines
import Diago.SDP.Description

/-! # A body read section by section

The lines before the first m= line are session level; every m= line opens a media
section. A stream is described by the session-level lines and the lines of its own
section.
-/
namespace Diago.SDP
open Lib

structure MediaSection where
  media : MediaDescription
  lines : List Line
  deriving DecidableEq

structure Sections where
  session : List Line
  media : List MediaSection
  deriving DecidableEq

/-- One line of a body: none when it is too short to be one. -/
def parseLine (l : Bytes) : Except Err (Option Line) :=
  if l.length < 2 then .ok none else
  let key := l.takeWhile (· ≠ equals)
  match key, l.dropWhile (· ≠ equals) with
  | b :: key, _ :: value => .ok (some ⟨b :: key, value⟩)
  | _, _ => .error (.notTypeValue l)

def appendLine (l : Line) : List MediaSection → List MediaSection
  | [] => []
  | [m] => [{ m with lines := m.lines ++ [l] }]
  | m :: m' :: ms => m :: appendLine l (m' :: ms)

def addLine (s : Sections) (l : Line) : Except Err Sections :=
  if l.type = lit "m" then
    match parseMediaLine l.value with
    | some md => .ok { s with media := s.media ++ [⟨md, [l]⟩] }
    | none => .error (.mediaFields s.media.length)
  else if s.media = [] then .ok { s with session := s.session ++ [l] }
  else .ok { s with media := appendLine l s.media }

def readLine (s : Sections) (l : Bytes) : Except Err Sections := do
  match ← parseLine l with
  | none => .ok s
  | some line => addLine s line

def unmarshalSections (data : Bytes) : Except Err Sections :=
  (lines data).foldlM readLine ⟨[], []⟩

/-- The lines that describe the stream of section `m` alone. -/
def Sections.description (s : Sections) (m : MediaSection) : List Line := s.session ++ m.lines

def Sections.lines (s : Sections) : List Line := s.session ++ s.media.flatMap MediaSection.lines

def Line.text (l : Line) : Bytes := l.type ++ equals :: l.value

def marshalLines (ls : List Line) : Bytes := writeLines (ls.map Line.text)

/-- The section begins with the m= line it was opened by, and holds no other. -/
structure MediaSection.WellFormed (m : MediaSection) : Prop where
  opened : ∃ v rest, m.lines = ⟨lit "m", v⟩ :: rest ∧ parseMediaLine v = some m.media ∧
    ∀ l ∈ rest, l.type ≠ lit "m"

structure Sections.WellFormed (s : Sections) : Prop where
  session : ∀ l ∈ s.session, l.type ≠ lit "m"
  media : ∀ m ∈ s.media, m.WellFormed

theorem MediaSection.WellFormed.media_eq {m m' : MediaSection} (hm : m.WellFormed)
    (hm' : m'.WellFormed) (h : m.lines.head? = m'.lines.head?) : m.media = m'.media := by
  obtain ⟨v, rest, hlines, hv, -⟩ := hm.opened
  obtain ⟨v', rest', hlines', hv', -⟩ := hm'.opened
  rw [hlines, hlines', List.head?_cons, List.head?_cons, Option.some.injEq, Line.mk.injEq] at h
  rw [← h.2, hv] at hv'
  exact Option.some.inj hv'

theorem appendLine_concat (l : Line) (ms : List MediaSection) (m : MediaSection) :
    appendLine l (ms ++ [m]) = ms ++ [{ m with lines := m.lines ++ [l] }] := by
  induction ms with
  | nil => rfl
  | cons x ms ih =>
    cases ms with
    | nil => rfl
    | cons y ms => simpa [appendLine] using ih

theorem wellFormed_addLine {s t : Sections} {l : Line} (hs : s.WellFormed)
    (h : addLine s l = .ok t) : t.WellFormed := by
  unfold addLine at h
  split at h
  · rename_i htype
    split at h
    · rename_i md hmd
      obtain rfl := Except.ok.inj h
      refine ⟨hs.session, ?_⟩
      simp only [List.forall_mem_append, List.forall_mem_singleton]
      exact ⟨hs.media, ⟨l.value, [], by rw [← htype], hmd, by simp⟩⟩
    · cases h
  · rename_i htype
    split at h
    · obtain rfl := Except.ok.inj h
      refine ⟨?_, hs.media⟩
      simp only [List.forall_mem_append, List.forall_mem_singleton]
      exact ⟨hs.session, htype⟩
    · rename_i hne
      obtain rfl := Except.ok.inj h
      refine ⟨hs.session, ?_⟩
      obtain ⟨ms, m, hms⟩ := List.eq_nil_or_concat s.media |>.resolve_left hne
      have hmedia := hs.media
      rw [List.concat_eq_append] at hms
      rw [hms] at hmedia
      simp only [hms, appendLine_concat, List.forall_mem_append, List.forall_mem_singleton]
        at hmedia ⊢
      obtain ⟨v, rest, hlines, hv, hrest⟩ := hmedia.2.opened
      refine ⟨hmedia.1, v, rest ++ [l], by simp [hlines], hv, ?_⟩
      simp only [List.forall_mem_append, List.forall_mem_singleton]
      exact ⟨hrest, htype⟩

theorem wellFormed_readLine {s t : Sections} {l : Bytes} (hs : s.WellFormed)
    (h : readLine s l = .ok t) : t.WellFormed := by
  unfold readLine at h
  cases hl : parseLine l with
  | error e => rw [hl] at h; cases h
  | ok line =>
    rw [hl] at h
    cases line with
    | none => exact Except.ok.inj h ▸ hs
    | some line => exact wellFormed_addLine hs h

/-- What every line read keeps holds of a body that was read to its end. -/
theorem unmarshalSections_induction {P : Sections → Prop} {data : Bytes} {s : Sections}
    (hnil : P ⟨[], []⟩)
    (hstep : ∀ s t, ∀ l ∈ lines data, P s → readLine s l = .ok t → P t)
    (h : unmarshalSections data = .ok s) : P s := by
  have hfold (ls : List Bytes) (hls : ∀ l ∈ ls, l ∈ lines data) : ∀ s t : Sections, P s →
      ls.foldlM readLine s = .ok t → P t := by
    induction ls with
    | nil =>
      intro s t hs h
      exact Except.ok.inj h ▸ hs
    | cons l ls ih =>
      intro s t hs h
      simp only [List.forall_mem_cons] at hls
      rw [List.foldlM_cons] at h
      cases hl : readLine s l with
      | error e => rw [hl] at h; cases h
      | ok u =>
        rw [hl] at h
        exact ih hls.2 u t (hstep s u l hls.1 hs hl) h
  exact hfold _ (fun _ hl => hl) _ _ hnil h

theorem unmarshalSections_wellFormed {data : Bytes} {s : Sections}
    (h : unmarshalSections data = .ok s) : s.WellFormed :=
  unmarshalSections_induction ⟨by simp, by simp⟩ (fun _ _ _ _ hs hl => wellFormed_readLine hs hl) h

theorem mem_appendLine {l k : Line} {ms : List MediaSection}
    (h : k ∈ (appendLine l ms).flatMap MediaSection.lines) :
    k = l ∨ k ∈ ms.flatMap MediaSection.lines := by
  induction ms using appendLine.induct with
  | case1 => simp [appendLine] at h
  | case2 m =>
    simp only [appendLine, List.flatMap_singleton, List.mem_append, List.mem_singleton] at h ⊢
    exact h.symm
  | case3 m m' ms ih =>
    rw [appendLine, List.flatMap_cons, List.mem_append] at h
    rw [List.flatMap_cons, List.mem_append]
    exact h.elim (fun h => .inr (.inl h)) fun h => (ih h).imp_right .inr

theorem mem_addLine {s t : Sections} {l k : Line} (h : addLine s l = .ok t) (hk : k ∈ t.lines) :
    k = l ∨ k ∈ s.lines := by
  unfold addLine at h
  split at h
  · split at h
    · obtain rfl := Except.ok.inj h
      simp only [Sections.lines, List.flatMap_append, List.flatMap_singleton, List.mem_append,
        List.mem_singleton] at hk ⊢
      tauto
    · cases h
  · split at h
    · obtain rfl := Except.ok.inj h
      simp only [Sections.lines, List.mem_append, List.mem_singleton] at hk ⊢
      tauto
    · obtain rfl := Except.ok.inj h
      simp only [Sections.lines, List.mem_append] at hk ⊢
      rcases hk with hk | hk
      · exact .inr (.inl hk)
      · exact (mem_appendLine hk).imp_right .inr

theorem parseLine_value {l : Bytes} {k : Line} (h : parseLine l = .ok (some k)) :
    ∀ b ∈ k.value, b ∈ l := by
  unfold parseLine at h
  split at h
  · cases h
  · dsimp only at h
    split at h
    · rename_i hkey hdrop
      obtain rfl := Option.some.inj (Except.ok.inj h)
      intro b hb
      have hsuffix : l.dropWhile (· ≠ equals) <:+ l := List.dropWhile_suffix _
      exact hsuffix.subset (by rw [hdrop]; exact List.mem_cons_of_mem _ hb)
    · cases h

theorem unmarshalSections_oneLine {data : Bytes} {s : Sections}
    (h : unmarshalSections data = .ok s) : ∀ l ∈ s.lines, OneLine l.value := by
  refine unmarshalSections_induction (P := fun s => ∀ l ∈ s.lines, OneLine l.value)
    (by simp [Sections.lines]) (fun s t l hl hs hread => ?_) h
  unfold readLine at hread
  cases hline : parseLine l with
  | error e => rw [hline] at hread; cases hread
  | ok line =>
    rw [hline] at hread
    cases line with
    | none => exact Except.ok.inj hread ▸ hs
    | some k =>
      intro k' hk'
      rcases mem_addLine hread hk' with rfl | hk'
      · exact fun hmem => lineFeed_not_mem hl (parseLine_value hline _ hmem)
      · exact hs k' hk'

theorem parseLine_text {l : Line} (hne : l.type ≠ []) (heq : equals ∉ l.type) :
    parseLine l.text = .ok (some l) := by
  obtain ⟨type, value⟩ := l
  simp only at hne heq
  obtain ⟨b, key, rfl⟩ := List.exists_cons_of_ne_nil hne
  have hall : ∀ c ∈ b :: key, (decide (c ≠ equals)) = true := by
    intro c hc
    simp only [ne_eq, decide_not, Bool.not_eq_eq_eq_not, Bool.not_true, decide_eq_false_iff_not]
    rintro rfl
    exact heq hc
  have htake : (b :: key ++ equals :: value).takeWhile (· ≠ equals) = b :: key := by
    rw [List.takeWhile_append_of_pos hall]
    simp
  have hdrop : (b :: key ++ equals :: value).dropWhile (· ≠ equals) = equals :: value := by
    rw [List.dropWhile_append_of_pos hall]
    simp
  unfold parseLine Line.text
  rw [if_neg (by simp), htake, hdrop]

theorem foldlM_addLine_session (xs ls : List Line) (h : ∀ l ∈ ls, l.type ≠ lit "m") :
    ls.foldlM addLine ⟨xs, []⟩ = .ok ⟨xs ++ ls, []⟩ := by
  induction ls generalizing xs with
  | nil => simp [pure, Except.pure]
  | cons l ls ih =>
    simp only [List.forall_mem_cons] at h
    rw [List.foldlM_cons, addLine, if_neg h.1, if_pos rfl]
    change ls.foldlM addLine ⟨xs ++ [l], []⟩ = _
    rw [ih _ h.2]
    simp

theorem foldlM_addLine_section (xs : List Line) (ms : List MediaSection) (m : MediaSection)
    (ls : List Line) (h : ∀ l ∈ ls, l.type ≠ lit "m") :
    ls.foldlM addLine ⟨xs, ms ++ [m]⟩ = .ok ⟨xs, ms ++ [{ m with lines := m.lines ++ ls }]⟩ := by
  induction ls generalizing m with
  | nil => simp [pure, Except.pure]
  | cons l ls ih =>
    simp only [List.forall_mem_cons] at h
    rw [List.foldlM_cons, addLine, if_neg h.1, if_neg (by simp)]
    change ls.foldlM addLine ⟨xs, appendLine l (ms ++ [m])⟩ = _
    rw [appendLine_concat, ih _ h.2]
    simp

theorem foldlM_addLine_media (xs : List Line) (ms ns : List MediaSection)
    (h : ∀ m ∈ ns, m.WellFormed) :
    (ns.flatMap MediaSection.lines).foldlM addLine ⟨xs, ms⟩ = .ok ⟨xs, ms ++ ns⟩ := by
  induction ns generalizing ms with
  | nil => simp [pure, Except.pure]
  | cons n ns ih =>
    simp only [List.forall_mem_cons] at h
    obtain ⟨v, rest, hlines, hv, hrest⟩ := h.1.opened
    rw [List.flatMap_cons, hlines, List.cons_append, List.foldlM_cons, addLine, if_pos rfl]
    simp only [hv]
    change (rest ++ ns.flatMap MediaSection.lines).foldlM addLine _ = _
    rw [List.foldlM_append, foldlM_addLine_section _ _ _ _ hrest]
    change (ns.flatMap MediaSection.lines).foldlM addLine _ = _
    rw [ih _ h.2, List.append_assoc, List.singleton_append, List.singleton_append, ← hlines]

theorem foldlM_addLine_lines {s : Sections} (h : s.WellFormed) :
    s.lines.foldlM addLine ⟨[], []⟩ = .ok s := by
  rw [Sections.lines, List.foldlM_append, foldlM_addLine_session _ _ h.session]
  exact foldlM_addLine_media _ _ _ h.media

/-- A line that can be written and read back: a type without `=`, and no line feed. -/
structure Line.WellFormed (l : Line) : Prop where
  typed : l.type ≠ []
  noEquals : equals ∉ l.type
  type_oneLine : lineFeed ∉ l.type
  value_oneLine : lineFeed ∉ l.value

theorem Line.WellFormed.text_oneLine {l : Line} (h : l.WellFormed) : lineFeed ∉ l.text := by
  simp only [Line.text, List.mem_append, List.mem_cons, not_or]
  exact ⟨h.type_oneLine, by decide, h.value_oneLine⟩

theorem foldlM_readLine_text (s : Sections) (ls : List Line) (h : ∀ l ∈ ls, l.WellFormed) :
    (ls.map Line.text).foldlM readLine s = ls.foldlM addLine s := by
  rw [List.foldlM_map]
  induction ls generalizing s with
  | nil => rfl
  | cons l ls ih =>
    simp only [List.forall_mem_cons] at h
    have hline : readLine s l.text = addLine s l := by
      rw [readLine, parseLine_text h.1.typed h.1.noEquals]
      rfl
    rw [List.foldlM_cons, List.foldlM_cons, hline]
    congr 1
    funext t
    exact ih t h.2

theorem unmarshalSections_marshalLines {s : Sections} (hs : s.WellFormed)
    (hlines : ∀ l ∈ s.lines, l.WellFormed) : unmarshalSections (marshalLines s.lines) = .ok s := by
  rw [unmarshalSections, marshalLines, lines_writeLines, foldlM_readLine_text _ _ hlines,
    foldlM_addLine_lines hs]
  simp only [List.forall_mem_map]
  exact fun l hl => (hlines l hl).text_oneLine

end Diago.SDP
