import Diago.SDP.Sections

/-! # Reading a body line by line

The two readers of a body share one loop over its lines: it hands every line to a
reader and stops at the first line that is refused, keeping what was read before.
-/
namespace Diago.SDP
open Lib

section Loop
variable {σ : Type} (line : Line → σ → Except Err σ)

/-- The lines are handed to `line` in order, those too short to be one left out. -/
def readAll : List Bytes → σ → σ × Option Err
  | [], s => (s, none)
  | l :: ls, s =>
    match parseLine l with
    | .error e => (s, some e)
    | .ok none => readAll ls s
    | .ok (some k) =>
      match line k s with
      | .error e => (s, some e)
      | .ok t => readAll ls t

def readLines (data : Bytes) (s : σ) : σ × Option Err := readAll line (lines data) s

end Loop

abbrev SessionDescription : Type := Bytes → List Bytes

def SessionDescription.add (sd : SessionDescription) (l : Line) : SessionDescription :=
  fun key => if l.type = key then sd key ++ [l.value] else sd key

def unmarshal (data : Bytes) (sd : SessionDescription) : SessionDescription × Option Err :=
  readLines (fun l sd => .ok (sd.add l)) data sd

/-- What reading section by section gives: the sections, also those read before an error. -/
def readSections (data : Bytes) : Sections × Option Err :=
  readLines (fun l s => addLine s l) data ⟨[], []⟩

/-- The session-level lines and those of section `i`, by type. -/
def Sections.descriptionAt (s : Sections) (i : ℕ) : Option SessionDescription :=
  (s.media[i]?).map fun m => values (s.description m)

section Loop
variable {σ : Type} {line : Line → σ → Except Err σ} {s t : σ}

theorem readAll_append (ls ks : List Bytes) (s : σ) :
    readAll line (ls ++ ks) s =
      match readAll line ls s with
      | (t, none) => readAll line ks t
      | (t, some e) => (t, some e) := by
  induction ls generalizing s with
  | nil => rfl
  | cons l ls ih =>
    rw [List.cons_append, readAll, readAll]
    cases parseLine l with
    | error e => rfl
    | ok k =>
      cases k with
      | none => exact ih s
      | some k =>
        dsimp only
        cases line k s with
        | error e => rfl
        | ok t => exact ih t

/-- Lines that are handed over as `ks`, whatever lies between them. -/
inductive ReadsAs : List Bytes → List Line → Prop
  | nil : ReadsAs [] []
  | blank {l : Bytes} {ls : List Bytes} {ks : List Line} :
      parseLine l = .ok none → ReadsAs ls ks → ReadsAs (l :: ls) ks
  | line {l : Bytes} {ls : List Bytes} {k : Line} {ks : List Line} :
      parseLine l = .ok (some k) → ReadsAs ls ks → ReadsAs (l :: ls) (k :: ks)

theorem ReadsAs.blanks {bs ls : List Bytes} {ks : List Line} (hb : ∀ b ∈ bs, b = [])
    (h : ReadsAs ls ks) : ReadsAs (bs ++ ls) ks := by
  induction bs with
  | nil => exact h
  | cons b bs ih =>
    simp only [List.forall_mem_cons] at hb
    obtain ⟨rfl, hb⟩ := hb
    exact .blank rfl (ih hb)

/-- The loop over such lines is a fold over what is handed over. -/
theorem ReadsAs.readAll {ls : List Bytes} {ks : List Line} (h : ReadsAs ls ks)
    (hfold : ks.foldlM (fun s k => line k s) s = .ok t) : readAll line ls s = (t, none) := by
  induction h generalizing s with
  | nil => rw [Except.ok.inj hfold]; rfl
  | blank hl _ ih =>
    rw [SDP.readAll, hl]
    exact ih hfold
  | @line l ls k ks hl _ ih =>
    rw [List.foldlM_cons] at hfold
    rw [SDP.readAll, hl]
    dsimp only
    cases hline : line k s with
    | error e => rw [hline] at hfold; cases hfold
    | ok u =>
      rw [hline] at hfold
      exact ih hfold

end Loop

theorem unmarshalSections_eq (data : Bytes) :
    unmarshalSections data =
      match readSections data with
      | (s, none) => .ok s
      | (_, some e) => .error e := by
  unfold unmarshalSections readSections readLines
  generalize (⟨[], []⟩ : Sections) = s
  induction lines data generalizing s with
  | nil => rfl
  | cons l ls ih =>
    rw [List.foldlM_cons, readAll, readLine]
    cases parseLine l with
    | error e => rfl
    | ok k =>
      cases k with
      | none => exact ih s
      | some k =>
        change (addLine s k >>= fun t => ls.foldlM readLine t) = _
        dsimp only
        cases addLine s k with
        | error e => rfl
        | ok t => exact ih t

theorem appendLine_lines (l : Line) {ms : List MediaSection} (h : ms ≠ []) :
    (appendLine l ms).flatMap MediaSection.lines = ms.flatMap MediaSection.lines ++ [l] := by
  induction ms using appendLine.induct with
  | case1 => exact absurd rfl h
  | case2 m => simp [appendLine]
  | case3 m m' ms ih =>
    rw [appendLine, List.flatMap_cons, ih (by simp), ← List.append_assoc]
    rfl

theorem addLine_lines {s t : Sections} {l : Line} (h : addLine s l = .ok t) :
    t.lines = s.lines ++ [l] := by
  unfold addLine at h
  split at h
  · split at h
    · obtain rfl := Except.ok.inj h
      simp [Sections.lines]
    · cases h
  · split at h
    · rename_i hnil
      obtain rfl := Except.ok.inj h
      simp [Sections.lines, hnil]
    · rename_i hne
      obtain rfl := Except.ok.inj h
      simp [Sections.lines, appendLine_lines l hne]

theorem foldlM_addLine_ok {ks : List Line} {s : Sections} (hs : s.WellFormed)
    (h : ∀ k ∈ ks, k.type = lit "m" → (parseMediaLine k.value).isSome = true) :
    ∃ t, ks.foldlM (fun s k => addLine s k) s = .ok t ∧ t.WellFormed ∧ t.lines = s.lines ++ ks := by
  induction ks generalizing s with
  | nil => exact ⟨s, rfl, hs, by simp⟩
  | cons k ks ih =>
    simp only [List.forall_mem_cons] at h
    obtain ⟨u, hu⟩ : ∃ u, addLine s k = .ok u := by
      unfold addLine
      split
      · rename_i htype
        obtain ⟨md, hmd⟩ := Option.isSome_iff_exists.mp (h.1 htype)
        exact ⟨_, by rw [hmd]⟩
      · split
        · exact ⟨_, rfl⟩
        · exact ⟨_, rfl⟩
    obtain ⟨t, hfold, ht, hlines⟩ := ih (wellFormed_addLine hs hu) h.2
    refine ⟨t, ?_, ht, ?_⟩
    · rw [List.foldlM_cons, hu]
      exact hfold
    · rw [hlines, addLine_lines hu, List.append_assoc, List.singleton_append]

theorem foldlM_add (ks : List Line) (ls : List Line) :
    ks.foldlM (fun (sd : SessionDescription) k => (.ok (sd.add k) : Except Err _)) (values ls) =
      .ok (values (ls ++ ks)) := by
  induction ks generalizing ls with
  | nil =>
    rw [List.append_nil]
    rfl
  | cons k ks ih =>
    have hadd : SessionDescription.add (values ls) k = values (ls ++ [k]) := by
      funext key
      rw [values_append, values_cons, values_nil]
      unfold SessionDescription.add
      split_ifs <;> simp
    rw [List.foldlM_cons]
    change ks.foldlM _ (SessionDescription.add (values ls) k) = _
    rw [hadd, ih, List.append_assoc, List.singleton_append]

theorem Sections.WellFormed.length_media {s : Sections} (h : s.WellFormed) :
    (values s.lines (lit "m")).length = s.media.length := by
  have hsections (ms : List MediaSection) (hms : ∀ m ∈ ms, m.WellFormed) :
      (values (ms.flatMap MediaSection.lines) (lit "m")).length = ms.length := by
    induction ms with
    | nil => rfl
    | cons m ms ih =>
      simp only [List.forall_mem_cons] at hms
      obtain ⟨v, rest, hlines, -, hrest⟩ := hms.1.opened
      rw [List.flatMap_cons, hlines, List.cons_append, values_cons, if_pos rfl, values_append,
        values_eq_nil hrest, List.nil_append, List.length_cons, ih hms.2, List.length_cons]
  rw [Sections.lines, values_append, values_eq_nil h.session, List.nil_append,
    hsections s.media h.media]

/-! ## A body as written -/

inductive Ending
  | lf
  | crlf
  deriving DecidableEq, Repr

def Ending.text : Ending → Bytes
  | .lf => [lineFeed]
  | .crlf => [carriageReturn, lineFeed]

/-- A line as written: the blank lines before it, and how it ends. -/
structure WrittenLine where
  blanks : List Ending
  line : Line
  ending : Ending

def WrittenLine.text (w : WrittenLine) : Bytes :=
  w.blanks.flatMap Ending.text ++ w.line.text ++ w.ending.text

def render (ws : List WrittenLine) (trailing : List Ending) : Bytes :=
  ws.flatMap WrittenLine.text ++ trailing.flatMap Ending.text

structure Line.Writable (l : Line) : Prop where
  typed : l.type ≠ []
  type_equals : equals ∉ l.type
  type_return : carriageReturn ∉ l.type
  type_feed : lineFeed ∉ l.type
  value_feed : lineFeed ∉ l.value
  value_end : l.value.getLast? ≠ some carriageReturn
  media : l.type = lit "m" → 4 ≤ (fields l.value).length

theorem lines_ending {l : Bytes} (hfeed : lineFeed ∉ l) (hend : l.getLast? ≠ some carriageReturn)
    (e : Ending) (rest : Bytes) : lines (l ++ e.text ++ rest) = l :: lines rest := by
  cases e with
  | lf =>
    have hlf : l ++ Ending.lf.text ++ rest = l ++ lineFeed :: rest := by simp [Ending.text]
    rw [hlf, lines_append hfeed, stripReturn_of_ne hend]
  | crlf =>
    have hcrlf : l ++ Ending.crlf.text ++ rest = (l ++ [carriageReturn]) ++ lineFeed :: rest := by
      simp [Ending.text]
    have hfeed' : lineFeed ∉ l ++ [carriageReturn] := by
      simp only [List.mem_append, List.mem_singleton, not_or]
      exact ⟨hfeed, by decide⟩
    rw [hcrlf, lines_append hfeed', stripReturn_append]

theorem lines_blanks (bs : List Ending) (rest : Bytes) :
    lines (bs.flatMap Ending.text ++ rest) = bs.map (fun _ => []) ++ lines rest := by
  induction bs with
  | nil => rfl
  | cons b bs ih =>
    rw [List.flatMap_cons, List.append_assoc, ← List.nil_append b.text,
      lines_ending (by simp) (by simp), ih]
    rfl

theorem Line.Writable.text_feed {l : Line} (h : l.Writable) : lineFeed ∉ l.text := by
  simp only [Line.text, List.mem_append, List.mem_cons, not_or]
  exact ⟨h.type_feed, by decide, h.value_feed⟩

theorem Line.Writable.text_end {l : Line} (h : l.Writable) :
    l.text.getLast? ≠ some carriageReturn := by
  have hend := h.value_end
  unfold Line.text
  rw [List.getLast?_append_cons]
  cases hvalue : l.value with
  | nil => decide
  | cons b v =>
    rw [List.getLast?_cons_cons, ← hvalue]
    exact hend

theorem readsAs_render {ws : List WrittenLine} (h : ∀ w ∈ ws, w.line.Writable)
    (trailing : List Ending) : ReadsAs (lines (render ws trailing)) (ws.map (·.line)) := by
  have hblank (bs : List Ending) : ∀ b ∈ bs.map (fun _ => ([] : Bytes)), b = [] := by simp
  unfold render
  induction ws with
  | nil =>
    have htrailing := lines_blanks trailing []
    rw [List.append_nil] at htrailing
    rw [List.flatMap_nil, List.nil_append, htrailing]
    exact .blanks (hblank trailing) .nil
  | cons w ws ih =>
    simp only [List.forall_mem_cons] at h
    rw [List.flatMap_cons, WrittenLine.text, List.append_assoc, List.append_assoc,
      List.append_assoc, lines_blanks, ← List.append_assoc w.line.text,
      lines_ending h.1.text_feed h.1.text_end, List.map_cons]
    exact .blanks (hblank _) (.line (parseLine_text h.1.typed h.1.type_equals) (ih h.2))

theorem isSome_parseMediaLine {v : Bytes} (h : 4 ≤ (fields v).length) :
    (parseMediaLine v).isSome = true := by
  unfold parseMediaLine
  match hf : fields v, h with
  | _ :: _ :: _ :: _ :: _, _ => rfl

/-- A body written from well-formed lines, each ended by LF or CRLF and with blank lines anywhere,
is read without error into sections that hold the lines in order, a section for each m= line and
beginning there; with one m= line the description of its section is what the plain reader gives. -/
theorem rendered_body_reads_back (ws : List WrittenLine) (trailing : List Ending)
    (h : ∀ w ∈ ws, w.line.Writable) :
    ∃ s, readSections (render ws trailing) = (s, none) ∧ s.lines = ws.map (·.line) ∧
      s.WellFormed ∧
      ((ws.filter (·.line.type = lit "m")).length = 1 →
        ∃ sd, s.descriptionAt 0 = some sd ∧
          unmarshal (render ws trailing) (fun _ => []) = (sd, none)) := by
  have hreads := readsAs_render h trailing
  have hstart : Sections.WellFormed ⟨[], []⟩ := ⟨by simp, by simp⟩
  have hmedia : ∀ k ∈ ws.map (·.line), k.type = lit "m" →
      (parseMediaLine k.value).isSome = true := by
    intro k hk htype
    obtain ⟨w, hw, rfl⟩ := List.mem_map.mp hk
    exact isSome_parseMediaLine ((h w hw).media htype)
  obtain ⟨s, hfold, hs, hlines⟩ := foldlM_addLine_ok hstart hmedia
  have hlines : s.lines = ws.map (·.line) := hlines
  refine ⟨s, hreads.readAll hfold, hlines, hs, fun hone => ?_⟩
  have hcount : (values s.lines (lit "m")).length = 1 := by
    rw [hlines, ← hone]
    simp [values, List.filter_map, Function.comp_def]
  rw [hs.length_media] at hcount
  obtain ⟨m, hm⟩ := List.length_eq_one_iff.mp hcount
  have hdescription : s.description m = ws.map (·.line) := by
    rw [← hlines, Sections.lines, hm, List.flatMap_singleton, Sections.description]
  refine ⟨values (ws.map (·.line)), ?_, ?_⟩
  · rw [Sections.descriptionAt, hm, ← hdescription]
    rfl
  · have hadd := foldlM_add (ws.map (·.line)) []
    rw [List.nil_append] at hadd
    exact hreads.readAll hadd

/-- One stream after a blank line, its lines ended both ways. -/
def bareBody : List WrittenLine :=
  [⟨[], ⟨lit "v", lit "0"⟩, .lf⟩, ⟨[.crlf], ⟨lit "m", lit "audio 4000 RTP/AVP 0"⟩, .crlf⟩]

theorem bare_body_reads_back :
    ∃ s, readSections (render bareBody [.lf]) = (s, none) ∧ s.lines = bareBody.map (·.line) ∧
      s.WellFormed ∧
      ((bareBody.filter (·.line.type = lit "m")).length = 1 →
        ∃ sd, s.descriptionAt 0 = some sd ∧
          unmarshal (render bareBody [.lf]) (fun _ => []) = (sd, none)) := by
  refine rendered_body_reads_back bareBody [.lf] ?_
  simp only [bareBody, List.forall_mem_cons]
  refine ⟨⟨by decide, by decide, by decide, by decide, by decide, by decide, by decide⟩,
    ⟨by decide, by decide, by decide, by decide, by decide, by decide, ?_⟩, by simp⟩
  intro
  decide

end Diago.SDP
