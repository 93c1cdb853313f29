import Diago.Media.Direction
import Diago.SDP.Reading

/-! # The line a body breaks off in

A body that does not end in a line feed breaks off in a line, and the line reader
takes the end of the text for the end of the lines: the broken-off line is never
handed over.
-/
namespace Diago.SDP
open Lib

section Loop
variable {σ : Type} {line : Line → σ → Except Err σ}

theorem parseLine_eq_none_iff {l : Bytes} : parseLine l = .ok none ↔ l.length < 2 := by
  unfold parseLine
  by_cases hlen : l.length < 2
  · simp [hlen]
  · rw [if_neg hlen]
    dsimp only
    split
    · simp [hlen]
    · simp [hlen]

/-- A line that is refused as it stands, or because `bad` holds of what it says. -/
inductive RefusedLine (bad : Line → Prop) (l : Bytes) : Prop
  | malformed {e : Err} (h : parseLine l = .error e) : RefusedLine bad l
  | bad {k : Line} (h : parseLine l = .ok (some k)) (hbad : bad k) : RefusedLine bad l

theorem readAll_refused_iff {bad : Line → Prop}
    (hbad : ∀ k s, (∃ e, line k s = .error e) ↔ bad k) (ls : List Bytes) (s : σ) :
    (readAll line ls s).2 ≠ none ↔ ∃ l ∈ ls, RefusedLine bad l := by
  induction ls generalizing s with
  | nil => simp [readAll]
  | cons l ls ih =>
    rw [List.exists_mem_cons_iff, readAll]
    cases hl : parseLine l with
    | error e => exact iff_of_true (Option.some_ne_none e) (.inl (.malformed hl))
    | ok k =>
      cases k with
      | none =>
        refine (ih s).trans (or_iff_right ?_).symm
        rintro (h | h) <;> cases hl.symm.trans h
      | some k =>
        dsimp only
        cases hk : line k s with
        | error e => exact iff_of_true (Option.some_ne_none e) (.inl (.bad hl ((hbad k s).mp ⟨e, hk⟩)))
        | ok t =>
          refine (ih t).trans (or_iff_right ?_).symm
          rintro (h | ⟨h, hb⟩)
          · cases hl.symm.trans h
          · obtain rfl := Option.some.inj (Except.ok.inj (hl.symm.trans h))
            obtain ⟨e, he⟩ := (hbad _ s).mpr hb
            cases hk.symm.trans he

/-- One line more is not noticed when an earlier one was refused, or when it is too short; every
line that a reader takes changes what it has read. -/
theorem readAll_concat_eq_iff {bad : Line → Prop}
    (hbad : ∀ k s, (∃ e, line k s = .error e) ↔ bad k)
    (hline : ∀ k s t, line k s = .ok t → t ≠ s) (ls : List Bytes) (l : Bytes) (s : σ) :
    readAll line ls s = readAll line (ls ++ [l]) s ↔
      (∃ k ∈ ls, RefusedLine bad k) ∨ l.length < 2 := by
  rw [readAll_append, ← readAll_refused_iff hbad ls s]
  rcases readAll line ls s with ⟨t, e⟩
  cases e with
  | some e => simp
  | none =>
    have hread : (t, none) = readAll line [l] t ↔ l.length < 2 := by
      rw [← parseLine_eq_none_iff, readAll]
      cases hl : parseLine l with
      | error e => simp
      | ok k =>
        cases k with
        | none => simp [readAll]
        | some k =>
          dsimp only
          cases hk : line k t with
          | error e => simp
          | ok u => simpa [readAll] using (hline k t u hk).symm
    simpa using hread

end Loop

/-- An m= line without a media type, a port, a protocol and a format. -/
def Line.ShortMedia (l : Line) : Prop := l.type = lit "m" ∧ parseMediaLine l.value = none

theorem addLine_refused_iff (l : Line) (s : Sections) :
    (∃ e, addLine s l = .error e) ↔ l.ShortMedia := by
  unfold addLine Line.ShortMedia
  split_ifs with htype
  · cases parseMediaLine l.value <;> simp [htype]
  · simp [htype]
  · simp [htype]

theorem addLine_ne (k : Line) (s t : Sections) (h : addLine s k = .ok t) : t ≠ s := by
  rintro rfl
  simpa using congrArg List.length (addLine_lines h)

theorem SessionDescription.add_ne (sd : SessionDescription) (l : Line) : sd.add l ≠ sd := by
  intro h
  have htype := congrFun h l.type
  rw [SessionDescription.add, if_pos rfl] at htype
  simpa using congrArg List.length htype

end Diago.SDP

namespace Diago.Media
open Lib SDP

abbrev crlf : Bytes := [carriageReturn, lineFeed]

section Lib
variable [UnicodeCase] [SrtpLib]

theorem remoteSDP_congr {body body' : Bytes} (h : unmarshalSections body = unmarshalSections body')
    (g : Globals) (env : RemoteEnv) :
    MediaSession.remoteSDP g env body = MediaSession.remoteSDP g env body' := by
  unfold MediaSession.remoteSDP chooseAudio
  rw [h]

/-- A CRLF at the end of a body is not noticed exactly when a line before its end is refused or it
breaks off in less than two bytes; the description is then applied alike. -/
theorem final_newline_unnoticed_iff (data : Bytes) :
    (readSections data = readSections (data ++ crlf) ↔
      (∃ l ∈ lines data, RefusedLine Line.ShortMedia l) ∨ (lastLine data).length < 2) ∧
    (∀ sd, unmarshal data sd = unmarshal (data ++ crlf) sd ↔
      (∃ l ∈ lines data, RefusedLine (fun _ => False) l) ∨ (lastLine data).length < 2) ∧
    ((∃ l ∈ lines data, RefusedLine Line.ShortMedia l) ∨ (lastLine data).length < 2 →
      ∀ g env s, MediaSession.remoteSDP g env data s =
        MediaSession.remoteSDP g env (data ++ crlf) s) := by
  have hsections : readSections data = readSections (data ++ crlf) ↔
      (∃ l ∈ lines data, RefusedLine Line.ShortMedia l) ∨ (lastLine data).length < 2 := by
    unfold readSections readLines
    rw [lines_append_crlf]
    exact readAll_concat_eq_iff addLine_refused_iff addLine_ne _ _ _
  refine ⟨hsections, fun sd => ?_, fun h g env s => ?_⟩
  · unfold unmarshal readLines
    rw [lines_append_crlf]
    refine readAll_concat_eq_iff (fun _ _ => by simp) ?_ _ _ _
    intro k sd sd' hadd
    obtain rfl := Except.ok.inj hadd
    exact sd.add_ne k
  · have hread : unmarshalSections data = unmarshalSections (data ++ crlf) := by
      rw [unmarshalSections_eq, unmarshalSections_eq, hsections.mpr h]
    rw [remoteSDP_congr hread]

end Lib

section Sample

attribute [local instance] asciiOnly documentedSrtp

/-- An inactive offer that breaks off in its direction. -/
def brokenOff : Bytes := (audioBody (lit "RTP/AVP") [lit "inactive"]).dropLast.dropLast

/-- The direction of the offer is lost: the session goes on to send and receive. -/
theorem direction_line_lost :
    brokenOff ≠ [] ∧ brokenOff.getLast? ≠ some lineFeed ∧
      readSections brokenOff ≠ readSections (brokenOff ++ crlf) ∧
      (MediaSession.remoteSDP {} plainRemote brokenOff plainSession).2.mode = some .sendrecv ∧
      (MediaSession.remoteSDP {} plainRemote (brokenOff ++ crlf) plainSession).2.mode =
        some .inactive := by
  decide +kernel

end Sample
end Diago.Media
