import Diago.Media.IceMux

/-! # Closing the mux

Both conns of the media, and the one of the handshake, close the mux when they are
closed. The first call closes the connection, which ends the loop, and waits for it.
-/
namespace Diago.Media.IceMux
open Lib

namespace Mux

variable {Buffer Call : Type}

/-- How far the closing is. One call closes the connection and the buffers, and the others wait for
it. -/
inductive Stage (x : Mux Buffer Call) : Prop
  | fresh (honce : x.once = .fresh) (hclose : ∀ c, x.close c = .idle)
      (hconn : x.connClosed = false) (hcloses : x.connCloses = 0)
  | first (r : Call) (honce : x.once = .running) (hr : x.close r = .first)
      (hothers : ∀ c, c ≠ r → x.close c = .idle ∨ x.close c = .blocked)
      (hconn : x.connClosed = false) (hcloses : x.connCloses = 0)
  | running (r : Call) (honce : x.once = .running)
      (hr : (∃ left, x.close r = .closing left) ∨ x.close r = .waiting)
      (hothers : ∀ c, c ≠ r → x.close c = .idle ∨ x.close c = .blocked)
      (hconn : x.connClosed = true) (hcloses : x.connCloses = 1)
  | done (honce : x.once = .done)
      (hclose : ∀ c, x.close c = .idle ∨ x.close c = .blocked ∨ x.close c = .returned)
      (hconn : x.connClosed = true) (hcloses : x.connCloses = 1) (hloop : x.loop = .returned)

theorem Stage.of_eq {x y : Mux Buffer Call} (h : x.Stage) (honce : y.once = x.once)
    (hclose : y.close = x.close) (hconn : y.connClosed = x.connClosed)
    (hcloses : y.connCloses = x.connCloses) (hloop : x.loop = .returned → y.loop = .returned) :
    y.Stage := by
  rcases h with ⟨h₁, h₂, h₃, h₄⟩ | ⟨r, h₁, h₂, h₃, h₄, h₅⟩ | ⟨r, h₁, h₂, h₃, h₄, h₅⟩ |
    ⟨h₁, h₂, h₃, h₄, h₅⟩
  · exact .fresh (honce.trans h₁) (hclose ▸ h₂) (hconn.trans h₃) (hcloses.trans h₄)
  · exact .first r (honce.trans h₁) (hclose ▸ h₂) (hclose ▸ h₃) (hconn.trans h₄) (hcloses.trans h₅)
  · exact .running r (honce.trans h₁) (hclose ▸ h₂) (hclose ▸ h₃) (hconn.trans h₄)
      (hcloses.trans h₅)
  · exact .done (honce.trans h₁) (hclose ▸ h₂) (hconn.trans h₃) (hcloses.trans h₄) (hloop h₅)

section Stage

variable [DecidableEq Call] {x y : Mux Buffer Call} {c : Call}

theorem close_setPhase (x : Mux Buffer Call) (c d : Call) (phase : ClosePhase) :
    (x.setPhase c phase).close d = if d = c then phase else x.close d := by
  simp only [setPhase, Function.update_apply]

theorem close_setPhase_others {r : Call} {phase : ClosePhase}
    (hothers : ∀ c, c ≠ r → x.close c = .idle ∨ x.close c = .blocked) (d : Call) (hd : d ≠ r) :
    (x.setPhase r phase).close d = .idle ∨ (x.setPhase r phase).close d = .blocked := by
  rw [close_setPhase, if_neg hd]
  exact hothers d hd

theorem Stage.runner (h : x.Stage) (hidle : x.close c ≠ .idle) (hblocked : x.close c ≠ .blocked)
    (hreturned : x.close c ≠ .returned) :
    x.once = .running ∧ (∀ d, d ≠ c → x.close d = .idle ∨ x.close d = .blocked) ∧
      (x.close c = .first ∧ x.connClosed = false ∧ x.connCloses = 0 ∨
        x.close c ≠ .first ∧ x.connClosed = true ∧ x.connCloses = 1) := by
  rcases h with ⟨h₁, h₂, -, -⟩ | ⟨r, h₁, h₂, h₃, h₄, h₅⟩ | ⟨r, h₁, h₂, h₃, h₄, h₅⟩ |
    ⟨h₁, h₂, -, -, -⟩
  · exact absurd (h₂ c) hidle
  · obtain rfl : c = r := by
      by_contra hne
      exact (h₃ c hne).elim hidle hblocked
    exact ⟨h₁, h₃, .inl ⟨h₂, h₄, h₅⟩⟩
  · obtain rfl : c = r := by
      by_contra hne
      exact (h₃ c hne).elim hidle hblocked
    refine ⟨h₁, h₃, .inr ⟨?_, h₄, h₅⟩⟩
    obtain ⟨left, hleft⟩ | hwait := h₂
    · rw [hleft]
      nofun
    · rw [hwait]
      nofun
  · obtain h | h | h := h₂ c
    · exact absurd h hidle
    · exact absurd h hblocked
    · exact absurd h hreturned

theorem Stage.closer (h : x.Stage)
    (hc : (∃ left, x.close c = .closing left) ∨ x.close c = .waiting) :
    x.once = .running ∧ (∀ d, d ≠ c → x.close d = .idle ∨ x.close d = .blocked) ∧
      x.connClosed = true ∧ x.connCloses = 1 := by
  have hphase : x.close c ≠ .idle ∧ x.close c ≠ .blocked ∧ x.close c ≠ .returned ∧
      x.close c ≠ .first := by
    obtain ⟨left, hleft⟩ | hwait := hc
    · rw [hleft]
      exact ⟨nofun, nofun, nofun, nofun⟩
    · rw [hwait]
      exact ⟨nofun, nofun, nofun, nofun⟩
  obtain ⟨honce, hothers, ⟨hfirst, -⟩ | ⟨-, hconn⟩⟩ := h.runner hphase.1 hphase.2.1 hphase.2.2.1
  · exact absurd hfirst hphase.2.2.2
  · exact ⟨honce, hothers, hconn⟩

theorem Stage.setPhase_waiting (h : x.Stage) (hfresh : x.once ≠ .fresh)
    (hc : x.close c = .idle ∨ x.close c = .blocked) {phase : ClosePhase}
    (hphase : phase = .blocked ∨ phase = .returned ∧ x.once = .done) :
    (x.setPhase c phase).Stage := by
  have hrunner : ∀ {r : Call}, (x.close r ≠ .idle ∧ x.close r ≠ .blocked) → r ≠ c := by
    rintro r ⟨h₁, h₂⟩ rfl
    exact hc.elim h₁ h₂
  rcases h with ⟨h₁, -, -, -⟩ | ⟨r, h₁, h₂, h₃, h₄, h₅⟩ | ⟨r, h₁, h₂, h₃, h₄, h₅⟩ |
    ⟨h₁, h₂, h₃, h₄, h₅⟩
  · exact absurd h₁ hfresh
  · obtain rfl | ⟨-, hdone⟩ := hphase
    · have hne : r ≠ c := hrunner (by rw [h₂]; exact ⟨nofun, nofun⟩)
      refine .first r h₁ ?_ (fun d hd => ?_) h₄ h₅
      · rw [close_setPhase, if_neg hne]
        exact h₂
      · rw [close_setPhase]
        split
        · exact .inr rfl
        · exact h₃ d hd
    · rw [h₁] at hdone
      nomatch hdone
  · obtain rfl | ⟨-, hdone⟩ := hphase
    · have hne : r ≠ c := by
        refine hrunner ?_
        obtain ⟨left, hleft⟩ | hwait := h₂
        · rw [hleft]
          exact ⟨nofun, nofun⟩
        · rw [hwait]
          exact ⟨nofun, nofun⟩
      refine .running r h₁ ?_ (fun d hd => ?_) h₄ h₅
      · rw [close_setPhase, if_neg hne]
        exact h₂
      · rw [close_setPhase]
        split
        · exact .inr rfl
        · exact h₃ d hd
    · rw [h₁] at hdone
      nomatch hdone
  · refine .done h₁ (fun d => ?_) h₃ h₄ h₅
    rw [close_setPhase]
    split
    · exact .inr (hphase.imp id And.left)
    · exact h₂ d

theorem Stage.step [PacketBuffer Buffer] {e : Event Call} (h : x.Stage)
    (hy : x.step e = some y) : y.Stage := by
  cases effect_of_step hy with
  | skip hloop hconn => exact h
  | packet pkt hloop hconn hfits hsome =>
    exact h.of_eq rfl rfl rfl rfl (by rw [hloop]; nofun)
  | fail hloop => exact h.of_eq rfl rfl rfl rfl (by rw [hloop]; nofun)
  | file pkt hloop => exact h.of_eq rfl rfl rfl rfl (by rw [hloop]; nofun)
  | loopClose s left hloop => exact h.of_eq rfl rfl rfl rfl (by rw [hloop]; nofun)
  | loopReturn hloop => exact h.of_eq rfl rfl rfl rfl (fun _ => rfl)
  | read s pkt b hread => exact h.of_eq rfl rfl rfl rfl id
  | closeFirst c hc honce =>
    rcases h with ⟨h₁, h₂, h₃, h₄⟩ | ⟨r, h₁, -, -, -, -⟩ | ⟨r, h₁, -, -, -, -⟩ | ⟨h₁, -, -, -, -⟩
    · refine .first c rfl ?_ (fun d hd => ?_) h₃ h₄
      · exact (close_setPhase x c c _).trans (if_pos rfl)
      · exact .inl ((close_setPhase x c d _).trans ((if_neg hd).trans (h₂ d)))
    all_goals
      rw [h₁] at honce
      nomatch honce
  | closeBlocked c hc honce =>
    exact h.setPhase_waiting (by rw [honce]; nofun) (.inl hc) (.inl rfl)
  | closeAgain c hc honce =>
    exact h.setPhase_waiting (by rw [honce]; nofun) (.inl hc) (.inr ⟨rfl, honce⟩)
  | release c hc honce =>
    exact h.setPhase_waiting (by rw [honce]; nofun) (.inr hc) (.inr ⟨rfl, honce⟩)
  | connClose c hc =>
    obtain ⟨honce, hothers, ⟨-, -, hcloses⟩ | ⟨hne, -, -⟩⟩ :=
      h.runner (by rw [hc]; nofun) (by rw [hc]; nofun) (by rw [hc]; nofun)
    · refine .running c honce (.inl ⟨allStreams, ?_⟩) (close_setPhase_others hothers) rfl ?_
      · exact (close_setPhase x c c _).trans (if_pos rfl)
      · exact congrArg (· + 1) hcloses
    · exact absurd hc hne
  | closeBuffer c s left hc =>
    obtain ⟨honce, hothers, hconn, hcloses⟩ := h.closer (.inl ⟨_, hc⟩)
    refine .running c honce (.inl ⟨left, ?_⟩)
      (close_setPhase_others (x := x.closeStream s) hothers) hconn hcloses
    exact (close_setPhase (x.closeStream s) c c _).trans (if_pos rfl)
  | closedBuffers c hc =>
    obtain ⟨honce, hothers, hconn, hcloses⟩ := h.closer (.inl ⟨_, hc⟩)
    refine .running c honce (.inr ?_) (close_setPhase_others hothers) hconn hcloses
    exact (close_setPhase x c c _).trans (if_pos rfl)
  | join c hc hloop =>
    obtain ⟨honce, hothers, hconn, hcloses⟩ := h.closer (.inr hc)
    refine .done rfl (fun d => ?_) hconn hcloses hloop
    by_cases hd : d = c
    · exact .inr (.inr ((close_setPhase x c d _).trans (if_pos hd)))
    · exact (close_setPhase_others hothers d hd).imp id .inl

end Stage

section Buffers

variable [PacketBuffer Buffer]

theorem stage_newICEMux : Stage (newICEMux : Mux Buffer Call) := .fresh rfl (fun _ => rfl) rfl rfl

/-- The loop has closed the buffer of the stream, if it is past its reading. -/
def LoopPhase.Past (s : Stream) : LoopPhase → Prop
  | .closing left => s ∉ left
  | .returned => True
  | _ => False

def Shut (x : Mux Buffer Call) : Prop := ∀ s, LoopPhase.Past s x.loop → x.closed s = true

theorem shut_newICEMux : Shut (newICEMux : Mux Buffer Call) := fun _ h => False.elim h

theorem closed_setBuffer {x : Mux Buffer Call} {s t : Stream} {b : Buffer}
    (hb : x.closed s = true → (PacketBuffer.contents b).closed = true) (h : x.closed t = true) :
    (x.setBuffer s b).closed t = true := by
  rw [closed, buffer_setBuffer]
  split
  · subst t
    exact hb h
  · exact h

theorem closed_close (b : Buffer) :
    (PacketBuffer.contents (PacketBuffer.close b)).closed = true := by
  rw [PacketBuffer.contents_close]

theorem closed_closeStream (x : Mux Buffer Call) (s : Stream) :
    (x.closeStream s).closed s = true := by
  rw [closed, closeStream, buffer_setBuffer, if_pos rfl, closed_close]

theorem Shut.step [DecidableEq Call] {x y : Mux Buffer Call} {e : Event Call} (h : x.Shut)
    (hy : x.step e = some y) : y.Shut := by
  cases effect_of_step hy with
  | skip hloop hconn => exact h
  | packet pkt hloop hconn hfits hsome => exact fun s hs => hs.elim
  | fail hloop =>
    intro s hs
    exact absurd (by cases s <;> decide) hs
  | file pkt hloop => exact fun s hs => hs.elim
  | loopClose s left hloop =>
    intro t ht
    by_cases hts : t = s
    · subst hts
      exact closed_closeStream x t
    · refine closed_setBuffer (fun _ => closed_close _) (h t ?_)
      rw [hloop]
      exact fun hmem => (List.mem_cons.mp hmem).elim hts ht
  | loopReturn hloop =>
    intro s _
    refine h s ?_
    rw [hloop]
    exact List.not_mem_nil
  | read s pkt b hread =>
    refine fun t ht => closed_setBuffer (fun hclosed => ?_) (h t ht)
    rw [closed, PacketBuffer.contents_read hread] at hclosed
    exact hclosed
  | closeBuffer c s left hc => exact fun t ht => closed_setBuffer (fun _ => closed_close _) (h t ht)
  | _ => exact h

end Buffers

/-- The steps the loop has left once the connection is closed. -/
def LoopPhase.work : LoopPhase → ℕ
  | .reading => 5
  | .filing _ => 6
  | .closing left => left.length + 1
  | .returned => 0

/-- The steps left to the call that has closed the connection. -/
def ClosePhase.work : ClosePhase → ℕ
  | .closing left => left.length + 2
  | .waiting => 1
  | _ => 0

/-- A step of the loop, or of a call of Close after its first. -/
def Event.finishes [DecidableEq Call] (r : Call) : Event Call → Bool
  | .packet _ | .fail | .file | .loopClose => true
  | .closeBuffer c | .join c => c = r
  | _ => false

theorem work_le_of_step [PacketBuffer Buffer] [DecidableEq Call] {x y : Mux Buffer Call}
    {e : Event Call} (h : LoopPhase.work x.loop ≤ 6) (hy : x.step e = some y) : LoopPhase.work y.loop ≤ 6 := by
  cases effect_of_step hy with
  | packet pkt hloop hconn hfits hsome => exact le_rfl
  | fail hloop => exact (by decide : LoopPhase.work (.closing allStreams) ≤ 6)
  | file pkt hloop => exact (by decide : LoopPhase.work .reading ≤ 6)
  | loopClose s left hloop =>
    rw [hloop] at h
    exact (Nat.le_succ _).trans h
  | loopReturn hloop => exact Nat.zero_le _
  | _ => exact h

section Close

variable {x y : Mux Buffer Call} {r : Call}

def ClosedBy (r : Call) (x : Mux Buffer Call) : Prop :=
  (∃ left, x.close r = .closing left) ∨ x.close r = .waiting ∨ x.close r = .returned

theorem ClosedBy.ne_of_idle (h : ClosedBy r x) {c : Call}
    (hc : x.close c = .idle ∨ x.close c = .first ∨ x.close c = .blocked) : r ≠ c := by
  rintro rfl
  obtain ⟨left, hleft⟩ | hwait | hreturned := h
  · rw [hleft] at hc
    simp at hc
  · rw [hwait] at hc
    simp at hc
  · rw [hreturned] at hc
    simp at hc

/-- The work that is left to the loop and to the call that closed the connection. -/
def work (r : Call) (x : Mux Buffer Call) : ℕ := LoopPhase.work x.loop + ClosePhase.work (x.close r)

theorem work_of_eq (hloop : y.loop = x.loop) (hclose : y.close r = x.close r) :
    work r y ≤ work r x := by
  rw [work, work, hloop, hclose]

variable [DecidableEq Call]

theorem close_setPhase_of_ne (x : Mux Buffer Call) {c : Call} (hc : r ≠ c) (phase : ClosePhase) :
    (x.setPhase c phase).close r = x.close r := by
  rw [close_setPhase, if_neg hc]

theorem ClosedBy.setPhase_of_ne (h : ClosedBy r x) {c : Call} (hc : r ≠ c) (phase : ClosePhase) :
    ClosedBy r (x.setPhase c phase) := by
  unfold ClosedBy at h ⊢
  rwa [close_setPhase_of_ne x hc]

theorem ClosedBy.setPhase_self {phase : ClosePhase}
    (hphase : (∃ left, phase = .closing left) ∨ phase = .waiting ∨ phase = .returned) :
    ClosedBy r (x.setPhase r phase) := by
  have hclose : (x.setPhase r phase).close r = phase := by rw [close_setPhase, if_pos rfl]
  unfold ClosedBy
  rwa [hclose]

/-- The call that closed the connection has returned only when the closing is done. -/
theorem Stage.done_of_returned (h : x.Stage) (hr : x.close r = .returned) :
    x.once = .done ∧ x.loop = .returned := by
  rcases h with ⟨-, h₂, -, -⟩ | ⟨c, -, h₂, h₃, -, -⟩ | ⟨c, -, h₂, h₃, -, -⟩ | ⟨h₁, -, -, -, h₅⟩
  · simp [h₂ r] at hr
  · by_cases hrc : r = c
    · subst hrc
      simp [h₂] at hr
    · simpa [hr] using h₃ r hrc
  · by_cases hrc : r = c
    · subst hrc
      obtain ⟨left, hleft⟩ | hwait := h₂
      · simp [hleft] at hr
      · simp [hwait] at hr
    · simpa [hr] using h₃ r hrc
  · exact ⟨h₁, h₅⟩

theorem Stage.conn_of_closedBy (h : x.Stage) (hr : ClosedBy r x) :
    x.connClosed = true ∧ x.connCloses = 1 := by
  obtain hleft | hwait | hreturned := hr
  · exact (h.closer (.inl hleft)).2.2
  · exact (h.closer (.inr hwait)).2.2
  · rcases h with ⟨-, h₂, -, -⟩ | ⟨c, -, h₂, h₃, -, -⟩ | ⟨c, -, -, -, h₄, h₅⟩ | ⟨-, -, h₃, h₄, -⟩
    · simp [h₂ r] at hreturned
    · by_cases hrc : r = c
      · subst hrc
        simp [h₂] at hreturned
      · simpa [hreturned] using h₃ r hrc
    · exact ⟨h₄, h₅⟩
    · exact ⟨h₃, h₄⟩

variable [PacketBuffer Buffer]

theorem ClosedBy.step {e : Event Call} (h : ClosedBy r x) (hy : x.step e = some y) :
    ClosedBy r y := by
  cases effect_of_step hy with
  | closeFirst c hc honce => exact h.setPhase_of_ne (h.ne_of_idle (.inl hc)) _
  | closeBlocked c hc honce => exact h.setPhase_of_ne (h.ne_of_idle (.inl hc)) _
  | closeAgain c hc honce => exact h.setPhase_of_ne (h.ne_of_idle (.inl hc)) _
  | connClose c hc => exact h.setPhase_of_ne (h.ne_of_idle (.inr (.inl hc))) _
  | release c hc honce => exact h.setPhase_of_ne (h.ne_of_idle (.inr (.inr hc))) _
  | closeBuffer c s left hc =>
    by_cases hrc : r = c
    · subst hrc
      exact ClosedBy.setPhase_self (.inl ⟨left, rfl⟩)
    · exact ClosedBy.setPhase_of_ne (x := x.closeStream s) h hrc _
  | closedBuffers c hc =>
    by_cases hrc : r = c
    · subst hrc
      exact ClosedBy.setPhase_self (.inr (.inl rfl))
    · exact h.setPhase_of_ne hrc _
  | join c hc hloop =>
    by_cases hrc : r = c
    · subst hrc
      exact ClosedBy.setPhase_self (.inr (.inr rfl))
    · exact h.setPhase_of_ne hrc _
  | _ => exact h

theorem work_lt_of_finishes {e : Event Call} (hconn : x.connClosed = true)
    (he : Event.finishes r e = true) (hy : x.step e = some y) : work r y < work r x := by
  cases effect_of_step hy with
  | skip hloop hconn' => simp [hconn] at hconn'
  | packet pkt hloop hconn' hfits hsome => simp [hconn] at hconn'
  | fail hloop => simp [work, hloop, LoopPhase.work, allStreams]
  | file pkt hloop =>
    unfold work
    rw [hloop]
    exact Nat.add_lt_add_right (by decide : LoopPhase.work .reading < 6) _
  | loopClose s left hloop =>
    unfold work
    rw [hloop]
    exact Nat.add_lt_add_right (Nat.lt_succ_self _) _
  | loopReturn hloop => simp [work, hloop, LoopPhase.work]
  | closeBuffer c s left hc =>
    obtain rfl : c = r := by simpa [Event.finishes] using he
    unfold work
    rw [close_setPhase, if_pos rfl, hc]
    exact Nat.add_lt_add_left (Nat.lt_succ_self _) _
  | closedBuffers c hc =>
    obtain rfl : c = r := by simpa [Event.finishes] using he
    unfold work
    rw [close_setPhase, if_pos rfl, hc]
    exact Nat.add_lt_add_left (by decide : ClosePhase.work .waiting < 2) _
  | join c hc hloop =>
    obtain rfl : c = r := by simpa [Event.finishes] using he
    have hreturned : (x.setPhase c .returned).close c = .returned := by
      rw [close_setPhase, if_pos rfl]
    unfold work
    dsimp only
    rw [hreturned, hc]
    exact Nat.lt_succ_self _
  | _ => simp [Event.finishes] at he

theorem work_eq_of_not_finishes {e : Event Call} (hr : ClosedBy r x)
    (he : Event.finishes r e = false) (hy : x.step e = some y) : work r y ≤ work r x := by
  cases effect_of_step hy with
  | read s pkt b hread => exact le_rfl
  | closeFirst c hc honce | closeBlocked c hc honce | closeAgain c hc honce =>
    exact work_of_eq rfl (close_setPhase_of_ne x (hr.ne_of_idle (.inl hc)) _)
  | connClose c hc =>
    exact work_of_eq rfl (close_setPhase_of_ne x (hr.ne_of_idle (.inr (.inl hc))) _)
  | release c hc honce =>
    exact work_of_eq rfl (close_setPhase_of_ne x (hr.ne_of_idle (.inr (.inr hc))) _)
  | closeBuffer c s left hc =>
    have hrc : r ≠ c := by
      rintro rfl
      simp [Event.finishes] at he
    exact work_of_eq rfl (close_setPhase_of_ne (x.closeStream s) hrc _)
  | closedBuffers c hc =>
    have hrc : r ≠ c := by
      rintro rfl
      simp [Event.finishes] at he
    exact work_of_eq rfl (close_setPhase_of_ne x hrc _)
  | join c hc hloop =>
    have hrc : r ≠ c := by
      rintro rfl
      simp [Event.finishes] at he
    exact work_of_eq rfl (close_setPhase_of_ne x hrc _)
  | _ => simp [Event.finishes] at he

theorem exists_finishing_step (hr : ClosedBy r x) (hnot : x.close r ≠ .returned) :
    ∃ e, Event.finishes r e = true ∧ (x.step e).isSome = true := by
  obtain ⟨left, hleft⟩ | hwait | hreturned := hr
  · cases left with
    | nil => exact ⟨.closeBuffer r, by simp [Event.finishes], by simp [step, hleft]⟩
    | cons s left => exact ⟨.closeBuffer r, by simp [Event.finishes], by simp [step, hleft]⟩
  · cases hloop : x.loop with
    | reading => exact ⟨.fail, rfl, by simp [step, hloop]⟩
    | filing pkt => exact ⟨.file, rfl, by simp [step, hloop]⟩
    | closing left =>
      cases left with
      | nil => exact ⟨.loopClose, rfl, by simp [step, hloop]⟩
      | cons s left => exact ⟨.loopClose, rfl, by simp [step, hloop]⟩
    | returned => exact ⟨.join r, by simp [Event.finishes], by simp [step, hwait, hloop]⟩
  · exact absurd hreturned hnot

/-- Once a call has closed the connection, the loop and the call take eleven steps at most and have
one until the call returns, whatever the readers and other callers do. The connection is closed only
once. When the call returns the loop is over, every buffer is closed, so that a reader gets what is
left and then the end, and every other caller goes on. -/
theorem close_returns (events : List (Event Call)) (x x₁ : Mux Buffer Call)
    (hx : schedule step newICEMux events = some x) (r : Call) (hr : x.step (.connClose r) = some x₁)
    (es : List (Event Call)) (y : Mux Buffer Call) (hy : schedule step x₁ es = some y) :
    es.countP (Event.finishes r) ≤ 11 ∧ y.connCloses = 1 ∧
      (y.close r ≠ .returned → ∃ e, Event.finishes r e = true ∧ (y.step e).isSome = true) ∧
      (y.close r = .returned → y.loop = .returned ∧ (∀ s, y.closed s = true) ∧
        ∀ c, y.close c = .blocked → (y.step (.release c)).isSome = true) := by
  have hstage := schedule_invariant Stage (fun _ _ _ => Stage.step) stage_newICEMux hx
  have hshut := schedule_invariant Shut (fun _ _ _ => Shut.step) shut_newICEMux hx
  have hwork : LoopPhase.work x.loop ≤ 6 :=
    schedule_invariant (fun z : Mux Buffer Call => LoopPhase.work z.loop ≤ 6)
      (fun _ _ _ => work_le_of_step) (by exact Nat.le_succ 5) hx
  have hstage₁ := hstage.step hr
  have hclosed : ClosedBy r x₁ ∧ work r x₁ ≤ 11 := by
    cases effect_of_step hr with
    | connClose c hc =>
      have hclose : (x.setPhase r (.closing allStreams)).close r = .closing allStreams := by
        rw [close_setPhase, if_pos rfl]
      refine ⟨.inl ⟨allStreams, hclose⟩, ?_⟩
      simp only [work, hclose, ClosePhase.work]
      exact Nat.add_le_add hwork (by decide : allStreams.length + 2 ≤ 5)
  have hinv : ∀ (z : Mux Buffer Call) e z', (Stage z ∧ ClosedBy r z) → step z e = some z' →
      (Stage z' ∧ ClosedBy r z') := fun z e z' h hz => ⟨h.1.step hz, h.2.step hz⟩
  obtain ⟨hstage', hclosed'⟩ := schedule_invariant _ hinv ⟨hstage₁, hclosed.1⟩ hy
  refine ⟨?_, (hstage'.conn_of_closedBy hclosed').2, exists_finishing_step hclosed',
    fun hreturned => ?_⟩
  · have hcount := schedule_countP_le (fun z => Stage z ∧ ClosedBy r z) (work r)
      (Event.finishes r) hinv
      (fun z e z' h hz he => work_lt_of_finishes (h.1.conn_of_closedBy h.2).1 he hz)
      (fun z e z' h hz he => work_eq_of_not_finishes h.2 he hz) ⟨hstage₁, hclosed.1⟩ hy
    omega
  · obtain ⟨honce, hloop⟩ := hstage'.done_of_returned hreturned
    have hshut' := schedule_invariant Shut (fun _ _ _ => Shut.step) (hshut.step hr) hy
    refine ⟨hloop, fun s => hshut' s ?_, fun c hc => ?_⟩
    · rw [hloop]
      trivial
    · simp [step, hc, honce]

end Close

/-- One caller closes the conn of RTP while a packet is on its way to its buffer, and another the
one of RTCP. -/
theorem close_returns_filing : ∃ x x₁ y : Mux ListBuffer Bool,
    schedule step newICEMux [.packet [0x80, 0x00], .close true, .close false] = some x ∧
      x.step (.connClose true) = some x₁ ∧
      schedule step x₁ [.closeBuffer true, .file, .closeBuffer true, .closeBuffer true,
        .closeBuffer true, .fail, .loopClose, .loopClose, .loopClose, .loopClose, .join true] =
          some y ∧
      y.close true = .returned ∧ y.loop = .returned ∧ (y.step (.release false)).isSome = true := by
  refine ⟨_, _, _, rfl, rfl, rfl, rfl, ?_⟩
  obtain ⟨-, -, -, hdone⟩ := close_returns [.packet [0x80, 0x00], .close true, .close false]
    (_ : Mux ListBuffer Bool) _ rfl true rfl
    [.closeBuffer true, .file, .closeBuffer true, .closeBuffer true, .closeBuffer true, .fail,
      .loopClose, .loopClose, .loopClose, .loopClose, .join true] _ rfl
  exact ⟨(hdone rfl).1, (hdone rfl).2.2 false rfl⟩

end Mux

end Diago.Media.IceMux
