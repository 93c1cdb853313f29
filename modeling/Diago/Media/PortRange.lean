import Diago.Media.Frame

/-! # The port range

A session that is given no port takes a pair of free ports from the configured range.
-/
namespace Diago.Media
open Lib SDP Op

structure Host where
  ip : IP
  inUse : ℤ → Bool

def Host.Free (h : Host) (p : ℤ) : Prop := p ≤ 65535 ∧ h.inUse p = false

instance (h : Host) (p : ℤ) : Decidable (h.Free p) := inferInstanceAs (Decidable (_ ∧ _))

/-- What the host answers to a try at port `p` and the port after it. -/
def Host.attempt (h : Host) (p : ℤ) : Attempt where
  rtp := if h.inUse p then none else some ⟨h.ip, 0⟩
  rtcp := !h.inUse (p + 1)

def Host.listenEnv (h : Host) (g : Globals) (offset : ℤ) : ListenEnv where
  attempts k := h.attempt (g.rtpPortStart + offset + 2 * k)
  rtpPortOffset := offset

/-- The offsets earlier allocations leave, of any session and whatever ports were in use then. -/
inductive ReachableOffset (g : Globals) : ℤ → Prop
  | start : ReachableOffset g 0
  | next {env : ListenEnv} {own : Bool} {port offset : ℤ} {s t : MediaSession} :
      ReachableOffset g env.rtpPortOffset → createListeners g env own port s = (.ok offset, t) →
        ReachableOffset g offset

def Globals.pair (g : Globals) (k : ℕ) : ℤ := g.rtpPortStart + 2 * k

/-- The host has both ports of a pair of the range free. -/
structure Host.FreePair (h : Host) (g : Globals) (k : ℕ) : Prop where
  inRange : g.pair k < g.rtpPortEnd
  rtp : h.Free (g.pair k)
  rtcp : h.Free (g.pair k + 1)

def tryPort (env : ListenEnv) (own : Bool) (k : ℕ) (p : ℤ) : Op MediaSession Err Unit := do
  Op.update fun s => { s with laddr := { s.laddr with port := if own then p else s.laddr.port } }
  listen p (env.attempts k)

theorem portsFrom_eq (port rtpPortEnd : ℤ) : portsFrom port rtpPortEnd =
    (List.range ((rtpPortEnd - port + 1) / 2).toNat).map fun i : ℕ => port + 2 * (i : ℤ) := by
  simp [portsFrom, ← List.map_eq_flatMap]

theorem getElem?_portsFrom {port rtpPortEnd p : ℤ} {i : ℕ} :
    (portsFrom port rtpPortEnd)[i]? = some p ↔ p = port + 2 * i ∧ p < rtpPortEnd := by
  simp only [portsFrom_eq, List.getElem?_map, Option.map_eq_some_iff, List.getElem?_eq_some_iff,
    List.length_range, List.getElem_range]
  constructor
  · rintro ⟨j, ⟨hj, rfl⟩, rfl⟩
    omega
  · rintro ⟨rfl, hlt⟩
    exact ⟨i, ⟨by omega, rfl⟩, rfl⟩

section Scan
variable {g : Globals} {env : ListenEnv} {own : Bool} {s t : MediaSession} {n : ℤ}

/-- An allocation from the range succeeds when its scan does, and moves the offset past what the
scan found. -/
theorem createListeners_range (hstart : 0 < g.rtpPortStart) (hlt : g.rtpPortStart < g.rtpPortEnd) :
    createListeners g env own 0 s = (.ok n, t) ↔
      ∃ r, Op.firstOk (tryPort env own) 0
          (portsFrom (g.rtpPortStart + env.rtpPortOffset) g.rtpPortEnd) s = (.ok r, t) ∧
        n = (r.getD (g.rtpPortStart + env.rtpPortOffset) + 2 - g.rtpPortStart).tmod
          (g.rtpPortEnd - g.rtpPortStart) := by
  unfold createListeners
  rw [if_neg (by simp), if_pos ⟨hstart, hlt⟩]
  constructor
  · intro h
    obtain ⟨r, u, hfirst, hu⟩ := bind_eq_ok.mp h
    obtain ⟨hn, rfl⟩ := Prod.mk.inj hu
    split at hfirst
    · rename_i p v hp
      obtain ⟨hr, rfl⟩ := Prod.mk.inj hfirst
      obtain rfl := Except.ok.inj hr
      exact ⟨p, hp, (Except.ok.inj hn).symm⟩
    · cases hfirst
  · rintro ⟨r, hr, rfl⟩
    refine bind_eq_ok.mpr ⟨r, t, ?_, rfl⟩
    unfold tryPort at hr
    dsimp only
    rw [hr]

structure Globals.PairOffset (g : Globals) (offset : ℤ) : Prop where
  nonneg : 0 ≤ offset
  lt : offset < g.rtpPortEnd - g.rtpPortStart
  even : Even offset

theorem pairOffset_next (hlt : g.rtpPortStart < g.rtpPortEnd)
    (heven : Even (g.rtpPortEnd - g.rtpPortStart)) {offset : ℤ} (hoffset : g.PairOffset offset)
    (k : ℕ) : g.PairOffset ((offset + 2 * k + 2).tmod (g.rtpPortEnd - g.rtpPortStart)) := by
  obtain ⟨hnonneg, -, c, rfl⟩ := hoffset
  obtain ⟨d, hd⟩ := heven
  have hsize : 0 < g.rtpPortEnd - g.rtpPortStart := by omega
  rw [Int.tmod_eq_emod_of_nonneg (by omega)]
  refine ⟨Int.emod_nonneg _ hsize.ne', Int.emod_lt_of_pos _ hsize, ?_⟩
  rw [Int.even_iff, Int.emod_emod_of_dvd _ ⟨d, by omega⟩]
  omega

theorem createListeners_pairOffset (hlt : g.rtpPortStart < g.rtpPortEnd)
    (heven : Even (g.rtpPortEnd - g.rtpPortStart)) {port : ℤ}
    (hoffset : g.PairOffset env.rtpPortOffset)
    (h : createListeners g env own port s = (.ok n, t)) : g.PairOffset n := by
  by_cases hport : port = 0
  · subst hport
    by_cases hstart : 0 < g.rtpPortStart
    · obtain ⟨r, hfirst, rfl⟩ := (createListeners_range hstart hlt).mp h
      rcases firstOk_ok (P := fun _ => True) (fun _ _ _ _ => trivial) trivial hfirst with
        ⟨-, rfl, -⟩ | ⟨i, p, u, hp, rfl, -, -⟩
      · have hnext := pairOffset_next hlt heven hoffset 0
        convert hnext using 2
        simp only [Option.getD_none]
        ring
      · obtain ⟨rfl, -⟩ := getElem?_portsFrom.mp hp
        have hnext := pairOffset_next hlt heven hoffset i
        convert hnext using 2
        simp only [Option.getD_some]
        ring
    · unfold createListeners at h
      rw [if_neg (by simp), if_neg (by tauto)] at h
      obtain ⟨_, u, -, hu⟩ := bind_eq_ok.mp h
      obtain rfl := Except.ok.inj (Prod.mk.inj hu).1
      exact hoffset
  · unfold createListeners at h
    rw [if_pos hport] at h
    obtain ⟨_, u, -, hu⟩ := bind_eq_ok.mp h
    obtain rfl := Except.ok.inj (Prod.mk.inj hu).1
    exact hoffset

theorem ReachableOffset.pairOffset {offset : ℤ} (h : ReachableOffset g offset)
    (hlt : g.rtpPortStart < g.rtpPortEnd) (heven : Even (g.rtpPortEnd - g.rtpPortStart)) :
    g.PairOffset offset := by
  induction h with
  | start => exact ⟨le_rfl, by omega, Even.zero⟩
  | next _ hnext ih => exact createListeners_pairOffset hlt heven ih hnext

end Scan

def MediaSession.onPair (s : MediaSession) (ip : IP) (p : ℤ) : MediaSession :=
  { s with
    rtpConn := some (.udp { ip := some ip, port := p })
    rtcpConn := some (.udp { ip := some ip, port := p + 1 })
    laddr := { ip := some ip, port := p } }

theorem listen_attempt_iff {h : Host} {p : ℤ} {s t : MediaSession} (hp : 0 < p)
    (hice : s.iceEnabled = false) :
    listen p (h.attempt p) s = (.ok (), t) ↔
      h.Free p ∧ h.Free (p + 1) ∧ t = s.onPair h.ip p := by
  unfold listen
  rw [bind_of_ok (read_apply s), hice, if_neg (by simp)]
  unfold listenRTPandRTCP bindUDP Host.attempt Host.Free
  by_cases huse : h.inUse p = true
  · simp [huse, bind_eq_ok]
  by_cases hmax : p ≤ 65535
  · have hbind : 0 ≤ p ∧ p ≤ 65535 := ⟨hp.le, hmax⟩
    simp only [huse, hbind, if_true, Bool.false_eq_true, if_false, hp.ne', and_self]
    rw [bind_of_ok (update_apply _ s)]
    by_cases hnext : (!h.inUse (p + 1)) = true ∧ p + 1 ≤ 65535
    · rw [if_pos hnext]
      simp only [update_apply, Prod.mk.injEq, true_and]
      simp only [Bool.not_eq_true', hnext.2, true_and] at hnext ⊢
      simp [hnext, MediaSession.onPair, eq_comm]
    · rw [if_neg hnext]
      simp only [Bool.not_eq_true', not_and] at hnext
      simp [bind_eq_ok]
      tauto
  · simp [huse, hmax, bind_eq_ok]

section Host
variable {g : Globals} {h : Host} {offset : ℤ} {own : Bool}

theorem keeps_iceEnabled_tryPort (env : ListenEnv) (k : ℕ) (p : ℤ) :
    Keeps MediaSession.iceEnabled (tryPort env own k p) := by
  unfold tryPort
  refine Keeps.bind ?_ fun _ => keeps_listen (fun _ _ => rfl) _ _
  exact keeps_update fun _ => rfl

theorem tryPort_iff {s t : MediaSession} {k i : ℕ} (hstart : 0 < g.rtpPortStart)
    (hk : g.pair k = g.rtpPortStart + offset + 2 * i) (hice : s.iceEnabled = false) :
    tryPort (h.listenEnv g offset) own i (g.pair k) s = (.ok (), t) ↔
      h.Free (g.pair k) ∧ h.Free (g.pair k + 1) ∧ t = s.onPair h.ip (g.pair k) := by
  unfold tryPort
  rw [bind_of_ok (update_apply _ s)]
  have hattempt : (h.listenEnv g offset).attempts i = h.attempt (g.pair k) := by
    rw [hk]
    rfl
  have hpos : 0 < g.pair k := by
    unfold Globals.pair
    omega
  rw [hattempt, listen_attempt_iff hpos (by exact hice)]
  rfl

/-- The scan finds a pair exactly when one at or after the offset is free, and then the session is
on such a pair. -/
theorem scan_iff (h : Host) (own : Bool) (hstart : 0 < g.rtpPortStart)
    (hoffset : g.PairOffset offset) {s : MediaSession} (hice : s.iceEnabled = false) :
    ((∃ r t, Op.firstOk (tryPort (h.listenEnv g offset) own) 0
        (portsFrom (g.rtpPortStart + offset) g.rtpPortEnd) s = (.ok r, t)) ↔
      ∃ k : ℕ, offset ≤ 2 * k ∧ h.FreePair g k) ∧
    ∀ r t, Op.firstOk (tryPort (h.listenEnv g offset) own) 0
        (portsFrom (g.rtpPortStart + offset) g.rtpPortEnd) s = (.ok r, t) →
      ∃ (k : ℕ) (u : MediaSession), offset ≤ 2 * k ∧ h.FreePair g k ∧
        t = u.onPair h.ip (g.pair k) := by
  obtain ⟨hnonneg, hsize, c, rfl⟩ := hoffset
  have hkeeps (k : ℕ) (p : ℤ) : Maintains (fun s => s.iceEnabled = false)
      (tryPort (h.listenEnv g (c + c)) own k p) :=
    (keeps_iceEnabled_tryPort _ k p).maintains (· = false)
  have hfound (r : Option ℤ) (t : MediaSession)
      (hr : Op.firstOk (tryPort (h.listenEnv g (c + c)) own) 0
        (portsFrom (g.rtpPortStart + (c + c)) g.rtpPortEnd) s = (.ok r, t)) :
      ∃ (k : ℕ) (u : MediaSession), c + c ≤ 2 * k ∧ h.FreePair g k ∧
        t = u.onPair h.ip (g.pair k) := by
    rcases firstOk_ok hkeeps hice hr with ⟨hnil, -, -⟩ | ⟨i, p, u, hp, -, hu, htry⟩
    · have hfirst : (portsFrom (g.rtpPortStart + (c + c)) g.rtpPortEnd)[0]? =
          some (g.rtpPortStart + (c + c)) := getElem?_portsFrom.mpr ⟨by simp, by omega⟩
      rw [hnil] at hfirst
      cases hfirst
    · obtain ⟨hp, hend⟩ := getElem?_portsFrom.mp hp
      have hpair : g.pair (c.toNat + i) = g.rtpPortStart + (c + c) + 2 * i := by
        unfold Globals.pair
        omega
      rw [hp, ← hpair] at htry hend
      rw [Nat.zero_add] at htry
      obtain ⟨hrtp, hrtcp, rfl⟩ := (tryPort_iff hstart hpair hu).mp htry
      exact ⟨c.toNat + i, u, by omega, ⟨hend, hrtp, hrtcp⟩, rfl⟩
  refine ⟨⟨?_, ?_⟩, hfound⟩
  · rintro ⟨r, t, hr⟩
    obtain ⟨k, -, hk, hfree, -⟩ := hfound r t hr
    exact ⟨k, hk, hfree⟩
  · rintro ⟨k, hk, hfree⟩
    have hpair : g.pair k = g.rtpPortStart + (c + c) + 2 * ((k - c.toNat : ℕ) : ℤ) := by
      unfold Globals.pair
      omega
    have hmem : (portsFrom (g.rtpPortStart + (c + c)) g.rtpPortEnd)[k - c.toNat]? =
        some (g.pair k) := getElem?_portsFrom.mpr ⟨hpair, hfree.inRange⟩
    refine firstOk_isOk hkeeps hice hmem fun u hu => ?_
    rw [Nat.zero_add]
    exact ⟨_, (tryPort_iff hstart hpair hu).mpr ⟨hfree.rtp, hfree.rtcp, rfl⟩⟩

end Host

/-- An allocation without a port finds a free pair of the range, if there is one, exactly when
there is one at or after the offset; the ports it binds are a pair of the range. -/
theorem range_usable_iff {g : Globals} {offset : ℤ} (hstart : 0 < g.rtpPortStart)
    (hlt : g.rtpPortStart < g.rtpPortEnd) (heven : Even (g.rtpPortEnd - g.rtpPortStart))
    (hreach : ReachableOffset g offset) (h : Host) (own : Bool) {s : MediaSession}
    (hice : s.iceEnabled = false) :
    (((∃ k, h.FreePair g k) →
        ∃ n t, createListeners g (h.listenEnv g offset) own 0 s = (.ok n, t)) ↔
      ((∃ k, h.FreePair g k) → ∃ k : ℕ, offset ≤ 2 * k ∧ h.FreePair g k)) ∧
    ∀ n t, createListeners g (h.listenEnv g offset) own 0 s = (.ok n, t) →
      ∃ k, g.pair k + 1 < g.rtpPortEnd ∧
        t.rtpConn = some (.udp { ip := some h.ip, port := g.pair k }) ∧
        t.rtcpConn = some (.udp { ip := some h.ip, port := g.pair k + 1 }) := by
  obtain ⟨hscan, hfound⟩ := scan_iff h own hstart (hreach.pairOffset hlt heven) hice
  refine ⟨?_, ?_⟩
  · rw [← hscan]
    have hlisten : (∃ n t, createListeners g (h.listenEnv g offset) own 0 s = (.ok n, t)) ↔
        ∃ r t, Op.firstOk (tryPort (h.listenEnv g offset) own) 0
          (portsFrom (g.rtpPortStart + offset) g.rtpPortEnd) s = (.ok r, t) := by
      simp only [createListeners_range hstart hlt]
      constructor
      · rintro ⟨n, t, r, hr, -⟩
        exact ⟨r, t, hr⟩
      · rintro ⟨r, t, hr⟩
        exact ⟨_, t, r, hr, rfl⟩
    rw [hlisten]
  · intro n t hlisten
    obtain ⟨r, hr, -⟩ := (createListeners_range hstart hlt).mp hlisten
    obtain ⟨k, u, -, hfree, rfl⟩ := hfound r t hr
    obtain ⟨c, hc⟩ := heven
    have hend := hfree.inRange
    refine ⟨k, ?_, rfl, rfl⟩
    unfold Globals.pair at hend ⊢
    omega

section Sample

def twoPairs : Globals := { rtpPortStart := 5000, rtpPortEnd := 5004 }

def hostUsing (ports : List ℤ) : Host := ⟨.v4 127 0 0 1, fun p => p ∈ ports⟩

def unboundSession : MediaSession := {}

/-- With nothing in use the first pair is found. -/
theorem empty_host_takes_first_pair :
    ∃ n t, createListeners twoPairs ((hostUsing []).listenEnv twoPairs 0) true 0 unboundSession =
      (.ok n, t) :=
  (range_usable_iff (by decide) (by decide) (by decide) .start (hostUsing []) true rfl).1.mpr
    (fun ⟨k, hk⟩ => ⟨k, by omega, hk⟩) ⟨0, by decide, by decide, by decide⟩

/-- After one allocation, with the second pair in use and the first one free again, there is no
port to be had. -/
theorem freed_pair_not_found :
    ReachableOffset twoPairs 2 ∧ (hostUsing [5002, 5003]).FreePair twoPairs 0 ∧
      (createListeners twoPairs ((hostUsing [5002, 5003]).listenEnv twoPairs 2) true 0
        unboundSession).1 = .error (.noPorts .bind) := by
  have hfirst : createListeners twoPairs ((hostUsing []).listenEnv twoPairs 0) true 0
      unboundSession = (.ok 2, unboundSession.onPair (.v4 127 0 0 1) 5000) := rfl
  exact ⟨.next .start hfirst, ⟨by decide, by decide, by decide⟩, rfl⟩

end Sample

end Diago.Media
