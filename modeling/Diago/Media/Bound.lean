import Diago.Media.Frame

/-! # The address a session is bound to

A session that could be built, or moved to sockets of its own, has a local
address that a description can carry.
-/
namespace Diago.Media
open Lib SDP Op

/-- An address a description can carry: an IP without a zone, and a port. -/
structure UDPAddr.Usable (a : UDPAddr) : Prop where
  ip : a.ip ≠ none
  zone : a.zone = []
  port : 0 ≤ a.port ∧ a.port ≤ 65535

theorem bindUDP_usable {port : ℤ} {given : Option Bound} {a : UDPAddr}
    (h : bindUDP port given = some a) : a.Usable := by
  unfold bindUDP at h
  split at h
  · rename_i b
    split at h
    · rename_i hport
      obtain rfl := Option.some.inj h
      refine ⟨Option.some_ne_none b.ip, rfl, ?_⟩
      have hb : b.port.toNat < 65536 := b.port.toNat_lt
      dsimp only
      split <;> omega
    · cases h
  · cases h

theorem listen_usable {port : ℤ} {a : Attempt} {s t : MediaSession}
    (h : listen port a s = (.ok (), t)) : t.laddr.Usable := by
  unfold listen at h
  rw [bind_of_ok (read_apply s)] at h
  split at h
  · unfold listenICE at h
    cases hbind : bindUDP port a.rtp with
    | none => simp [hbind] at h
    | some bound =>
      simp only [hbind, update_apply, Prod.mk.injEq, true_and] at h
      rw [← h]
      exact bindUDP_usable hbind
  · unfold listenRTPandRTCP at h
    cases hbind : bindUDP port a.rtp with
    | none => simp [hbind, bind_eq_ok] at h
    | some bound =>
      simp only [hbind] at h
      rw [bind_of_ok (update_apply _ s)] at h
      split at h
      · rw [← (Prod.mk.inj h).2]
        exact bindUDP_usable hbind
      · simp [bind_eq_ok] at h

/-- Binding leaves the session on an address that was bound, or where it was when the range of
ports is used up. -/
theorem createListeners_laddr {g : Globals} {env : ListenEnv} {own : Bool} {port n : ℤ}
    {s t : MediaSession} (h : createListeners g env own port s = (.ok n, t)) :
    t.laddr.Usable ∨ port = 0 ∧ t = s := by
  unfold createListeners at h
  split at h
  · obtain ⟨_, u, hlisten, hu⟩ := bind_eq_ok.mp h
    obtain rfl := (Prod.mk.inj hu).2
    exact .inl (listen_usable hlisten)
  rename_i hport
  split at h
  · obtain ⟨bound, u, hfirst, hu⟩ := bind_eq_ok.mp h
    obtain rfl := (Prod.mk.inj hu).2
    split at hfirst
    · rename_i p v hp
      obtain rfl := (Prod.mk.inj hfirst).2
      rcases firstOk_ok (P := fun _ => True) (fun _ _ _ _ => trivial) trivial hp with
        ⟨-, -, rfl⟩ | ⟨i, x, w, -, -, -, hx⟩
      · exact .inr ⟨not_not.mp hport, rfl⟩
      · obtain ⟨_, w', -, hlisten⟩ := bind_eq_ok.mp hx
        exact .inl (listen_usable hlisten)
    · cases hfirst
  · obtain ⟨p, u, hfirst, hu⟩ := bind_eq_ok.mp h
    obtain rfl := (Prod.mk.inj hu).2
    rcases firstOk_ok (P := fun _ => True) (fun _ _ _ _ => trivial) trivial hfirst with
      ⟨-, -, rfl⟩ | ⟨i, x, w, -, -, -, hx⟩
    · exact .inr ⟨not_not.mp hport, rfl⟩
    · exact .inl (listen_usable hx)

def MediaSession.offSockets (s : MediaSession) : MediaSession :=
  s.withSockets ⟨none, none, {}, none, false⟩

theorem rebindForAssociation_ok {g : Globals} {env : RemoteEnv} {s t : MediaSession}
    (h : rebindForAssociation g env s = (.ok (), t)) :
    (t.laddr.Usable ∨ t.laddr = s.laddr) ∧ t.offSockets = s.offSockets := by
  refine ⟨?_, (keeps_rebindForAssociation (fun _ _ => rfl) g env).ok h⟩
  unfold rebindForAssociation at h
  obtain ⟨_, u, hclose, hrebind⟩ := bind_eq_ok.mp h
  obtain rfl := (Prod.mk.inj hclose).2
  split at hrebind
  · rename_i n v hbind
    obtain rfl := (Prod.mk.inj hrebind).2
    exact (createListeners_laddr hbind).imp_right fun ⟨_, hsame⟩ => by rw [hsame]
  · cases hrebind

theorem init_ok {g : Globals} {env : InitEnv} {s t : MediaSession} {n : ℤ}
    (hice : s.iceEnabled = false) (hzone : s.laddr.port = 0 → s.laddr.zone = [])
    (h : MediaSession.init g env s = (.ok n, t)) :
    s.codecs ≠ [] ∧ s.prefMode ≠ none ∧ t.laddr.Usable ∧
      t.offSockets = s.defaultAlg.dropExternalIP.offSockets := by
  unfold MediaSession.init checkSettings at h
  simp only [bind_eq_ok, read_apply, update_apply, require_eq_ok, Prod.mk.injEq, Except.ok.injEq,
    pure_apply] at h
  obtain ⟨_, _, ⟨_, _, ⟨rfl, rfl⟩, _, _, ⟨hcodecs, rfl⟩, _, _, ⟨hmode, rfl⟩, hip, rfl⟩, _, _,
    ⟨-, rfl⟩, _, _, ⟨rfl, rfl⟩, _, _, hcerts, _, _, ⟨-, rfl⟩, offset, u, hbind, _, _, honly,
    rfl, rfl⟩ := h
  have hcerts := (Keeps.only (g := id) (keeps_ofExcept id _) _).ok hcerts
  simp only [id] at hcerts
  subst hcerts
  rw [only_of_not _ (by simpa [MediaSession.iceEnabled, MediaSession.defaultAlg] using hice)]
    at honly
  obtain rfl := (Prod.mk.inj honly).2
  refine ⟨hcodecs, hmode, ?_, (keeps_createListeners (fun _ _ => rfl) g _ _ _).ok hbind⟩
  rcases createListeners_laddr hbind with husable | ⟨hport, rfl⟩
  · exact husable
  · have hport : s.laddr.port = 0 := hport
    refine ⟨hip, hzone hport, ?_⟩
    change 0 ≤ s.laddr.port ∧ s.laddr.port ≤ 65535
    omega

end Diago.Media
