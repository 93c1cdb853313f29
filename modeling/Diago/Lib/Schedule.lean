import Mathlib.Tactic

/-! # Schedules of a system with guarded steps

A step of the system is partial: there is none for an event that can not occur in
the state. A schedule is a list of events each of which can occur where it stands.
What every step keeps holds after every schedule, and a party whose steps use up a
measure that no other step adds to takes boundedly many.
-/
namespace Diago.Lib

variable {σ ε : Type} {step : σ → ε → Option σ}

/-- The state a schedule leads to, if each of its events can occur where it stands. -/
def schedule (step : σ → ε → Option σ) (s : σ) (es : List ε) : Option σ := es.foldlM step s

@[simp] theorem schedule_nil (s : σ) : schedule step s [] = some s := rfl

theorem schedule_cons {s t : σ} {e : ε} {es : List ε} :
    schedule step s (e :: es) = some t ↔ ∃ u, step s e = some u ∧ schedule step u es = some t := by
  unfold schedule
  rw [List.foldlM_cons]
  exact Option.bind_eq_some_iff

theorem schedule_invariant (I : σ → Prop) (hstep : ∀ s e t, I s → step s e = some t → I t)
    {s t : σ} {es : List ε} (hs : I s) (h : schedule step s es = some t) : I t := by
  induction es generalizing s with
  | nil =>
    cases h
    exact hs
  | cons e es ih =>
    obtain ⟨u, hu, ht⟩ := schedule_cons.mp h
    exact ih (hstep s e u hs hu) ht

/-- A schedule without the events that another state does not notice leads from that state to one
that is still related. -/
theorem schedule_filter (R : σ → σ → Prop) (keep : ε → Bool)
    (hkeep : ∀ s t e s', R s t → keep e = true → step s e = some s' →
      ∃ t', step t e = some t' ∧ R s' t')
    (hskip : ∀ s t e s', R s t → keep e = false → step s e = some s' → R s' t)
    {s t s' : σ} {es : List ε} (hR : R s t) (h : schedule step s es = some s') :
    ∃ t', schedule step t (es.filter keep) = some t' ∧ R s' t' := by
  induction es generalizing s t with
  | nil =>
    cases h
    exact ⟨t, rfl, hR⟩
  | cons e es ih =>
    obtain ⟨u, hu, hs'⟩ := schedule_cons.mp h
    cases he : keep e with
    | false =>
      rw [List.filter_cons_of_neg (by simp [he])]
      exact ih (hskip s t e u hR he hu) hs'
    | true =>
      rw [List.filter_cons_of_pos he]
      obtain ⟨v, hv, hRv⟩ := hkeep s t e u hR he hu
      obtain ⟨t', ht', hR'⟩ := ih hRv hs'
      exact ⟨t', schedule_cons.mpr ⟨v, hv, ht'⟩, hR'⟩

/-- The steps of one party in a schedule use up a measure, to which some steps of the others add,
each no more than `w`. -/
theorem schedule_countP_le_adding (I : σ → Prop) (μ : σ → ℕ) (mine adds : ε → Bool) (w : ℕ)
    (hstep : ∀ s e t, I s → step s e = some t → I t)
    (hmine : ∀ s e t, I s → step s e = some t → mine e = true → μ t < μ s)
    (hother : ∀ s e t, I s → step s e = some t → mine e = false →
      μ t ≤ μ s + if adds e then w else 0)
    {s t : σ} {es : List ε} (hs : I s) (h : schedule step s es = some t) :
    es.countP mine + μ t ≤ μ s + w * es.countP adds := by
  induction es generalizing s with
  | nil =>
    cases h
    simp
  | cons e es ih =>
    obtain ⟨u, hu, ht⟩ := schedule_cons.mp h
    have hrest := ih (hstep s e u hs hu) ht
    rw [List.countP_cons, List.countP_cons, Nat.mul_add]
    cases he : mine e with
    | false =>
      have hadd := hother s e u hs hu he
      cases ha : adds e <;> simp only [ha, Bool.false_eq_true, if_false, if_true] at hadd ⊢
      all_goals omega
    | true =>
      have huse := hmine s e u hs hu he
      simp only [if_true]
      omega

/-- The steps of one party in a schedule are bounded by what they use up of a measure that the
steps of the others do not add to. -/
theorem schedule_countP_le (I : σ → Prop) (μ : σ → ℕ) (mine : ε → Bool)
    (hstep : ∀ s e t, I s → step s e = some t → I t)
    (hmine : ∀ s e t, I s → step s e = some t → mine e = true → μ t < μ s)
    (hother : ∀ s e t, I s → step s e = some t → mine e = false → μ t ≤ μ s)
    {s t : σ} {es : List ε} (hs : I s) (h : schedule step s es = some t) :
    es.countP mine + μ t ≤ μ s := by
  simpa using schedule_countP_le_adding I μ mine (fun _ => false) 0 hstep hmine hother hs h

end Diago.Lib
