import Mathlib.Tactic

/-! # Properties along a run

A system takes a step for each event. `Along P` says that `P` holds of every
state of a run together with the event taken there.
-/
namespace Diago.Lib

variable {σ ε : Type} {step : σ → ε → σ}

def runFrom (step : σ → ε → σ) (s : σ) (es : List ε) : σ := es.foldl step s

/-- `P` holds of every state the run from `s` over `es` takes a step in, and its event. -/
def Along (step : σ → ε → σ) (P : σ → ε → Prop) : σ → List ε → Prop
  | _, [] => True
  | s, e :: es => P s e ∧ Along step P (step s e) es

@[simp] theorem along_nil (P : σ → ε → Prop) (s : σ) : Along step P s [] := trivial

@[simp] theorem along_cons (P : σ → ε → Prop) (s : σ) (e : ε) (es : List ε) :
    Along step P s (e :: es) ↔ P s e ∧ Along step P (step s e) es := Iff.rfl

theorem Along.last {P : σ → ε → Prop} {s : σ} {es : List ε} {e : ε}
    (h : Along step P s (es ++ [e])) : P (runFrom step s es) e := by
  induction es generalizing s with
  | nil => exact h.1
  | cons _ es ih => exact ih h.2

theorem Along.of_mem {C : ε → Prop} {es : List ε} (h : ∀ e ∈ es, C e) (s : σ) :
    Along step (fun _ e => C e) s es := by
  induction es generalizing s with
  | nil => exact trivial
  | cons e es ih =>
    rw [List.forall_mem_cons] at h
    exact ⟨h.1, ih h.2 (step s e)⟩

/-- An invariant that steps keep under a condition carries what it gives at each step along
every run whose steps meet the condition. -/
theorem Along.of_invariant {C P : σ → ε → Prop} (I : σ → Prop)
    (hstep : ∀ s e, I s → C s e → I (step s e)) (hP : ∀ s e, I s → C s e → P s e) {s : σ}
    {es : List ε} (hs : I s) (hC : Along step C s es) : Along step P s es := by
  induction es generalizing s with
  | nil => exact trivial
  | cons e es ih => exact ⟨hP s e hs hC.1, ih (hstep s e hs hC.1) hC.2⟩

theorem Along.of_kept {P : σ → ε → Prop} (I : σ → Prop) (hstep : ∀ s e, I s → I (step s e))
    (hP : ∀ s e, I s → P s e) {s : σ} (hs : I s) (es : List ε) : Along step P s es := by
  induction es generalizing s with
  | nil => exact trivial
  | cons e es ih => exact ⟨hP s e hs, ih (hstep s e hs)⟩

/-- Two properties that an invariant makes the same hold along the same runs among those whose
steps keep it. -/
theorem along_congr_of_invariant {C P Q : σ → ε → Prop} (I : σ → Prop)
    (hstep : ∀ s e, I s → C s e → I (step s e))
    (hPQ : ∀ s e, I s → C s e → (P s e ↔ Q s e)) {s : σ} (hs : I s) {es : List ε}
    (hC : Along step C s es) : Along step P s es ↔ Along step Q s es := by
  induction es generalizing s with
  | nil => exact Iff.rfl
  | cons e es ih =>
    rw [along_cons, along_cons]
    exact and_congr (hPQ s e hs hC.1) (ih (hstep s e hs hC.1) hC.2)

/-- A property of states holds all along a run exactly if each step meets the condition under
which it keeps the property. -/
theorem along_iff_of_step {C : σ → ε → Prop} {I : σ → Prop}
    (hstep : ∀ s e, I s → (I (step s e) ↔ C s e)) {s : σ} (hs : I s) (es : List ε) :
    Along step (fun s e => I (step s e)) s es ↔ Along step C s es := by
  induction es generalizing s with
  | nil => exact Iff.rfl
  | cons e es ih =>
    rw [along_cons, along_cons, hstep s e hs]
    exact and_congr_right fun hc => ih ((hstep s e hs).mpr hc)

theorem runFrom_invariant (I : σ → Prop) (hstep : ∀ s e, I s → I (step s e)) {s : σ} (hs : I s)
    (es : List ε) : I (runFrom step s es) := by
  induction es generalizing s with
  | nil => exact hs
  | cons e es ih => exact ih (hstep s e hs)

/-- An invariant that steps keep under a condition holds after every run whose steps meet it. -/
theorem Along.runFrom_invariant {C : σ → ε → Prop} (I : σ → Prop)
    (hstep : ∀ s e, I s → C s e → I (step s e)) {s : σ} {es : List ε} (hs : I s)
    (hC : Along step C s es) : I (runFrom step s es) := by
  induction es generalizing s with
  | nil => exact hs
  | cons e es ih => exact ih (hstep s e hs hC.1) hC.2

theorem runFrom_invariant_of_mem {C : ε → Prop} (I : σ → Prop)
    (hstep : ∀ s e, I s → C e → I (step s e)) {s : σ} (hs : I s) {es : List ε}
    (hC : ∀ e ∈ es, C e) : I (runFrom step s es) := by
  induction es generalizing s with
  | nil => exact hs
  | cons e es ih =>
    rw [List.forall_mem_cons] at hC
    exact ih (hstep s e hs hC.1) hC.2

section Log

variable {α : Type} {P : List α → α → Prop}

/-- Each entry of a log is in the relation to those before it. -/
def EachAfter (P : List α → α → Prop) (log : List α) : Prop :=
  ∀ earlier a later, log = earlier ++ a :: later → P earlier a

theorem eachAfter_nil : EachAfter P [] := by
  intro earlier a later h
  simp at h

theorem EachAfter.concat {log : List α} {a : α} (h : EachAfter P log) (ha : P log a) :
    EachAfter P (log ++ [a]) := by
  intro earlier b later hlog
  obtain rfl | ⟨init, last, rfl⟩ := List.eq_nil_or_concat later
  · obtain ⟨rfl, hab⟩ := List.append_inj' hlog rfl
    obtain rfl := List.singleton_inj.mp hab
    exact ha
  · rw [List.concat_eq_append, ← List.cons_append, ← List.append_assoc] at hlog
    exact h earlier b init (List.append_inj' hlog rfl).1

/-- The last of what `f` reads off the entries of a log. -/
def lastOf {β : Type} (f : α → Option β) (log : List α) : Option β := (log.filterMap f).getLast?

theorem lastOf_concat {β : Type} (f : α → Option β) (log : List α) (a : α) :
    lastOf f (log ++ [a]) = (f a).or (lastOf f log) := by
  unfold lastOf
  rw [List.filterMap_append, List.getLast?_append]
  cases h : f a with
  | none => simp [List.filterMap_cons_none h]
  | some b => simp [List.filterMap_cons_some h]

theorem exists_mem_of_lastOf {β : Type} {f : α → Option β} {log : List α} {b : β}
    (h : lastOf f log = some b) : ∃ a ∈ log, f a = some b :=
  List.mem_filterMap.mp (List.mem_of_getLast? h)

end Log

end Diago.Lib
