import Mathlib.Tactic

/-! # Operations on a state that survives failure

An operation returns a value or an error and the state it leaves, in both cases.
-/
namespace Diago.Lib

variable {σ ε α β γ : Type}

def Op (σ ε α : Type) : Type := σ → Except ε α × σ

theorem ok_of_toOption {r : Except ε α} {a : α} (h : r.toOption = some a) : r = .ok a := by
  cases r with
  | error e => cases h
  | ok b => exact congrArg Except.ok (Option.some.inj h)

theorem mapM_error {f : α → Except ε β} {xs : List α} {e : ε}
    (h : xs.mapM f = .error e) : ∃ x ∈ xs, f x = .error e := by
  induction xs with
  | nil => cases h
  | cons x xs ih =>
    rw [List.mapM_cons] at h
    cases hx : f x with
    | error e' =>
      rw [hx] at h
      cases h
      exact ⟨x, List.mem_cons_self, hx⟩
    | ok b =>
      cases hxs : xs.mapM f with
      | error e' =>
        rw [hx, hxs] at h
        cases h
        obtain ⟨y, hy, hfy⟩ := ih hxs
        exact ⟨y, List.mem_cons_of_mem x hy, hfy⟩
      | ok bs =>
        rw [hx, hxs] at h
        cases h

theorem foldlM_error {f : β → α → Except ε β} {xs : List α} {b : β} {e : ε}
    (h : xs.foldlM f b = .error e) : ∃ b, ∃ x ∈ xs, f b x = .error e := by
  induction xs generalizing b with
  | nil => cases h
  | cons x xs ih =>
    rw [List.foldlM_cons] at h
    cases hx : f b x with
    | error e' =>
      rw [hx] at h
      cases h
      exact ⟨b, x, List.mem_cons_self, hx⟩
    | ok b' =>
      rw [hx] at h
      obtain ⟨c, y, hy, hfy⟩ := ih h
      exact ⟨c, y, List.mem_cons_of_mem x hy, hfy⟩

theorem exists_ok {x : Except ε Unit × σ} {P : σ → Prop} (h : x.1 = .ok () ∧ P x.2) :
    ∃ t, x = (.ok (), t) ∧ P t :=
  ⟨x.2, Prod.ext h.1 rfl, h.2⟩

namespace Op

def bind (x : Op σ ε α) (f : α → Op σ ε β) : Op σ ε β := fun s =>
  match x s with
  | (.ok a, t) => f a t
  | (.error e, t) => (.error e, t)

instance : Monad (Op σ ε) where
  pure a := fun s => (.ok a, s)
  bind := bind

def fail (e : ε) : Op σ ε α := fun s => (.error e, s)

def read : Op σ ε σ := fun s => (.ok s, s)

def update (f : σ → σ) : Op σ ε Unit := fun s => (.ok (), f s)

def ofExcept (r : Except ε α) : Op σ ε α := fun s => (r, s)

/-- Fails with `e` unless `c` holds. -/
def require (c : Prop) [Decidable c] (e : ε) : Op σ ε Unit := if c then pure () else fail e

/-- Does `x` if `c` holds. -/
def only (c : Prop) [Decidable c] (x : Op σ ε Unit) : Op σ ε Unit := if c then x else pure ()

/-- Tries `f` on each entry until it succeeds, and gives the entry: none for an empty list, and
the last error when every try failed. The tries are numbered from `k`. -/
def firstOk (f : ℕ → β → Op σ ε Unit) (k : ℕ) : List β → Op σ ε (Option β)
  | [] => pure none
  | [x] => f k x >>= fun _ => pure (some x)
  | x :: y :: xs => fun s =>
    match f k x s with
    | (.ok _, t) => (.ok (some x), t)
    | (.error _, t) => firstOk f (k + 1) (y :: xs) t

@[simp] theorem pure_apply (a : α) (s : σ) : (pure a : Op σ ε α) s = (.ok a, s) := rfl
@[simp] theorem fail_apply (e : ε) (s : σ) : (fail e : Op σ ε α) s = (.error e, s) := rfl
@[simp] theorem read_apply (s : σ) : (read : Op σ ε σ) s = (.ok s, s) := rfl
@[simp] theorem update_apply (f : σ → σ) (s : σ) : (update f : Op σ ε Unit) s = (.ok (), f s) := rfl
@[simp] theorem ofExcept_apply (r : Except ε α) (s : σ) : (ofExcept r) s = (r, s) := rfl

theorem bind_apply (x : Op σ ε α) (f : α → Op σ ε β) (s : σ) :
    (x >>= f) s = match x s with
      | (.ok a, t) => f a t
      | (.error e, t) => (.error e, t) := rfl

theorem bind_of_ok {x : Op σ ε α} {s t : σ} {a : α} (h : x s = (.ok a, t)) (f : α → Op σ ε β) :
    (x >>= f) s = f a t := by
  rw [bind_apply, h]

theorem bind_of_error {x : Op σ ε α} {s t : σ} {e : ε} (h : x s = (.error e, t))
    (f : α → Op σ ε β) : (x >>= f) s = (.error e, t) := by
  rw [bind_apply, h]

theorem bind_eq_ok {x : Op σ ε α} {f : α → Op σ ε β} {s t : σ} {b : β} :
    (x >>= f) s = (.ok b, t) ↔ ∃ a u, x s = (.ok a, u) ∧ f a u = (.ok b, t) := by
  constructor
  · intro h
    rw [bind_apply] at h
    split at h
    · rename_i a u hx
      exact ⟨a, u, hx, h⟩
    · cases h
  · rintro ⟨a, u, hx, hf⟩
    rw [bind_of_ok hx, hf]

theorem bind_eq_error {x : Op σ ε α} {f : α → Op σ ε β} {s : σ} {e : ε} :
    ((x >>= f) s).1 = .error e ↔
      (x s).1 = .error e ∨ ∃ a u, x s = (.ok a, u) ∧ (f a u).1 = .error e := by
  rw [bind_apply]
  rcases x s with ⟨e' | a, u⟩ <;> simp

@[simp] theorem require_eq_ok {c : Prop} [Decidable c] {e : ε} {s t : σ} {u : Unit} :
    (require c e : Op σ ε Unit) s = (.ok u, t) ↔ c ∧ s = t := by
  unfold require
  split <;> simp_all

theorem require_eq_error {c : Prop} [Decidable c] {e e' : ε} {s : σ} :
    ((require c e : Op σ ε Unit) s).1 = .error e' ↔ ¬c ∧ e = e' := by
  unfold require
  split <;> simp_all

theorem require_of {c : Prop} [Decidable c] (e : ε) (s : σ) (h : c) :
    (require c e : Op σ ε Unit) s = (.ok (), s) := by simp [h]

theorem only_of {c : Prop} [Decidable c] (x : Op σ ε Unit) (h : c) : only c x = x := if_pos h

theorem only_of_not {c : Prop} [Decidable c] (x : Op σ ε Unit) (h : ¬ c) : only c x = pure () :=
  if_neg h

/-- Every state reached from a state with `P` has `P`, whether the operation succeeds or not. -/
def Maintains (P : σ → Prop) (x : Op σ ε α) : Prop := ∀ s, P s → P (x s).2

def Keeps (g : σ → γ) (x : Op σ ε α) : Prop := ∀ s, g (x s).2 = g s

theorem Maintains.bind {P : σ → Prop} {x : Op σ ε α} {f : α → Op σ ε β} (hx : Maintains P x)
    (hf : ∀ a, Maintains P (f a)) : Maintains P (x >>= f) := by
  intro s hs
  have hmid := hx s hs
  rw [bind_apply]
  split
  · rename_i a t h
    rw [h] at hmid
    exact hf a t hmid
  · rename_i e t h
    rw [h] at hmid
    exact hmid

theorem Keeps.maintains {g : σ → γ} {x : Op σ ε α} (h : Keeps g x) (Q : γ → Prop) :
    Maintains (fun s => Q (g s)) x := by
  intro s hs
  rw [h s]
  exact hs

theorem Keeps.bind {g : σ → γ} {x : Op σ ε α} {f : α → Op σ ε β} (hx : Keeps g x)
    (hf : ∀ a, Keeps g (f a)) : Keeps g (x >>= f) := by
  intro s
  exact Maintains.bind ((hx.maintains (· = g s))) (fun a => (hf a).maintains (· = g s)) s rfl

/-- A first part that keeps `g` from the state at hand is enough. -/
theorem Keeps.bind_at {g : σ → γ} {x : Op σ ε α} {f : α → Op σ ε β} {s : σ}
    (hx : g (x s).2 = g s) (hf : ∀ a, Keeps g (f a)) : g ((x >>= f) s).2 = g s := by
  rw [bind_apply]
  rcases h : x s with ⟨r, t⟩
  rw [h] at hx
  cases r with
  | ok a => exact (hf a t).trans hx
  | error e => exact hx

theorem keeps_pure (g : σ → γ) (a : α) : Keeps g (pure a : Op σ ε α) := fun _ => rfl
theorem keeps_fail (g : σ → γ) (e : ε) : Keeps g (fail e : Op σ ε α) := fun _ => rfl
theorem keeps_read (g : σ → γ) : Keeps g (read : Op σ ε σ) := fun _ => rfl
theorem keeps_ofExcept (g : σ → γ) (r : Except ε α) : Keeps g (ofExcept r : Op σ ε α) := fun _ => rfl

theorem keeps_update {g : σ → γ} {f : σ → σ} (h : ∀ s, g (f s) = g s) :
    Keeps g (update f : Op σ ε Unit) := h

theorem keeps_require (g : σ → γ) (c : Prop) [Decidable c] (e : ε) :
    Keeps g (require c e : Op σ ε Unit) := by
  unfold require
  split
  · exact keeps_pure g ()
  · exact keeps_fail g e

theorem Maintains.only {P : σ → Prop} {x : Op σ ε Unit} (h : Maintains P x) (c : Prop)
    [Decidable c] : Maintains P (only c x) := by
  unfold Op.only
  split
  · exact h
  · exact fun s hs => hs

theorem Keeps.only {g : σ → γ} {x : Op σ ε Unit} (h : Keeps g x) (c : Prop) [Decidable c] :
    Keeps g (only c x) := by
  unfold Op.only
  split
  · exact h
  · exact keeps_pure g ()

theorem Maintains.firstOk {P : σ → Prop} {f : ℕ → β → Op σ ε Unit}
    (h : ∀ k x, Maintains P (f k x)) (k : ℕ) (xs : List β) : Maintains P (firstOk f k xs) := by
  induction xs generalizing k with
  | nil => exact fun s hs => hs
  | cons x xs ih =>
    cases xs with
    | nil => exact (h k x).bind fun _ s hs => hs
    | cons y xs =>
      intro s hs
      have hx := h k x s hs
      unfold Op.firstOk
      split
      · rename_i t heq
        rwa [heq] at hx
      · rename_i t heq
        rw [heq] at hx
        exact ih (k + 1) t hx

/-- A search that succeeds ends with a try that did, unless there was nothing to try. -/
theorem firstOk_ok {P : σ → Prop} {f : ℕ → β → Op σ ε Unit} (hf : ∀ k x, Maintains P (f k x))
    {k : ℕ} {xs : List β} {s t : σ} {r : Option β} (hs : P s)
    (h : firstOk f k xs s = (.ok r, t)) :
    (xs = [] ∧ r = none ∧ t = s) ∨
      ∃ i x u, xs[i]? = some x ∧ r = some x ∧ P u ∧ f (k + i) x u = (.ok (), t) := by
  induction xs generalizing k s with
  | nil => exact .inl ⟨rfl, (Except.ok.inj (Prod.mk.inj h).1).symm, (Prod.mk.inj h).2.symm⟩
  | cons x xs ih =>
    right
    cases xs with
    | nil =>
      obtain ⟨_, u, hx, hu⟩ := bind_eq_ok.mp h
      obtain ⟨hr, rfl⟩ := Prod.mk.inj hu
      exact ⟨0, x, s, rfl, (Except.ok.inj hr).symm, hs, hx⟩
    | cons y xs =>
      have hmid := hf k x s hs
      unfold firstOk at h
      split at h
      · rename_i u hx
        obtain ⟨hr, rfl⟩ := Prod.mk.inj h
        exact ⟨0, x, s, rfl, (Except.ok.inj hr).symm, hs, hx⟩
      · rename_i u hx
        rw [hx] at hmid
        rcases ih hmid h with ⟨hnil, -⟩ | ⟨i, z, v, hz, hr, hv, htry⟩
        · cases hnil
        · exact ⟨i + 1, z, v, by simpa using hz, hr, hv, by rwa [← add_assoc, add_right_comm]⟩

theorem firstOk_isOk {P : σ → Prop} {f : ℕ → β → Op σ ε Unit} (hf : ∀ k x, Maintains P (f k x))
    {k i : ℕ} {xs : List β} {x : β} {s : σ} (hs : P s) (hx : xs[i]? = some x)
    (htry : ∀ u, P u → ∃ t, f (k + i) x u = (.ok (), t)) :
    ∃ r t, firstOk f k xs s = (.ok r, t) := by
  induction xs generalizing k i s with
  | nil => simp at hx
  | cons y xs ih =>
    cases i with
    | zero =>
      obtain rfl : y = x := by simpa using hx
      obtain ⟨t, ht⟩ := htry s hs
      rw [Nat.add_zero] at ht
      cases xs with
      | nil => exact ⟨some y, t, bind_eq_ok.mpr ⟨(), t, ht, rfl⟩⟩
      | cons z xs => exact ⟨some y, t, by simp [firstOk, ht]⟩
    | succ i =>
      cases xs with
      | nil => simp at hx
      | cons z xs =>
        have hmid := hf k y s hs
        unfold firstOk
        split
        · exact ⟨_, _, rfl⟩
        · rename_i u hy
          rw [hy] at hmid
          refine ih hmid (i := i) (by simpa using hx) fun u hu => ?_
          rw [add_assoc, add_comm 1 i]
          exact htry u hu

theorem Keeps.firstOk {g : σ → γ} {f : ℕ → β → Op σ ε Unit} (h : ∀ k x, Keeps g (f k x)) (k : ℕ)
    (xs : List β) : Keeps g (firstOk f k xs) := by
  intro s
  exact Maintains.firstOk (fun k x => (h k x).maintains (· = g s)) k xs s rfl

theorem Keeps.ok {g : σ → γ} {x : Op σ ε α} (h : Keeps g x) {s t : σ} {a : α}
    (hx : x s = (.ok a, t)) : g t = g s := by
  have := h s
  rwa [hx] at this

def FailsWith (P : ε → Prop) (x : Op σ ε α) : Prop := ∀ s e, (x s).1 = .error e → P e

theorem FailsWith.bind {P : ε → Prop} {x : Op σ ε α} {f : α → Op σ ε β} (hx : FailsWith P x)
    (hf : ∀ a, FailsWith P (f a)) : FailsWith P (x >>= f) := by
  intro s e he
  rw [bind_apply] at he
  split at he
  · rename_i a t _
    exact hf a t e he
  · rename_i e' t h
    cases he
    exact hx s e (by rw [h])

theorem FailsWith.mono {P Q : ε → Prop} {x : Op σ ε α} (h : FailsWith P x)
    (hPQ : ∀ e, P e → Q e) : FailsWith Q x :=
  fun s e he => hPQ e (h s e he)

theorem failsWith_pure (P : ε → Prop) (a : α) : FailsWith P (pure a : Op σ ε α) := nofun
theorem failsWith_read (P : ε → Prop) : FailsWith P (read : Op σ ε σ) := nofun
theorem failsWith_update (P : ε → Prop) (f : σ → σ) : FailsWith P (update f : Op σ ε Unit) := nofun

theorem failsWith_fail {P : ε → Prop} {e : ε} (h : P e) : FailsWith P (fail e : Op σ ε α) := by
  intro s e' he
  cases he
  exact h

theorem failsWith_ofExcept {P : ε → Prop} {r : Except ε α} (h : ∀ e, r = .error e → P e) :
    FailsWith P (ofExcept r : Op σ ε α) := fun _ e he => h e he

theorem failsWith_require {P : ε → Prop} {e : ε} (h : P e) (c : Prop) [Decidable c] :
    FailsWith P (require c e : Op σ ε Unit) := by
  unfold require
  split
  · exact failsWith_pure P ()
  · exact failsWith_fail h

theorem FailsWith.only {P : ε → Prop} {x : Op σ ε Unit} (h : FailsWith P x) (c : Prop)
    [Decidable c] : FailsWith P (only c x) := by
  unfold Op.only
  split
  · exact h
  · exact failsWith_pure P ()

end Op
end Diago.Lib
