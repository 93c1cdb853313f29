import Diago.Lib.Run
import Diago.Media.ClientHello

/-! # Sending the ClientHello again

The DTLS stack writes and reads through a conn that keeps the ClientHello it
sent last, until something is heard from the peer. WriteTo and ReadFrom use the
socket outside the lock of the conn, resendHello uses it under the lock. A call
is taken apart into the steps between which the other calls may run.
-/
namespace Diago.Media.KeyExchange
open Lib

structure DtlsKeyExchangeConn (Addr : Type) where
  detached : Bool := false
  hello : Option Bytes := none
  /-- The address may be nil, also one that was set. -/
  helloAddr : Option Addr := none
  heard : Bool := false

inductive ReadErr (Err : Type)
  | eof
  | socket (err : Err)

inductive Result (Addr Err : Type)
  | writeTo (n : ℕ) (err : Option Err)
  | readFrom (data : Bytes) (addr : Option Addr) (err : Option (ReadErr Err))
  | resendHello (err : Option Err)

inductive Phase (Addr Err : Type)
  | idle
  | writing (p : Bytes) (addr : Option Addr)
  /-- The socket took a ClientHello, the lock is not taken yet. -/
  | recording (p : Bytes) (addr : Option Addr) (n : ℕ)
  | reading
  /-- The socket gave a DTLS record, the lock is not taken yet. -/
  | marking (data : Bytes) (addr : Option Addr) (err : Option Err)
  | resending (p : Bytes) (addr : Option Addr)
  | returned (result : Result Addr Err)

inductive Entry (Call Addr : Type)
  /-- The socket took a datagram of WriteTo without an error. -/
  | sent (p : Bytes) (addr : Option Addr)
  | recorded (p : Bytes) (addr : Option Addr)
  | heard (data : Bytes)
  | detached
  | checked (c : Call) (p : Bytes) (addr : Option Addr)
  | resent (c : Call) (p : Bytes) (addr : Option Addr)
  deriving DecidableEq

variable {Call Addr Err : Type}

structure System (Call Addr Err : Type) where
  conn : DtlsKeyExchangeConn Addr := {}
  /-- The call that keeps the lock from one of its steps to the next. -/
  mu : Option Call := none
  phase : Call → Phase Addr Err := fun _ => .idle
  log : List (Entry Call Addr) := []

inductive Event (Call Addr Err : Type)
  | writeTo (c : Call) (p : Bytes) (addr : Option Addr)
  | socketWrite (c : Call) (n : ℕ) (err : Option Err)
  | record (c : Call)
  | readFrom (c : Call)
  | socketRead (c : Call) (data : Bytes) (addr : Option Addr) (err : Option Err)
  | mark (c : Call)
  | resendHello (c : Call)
  | socketResend (c : Call) (err : Option Err)
  | detach

def startsRecord : Bytes → Bool
  | [] => false
  | b :: _ => 20 ≤ b && b ≤ 63

section Steps

variable [DecidableEq Call]

namespace System

def setPhase (x : System Call Addr Err) (c : Call) (ph : Phase Addr Err) : System Call Addr Err :=
  { x with phase := Function.update x.phase c ph }

def note (x : System Call Addr Err) (e : Entry Call Addr) : System Call Addr Err :=
  { x with log := x.log ++ [e] }

def detach (x : System Call Addr Err) : System Call Addr Err :=
  { x.note .detached with conn := { x.conn with detached := true } }

/-! ### WriteTo -/

def writeTo (x : System Call Addr Err) (c : Call) (p : Bytes) (addr : Option Addr) :
    System Call Addr Err :=
  if x.conn.detached then x.setPhase c (.returned (.writeTo p.length none))
  else x.setPhase c (.writing p addr)

def socketWrite (x : System Call Addr Err) (c : Call) (p : Bytes) (addr : Option Addr) (n : ℕ) :
    Option Err → System Call Addr Err
  | some err => x.setPhase c (.returned (.writeTo n (some err)))
  | none =>
    if isClientHelloDatagram p = some true then
      (x.note (.sent p addr)).setPhase c (.recording p addr n)
    else (x.note (.sent p addr)).setPhase c (.returned (.writeTo n none))

def keepHello (x : System Call Addr Err) (p : Bytes) (addr : Option Addr) :
    System Call Addr Err :=
  { x.note (.recorded p addr) with conn := { x.conn with hello := some p, helloAddr := addr } }

def record (x : System Call Addr Err) (c : Call) (p : Bytes) (addr : Option Addr) (n : ℕ) :
    System Call Addr Err :=
  if x.conn.heard then x.setPhase c (.returned (.writeTo n none))
  else (x.keepHello p addr).setPhase c (.returned (.writeTo n none))

/-! ### ReadFrom -/

def readFrom (x : System Call Addr Err) (c : Call) : System Call Addr Err :=
  if x.conn.detached then x.setPhase c (.returned (.readFrom [] none (some .eof)))
  else x.setPhase c .reading

def socketRead (x : System Call Addr Err) (c : Call) (data : Bytes) (addr : Option Addr)
    (err : Option Err) : System Call Addr Err :=
  if startsRecord data then x.setPhase c (.marking data addr err)
  else x.setPhase c (.returned (.readFrom data addr (err.map .socket)))

def hear (x : System Call Addr Err) (data : Bytes) : System Call Addr Err :=
  { x.note (.heard data) with conn := { x.conn with heard := true, hello := none } }

/-! ### resendHello -/

/-- Up to the socket, which it uses without giving up the lock. -/
def resendHello (x : System Call Addr Err) (c : Call) : System Call Addr Err :=
  match x.conn.hello with
  | none => x.setPhase c (.returned (.resendHello none))
  | some p =>
    if x.conn.heard || x.conn.detached then x.setPhase c (.returned (.resendHello none))
    else
      { (x.note (.checked c p x.conn.helloAddr)).setPhase c (.resending p x.conn.helloAddr) with
        mu := some c }

def socketResend (x : System Call Addr Err) (c : Call) (p : Bytes) (addr : Option Addr)
    (err : Option Err) : System Call Addr Err :=
  { (x.note (.resent c p addr)).setPhase c (.returned (.resendHello err)) with mu := none }

end System

/-- What a call can not do where it is, or not while another has the lock, changes nothing. -/
def System.step (x : System Call Addr Err) : Event Call Addr Err → System Call Addr Err
  | .writeTo c p addr =>
    match x.phase c with
    | .idle => x.writeTo c p addr
    | _ => x
  | .socketWrite c n err =>
    match x.phase c with
    | .writing p addr => x.socketWrite c p addr n err
    | _ => x
  | .record c =>
    match x.phase c with
    | .recording p addr n => if x.mu = none then x.record c p addr n else x
    | _ => x
  | .readFrom c =>
    match x.phase c with
    | .idle => x.readFrom c
    | _ => x
  | .socketRead c data addr err =>
    match x.phase c with
    | .reading => x.socketRead c data addr err
    | _ => x
  | .mark c =>
    match x.phase c with
    | .marking data addr err =>
      if x.mu = none then
        (x.hear data).setPhase c (.returned (.readFrom data addr (err.map .socket)))
      else x
    | _ => x
  | .resendHello c =>
    match x.phase c with
    | .idle => if x.mu = none then x.resendHello c else x
    | _ => x
  | .socketResend c err =>
    match x.phase c with
    | .resending p addr => x.socketResend c p addr err
    | _ => x
  | .detach => x.detach

def reached (events : List (Event Call Addr Err)) : System Call Addr Err :=
  runFrom System.step {} events

/-! ## What a step can do -/

/-- The call neither has to record what it sent nor to send what it checked. -/
structure Phase.Free (ph : Phase Addr Err) : Prop where
  recording : ∀ p addr n, ph ≠ .recording p addr n
  resending : ∀ p addr, ph ≠ .resending p addr

theorem Phase.free_returned (r : Result Addr Err) : (Phase.returned r).Free := ⟨nofun, nofun⟩

inductive Effect (x : System Call Addr Err) : Event Call Addr Err → System Call Addr Err → Prop
  | stays (e) : Effect x e x
  | moves (e) {c : Call} {ph : Phase Addr Err} (hfree : ph.Free)
    (hfrom : x.conn.heard = false → (x.phase c).Free) : Effect x e (x.setPhase c ph)
  | sends {c : Call} {p : Bytes} {addr : Option Addr} {n : ℕ} {ph : Phase Addr Err}
    (hp : ¬ HoldsClientHello p) (hfree : ph.Free) :
    Effect x (.socketWrite c n none) ((x.note (.sent p addr)).setPhase c ph)
  | sendsHello {c : Call} {p : Bytes} {addr : Option Addr} {n : ℕ} (hp : HoldsClientHello p) :
    Effect x (.socketWrite c n none)
      ((x.note (.sent p addr)).setPhase c (.recording p addr n))
  | records (e) {c : Call} {p : Bytes} {addr : Option Addr} {n : ℕ} {ph : Phase Addr Err}
    (hphase : x.phase c = .recording p addr n) (hfree : ph.Free) :
    Effect x e ((x.keepHello p addr).setPhase c ph)
  | hears (e) {c : Call} {data : Bytes} {ph : Phase Addr Err} (hfree : ph.Free) :
    Effect x e ((x.hear data).setPhase c ph)
  | checks {c : Call} {p : Bytes} (hp : x.conn.hello = some p) (hheard : x.conn.heard = false)
    (hdetached : x.conn.detached = false) (mu : Option Call) :
    Effect x (.resendHello c)
      { (x.note (.checked c p x.conn.helloAddr)).setPhase c (.resending p x.conn.helloAddr) with
        mu := mu }
  | resends (e) {c : Call} {p : Bytes} {addr : Option Addr} {ph : Phase Addr Err}
    (hphase : x.phase c = .resending p addr) (hfree : ph.Free) (mu : Option Call) :
    Effect x e { (x.note (.resent c p addr)).setPhase c ph with mu := mu }
  | detaches (e) : Effect x e x.detach

namespace System

variable {x : System Call Addr Err} {c : Call}

theorem effect_moves {ph ph' : Phase Addr Err} {e : Event Call Addr Err}
    (hphase : x.phase c = ph) (hfrom : ph.Free) (hto : ph'.Free) : Effect x e (x.setPhase c ph') :=
  .moves e hto fun _ => hphase ▸ hfrom

theorem effect_writeTo (hidle : x.phase c = .idle) (p : Bytes) (addr : Option Addr)
    (e : Event Call Addr Err) : Effect x e (x.writeTo c p addr) := by
  unfold writeTo
  split_ifs <;> apply effect_moves hidle <;> exact ⟨nofun, nofun⟩

theorem effect_socketWrite {p : Bytes} {addr : Option Addr}
    (hwriting : x.phase c = .writing p addr) (n : ℕ) (err : Option Err) :
    Effect x (.socketWrite c n err) (x.socketWrite c p addr n err) := by
  cases err with
  | some err => apply effect_moves hwriting <;> exact ⟨nofun, nofun⟩
  | none =>
    unfold socketWrite
    split_ifs with hp
    · exact .sendsHello ((holdsClientHello_iff p).mpr hp)
    · exact .sends (mt (holdsClientHello_iff p).mp hp) ⟨nofun, nofun⟩

theorem effect_record {p : Bytes} {addr : Option Addr} {n : ℕ}
    (hrecording : x.phase c = .recording p addr n) (e : Event Call Addr Err) :
    Effect x e (x.record c p addr n) := by
  unfold record
  split_ifs with hheard
  · refine .moves e ⟨nofun, nofun⟩ fun hsilent => ?_
    rw [hheard] at hsilent
    cases hsilent
  · exact .records e hrecording ⟨nofun, nofun⟩

theorem effect_readFrom (hidle : x.phase c = .idle) (e : Event Call Addr Err) :
    Effect x e (x.readFrom c) := by
  unfold readFrom
  split_ifs <;> apply effect_moves hidle <;> exact ⟨nofun, nofun⟩

theorem effect_socketRead (hreading : x.phase c = .reading) (data : Bytes) (addr : Option Addr)
    (err : Option Err) (e : Event Call Addr Err) : Effect x e (x.socketRead c data addr err) := by
  unfold socketRead
  split_ifs <;> apply effect_moves hreading <;> exact ⟨nofun, nofun⟩

theorem effect_resendHello (hidle : x.phase c = .idle) :
    Effect x (.resendHello c) (x.resendHello c) := by
  unfold resendHello
  split
  · apply effect_moves hidle <;> exact ⟨nofun, nofun⟩
  · next p hp =>
    split_ifs with hgo
    · apply effect_moves hidle <;> exact ⟨nofun, nofun⟩
    · rw [Bool.or_eq_true, not_or, Bool.not_eq_true, Bool.not_eq_true] at hgo
      exact .checks hp hgo.1 hgo.2 (some c)

theorem effect_step (x : System Call Addr Err) (e : Event Call Addr Err) :
    Effect x e (x.step e) := by
  cases e with
  | writeTo c p addr =>
    rw [step]
    split
    · next hidle => exact effect_writeTo hidle ..
    · exact .stays _
  | socketWrite c n err =>
    rw [step]
    split
    · next hwriting => exact effect_socketWrite hwriting ..
    · exact .stays _
  | record c =>
    rw [step]
    split
    · next hrecording =>
      split_ifs
      · exact effect_record hrecording _
      · exact .stays _
    · exact .stays _
  | readFrom c =>
    rw [step]
    split
    · next hidle => exact effect_readFrom hidle _
    · exact .stays _
  | socketRead c data addr err =>
    rw [step]
    split
    · next hreading => exact effect_socketRead hreading ..
    · exact .stays _
  | mark c =>
    rw [step]
    split
    · split_ifs
      · exact .hears _ (Phase.free_returned _)
      · exact .stays _
    · exact .stays _
  | resendHello c =>
    rw [step]
    split
    · next hidle =>
      split_ifs
      · exact effect_resendHello hidle
      · exact .stays _
    · exact .stays _
  | socketResend c err =>
    rw [step]
    split
    · next hresending => exact .resends _ hresending (Phase.free_returned _) none
    · exact .stays _
  | detach => exact .detaches _

end System

end Steps

/-! ## What is sent again -/

def Entry.hello : Entry Call Addr → Option (Bytes × Option Addr)
  | .sent p addr => if HoldsClientHello p then some (p, addr) else none
  | _ => none

def Entry.record : Entry Call Addr → Option (Bytes × Option Addr)
  | .recorded p addr => some (p, addr)
  | _ => none

/-- Nothing was heard from the peer, and the conn is not detached. -/
structure Waiting (log : List (Entry Call Addr)) : Prop where
  silent : ∀ data, .heard data ∉ log
  attached : .detached ∉ log

/-- Of what resendHello puts on the socket: `Q` holds of it and the log up to its check. -/
def Chosen (Q : List (Entry Call Addr) → Bytes × Option Addr → Prop)
    (earlier : List (Entry Call Addr)) : Entry Call Addr → Prop
  | .resent c p addr =>
    ∃ before after, earlier = before ++ .checked c p addr :: after ∧ Q before (p, addr)
  | _ => True

/-- It is the ClientHello sent last, the peer is silent and the transport attached. -/
def RepeatsLast (before : List (Entry Call Addr)) (h : Bytes × Option Addr) : Prop :=
  Waiting before ∧ lastOf Entry.hello before = some h

/-- It is the ClientHello recorded last, which was sent, the peer is silent and the transport
attached. -/
def RepeatsRecord (before : List (Entry Call Addr)) (h : Bytes × Option Addr) : Prop :=
  Waiting before ∧ lastOf Entry.record before = some h ∧ .sent h.1 h.2 ∈ before ∧
    HoldsClientHello h.1

/-- The ClientHello recorded last is the one sent last. -/
def InStep (before : List (Entry Call Addr)) (_ : Bytes × Option Addr) : Prop :=
  ∀ h, lastOf Entry.record before = some h → lastOf Entry.hello before = some h

/-! ## The log, entry by entry -/

/-- What a check and what comes after it have to do with the log before. -/
def CheckedFirst (Q : List (Entry Call Addr) → Bytes × Option Addr → Prop)
    (earlier : List (Entry Call Addr)) : Entry Call Addr → Prop
  | .checked _ p addr => Q earlier (p, addr)
  | .resent c p addr => .checked c p addr ∈ earlier
  | _ => True

section Log

variable {P Q R : List (Entry Call Addr) → Bytes × Option Addr → Prop}
  {log : List (Entry Call Addr)}

theorem CheckedFirst.before_check (h : EachAfter (CheckedFirst P) log)
    {before after later : List (Entry Call Addr)} {c : Call} {p : Bytes} {addr : Option Addr}
    {e : Entry Call Addr} (hlog : log = before ++ .checked c p addr :: after ++ e :: later) :
    P before (p, addr) := by
  rw [List.append_assoc, List.cons_append] at hlog
  exact h before _ _ hlog

theorem CheckedFirst.chosen (h : EachAfter (CheckedFirst P) log) : EachAfter (Chosen P) log := by
  intro earlier e later hlog
  cases e with
  | resent c p addr =>
    have hmem : .checked c p addr ∈ earlier := h earlier _ later hlog
    obtain ⟨before, after, rfl⟩ := List.append_of_mem hmem
    exact ⟨before, after, rfl, before_check h hlog⟩
  | _ => trivial

theorem CheckedFirst.chosen_mono (h : EachAfter (CheckedFirst P) log)
    (hQR : ∀ before b, P before b → Q before b → R before b) (hQ : EachAfter (Chosen Q) log) :
    EachAfter (Chosen R) log := by
  intro earlier e later hlog
  cases e with
  | resent c p addr =>
    obtain ⟨before, after, rfl, hq⟩ := hQ earlier _ later hlog
    exact ⟨before, after, rfl, hQR before (p, addr) (before_check h hlog) hq⟩
  | _ => trivial

end Log

/-! ## The invariant -/

namespace System

structure Kept (x : System Call Addr Err) : Prop where
  silent : x.conn.heard = false → ∀ data, .heard data ∉ x.log
  attached : x.conn.detached = false → .detached ∉ x.log
  hello : ∀ p, x.conn.hello = some p → lastOf Entry.record x.log = some (p, x.conn.helloAddr)
  recording : ∀ c p addr n, x.phase c = .recording p addr n →
    .sent p addr ∈ x.log ∧ HoldsClientHello p
  recorded : ∀ p addr, .recorded p addr ∈ x.log → .sent p addr ∈ x.log ∧ HoldsClientHello p
  resending : ∀ c p addr, x.phase c = .resending p addr → .checked c p addr ∈ x.log
  checks : EachAfter (CheckedFirst RepeatsRecord) x.log

variable {x : System Call Addr Err}

theorem kept_init : Kept ({} : System Call Addr Err) where
  silent _ _ := List.not_mem_nil
  attached _ := List.not_mem_nil
  hello _ h := nomatch h
  recording _ _ _ _ h := nomatch h
  recorded _ _ h := nomatch h
  resending _ _ _ h := nomatch h
  checks := eachAfter_nil

theorem Kept.append (h : x.Kept) {conn : DtlsKeyExchangeConn Addr} {e : Entry Call Addr}
    (hsilent : conn.heard = false → x.conn.heard = false ∧ ∀ data, e ≠ .heard data)
    (hattached : conn.detached = false → x.conn.detached = false ∧ e ≠ .detached)
    (hhello : ∀ p, conn.hello = some p →
      lastOf Entry.record (x.log ++ [e]) = some (p, conn.helloAddr))
    (hrecorded : ∀ p addr, e = .recorded p addr → .sent p addr ∈ x.log ∧ HoldsClientHello p)
    (hcheck : CheckedFirst RepeatsRecord x.log e) :
    Kept { x.note e with conn := conn } where
  silent hconn data hmem := by
    obtain hold | hnew := List.mem_append.mp hmem
    · exact h.silent (hsilent hconn).1 data hold
    · exact (hsilent hconn).2 data (List.mem_singleton.mp hnew).symm
  attached hconn hmem := by
    obtain hold | hnew := List.mem_append.mp hmem
    · exact h.attached (hattached hconn).1 hold
    · exact (hattached hconn).2 (List.mem_singleton.mp hnew).symm
  hello := hhello
  recording c p addr n hphase :=
    (h.recording c p addr n hphase).imp_left (List.mem_append_left [e])
  recorded p addr hmem := by
    refine And.imp_left (List.mem_append_left [e]) ?_
    obtain hold | hnew := List.mem_append.mp hmem
    · exact h.recorded p addr hold
    · exact hrecorded p addr (List.mem_singleton.mp hnew).symm
  resending c p addr hphase := List.mem_append_left [e] (h.resending c p addr hphase)
  checks := h.checks.concat hcheck

theorem Kept.hello_concat (h : x.Kept) {e : Entry Call Addr} (he : e.record = none) {p : Bytes}
    (hp : x.conn.hello = some p) :
    lastOf Entry.record (x.log ++ [e]) = some (p, x.conn.helloAddr) := by
  rw [lastOf_concat, he, Option.none_or]
  exact h.hello p hp

theorem Kept.note (h : x.Kept) (e : Entry Call Addr) (hsilent : ∀ data, e ≠ .heard data)
    (hattached : e ≠ .detached) (hrecord : e.record = none)
    (hcheck : CheckedFirst RepeatsRecord x.log e) : (x.note e).Kept := by
  apply h.append
  · exact fun hconn => ⟨hconn, hsilent⟩
  · exact fun hconn => ⟨hconn, hattached⟩
  · exact fun p hp => h.hello_concat hrecord hp
  · rintro p addr rfl
    cases hrecord
  · exact hcheck

theorem Kept.keepHello (h : x.Kept) {p : Bytes} {addr : Option Addr}
    (hsent : .sent p addr ∈ x.log ∧ HoldsClientHello p) : (x.keepHello p addr).Kept := by
  apply h.append
  · exact fun hconn => ⟨hconn, nofun⟩
  · exact fun hconn => ⟨hconn, nofun⟩
  · rintro q ⟨⟩
    exact lastOf_concat ..
  · rintro q a ⟨⟩
    exact hsent
  · trivial

theorem Kept.hear (h : x.Kept) (data : Bytes) : (x.hear data).Kept := by
  apply h.append
  · exact nofun
  · exact fun hconn => ⟨hconn, nofun⟩
  · exact nofun
  · exact nofun
  · trivial

theorem Kept.detach (h : x.Kept) : x.detach.Kept := by
  apply h.append
  · exact fun hconn => ⟨hconn, nofun⟩
  · exact nofun
  · exact fun p hp => h.hello_concat rfl hp
  · exact nofun
  · trivial

theorem Kept.repeatsRecord (h : x.Kept) {p : Bytes} (hp : x.conn.hello = some p)
    (hheard : x.conn.heard = false) (hdetached : x.conn.detached = false) :
    RepeatsRecord x.log (p, x.conn.helloAddr) := by
  have hlast := h.hello p hp
  obtain ⟨e, hmem, he⟩ := exists_mem_of_lastOf hlast
  cases e with
  | recorded q addr =>
    obtain ⟨rfl, rfl⟩ := Prod.mk.inj (Option.some.inj he)
    exact ⟨⟨h.silent hheard, h.attached hdetached⟩, hlast, h.recorded _ _ hmem⟩
  | _ => cases he

theorem Kept.withMu (h : x.Kept) (mu : Option Call) : Kept { x with mu := mu } where
  silent := h.silent
  attached := h.attached
  hello := h.hello
  recording := h.recording
  recorded := h.recorded
  resending := h.resending
  checks := h.checks

section Steps

variable [DecidableEq Call] {c : Call} {ph : Phase Addr Err}

theorem phase_setPhase (x : System Call Addr Err) (c c' : Call) (ph : Phase Addr Err) :
    (x.setPhase c ph).phase c' = if c' = c then ph else x.phase c' :=
  Function.update_apply ..

theorem Kept.setPhase (h : x.Kept)
    (hrecording : ∀ p addr n, ph = .recording p addr n →
      .sent p addr ∈ x.log ∧ HoldsClientHello p)
    (hresending : ∀ p addr, ph = .resending p addr → .checked c p addr ∈ x.log) :
    (x.setPhase c ph).Kept where
  silent := h.silent
  attached := h.attached
  hello := h.hello
  recording c' p addr n hphase := by
    rw [phase_setPhase] at hphase
    split_ifs at hphase
    · exact hrecording p addr n hphase
    · exact h.recording c' p addr n hphase
  recorded := h.recorded
  resending c' p addr hphase := by
    rw [phase_setPhase] at hphase
    split_ifs at hphase with hc
    · rw [hc]
      exact hresending p addr hphase
    · exact h.resending c' p addr hphase
  checks := h.checks

theorem Kept.free (h : x.Kept) (hfree : ph.Free) (c : Call) : (x.setPhase c ph).Kept :=
  h.setPhase (fun p addr n hph => absurd hph (hfree.recording p addr n))
    fun p addr hph => absurd hph (hfree.resending p addr)

theorem Kept.effect {e : Event Call Addr Err} {y : System Call Addr Err} (h : x.Kept)
    (hy : Effect x e y) : y.Kept := by
  cases hy with
  | stays => exact h
  | moves _ hfree _ => exact h.free hfree _
  | sends _ hfree => exact (h.note (.sent _ _) nofun nofun rfl trivial).free hfree _
  | sendsHello hp =>
    refine (h.note (.sent _ _) nofun nofun rfl trivial).setPhase ?_ ?_
    · rintro q a m ⟨⟩
      exact ⟨List.mem_concat_self, hp⟩
    · exact nofun
  | records _ hphase hfree => exact (h.keepHello (h.recording _ _ _ _ hphase)).free hfree _
  | hears _ hfree => exact (h.hear _).free hfree _
  | @checks c p hp hheard hdetached mu =>
    have hnote := h.note (.checked c p _) nofun nofun rfl (h.repeatsRecord hp hheard hdetached)
    refine Kept.withMu (hnote.setPhase ?_ ?_) mu
    · exact nofun
    · rintro q a ⟨⟩
      exact List.mem_concat_self
  | resends _ hphase hfree mu =>
    have hnote := h.note (.resent _ _ _) nofun nofun rfl (h.resending _ _ _ hphase)
    exact (hnote.free hfree _).withMu mu
  | detaches => exact h.detach

theorem kept_reached (events : List (Event Call Addr Err)) : (reached events).Kept :=
  runFrom_invariant Kept (fun x e h => h.effect (effect_step x e)) kept_init events

end Steps

/-! ## Calls that do not meet -/

def Settled (x : System Call Addr Err) : Prop := ∀ c p addr n, x.phase c ≠ .recording p addr n

/-- No WriteTo is between the socket and the lock when another uses the socket, or when
resendHello checks. -/
def Apart (x : System Call Addr Err) : Event Call Addr Err → Prop
  | .socketWrite _ _ _ | .resendHello _ => x.Settled
  | _ => True

/-- Where the calls keep apart, a ClientHello is recorded before the next one is sent. -/
structure Ordered (x : System Call Addr Err) : Prop where
  recording : ∀ c p addr n, x.phase c = .recording p addr n →
    lastOf Entry.hello x.log = some (p, addr)
  settled : x.conn.heard = false → x.Settled →
    ∀ h, lastOf Entry.record x.log = some h → lastOf Entry.hello x.log = some h
  checks : EachAfter (CheckedFirst RepeatsLast) x.log

theorem ordered_init : Ordered ({} : System Call Addr Err) where
  recording _ _ _ _ h := nomatch h
  settled _ _ _ h := nomatch h
  checks := eachAfter_nil

theorem Ordered.append (h : x.Ordered) {conn : DtlsKeyExchangeConn Addr} {e : Entry Call Addr}
    (hconn : conn.heard = false → x.conn.heard = false) (hhello : e.hello = none)
    (hrecord : e.record = none) (hcheck : CheckedFirst RepeatsLast x.log e) :
    Ordered { x.note e with conn := conn } where
  recording c p addr n hphase := by
    change lastOf _ (x.log ++ [e]) = _
    rw [lastOf_concat, hhello, Option.none_or]
    exact h.recording c p addr n hphase
  settled hheard hsettled := by
    change ∀ b, lastOf _ (x.log ++ [e]) = _ → lastOf _ (x.log ++ [e]) = _
    rw [lastOf_concat, lastOf_concat, hhello, hrecord, Option.none_or, Option.none_or]
    exact h.settled (hconn hheard) hsettled
  checks := h.checks.concat hcheck

theorem Ordered.withMu (h : x.Ordered) (mu : Option Call) : Ordered { x with mu := mu } where
  recording := h.recording
  settled := h.settled
  checks := h.checks

section Steps

variable [DecidableEq Call] {c : Call} {ph : Phase Addr Err}

theorem Ordered.setPhase (h : x.Ordered) (hto : ∀ p addr n, ph ≠ .recording p addr n)
    (hfrom : x.conn.heard = false → ∀ p addr n, x.phase c ≠ .recording p addr n) :
    (x.setPhase c ph).Ordered where
  recording c' p addr n hphase := by
    rw [phase_setPhase] at hphase
    split_ifs at hphase
    · exact absurd hphase (hto p addr n)
    · exact h.recording c' p addr n hphase
  settled hheard hsettled := by
    refine h.settled hheard fun c' p addr n => ?_
    obtain rfl | hc := eq_or_ne c' c
    · exact hfrom hheard p addr n
    · have hother := hsettled c' p addr n
      rwa [phase_setPhase, if_neg hc] at hother
  checks := h.checks

theorem Ordered.sendsHello (h : x.Ordered) (hsettled : x.Settled) {p : Bytes}
    (hp : HoldsClientHello p) (addr : Option Addr) (n : ℕ) :
    ((x.note (.sent p addr)).setPhase c (.recording p addr n)).Ordered where
  recording c' q a m hphase := by
    rw [phase_setPhase] at hphase
    split_ifs at hphase
    · cases hphase
      change lastOf _ (x.log ++ [_]) = _
      rw [lastOf_concat, Entry.hello, if_pos hp, Option.some_or]
    · exact absurd hphase (hsettled c' q a m)
  settled _ hnow := by
    refine absurd ?_ (hnow c p addr n)
    rw [phase_setPhase, if_pos rfl]
  checks := h.checks.concat trivial

theorem Ordered.records (h : x.Ordered) {p : Bytes} {addr : Option Addr} {n : ℕ}
    (hphase : x.phase c = .recording p addr n) (hto : ∀ p addr n, ph ≠ .recording p addr n) :
    ((x.keepHello p addr).setPhase c ph).Ordered where
  recording c' q a m hphase' := by
    rw [phase_setPhase] at hphase'
    split_ifs at hphase'
    · exact absurd hphase' (hto q a m)
    · exact (lastOf_concat ..).trans (h.recording c' q a m hphase')
  settled _ _ b hb := by
    have hlast : lastOf Entry.record (x.log ++ [.recorded p addr]) = some (p, addr) :=
      lastOf_concat ..
    obtain rfl := Option.some.inj (hlast.symm.trans hb)
    exact (lastOf_concat ..).trans (h.recording c p addr n hphase)
  checks := h.checks.concat trivial

theorem Ordered.effect {e : Event Call Addr Err} {y : System Call Addr Err} (h : x.Ordered)
    (hkept : x.Kept) (hapart : x.Apart e) (hy : Effect x e y) : y.Ordered := by
  cases hy with
  | stays => exact h
  | moves _ hfree hfrom => exact h.setPhase hfree.recording fun hheard => (hfrom hheard).recording
  | @sends c p addr n ph hp hfree =>
    have hnote : (x.note (.sent p addr)).Ordered := h.append id (if_neg hp) rfl trivial
    exact hnote.setPhase hfree.recording fun _ => hapart c
  | sendsHello hp => exact h.sendsHello hapart hp _ _
  | records _ hphase hfree => exact h.records hphase hfree.recording
  | @hears _ c data ph hfree =>
    have hhear : (x.hear data).Ordered := h.append nofun rfl rfl trivial
    exact hhear.setPhase hfree.recording nofun
  | @checks c p hp hheard hdetached mu =>
    have hlast : RepeatsLast x.log (p, x.conn.helloAddr) :=
      ⟨(hkept.repeatsRecord hp hheard hdetached).1, h.settled hheard hapart _ (hkept.hello p hp)⟩
    have hnote : (x.note (.checked c p x.conn.helloAddr)).Ordered := h.append id rfl rfl hlast
    refine Ordered.withMu (hnote.setPhase ?_ fun _ => hapart c) mu
    exact nofun
  | @resends _ c p addr ph hphase hfree mu =>
    have hnote : (x.note (.resent c p addr)).Ordered :=
      h.append id rfl rfl (hkept.resending c p addr hphase)
    refine (hnote.setPhase hfree.recording fun _ q a m hrecording => ?_).withMu mu
    cases hphase.symm.trans hrecording
  | detaches => exact h.append id rfl rfl trivial

theorem ordered_reached {events : List (Event Call Addr Err)}
    (hapart : Along step Apart {} events) : (reached events).Ordered :=
  (Along.runFrom_invariant (fun x => x.Kept ∧ x.Ordered)
    (fun x e h hC => ⟨h.1.effect (effect_step x e), h.2.effect h.1 hC (effect_step x e)⟩)
    ⟨kept_init, ordered_init⟩ hapart).2

end Steps

end System

/-! ## The ClientHello that is sent again -/

/-- Whatever the interleaving, resendHello sends what was recorded last, of a silent peer and an
attached transport. That is the ClientHello sent last exactly where the one recorded last is, and
so wherever no WriteTo is on its way from the socket to the lock. -/
theorem resend_repeats_last_iff [DecidableEq Call] (events : List (Event Call Addr Err)) :
    EachAfter (Chosen RepeatsRecord) (reached events).log ∧
      (EachAfter (Chosen RepeatsLast) (reached events).log ↔
        EachAfter (Chosen InStep) (reached events).log) ∧
      (Along System.step System.Apart {} events →
        EachAfter (Chosen RepeatsLast) (reached events).log) ∧
      ∀ p, ∃ accepted, isClientHelloDatagram p = some accepted ∧
        (accepted = true ↔ HoldsClientHello p) := by
  have hchecks := (System.kept_reached events).checks
  refine ⟨CheckedFirst.chosen hchecks, ⟨?_, ?_⟩, ?_, isClientHelloDatagram_exact⟩
  · refine CheckedFirst.chosen_mono hchecks fun before b hrecord hlast h hh => ?_
    rw [← Option.some.inj (hrecord.2.1.symm.trans hh)]
    exact hlast.2
  · exact CheckedFirst.chosen_mono hchecks fun before b hrecord hstep =>
      ⟨hrecord.1, hstep b hrecord.2.1⟩
  · exact fun hapart => CheckedFirst.chosen (System.ordered_reached hapart).checks

/-- A ClientHello without a body, in the record of the given number. -/
def emptyHello (number : UInt8) : Bytes :=
  [22, 254, 253, 0, 0, 0, 0, 0, 0, 0, number, 0, 12, 1, 0, 0, 0, 0, 0, 0, 0, 0, 0, 0, 0]

/-- The second ClientHello is on the wire when resendHello checks, but not recorded. -/
def overtaken : List (Event ℕ ℕ Empty) :=
  [.writeTo 0 (emptyHello 0) (some 4), .socketWrite 0 25 none, .record 0,
    .writeTo 1 (emptyHello 1) (some 4), .socketWrite 1 25 none,
    .resendHello 2, .socketResend 2 none]

theorem first_hello_resent : ¬ EachAfter (Chosen RepeatsLast) (reached overtaken).log := by
  intro h
  obtain ⟨before, after, hlog, -, hlast⟩ := h
    [.sent (emptyHello 0) (some 4), .recorded (emptyHello 0) (some 4),
      .sent (emptyHello 1) (some 4), .checked 2 (emptyHello 0) (some 4)]
    (.resent 2 (emptyHello 0) (some 4)) [] (by decide +kernel)
  -- The check comes after the three other entries, so these are the log before it.
  have hbefore : before = [.sent (emptyHello 0) (some 4), .recorded (emptyHello 0) (some 4),
      .sent (emptyHello 1) (some 4)] := by
    rcases before with _ | ⟨e0, _ | ⟨e1, _ | ⟨e2, _ | ⟨e3, rest⟩⟩⟩⟩ <;> simp_all
  rw [hbefore] at hlast
  revert hlast
  decide +kernel

end Diago.Media.KeyExchange
