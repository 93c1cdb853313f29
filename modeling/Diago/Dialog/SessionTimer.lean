import Diago.Lib.LetterCase
import Diago.Lib.Numeral
import Diago.Lib.Run

/-! # Session timers

The session timer of a dialog (RFC 4028) changes with the 2xx of an INVITE and with
the headers of each re-INVITE exchange.
-/
namespace Diago.Dialog.SessionTimer
open Lib

def second : ℤ := 1000000000

def defaultSessionExpires : ℤ := 1800 * second
def defaultMinSE : ℤ := 90 * second
def minRefreshInterval : ℤ := defaultMinSE / 2

def refresherUAS : Bytes := lit "uas"
def refresherUAC : Bytes := lit "uac"

def statusOK : ℕ := 200
def statusSessionIntervalTooSmall : ℕ := 422

structure SessionTimerPolicy where
  enabled : Bool := false
  defaultSE : ℤ := 0
  minSE : ℤ := 0
  preferUASRefresher : Bool := false
  deriving DecidableEq, Repr

structure SessionTimerDecision where
  negotiated : ℤ
  interval : ℤ
  refresher : Bytes
  belowFloor : Bool
  weRefresh : Bool
  deriving DecidableEq, Repr

/-- Half the session interval, clamped from below. -/
def refreshCadence (expires : ℤ) : ℤ := max (expires.tdiv 2) minRefreshInterval

/-- The larger of our minimum and the one of the peer. -/
def minFloor (offeredMinSE : Option ℕ) (policy : SessionTimerPolicy) : ℤ :=
  let ours := if policy.minSE ≤ 0 then defaultMinSE else policy.minSE
  offeredMinSE.elim ours fun m => max ours (m * second)

def candidate (offeredSE : Option ℕ) (policy : SessionTimerPolicy) : ℤ :=
  match offeredSE with
  | some se => se * second
  | none => if policy.defaultSE ≤ 0 then defaultSessionExpires else policy.defaultSE

/-- An offered refresher is honoured, and the policy breaks the tie when none is offered. -/
def elect (offeredRefresher : Bytes) (policy : SessionTimerPolicy) : Bytes :=
  if offeredRefresher = [] ∧ policy.preferUASRefresher = true then refresherUAS
  else offeredRefresher

def negotiate (offeredSE offeredMinSE : Option ℕ) (offeredRefresher : Bytes)
    (policy : SessionTimerPolicy) (ourRole : Bytes) : SessionTimerDecision where
  negotiated := max (candidate offeredSE policy) (minFloor offeredMinSE policy)
  interval := refreshCadence (max (candidate offeredSE policy) (minFloor offeredMinSE policy))
  refresher := elect offeredRefresher policy
  belowFloor := offeredSE.isSome && candidate offeredSE policy < minFloor offeredMinSE policy
  weRefresh := elect offeredRefresher policy ≠ [] && elect offeredRefresher policy = ourRole

abbrev Headers := List (Bytes × Bytes)

/-- How the SIP library finds the values of a header. Names in ASCII are told apart without their
letter case. -/
class HeaderLib where
  getHeaders : Bytes → Headers → List Bytes
  getHeaders_nil : ∀ name, getHeaders name [] = []
  getHeaders_cons : ∀ {key name : Bytes} (value : Bytes) (msg : Headers), Ascii key → Ascii name →
    getHeaders name ((key, value) :: msg) =
      if SameText key name then value :: getHeaders name msg else getHeaders name msg

structure SessionTimerOffer where
  se : ℕ
  minSE : Option ℕ := none
  refresher : Bytes := []
  deriving DecidableEq, Repr

/-- An RFC 3261 delta-seconds value of 32 bits. -/
def parseDeltaSeconds (s : Bytes) : Option ℕ := (parseUint 32 (trimSpace s)).toOption

def secondsOf (d : ℤ) : Bytes := itoa (d.tdiv second)

section Headers

variable [HeaderLib] [UnicodeCase]

def getHeader (name : Bytes) (msg : Headers) : Option Bytes := (HeaderLib.getHeaders name msg).head?

/-- The last refresher parameter that has a value. -/
def refresherParam (params : Bytes) : Bytes :=
  (params.splitOn semicolon).foldl (fun named p =>
    match cutByte equals p with
    | (k, some v) =>
      if equalFold (trimSpace k) (lit "refresher") then toLower (trimSpace v) else named
    | (_, none) => named) []

def parseMinSE (msg : Headers) : Option ℕ :=
  (getHeader (lit "Min-SE") msg).bind fun m => parseDeltaSeconds (cutByte semicolon m).1

def parseSessionTimerOffer (msg : Headers) : Option SessionTimerOffer :=
  ((getHeader (lit "Session-Expires") msg).or (getHeader (lit "x") msg)).bind fun h =>
    (parseDeltaSeconds (cutByte semicolon h).1).map fun se =>
      { se := se
        minSE := parseMinSE msg
        refresher := refresherParam ((cutByte semicolon h).2.getD []) }

def supportsTimer (msg : Headers) : Bool :=
  [lit "Supported", lit "k"].flatMap (HeaderLib.getHeaders · msg) |>.any fun value =>
    (value.splitOn 0x2C).any fun tag => equalFold (trimSpace tag) (lit "timer")

end Headers

structure TimerAnswer where
  headers : Headers
  weRefresh : Bool
  expiry : ℤ
  minSE : ℤ := 0
  deriving DecidableEq, Repr

def answerHeaders (value refresher : Bytes) : Headers :=
  [(lit "Session-Expires", value), (lit "Supported", lit "timer")] ++
    if refresher = refresherUAC then [(lit "Require", lit "timer")] else []

structure State where
  active : Bool
  expires : ℤ
  weRefresh : Bool
  minSE : ℤ
  deriving DecidableEq, Repr

section Timer

variable [HeaderLib] [UnicodeCase]

def buildTimerAnswer (invite : Headers) (policy : SessionTimerPolicy) :
    Option TimerAnswer × Headers × ℕ :=
  if policy.enabled = false then (none, [], statusOK)
  else
    match parseSessionTimerOffer invite with
    | none => (none, [], statusOK)
    | some offer =>
      let dec := negotiate (some offer.se) offer.minSE offer.refresher policy refresherUAS
      if dec.belowFloor = true then
        (none, [(lit "Min-SE", secondsOf dec.negotiated)], statusSessionIntervalTooSmall)
      else
        let value := secondsOf dec.negotiated ++
          if dec.refresher = [] then [] else lit ";refresher=" ++ dec.refresher
        (some
          { headers := answerHeaders value dec.refresher
            weRefresh := dec.weRefresh
            expiry := dec.negotiated
            minSE := offer.minSE.elim 0 fun m => m * second },
          answerHeaders value dec.refresher, statusOK)

def TimerAnswer.launch (ta : TimerAnswer) : State :=
  { active := true, expires := ta.expiry, weRefresh := ta.weRefresh, minSE := ta.minSE }

/-- The headers of a re-INVITE of ours, and whether they name us the refresher. -/
def State.requestHeaders (st : State) : Headers × Bool :=
  if st.active = false then ([], false)
  else
    ([(lit "Supported", lit "timer"),
      (lit "Session-Expires", secondsOf (max st.minSE st.expires) ++ lit ";refresher=" ++
        if st.weRefresh = true then refresherUAC else refresherUAS)] ++
      (if 0 < st.minSE then [(lit "Min-SE", secondsOf st.minSE)] else []),
      st.weRefresh)

/-- Who refreshes after a 2xx to a request that named us the refresher when `weRefresh`. -/
def namedByAnswer (refresher : Bytes) (weRefresh : Bool) : Bool :=
  if refresher = refresherUAC then true
  else if refresher = refresherUAS then false
  else weRefresh

def State.answered (st : State) (res : Headers) (weRefresh : Bool) : State :=
  if st.active = false then st
  else
    match parseSessionTimerOffer res with
    | none => { st with active := false }
    | some offer =>
      { st with
        expires := offer.se * second, weRefresh := namedByAnswer offer.refresher weRefresh }

def State.raiseMinSE (st : State) (minSE : ℤ) : State := { st with minSE := max st.minSE minSE }

def namedByRequest (req : Headers) (weRefresh : Bool) : Bool :=
  let refresher := (parseSessionTimerOffer req).elim [] (·.refresher)
  if refresher = refresherUAC then false
  else if refresher = refresherUAS then true
  else if supportsTimer req = false then true
  else weRefresh

def intervalOf (req : Headers) (expires : ℤ) : ℤ :=
  (parseSessionTimerOffer req).elim expires fun offer => offer.se * second

/-- The headers of the 2xx to a re-INVITE of the peer, and the state it names. -/
def State.answerPeer (st : State) (req : Headers) : Headers × State :=
  if st.active = false then ([], st)
  else
    let next : State :=
      { st with
        expires := intervalOf req st.expires
        weRefresh := namedByRequest req st.weRefresh
        minSE := (parseMinSE req).elim st.minSE fun m => max st.minSE (m * second) }
    let refresher := if next.weRefresh = true then refresherUAS else refresherUAC
    (answerHeaders (secondsOf next.expires ++ lit ";refresher=" ++ refresher) refresher, next)

end Timer

/-! ## Reading the headers back -/

/-- A whole number of seconds of 32 bits. -/
def WholeSeconds (d : ℤ) : Prop := ∃ n : ℕ, n < 2 ^ 32 ∧ d = n * second

theorem WholeSeconds.max {d e : ℤ} (hd : WholeSeconds d) (he : WholeSeconds e) :
    WholeSeconds (max d e) := by
  rcases max_choice d e with h | h
  · exact h.symm ▸ hd
  · exact h.symm ▸ he

theorem WholeSeconds.nonneg {d : ℤ} (h : WholeSeconds d) : 0 ≤ d := by
  obtain ⟨n, -, rfl⟩ := h
  unfold second
  positivity

theorem secondsOf_natCast (n : ℕ) : secondsOf (n * second) = formatNat n := by
  have hdiv : ((n : ℤ) * second).tdiv second = n := Int.mul_tdiv_cancel _ (by decide)
  rw [secondsOf, hdiv, itoa, if_neg (by omega), Int.toNat_natCast]

theorem parseDeltaSeconds_formatNat {n : ℕ} (h : n < 2 ^ 32) :
    parseDeltaSeconds (formatNat n) = some n := by
  have hgraphic := graphic_formatBase (by norm_num : 1 < 10) (by norm_num) n
  rw [parseDeltaSeconds, trimSpace_of_forall_graphic hgraphic, parseUint_formatNat h]
  rfl

theorem semicolon_not_mem_formatNat (n : ℕ) : semicolon ∉ formatNat n := by
  have hne : ∀ b ∈ formatNat n, b ≠ semicolon :=
    forall_mem_formatBase (by norm_num) (by decide) n
  exact fun hmem => hne semicolon hmem rfl

theorem refresherParam_role [UnicodeCase] {r : Bytes} (h : r = refresherUAS ∨ r = refresherUAC) :
    refresherParam (lit "refresher=" ++ r) = r := by
  have hkey : trimSpace (lit "refresher") = lit "refresher" := by decide
  have hparam {v : Bytes} (hsplit : (lit "refresher=" ++ v).splitOn semicolon =
      [lit "refresher=" ++ v]) (hascii : Ascii v) (htrim : trimSpace v = v)
      (hlower : (v.map fun c => UInt8.ofNat (asciiLower c.toNat)) = v) :
      refresherParam (lit "refresher=" ++ v) = v := by
    have hcut : cutByte equals (lit "refresher" ++ equals :: v) = (lit "refresher", some v) :=
      cutByte_append (by decide) v
    have hjoin : lit "refresher=" ++ v = lit "refresher" ++ equals :: v := rfl
    rw [refresherParam, hsplit, List.foldl_cons, List.foldl_nil, hjoin, hcut]
    simp [hkey, htrim, toLower_of_ascii hascii, hlower]
  rcases h with rfl | rfl <;>
    exact hparam (by decide) (by decide) (by decide) (by decide)

/-! ## Two ends of a dialog -/

theorem roles_differ : refresherUAS ≠ refresherUAC := by decide

/-- The role that the sender of a request gives itself or its peer. -/
def requestRole (weRefresh : Bool) : Bytes :=
  if weRefresh = true then refresherUAC else refresherUAS

theorem requestRole_cases (weRefresh : Bool) :
    requestRole weRefresh = refresherUAS ∨ requestRole weRefresh = refresherUAC := by
  unfold requestRole
  split
  · exact .inr rfl
  · exact .inl rfl

/-- Two timers that run the same session. -/
structure InAgreement (s r : State) : Prop where
  active : s.active = true
  peerActive : r.active = true
  expires : s.expires = r.expires
  oneRefreshes : s.weRefresh ≠ r.weRefresh
  interval : WholeSeconds s.expires
  minSE : WholeSeconds s.minSE
  peerMinSE : WholeSeconds r.minSE

theorem InAgreement.symm {s r : State} (h : InAgreement s r) : InAgreement r s where
  active := h.peerActive
  peerActive := h.active
  expires := h.expires.symm
  oneRefreshes := h.oneRefreshes.symm
  interval := h.expires ▸ h.interval
  minSE := h.peerMinSE
  peerMinSE := h.minSE

theorem InAgreement.raiseMinSE {s r : State} (h : InAgreement s r) {d : ℤ} (hd : WholeSeconds d) :
    InAgreement (s.raiseMinSE d) r :=
  { h with minSE := h.minSE.max hd }

section Lookup

variable [HeaderLib]

theorem getHeader_cons_of_ne {key name : Bytes} (value : Bytes) (msg : Headers) (hkey : Ascii key)
    (hname : Ascii name) (hne : ¬SameText key name) :
    getHeader name ((key, value) :: msg) = getHeader name msg := by
  rw [getHeader, HeaderLib.getHeaders_cons value msg hkey hname, if_neg hne, getHeader]

theorem getHeader_cons_self {name : Bytes} (value : Bytes) (msg : Headers) (hname : Ascii name) :
    getHeader name ((name, value) :: msg) = some value := by
  rw [getHeader, HeaderLib.getHeaders_cons value msg hname hname, if_pos (SameText.refl name),
    List.head?_cons]

@[simp] theorem getHeader_nil (name : Bytes) : getHeader name [] = none := by
  rw [getHeader, HeaderLib.getHeaders_nil, List.head?_nil]

theorem parseMinSE_of_value {msg : Headers} {n : ℕ} (hn : n < 2 ^ 32)
    (h : getHeader (lit "Min-SE") msg = some (secondsOf (n * second))) :
    parseMinSE msg = some n := by
  rw [parseMinSE, h, secondsOf_natCast, Option.bind_some,
    cutByte_of_not_mem (semicolon_not_mem_formatNat n), parseDeltaSeconds_formatNat hn]

theorem getHeader_requestHeaders {s : State} (h : s.active = true) :
    getHeader (lit "Session-Expires") s.requestHeaders.1 =
      some (secondsOf (max s.minSE s.expires) ++ lit ";refresher=" ++ requestRole s.weRefresh) := by
  simp only [State.requestHeaders, h, Bool.true_eq_false, if_false, List.cons_append]
  rw [getHeader_cons_of_ne _ _ (by decide) (by decide) (by decide),
    getHeader_cons_self _ _ (by decide)]
  rfl

theorem minSE_requestHeaders {s : State} {d : ℤ} (h : s.active = true) (hmin : WholeSeconds s.minSE)
    (hd : 0 ≤ d) :
    ((parseMinSE s.requestHeaders.1).elim d fun m => max d (m * second)) = max d s.minSE := by
  obtain ⟨n, hn, heq⟩ := hmin
  by_cases hpos : 0 < s.minSE
  · have hheader : getHeader (lit "Min-SE") s.requestHeaders.1 = some (secondsOf (n * second)) := by
      simp only [State.requestHeaders, h, Bool.true_eq_false, if_false, hpos, if_true,
        List.cons_append, List.nil_append]
      rw [getHeader_cons_of_ne _ _ (by decide) (by decide) (by decide),
        getHeader_cons_of_ne _ _ (by decide) (by decide) (by decide),
        getHeader_cons_self _ _ (by decide), heq]
    rw [parseMinSE_of_value hn hheader, Option.elim_some, heq]
  · have hheader : getHeader (lit "Min-SE") s.requestHeaders.1 = none := by
      simp only [State.requestHeaders, h, Bool.true_eq_false, if_false, hpos, List.append_nil]
      rw [getHeader_cons_of_ne _ _ (by decide) (by decide) (by decide),
        getHeader_cons_of_ne _ _ (by decide) (by decide) (by decide), getHeader_nil]
    rw [parseMinSE, hheader, Option.bind_none, Option.elim_none, max_eq_left (by omega)]

end Lookup

section Reading

variable [HeaderLib] [UnicodeCase]

theorem parseSessionTimerOffer_of_value {msg : Headers} {n : ℕ} {r : Bytes} (hn : n < 2 ^ 32)
    (hr : r = refresherUAS ∨ r = refresherUAC)
    (h : getHeader (lit "Session-Expires") msg =
      some (secondsOf (n * second) ++ lit ";refresher=" ++ r)) :
    parseSessionTimerOffer msg = some { se := n, minSE := parseMinSE msg, refresher := r } := by
  have hcut : cutByte semicolon (secondsOf (n * second) ++ lit ";refresher=" ++ r) =
      (formatNat n, some (lit "refresher=" ++ r)) := by
    have hsep : lit ";refresher=" = semicolon :: lit "refresher=" := by decide
    rw [secondsOf_natCast, List.append_assoc, hsep, List.cons_append,
      cutByte_append (semicolon_not_mem_formatNat n)]
  rw [parseSessionTimerOffer, h, Option.some_or, Option.bind_some, hcut,
    parseDeltaSeconds_formatNat hn, Option.map_some, Option.getD_some, refresherParam_role hr]

/-- The state of the sender and of the receiver after a request that is answered. -/
def exchanged (s r : State) : State × State :=
  (s.answered (r.answerPeer s.requestHeaders.1).1 s.requestHeaders.2,
    (r.answerPeer s.requestHeaders.1).2)

theorem parseSessionTimerOffer_requestHeaders {s : State} {n : ℕ} (h : s.active = true)
    (hn : n < 2 ^ 32) (hmax : max s.minSE s.expires = n * second) :
    parseSessionTimerOffer s.requestHeaders.1 =
      some { se := n, minSE := parseMinSE s.requestHeaders.1
             refresher := requestRole s.weRefresh } := by
  exact parseSessionTimerOffer_of_value hn (requestRole_cases _) (hmax ▸ getHeader_requestHeaders h)

theorem namedByRequest_requestHeaders {s : State} {n : ℕ} {weRefresh : Bool}
    (h : s.active = true) (hn : n < 2 ^ 32) (hmax : max s.minSE s.expires = n * second) :
    namedByRequest s.requestHeaders.1 weRefresh = !s.weRefresh := by
  rw [namedByRequest, parseSessionTimerOffer_requestHeaders h hn hmax]
  cases s.weRefresh <;> simp [requestRole, roles_differ]

theorem State.answerPeer_of_active {st : State} {req : Headers} {minSE expires : ℤ}
    (h : st.active = true) (hexpires : intervalOf req st.expires = expires)
    (hnamed : namedByRequest req st.weRefresh = st.weRefresh)
    (hmin : ((parseMinSE req).elim st.minSE fun m => max st.minSE (m * second)) = minSE) :
    st.answerPeer req =
      (answerHeaders (secondsOf expires ++ lit ";refresher=" ++ requestRole (!st.weRefresh))
        (requestRole (!st.weRefresh)),
        { st with expires := expires, minSE := minSE }) := by
  have hrole : (if st.weRefresh = true then refresherUAS else refresherUAC) =
      requestRole (!st.weRefresh) := by
    cases st.weRefresh <;> simp [requestRole]
  have hactive : ¬ st.active = false := by simp [h]
  rw [State.answerPeer, if_neg hactive, hexpires, hnamed, hmin]
  dsimp only
  rw [hrole]

theorem answered_answerHeaders {s : State} {n : ℕ} {weRefresh named : Bool} (h : s.active = true)
    (hn : n < 2 ^ 32) :
    s.answered (answerHeaders (secondsOf (n * second) ++ lit ";refresher=" ++
        requestRole (!weRefresh)) (requestRole (!weRefresh))) named =
      { s with expires := n * second, weRefresh := !weRefresh } := by
  have hheader (value refresher : Bytes) :
      getHeader (lit "Session-Expires") (answerHeaders value refresher) = some value :=
    getHeader_cons_self _ _ (by decide)
  rw [State.answered, h, if_neg (by decide),
    parseSessionTimerOffer_of_value hn (requestRole_cases _) (hheader _ _)]
  cases weRefresh <;> simp [requestRole, namedByAnswer, roles_differ]

/-- What an answered request leaves: the interval it asked for, the refresher there was. -/
theorem InAgreement.exchanged_eq {s r : State} (h : InAgreement s r) :
    exchanged s r = ({ s with expires := max s.minSE s.expires },
      { r with expires := max s.minSE s.expires, minSE := max r.minSE s.minSE }) := by
  obtain ⟨n, hn, hmax⟩ := h.minSE.max h.interval
  have hoffer := parseSessionTimerOffer_requestHeaders h.active hn hmax
  have hturn : r.weRefresh = !s.weRefresh := by
    have hne := h.oneRefreshes
    cases hs : s.weRefresh <;> cases hr : r.weRefresh <;> simp_all
  have hpeer : r.answerPeer s.requestHeaders.1 =
      (answerHeaders (secondsOf (n * second) ++ lit ";refresher=" ++ requestRole (!r.weRefresh))
        (requestRole (!r.weRefresh)),
        { r with expires := n * second, minSE := max r.minSE s.minSE }) := by
    have hnamed : namedByRequest s.requestHeaders.1 r.weRefresh = r.weRefresh := by
      rw [hturn, namedByRequest_requestHeaders h.active hn hmax]
    have hinterval : intervalOf s.requestHeaders.1 r.expires = n * second := by
      rw [intervalOf, hoffer, Option.elim_some]
    exact State.answerPeer_of_active h.peerActive hinterval hnamed
      (minSE_requestHeaders h.active h.minSE h.peerMinSE.nonneg)
  have hback : (!r.weRefresh) = s.weRefresh := by rw [hturn, Bool.not_not]
  rw [exchanged, hpeer, answered_answerHeaders h.active hn, hback, hmax]

theorem InAgreement.exchanged {s r : State} (h : InAgreement s r) :
    InAgreement (exchanged s r).1 (exchanged s r).2 := by
  rw [h.exchanged_eq]
  exact { h with
    expires := rfl
    interval := h.minSE.max h.interval
    peerMinSE := h.peerMinSE.max h.minSE }

end Reading

structure Ends where
  left : State
  right : State
  deriving DecidableEq, Repr

/-- A re-INVITE from either end: a 422 with a Min-SE, or a 2xx. -/
inductive Exchange
  | rejected (fromLeft : Bool) (minSE : UInt32)
  | accepted (fromLeft : Bool)
  deriving DecidableEq, Repr

def Ends.sender (e : Ends) (fromLeft : Bool) : State := if fromLeft = true then e.left else e.right

section Agreement

variable [HeaderLib] [UnicodeCase]

def Ends.step (e : Ends) : Exchange → Ends
  | .rejected true minSE => { e with left := e.left.raiseMinSE (minSE.toNat * second) }
  | .rejected false minSE => { e with right := e.right.raiseMinSE (minSE.toNat * second) }
  | .accepted true => ⟨(exchanged e.left e.right).1, (exchanged e.left e.right).2⟩
  | .accepted false => ⟨(exchanged e.right e.left).2, (exchanged e.right e.left).1⟩

/-- After an exchange with a 2xx both run one session of at least the Min-SE of the sender. -/
def Ends.Settled (e : Ends) : Exchange → Prop
  | .rejected _ _ => True
  | .accepted fromLeft =>
    (e.step (.accepted fromLeft)).left.active = true ∧
    (e.step (.accepted fromLeft)).right.active = true ∧
    (e.step (.accepted fromLeft)).left.expires = (e.step (.accepted fromLeft)).right.expires ∧
    (e.step (.accepted fromLeft)).left.weRefresh ≠ (e.step (.accepted fromLeft)).right.weRefresh ∧
    (e.sender fromLeft).minSE ≤ (e.step (.accepted fromLeft)).left.expires

theorem InAgreement.step {e : Ends} (h : InAgreement e.left e.right) (x : Exchange) :
    InAgreement (e.step x).left (e.step x).right := by
  have hwhole (minSE : UInt32) : WholeSeconds (minSE.toNat * second) :=
    ⟨minSE.toNat, minSE.toNat_lt, rfl⟩
  cases x with
  | rejected fromLeft minSE =>
    cases fromLeft
    · exact (h.symm.raiseMinSE (hwhole minSE)).symm
    · exact h.raiseMinSE (hwhole minSE)
  | accepted fromLeft =>
    cases fromLeft
    · exact h.symm.exchanged.symm
    · exact h.exchanged

theorem InAgreement.settled {e : Ends} (h : InAgreement e.left e.right) (x : Exchange) :
    e.Settled x := by
  cases x with
  | rejected => trivial
  | accepted fromLeft =>
    have hnext := h.step (.accepted fromLeft)
    refine ⟨hnext.active, hnext.peerActive, hnext.expires, hnext.oneRefreshes, ?_⟩
    cases fromLeft
    · simp [Ends.step, Ends.sender, h.symm.exchanged_eq]
    · simp [Ends.step, Ends.sender, h.exchanged_eq]

/-- Timers that run one session keep to one session, whichever end sends. -/
theorem timers_stay_in_agreement (e : Ends) (hleft : e.left.active = true)
    (hright : e.right.active = true) (hexpires : e.left.expires = e.right.expires)
    (hone : e.left.weRefresh ≠ e.right.weRefresh) (hwhole : WholeSeconds e.left.expires)
    (hleftMin : WholeSeconds e.left.minSE) (hrightMin : WholeSeconds e.right.minSE)
    (xs : List Exchange) : Along Ends.step Ends.Settled e xs := by
  have hstart : InAgreement e.left e.right :=
    ⟨hleft, hright, hexpires, hone, hwhole, hleftMin, hrightMin⟩
  exact Along.of_kept (fun e => InAgreement e.left e.right) (fun _ x h => h.step x)
    (fun _ x h => h.settled x) hstart xs

end Agreement

section Sample

@[reducible] def listedHeaders : HeaderLib where
  getHeaders name msg := (msg.filter fun h => SameText h.1 name).map (·.2)
  getHeaders_nil _ := rfl
  getHeaders_cons value msg _ _ := by
    split_ifs with h <;> simp [h]

attribute [local instance] asciiOnly listedHeaders

def agreedEnds : Ends := ⟨⟨true, 90 * second, true, 0⟩, ⟨true, 90 * second, false, 0⟩⟩

/-- A refresh is answered 422 with a Min-SE of 120, and accepted when it is sent again; then the
other end sends one. -/
theorem raised_interval_agreed : agreedEnds.left.active = true ∧
    Along Ends.step Ends.Settled agreedEnds
      [.rejected true 120, .accepted true, .accepted false] :=
  ⟨rfl, timers_stay_in_agreement agreedEnds rfl rfl rfl (by decide) ⟨90, by norm_num, rfl⟩
    ⟨0, by norm_num, rfl⟩ ⟨0, by norm_num, rfl⟩ _⟩

end Sample

/-! ## The wait of the refresher -/

/-- What happens to a timer: its headers are taken for a re-INVITE, a 2xx or a 422 to one comes
in, or a re-INVITE of the peer is answered. -/
inductive Event
  | requestHeaders
  | answered (res : Headers) (weRefresh : Bool)
  | answerPeer (req : Headers)
  | raiseMinSE (minSE : ℤ)

/-- While we refresh, the next refresh is due before the session expires. -/
def State.RefreshesInTime (st : State) : Prop :=
  st.active = true → 0 < st.expires → st.weRefresh = true → refreshCadence st.expires < st.expires

/-- An interval the clamped cadence fits in. -/
def Roomy (expires : ℤ) : Prop := 0 < expires → minRefreshInterval < expires

theorem refreshCadence_lt_iff (expires : ℤ) :
    (0 < expires → refreshCadence expires < expires) ↔ Roomy expires := by
  unfold Roomy refreshCadence
  refine forall_congr' fun hpos => ?_
  have hhalf : expires.tdiv 2 < expires := by
    rw [Int.tdiv_eq_ediv_of_nonneg hpos.le]
    omega
  rw [max_lt_iff, and_iff_right hhalf]

theorem State.refreshesInTime_iff (st : State) :
    st.RefreshesInTime ↔ (st.active = true → st.weRefresh = true → Roomy st.expires) := by
  rw [← refreshCadence_lt_iff]
  exact ⟨fun h ha hw hpos => h ha hpos hw, fun h ha hpos hw => h ha hw hpos⟩

section Wait

variable [HeaderLib] [UnicodeCase]

def State.step (st : State) : Event → State
  | .requestHeaders => st
  | .answered res weRefresh => st.answered res weRefresh
  | .answerPeer req => (st.answerPeer req).2
  | .raiseMinSE minSE => st.raiseMinSE minSE

/-- An exchange that makes us refresh names an interval the clamped cadence fits in. -/
def State.TakesRoomy (st : State) : Event → Prop
  | .requestHeaders => True
  | .answered res weRefresh =>
    st.active = true → ∀ offer ∈ parseSessionTimerOffer res,
      namedByAnswer offer.refresher weRefresh = true → Roomy (offer.se * second)
  | .answerPeer req =>
    st.active = true → namedByRequest req st.weRefresh = true → Roomy (intervalOf req st.expires)
  | .raiseMinSE _ => True

theorem buildTimerAnswer_eq_some {invite hdrs : Headers} {policy : SessionTimerPolicy}
    {ta : TimerAnswer} {status : ℕ}
    (h : buildTimerAnswer invite policy = (some ta, hdrs, status)) :
    ∃ offer, parseSessionTimerOffer invite = some offer ∧ ta.expiry = offer.se * second ∧
      (ta.weRefresh = true ↔ elect offer.refresher policy = refresherUAS) := by
  unfold buildTimerAnswer at h
  split at h
  · simp at h
  · cases hoffer : parseSessionTimerOffer invite with
    | none => simp [hoffer] at h
    | some offer =>
      simp only [hoffer] at h
      split at h
      · simp at h
      · rename_i hfloor
        simp only [Prod.mk.injEq, Option.some.injEq] at h
        obtain ⟨rfl, -, -⟩ := h
        refine ⟨offer, rfl, ?_, ?_⟩
        · have hge : ¬ (offer.se : ℤ) * second < minFloor offer.minSE policy := fun hlt =>
            hfloor (decide_eq_true hlt)
          exact max_eq_left (not_lt.mp hge)
        · have hne : refresherUAS ≠ [] := by decide
          simp only [negotiate, Bool.and_eq_true, decide_eq_true_eq]
          exact ⟨And.right, fun heq => ⟨heq ▸ hne, heq⟩⟩

theorem State.step_refreshesInTime_iff {st : State} (h : st.RefreshesInTime) (e : Event) :
    (st.step e).RefreshesInTime ↔ st.TakesRoomy e := by
  cases e with
  | requestHeaders => exact iff_true_intro h
  | raiseMinSE minSE => exact iff_true_intro h
  | answered res weRefresh =>
    rw [State.refreshesInTime_iff]
    unfold State.step State.answered State.TakesRoomy
    cases hactive : st.active with
    | false => simp [hactive]
    | true => cases hoffer : parseSessionTimerOffer res <;> simp [hoffer]
  | answerPeer req =>
    rw [State.refreshesInTime_iff]
    unfold State.step State.answerPeer State.TakesRoomy
    cases hactive : st.active with
    | false => simp [hactive]
    | true => simp

/-- From a negotiated session on, each refresh is due in time exactly if no exchange that makes
us refresh names an interval of at most 45 seconds. -/
theorem refreshes_in_time_iff (invite hdrs : Headers) (policy : SessionTimerPolicy)
    (ta : TimerAnswer) (status : ℕ)
    (h : buildTimerAnswer invite policy = (some ta, hdrs, status)) (es : List Event) :
    ta.launch.RefreshesInTime ∧
        Along State.step (fun st e => (st.step e).RefreshesInTime) ta.launch es ↔
      (∀ offer ∈ parseSessionTimerOffer invite, elect offer.refresher policy = refresherUAS →
          Roomy (offer.se * second)) ∧
        Along State.step State.TakesRoomy ta.launch es := by
  obtain ⟨offer, hoffer, hexpiry, hweRefresh⟩ := buildTimerAnswer_eq_some h
  have hstart : ta.launch.RefreshesInTime ↔
      (∀ offer ∈ parseSessionTimerOffer invite, elect offer.refresher policy = refresherUAS →
        Roomy (offer.se * second)) := by
    rw [State.refreshesInTime_iff]
    simp [hoffer, TimerAnswer.launch, hexpiry, hweRefresh]
  have hrun (hin : ta.launch.RefreshesInTime) :=
    @along_iff_of_step _ _ State.step State.TakesRoomy State.RefreshesInTime
      (fun _ e hst => State.step_refreshesInTime_iff hst e) ta.launch hin es
  rw [← hstart]
  exact and_congr_right hrun

end Wait

section Sample

attribute [local instance] asciiOnly listedHeaders

def longInvite : Headers := [(lit "Session-Expires", lit "1800;refresher=uas")]

def refreshRequest (seconds : String) : Headers :=
  [(lit "Session-Expires", lit seconds ++ lit ";refresher=uas")]

def longAnswer : TimerAnswer :=
  { headers := answerHeaders (lit "1800;refresher=uas") refresherUAS
    weRefresh := true
    expiry := 1800 * second }

theorem buildTimerAnswer_longInvite : buildTimerAnswer longInvite { enabled := true } =
    (some longAnswer, longAnswer.headers, statusOK) := by decide +kernel

/-- After a re-INVITE of the peer with an interval of a minute each refresh is in time. -/
theorem minute_refreshed_in_time :
    Along State.step (fun st e => (st.step e).RefreshesInTime) longAnswer.launch
      [.answerPeer (refreshRequest "60")] := by
  have hiff := refreshes_in_time_iff longInvite longAnswer.headers { enabled := true } longAnswer
    statusOK buildTimerAnswer_longInvite [.answerPeer (refreshRequest "60")]
  refine (hiff.mpr ⟨?_, fun _ _ _ => ?_, trivial⟩).2
  · intro offer hoffer _ _
    have hparsed : parseSessionTimerOffer longInvite = some ⟨1800, none, refresherUAS⟩ := by
      decide +kernel
    rw [hparsed] at hoffer
    obtain rfl := Option.some.inj hoffer
    decide
  · have hinterval : intervalOf (refreshRequest "60") longAnswer.launch.expires = 60 * second := by
      decide +kernel
    rw [hinterval]
    decide

/-- A re-INVITE of the peer with an interval of 30 seconds is taken, and the next refresh is due
after 45. -/
theorem short_interval_refreshed_late :
    buildTimerAnswer longInvite { enabled := true } =
        (some longAnswer, longAnswer.headers, statusOK) ∧
      longAnswer.launch.step (.answerPeer (refreshRequest "30")) =
        ⟨true, 30 * second, true, 0⟩ ∧
      refreshCadence (30 * second) = 45 * second ∧
      ¬ (longAnswer.launch.step (.answerPeer (refreshRequest "30"))).RefreshesInTime := by
  have hstep : longAnswer.launch.step (.answerPeer (refreshRequest "30")) =
      ⟨true, 30 * second, true, 0⟩ := by decide +kernel
  refine ⟨buildTimerAnswer_longInvite, hstep, by decide, ?_⟩
  rw [hstep]
  exact fun h => absurd (h rfl (by decide) rfl) (by decide)

end Sample

end Diago.Dialog.SessionTimer
