import Diago.Lib.Bytes
import Diago.Lib.Run

/-! # Digest authorisation

A server challenges a request that has no credentials and keeps the challenge under
its nonce until a timer removes it.
-/
namespace Diago.Auth
open Lib

structure Challenge where
  realm : Bytes
  nonce : Bytes
  algorithm : Bytes
  deriving DecidableEq

structure Credentials where
  nonce : Bytes
  uri : Bytes
  response : Bytes
  deriving DecidableEq

structure Options where
  method : Bytes
  uri : Bytes
  username : Bytes
  password : Bytes

/-- The digest library. -/
class DigestLib where
  parseCredentials : Bytes → Option Credentials
  digest : Challenge → Options → Option Bytes

structure DigestAuth where
  username : Bytes
  password : Bytes
  realm : Bytes
  expireAfter : ℤ

/-- How long a challenge is kept, in nanoseconds. -/
def DigestAuth.expire (a : DigestAuth) : ℤ :=
  if 0 < a.expireAfter then a.expireAfter else 5 * 1000000000

structure Request where
  method : Bytes
  recipient : Bytes
  authorization : Option Bytes

inductive AuthErr where
  | nonceNotGenerated
  | parseCredentials
  | noChallenge
  | digest
  | badCreds
  deriving DecidableEq

structure Response where
  status : ℕ
  reason : Bytes
  wwwAuthenticate : Option Challenge
  deriving DecidableEq

structure ExpireTimer where
  nonce : Bytes
  deadline : ℤ

structure DigestAuthServer where
  cache : Bytes → Option Challenge
  timers : List ExpireTimer

def newDigestServer : DigestAuthServer := ⟨fun _ => none, []⟩

def DigestAuth.challenge (a : DigestAuth) (nonce : Bytes) : Challenge := ⟨a.realm, nonce, lit "MD5"⟩

def DigestAuthServer.store (s : DigestAuthServer) (now : ℤ) (a : DigestAuth) (nonce : Bytes) :
    DigestAuthServer where
  cache := Function.update s.cache nonce (some (a.challenge nonce))
  timers := s.timers ++ [⟨nonce, now + a.expire⟩]

section Server

variable [DigestLib]

def DigestAuthServer.authorizeRequest (s : DigestAuthServer) (now : ℤ)
    (generateNonce : Option Bytes) (req : Request) (auth : DigestAuth) :
    Response × Option AuthErr × DigestAuthServer :=
  match req.authorization with
  | none => match generateNonce with
    | none => (⟨500, lit "Internal Server Error", none⟩, some .nonceNotGenerated, s)
    | some nonce =>
      (⟨401, lit "Unathorized", some (auth.challenge nonce)⟩, none, s.store now auth nonce)
  | some value => match DigestLib.parseCredentials value with
    | none => (⟨400, lit "Bad Request", none⟩, some .parseCredentials, s)
    | some cred => match s.cache cred.nonce with
      | none => (⟨401, lit "Unauthorized", none⟩, some .noChallenge, s)
      | some chal =>
        -- the URI is the one the credentials name
        match DigestLib.digest chal ⟨req.method, cred.uri, auth.username, auth.password⟩ with
        | none => (⟨403, lit "Forbidden", none⟩, some .digest, s)
        | some response =>
          if cred.response ≠ response then
            (⟨401, lit "Unauthorized", none⟩, some .badCreds, s)
          else (⟨200, lit "OK", none⟩, none, s)

def DigestAuthServer.fire (s : DigestAuthServer) (k : ℕ) (now : ℤ) :
    Option (Bytes × DigestAuthServer) :=
  match s.timers[k]? with
  | none => none
  | some t =>
    if t.deadline ≤ now then
      some (t.nonce, ⟨Function.update s.cache t.nonce none, s.timers.eraseIdx k⟩)
    else none

inductive Event where
  | authorize (now : ℤ) (generateNonce : Option Bytes) (req : Request) (auth : DigestAuth)
  | timer (k : ℕ) (now : ℤ)

/-- What a server has done: the responses it gave and the nonces that expired. -/
inductive Entry where
  | answered (res : Response)
  | expired (nonce : Bytes)
  deriving DecidableEq

structure System where
  server : DigestAuthServer
  log : List Entry

def System.start : System := ⟨newDigestServer, []⟩

def System.step (x : System) : Event → System
  | .authorize now generateNonce req auth =>
    let r := x.server.authorizeRequest now generateNonce req auth
    ⟨r.2.2, x.log ++ [.answered r.1]⟩
  | .timer k now => match x.server.fire k now with
    | none => x
    | some (nonce, s) => ⟨s, x.log ++ [.expired nonce]⟩

/-- A 401 carried the challenge and its nonce has not expired since. -/
def Issued (log : List Entry) (c : Challenge) : Prop :=
  ∃ earlier later res, log = earlier ++ .answered res :: later ∧ res.status = 401 ∧
    res.wwwAuthenticate = some c ∧ .expired c.nonce ∉ later

def Request.credentials (req : Request) : Option Credentials :=
  req.authorization.bind DigestLib.parseCredentials

/-- The credentials answer a challenge that has not expired, for a request with the method to
the URI. -/
def Answers (log : List Entry) (auth : DigestAuth) (method uri : Bytes) (cred : Credentials) :
    Prop :=
  ∃ c, c.nonce = cred.nonce ∧ Issued log c ∧
    DigestLib.digest c ⟨method, uri, auth.username, auth.password⟩ = some cred.response

/-- The digests of different URIs are different. -/
def UriDetermined : Prop :=
  ∀ c c' o o' response, DigestLib.digest c o = some response →
    DigestLib.digest c' o' = some response → o.uri = o'.uri

section Log

omit [DigestLib]

theorem Issued.append {log : List Entry} {c : Challenge} (h : Issued log c) {e : Entry}
    (he : e ≠ .expired c.nonce) : Issued (log ++ [e]) c := by
  obtain ⟨earlier, later, res, hlog, hstatus, hheader, hlater⟩ := h
  refine ⟨earlier, later ++ [e], res, by simp [hlog], hstatus, hheader, ?_⟩
  intro hmem
  obtain hmem | hmem := List.mem_append.mp hmem
  · exact hlater hmem
  · exact he (List.mem_singleton.mp hmem).symm

theorem issued_last (log : List Entry) {res : Response} {c : Challenge} (hstatus : res.status = 401)
    (hheader : res.wwwAuthenticate = some c) : Issued (log ++ [.answered res]) c :=
  ⟨log, [], res, rfl, hstatus, hheader, List.not_mem_nil⟩

/-- Each stored challenge stands under its nonce, and is one that was issued and has not
expired. -/
def System.Stored (x : System) : Prop :=
  ∀ nonce c, x.server.cache nonce = some c → c.nonce = nonce ∧ Issued x.log c

theorem System.Stored.append {x : System} (h : x.Stored) {e : Entry}
    (he : ∀ nonce, e ≠ .expired nonce) : System.Stored ⟨x.server, x.log ++ [e]⟩ := by
  intro nonce c hc
  obtain ⟨hnonce, hissued⟩ := h nonce c hc
  exact ⟨hnonce, hissued.append (he c.nonce)⟩

theorem stored_store {x : System} (h : x.Stored) (now : ℤ) (auth : DigestAuth) (nonce : Bytes)
    {res : Response} (hstatus : res.status = 401)
    (hheader : res.wwwAuthenticate = some (auth.challenge nonce)) :
    System.Stored ⟨x.server.store now auth nonce, x.log ++ [.answered res]⟩ := by
  intro other c hc
  change Function.update x.server.cache nonce (some (auth.challenge nonce)) other = some c at hc
  by_cases hother : other = nonce
  · rw [hother, Function.update_self] at hc
    cases hc
    exact ⟨hother.symm, issued_last x.log hstatus hheader⟩
  · rw [Function.update_of_ne hother] at hc
    obtain ⟨hnonce, hissued⟩ := h other c hc
    exact ⟨hnonce, hissued.append (by simp)⟩

theorem stored_fire {x : System} (h : x.Stored) {k : ℕ} {now : ℤ} {nonce : Bytes}
    {s : DigestAuthServer} (hs : x.server.fire k now = some (nonce, s)) :
    System.Stored ⟨s, x.log ++ [.expired nonce]⟩ := by
  have hcache : s.cache = Function.update x.server.cache nonce none := by
    unfold DigestAuthServer.fire at hs
    split at hs
    · cases hs
    · split_ifs at hs
      cases hs
      rfl
  intro other c hc
  change s.cache other = some c at hc
  by_cases hother : other = nonce
  · rw [hcache, hother, Function.update_self] at hc
    cases hc
  · rw [hcache, Function.update_of_ne hother] at hc
    obtain ⟨hnonce, hissued⟩ := h other c hc
    refine ⟨hnonce, hissued.append ?_⟩
    rintro heq
    exact hother (hnonce.symm.trans (Entry.expired.inj heq).symm)

end Log

theorem authorizeRequest_server (s : DigestAuthServer) (now : ℤ) (generateNonce : Option Bytes)
    (req : Request) (auth : DigestAuth) :
    (s.authorizeRequest now generateNonce req auth).2.2 = s ∨
      ∃ nonce, (s.authorizeRequest now generateNonce req auth).2.2 = s.store now auth nonce ∧
        (s.authorizeRequest now generateNonce req auth).1 =
          ⟨401, lit "Unathorized", some (auth.challenge nonce)⟩ := by
  fun_cases DigestAuthServer.authorizeRequest
  case case2 nonce => exact .inr ⟨nonce, rfl, rfl⟩
  all_goals exact .inl rfl

/-- A request is authorised exactly for the response that belongs to a stored challenge, the
request's method and the URI of the credentials. -/
theorem authorizeRequest_ok_iff (s : DigestAuthServer) (now : ℤ) (generateNonce : Option Bytes)
    (req : Request) (auth : DigestAuth) :
    (s.authorizeRequest now generateNonce req auth).1.status = 200 ↔
      ∃ cred chal, req.credentials = some cred ∧ s.cache cred.nonce = some chal ∧
        DigestLib.digest chal ⟨req.method, cred.uri, auth.username, auth.password⟩ =
          some cred.response := by
  constructor
  · fun_cases DigestAuthServer.authorizeRequest
    case case7 value hvalue cred hcred chal hchal response hdigest hresponse =>
      intro _
      rw [← not_not.mp hresponse] at hdigest
      refine ⟨cred, chal, ?_, hchal, hdigest⟩
      rw [Request.credentials, hvalue, Option.bind_some, hcred]
    all_goals
      intro hok
      cases hok
  · rintro ⟨cred, chal, hcred, hchal, hdigest⟩
    obtain ⟨value, hvalue, hparse⟩ := Option.bind_eq_some_iff.mp hcred
    simp [DigestAuthServer.authorizeRequest, hvalue, hparse, hchal, hdigest]

theorem stored_step {x : System} (h : x.Stored) (e : Event) : (x.step e).Stored := by
  cases e with
  | authorize now generateNonce req auth =>
    change System.Stored ⟨(x.server.authorizeRequest now generateNonce req auth).2.2,
      x.log ++ [.answered (x.server.authorizeRequest now generateNonce req auth).1]⟩
    obtain hs | ⟨nonce, hs, hres⟩ :=
      authorizeRequest_server x.server now generateNonce req auth
    · rw [hs]
      exact h.append (by simp)
    · rw [hs, hres]
      exact stored_store h now auth nonce rfl rfl
  | timer k now =>
    unfold System.step
    dsimp only
    split
    · exact h
    · next hs => exact stored_fire h hs

omit [DigestLib] in
theorem stored_start : System.start.Stored := by
  intro nonce c hc
  cases hc

theorem stored_run (es : List Event) : (runFrom System.step System.start es).Stored :=
  runFrom_invariant System.Stored (fun _ e h => stored_step h e) stored_start es

/-- A request that a server authorises after any run of requests and expiries carries
credentials that answer a challenge of this server that has not expired, for the request's
method and the URI the credentials name; for the request's own URI exactly if it is that one. -/
theorem authorised_uri_iff (huri : UriDetermined) (es : List Event) (now : ℤ)
    (generateNonce : Option Bytes) (req : Request) (auth : DigestAuth)
    (hok : ((runFrom System.step System.start es).server.authorizeRequest now generateNonce req
      auth).1.status = 200) :
    ∃ cred, req.credentials = some cred ∧
      Answers (runFrom System.step System.start es).log auth req.method cred.uri cred ∧
      (Answers (runFrom System.step System.start es).log auth req.method req.recipient cred ↔
        cred.uri = req.recipient) := by
  obtain ⟨cred, chal, hcred, hcache, hdigest⟩ :=
    (authorizeRequest_ok_iff _ now generateNonce req auth).mp hok
  obtain ⟨hnonce, hissued⟩ := stored_run es cred.nonce chal hcache
  have hanswers : Answers (runFrom System.step System.start es).log auth req.method cred.uri
      cred := ⟨chal, hnonce, hissued, hdigest⟩
  refine ⟨cred, hcred, hanswers, ?_, ?_⟩
  · rintro ⟨c, -, -, hc⟩
    exact huri _ _ _ _ _ hdigest hc
  · intro hown
    rwa [← hown]

end Server

section Sample

def quotedParam (params name : Bytes) : Option Bytes :=
  (params.splitOn 0x2C).findSome? fun p =>
    (cutPre (name ++ lit "=\"") (trimSpace p)).map List.dropLast

/-- A digest that spells out what it was made from, the length of the URI first. -/
local instance spelledDigest : DigestLib where
  parseCredentials value := do
    let params ← cutPre (lit "Digest ") value
    return ⟨← quotedParam params (lit "nonce"), ← quotedParam params (lit "uri"),
      ← quotedParam params (lit "response")⟩
  digest c o := some (List.replicate o.uri.length 1 ++ 0 ::
    (o.uri ++ (c.nonce ++ c.realm ++ o.method ++ o.username ++ o.password)))

theorem spelledDigest_uriDetermined : UriDetermined := by
  intro c c' o o' response h h'
  have heq := Option.some.inj (h.trans h'.symm)
  have hlength := congrArg (List.length ∘ List.takeWhile (· == (1 : UInt8))) heq
  simp only [Function.comp_apply, List.takeWhile_append, List.takeWhile_replicate] at hlength
  simp at hlength
  rw [hlength] at heq
  have htail := (List.cons.inj (List.append_cancel_left heq)).2
  exact (List.append_inj htail hlength).1

def sampleAuth : DigestAuth := ⟨lit "alice", lit "secret", lit "home", 0⟩

def signedRequest (recipient uri : Bytes) : Request where
  method := lit "INVITE"
  recipient := recipient
  authorization := (DigestLib.digest (sampleAuth.challenge (lit "n"))
    ⟨lit "INVITE", uri, lit "alice", lit "secret"⟩).map fun response =>
      lit "Digest nonce=\"n\", uri=\"" ++ uri ++ lit "\", response=\"" ++ response ++ lit "\""

def challenged : List Event :=
  [.authorize 0 (some (lit "n")) ⟨lit "INVITE", lit "sip:a", none⟩ sampleAuth]

theorem own_uri_authorised : ∃ cred,
    (signedRequest (lit "sip:a") (lit "sip:a")).credentials = some cred ∧
    Answers (runFrom System.step System.start challenged).log sampleAuth (lit "INVITE")
      (lit "sip:a") cred := by
  obtain ⟨cred, hcred, -, hown⟩ := authorised_uri_iff spelledDigest_uriDetermined challenged 1 none
    (signedRequest (lit "sip:a") (lit "sip:a")) sampleAuth (by decide +kernel)
  have huri : (signedRequest (lit "sip:a") (lit "sip:a")).credentials.map Credentials.uri =
      some (lit "sip:a") := by decide +kernel
  rw [hcred] at huri
  exact ⟨cred, hcred, hown.mpr (Option.some.inj huri)⟩

/-- Credentials computed for one URI authorise a request to another. -/
theorem other_uri_authorised : UriDetermined ∧
    ((runFrom System.step System.start challenged).server.authorizeRequest 1 none
      (signedRequest (lit "sip:b") (lit "sip:a")) sampleAuth).1.status = 200 ∧
    ∀ cred, (signedRequest (lit "sip:b") (lit "sip:a")).credentials = some cred →
      ¬ Answers (runFrom System.step System.start challenged).log sampleAuth (lit "INVITE")
        (lit "sip:b") cred := by
  refine ⟨spelledDigest_uriDetermined, by decide +kernel, ?_⟩
  rintro cred hcred ⟨c, -, -, hdigest⟩
  have hresponse : (signedRequest (lit "sip:b") (lit "sip:a")).credentials.map
      Credentials.response = DigestLib.digest (sampleAuth.challenge (lit "n"))
        ⟨lit "INVITE", lit "sip:a", lit "alice", lit "secret"⟩ := by decide +kernel
  rw [hcred] at hresponse
  have huri := spelledDigest_uriDetermined _ _ _ _ _ hresponse.symm hdigest
  exact absurd huri (by decide +kernel)

end Sample

end Diago.Auth
