import Diago.Media.LocalSDP

/-! # Finalizing a negotiation

The negotiation a remote description armed runs the ICE checks and the DTLS handshake
and keys SRTP from it: inline, or on a goroutine of its own that a later call waits
for.
-/
namespace Diago.Media
open Lib SDP

/-- What happens to one negotiation, step by step. -/
structure HandshakeEnv where
  /-- The remote address of the nominated pair, none when the checks fail. -/
  checks : Option UDPAddr
  dials : Bool
  completes : Bool
  retires : Bool
  hasState : Bool
  profile : ProtectionProfile
  /-- The exported keying material, none when the export fails. -/
  material : Option (ℕ → UInt8)
  localHandle : ℕ
  remoteHandle : ℕ

/-- What ends the wait for a negotiation before it has returned. -/
inductive Stop
  | contextDone
  | timeout
  deriving DecidableEq, Repr

def Stop.err : Stop → Err
  | .contextDone => .contextDone
  | .timeout => .finalizeTimeout

def startICE (h : HandshakeEnv) : Op MediaSession Err Unit := do
  let s ← Op.read
  match s.iceAgent, h.checks with
  | none, _ => Op.fail .noICEAgent
  | some agent, some raddr => do
    Op.require (agent.remoteUfrag ≠ [] ∧ agent.remotePwd ≠ []) (.finalize .checks)
    -- under rtcp-mux RTCP shares the address of the pair
    Op.update fun s =>
      { s.setRemoteAddr raddr with
        rtcpRaddr := raddr
        iceMux := some raddr
        rtpConn := some (.ice raddr)
        rtcpConn := some (.ice raddr) }
  | some _, none => Op.fail (.finalize .checks)

/-- The checks and the handshake, up to the point where the keys can be taken. -/
def reachPeer (h : HandshakeEnv) : Op MediaSession Err Unit := do
  let s ← Op.read
  Op.only (s.iceEnabled = true) do
    startICE h
    Op.require (h.dials = true) (.finalize .dial)
  Op.require (h.completes = true) (.finalize .handshake)
  Op.require (h.retires = true) (.finalize .retire)
  Op.require (h.hasState = true) (.finalize .state)

section Lib
variable [SrtpLib]

/-- The keys and salts of the two directions, ours first, from the exported material. -/
def splitKeys (role : HandshakeRole) (keyLen saltLen : ℕ) (material : Bytes) :
    (Bytes × Bytes) × (Bytes × Bytes) :=
  let client := (material.take keyLen, (material.drop (2 * keyLen)).take saltLen)
  let server := ((material.drop keyLen).take keyLen, material.drop (2 * keyLen + saltLen))
  match role with
  | .client => (client, server)
  | .server => (server, client)

def keyFromHandshake (role : HandshakeRole) (h : HandshakeEnv) : Op MediaSession Err Unit :=
  match SrtpLib.keyLen h.profile, SrtpLib.saltLen h.profile, h.material with
  | none, _, _ => Op.fail (.finalize .keyLen)
  | some _, none, _ => Op.fail (.finalize .saltLen)
  | some _, some _, none => Op.fail (.finalize .keyingMaterial)
  | some keyLen, some saltLen, some material => do
    let keys := splitKeys role keyLen saltLen (draw material (2 * (keyLen + saltLen)))
    let localCtx := createContext h.localHandle keys.1.1 keys.1.2 h.profile
    Op.update fun s => { s with localCtxSRTP := localCtx }
    Op.require (localCtx.isSome = true) (.finalize .localContext)
    let remoteCtx := createContext h.remoteHandle keys.2.1 keys.2.2 h.profile
    Op.update fun s => { s with remoteCtxSRTP := remoteCtx }
    Op.require (remoteCtx.isSome = true) (.finalize .remoteContext)

/-- Records the association, and the pair of an ICE session, and opens the media paths. -/
def MediaSession.recordKeyed (armed : Armed) (s : MediaSession) : MediaSession :=
  { s with
    dtlsAssoc := some armed.assoc
    establishedICE :=
      if s.iceEnabled then
        s.iceAgent.map fun agent =>
          { localSetup := s.agentICESetup agent
            remoteUfrag := s.remoteICEUfrag
            remotePwd := s.remoteICEPwd }
      else s.establishedICE
    dtlsKeyed := true
    dtlsUnkeyed := false }

def negotiate (armed : Armed) (h : HandshakeEnv) : Op MediaSession Err Unit := do
  reachPeer h
  keyFromHandshake armed.role h
  Op.update (MediaSession.recordKeyed armed)

namespace MediaSession

/-- The result of a run, with the session once it has returned. -/
def awaitRun (run : FinalizeRun) (h : HandshakeEnv) (s : MediaSession) :
    Except Err Unit × MediaSession :=
  match run.result with
  | some r => (r, s)
  | none => negotiate run.armed h s

/-- Forgets a run that has returned and keeps its error. -/
def endFinalizeRun (r : Except Err Unit) (s : MediaSession) : MediaSession :=
  { s with
    finalizeRun := none
    finalizeErr :=
      match r with
      | .ok _ => s.finalizeErr
      | .error e => some e }

def completeRun (h : HandshakeEnv) (s : MediaSession) : MediaSession :=
  match s.finalizeRun with
  | some run =>
    { (s.awaitRun run h).2 with
      finalizeRun := some { run with result := some (s.awaitRun run h).1 } }
  | none => s

/-- A wait that is stopped ends the run with it, and keeps one that completed meanwhile. -/
def awaitFinalizeRun (run : FinalizeRun) (h : HandshakeEnv) (stop : Option Stop) :
    Op MediaSession Err Unit := fun s =>
  let r := (s.awaitRun run h).1
  let t := (s.awaitRun run h).2.endFinalizeRun r
  match r, stop with
  | .error _, some why => (.error why.err, t)
  | r, _ => (r, t)

def finalizeContext (h : HandshakeEnv) (stop : Option Stop) : Op MediaSession Err Unit := fun s =>
  match s.finalizeRun, s.finalizeErr, s.onFinalize with
  | some run, _, _ => awaitFinalizeRun run h stop s
  | none, some e, _ => (.error e, s)
  | none, none, some armed =>
    ((negotiate armed h s).1, { (negotiate armed h s).2 with onFinalize := none })
  | none, none, none => (.ok (), s)

/-- Takes the armed negotiation to a goroutine; no media goes out until it has keyed SRTP. -/
def startFinalizeRun (armed : Armed) (s : MediaSession) : MediaSession :=
  { s with onFinalize := none, finalizeRun := some { armed := armed }, dtlsUnkeyed := true }

/-- The wait of `finalizeWithin`: `ends` when the run returns meanwhile, and `seen` when the wait
ends on that and not on its timer. -/
def waitWithin (ends : Option HandshakeEnv) (seen : Bool) : Op MediaSession Err Unit := fun s =>
  let t := match ends with
    | some h => s.completeRun h
    | none => s
  match t.finalizeRun.bind (·.result), seen with
  | some r, true => (r, t.endFinalizeRun r)
  | _, _ => (.error .finalizeInProgress, t)

def finalizeWithin (ends : Option HandshakeEnv) (seen : Bool) : Op MediaSession Err Unit := fun s =>
  match s.finalizeRun, s.finalizeErr, s.onFinalize with
  | some _, _, _ => waitWithin ends seen s
  | none, some e, _ => (.error e, s)
  | none, none, none => (.ok (), s)
  | none, none, some armed => waitWithin ends seen (s.startFinalizeRun armed)

def finalizePending (s : MediaSession) : Bool := s.onFinalize.isSome || s.finalizeRun.isSome

/-- Ends a run first, then releases the sockets and the agent. -/
def close (h : HandshakeEnv) (s : MediaSession) : MediaSession :=
  let t := match s.finalizeRun with
    | some run => (s.awaitRun run h).2.endFinalizeRun (s.awaitRun run h).1
    | none => s
  if t.iceAgent.isSome then { t with iceAgent := none, iceUDPConn := none } else t

end MediaSession
end Lib
end Diago.Media
