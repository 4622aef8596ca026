import AutomationTool.Core.Prog
import AutomationTool.Protocol.Envelope

/-!
# The live executor connections

`ExecutorConnectionRegistry` holds one connection for each installation. Every operation
takes its lock once or twice; what it does to a websocket it does outside, so a reconnect
may come in between. A call of the model (`RegistryOp`) is one such section, or one act on a
websocket; a program is one operation.

`history` is what a reader of the lock's owners would have written down, latest first.

* `Tracks`: the entry of an installation is the connection it registered last, unless that
  one was unregistered or everything was shut down.
* `registry_conduct`: what the operations do to websockets, whoever comes in between.
-/
namespace AutomationTool.ControlPlane.Registry

open Protocol

abbrev ExecutorConnectionId := Nat

/-- mirrors executor_envelope.py:50 -/
def maxExecutorMessageBytes : Nat := 32 * 1024

/-- One websocket. -/
structure ExecutorConnectionChannel where
  socket : Nat
  deriving DecidableEq, Repr

inductive ExecutorPlatform where
  | macos | windows
  deriving DecidableEq, Repr

inductive ExecutorArchitecture where
  | arm64 | x86_64
  deriving DecidableEq, Repr

/-- mirrors executor_connections.py:81-90 -/
structure BoundExecutorConnection where
  connectionId : ExecutorConnectionId
  installationId : InstallationId
  executorId : ExecutorId
  protocolVersion : String
  executorVersion : String
  platform : ExecutorPlatform
  architecture : ExecutorArchitecture
  helloSequence : Nat
  deriving DecidableEq, Repr

/-- mirrors executor_connection_registry.py:61-72 -/
structure OnlineExecutorConnection where
  connectionId : ExecutorConnectionId
  installationId : InstallationId
  executorId : ExecutorId
  protocolVersion : String
  executorVersion : String
  platform : ExecutorPlatform
  architecture : ExecutorArchitecture
  connectedAt : Time
  lastHeartbeatAt : Time
  lastSequence : Nat
  deriving DecidableEq, Repr

structure RegisteredConnection where
  online : OnlineExecutorConnection
  channel : ExecutorConnectionChannel
  deriving DecidableEq, Repr

/-- What an operation names its connection by. -/
@[ext] structure Lease where
  installationId : InstallationId
  connectionId : ExecutorConnectionId
  deriving DecidableEq, Repr

structure CloseFrame where
  code : Nat
  reason : String
  deriving DecidableEq, Repr

/-- mirrors executor_connection_registry.py:24-27 -/
def executorConnectionReplaced : CloseFrame := ⟨4409, "Executor connection was replaced"⟩
def executorConnectionShutdown : CloseFrame := ⟨1012, "Executor service is restarting"⟩

inductive RegistryFailure where
  | rejected | stale | unavailable
  deriving DecidableEq, Repr

namespace BoundExecutorConnection

def lease (b : BoundExecutorConnection) : Lease := ⟨b.installationId, b.connectionId⟩

theorem lease_eq_iff {b : BoundExecutorConnection} {lease : Lease} :
    b.lease = lease ↔
      b.installationId = lease.installationId ∧ b.connectionId = lease.connectionId := Lease.ext_iff

/-- `_valid_bound`: the types see to the rest. -/
def validBound (b : BoundExecutorConnection) : Bool :=
  1 ≤ b.helloSequence ∧ b.helloSequence ≤ maxExecutorSequence

/-- mirrors executor_connection_registry.py:124-136 -/
def online (b : BoundExecutorConnection) (now : Time) : OnlineExecutorConnection where
  connectionId := b.connectionId
  installationId := b.installationId
  executorId := b.executorId
  protocolVersion := b.protocolVersion
  executorVersion := b.executorVersion
  platform := b.platform
  architecture := b.architecture
  connectedAt := now
  lastHeartbeatAt := now
  lastSequence := b.helloSequence

end BoundExecutorConnection

/-! ## The registry -/

inductive RegistryEvent where
  | registered (bound : BoundExecutorConnection) (channel : ExecutorConnectionChannel)
  | unregistered (lease : Lease)
  | accepted (lease : Lease) (sequence : Nat)
  | sent (lease : Lease) (channel : ExecutorConnectionChannel) (source : String)
  /-- `closer` is the connection whose registration closed the websocket. -/
  | closed (closer : Option Lease) (channel : ExecutorConnectionChannel) (frame : CloseFrame)
  | shutdown
  deriving DecidableEq, Repr

structure ExecutorConnectionRegistry where
  connections : AList fun _ : InstallationId => RegisteredConnection
  closed : Bool
  /-- The websockets on which a write fails. -/
  failing : List ExecutorConnectionChannel
  history : List RegistryEvent

namespace ExecutorConnectionRegistry

def empty : ExecutorConnectionRegistry := ⟨∅, false, [], []⟩

/-- The connection an installation has now. -/
def serving (s : ExecutorConnectionRegistry) (i : InstallationId) :
    Option (ExecutorConnectionId × ExecutorConnectionChannel) :=
  (s.connections.lookup i).map fun r => (r.online.connectionId, r.channel)

def isCurrent (s : ExecutorConnectionRegistry) (lease : Lease) : Bool :=
  match s.connections.lookup lease.installationId with
  | none => false
  | some registered => registered.online.connectionId = lease.connectionId

/-- The locked section of `register`: the new entry, and the one it replaced.
mirrors executor_connection_registry.py:138-147 -/
def insert (s : ExecutorConnectionRegistry) (bound : BoundExecutorConnection)
    (channel : ExecutorConnectionChannel) (now : Time) :
    Except RegistryFailure (OnlineExecutorConnection × Option RegisteredConnection) ×
      ExecutorConnectionRegistry :=
  if s.closed then (.error .rejected, s)
  else if s.isCurrent bound.lease then (.error .rejected, s)
  else
    (.ok (bound.online now, s.connections.lookup bound.installationId),
      { s with
        connections := s.connections.insert bound.installationId ⟨bound.online now, channel⟩
        history := .registered bound channel :: s.history })

/-- The locked section of `record_heartbeat`.
mirrors executor_connection_registry.py:169-184 -/
def heartbeat (s : ExecutorConnectionRegistry) (lease : Lease) (sequence : Nat) (now : Time) :
    Except RegistryFailure OnlineExecutorConnection × ExecutorConnectionRegistry :=
  match s.connections.lookup lease.installationId with
  | none => (.error .stale, s)
  | some registered =>
    if registered.online.connectionId ≠ lease.connectionId then (.error .stale, s)
    else if sequence ≤ registered.online.lastSequence ∨ now < registered.online.lastHeartbeatAt then
      (.error .rejected, s)
    else
      let online := { registered.online with lastHeartbeatAt := now, lastSequence := sequence }
      (.ok online,
        { s with
          connections := s.connections.insert lease.installationId { registered with online }
          history := .accepted lease sequence :: s.history })

/-- The locked section of `unregister`.
mirrors executor_connection_registry.py:216-221 -/
def remove (s : ExecutorConnectionRegistry) (lease : Lease) : Bool × ExecutorConnectionRegistry :=
  let s' := { s with history := .unregistered lease :: s.history }
  if s.isCurrent lease then
    (true, { s' with connections := s.connections.erase lease.installationId })
  else (false, s')

/-- The first locked section of `send_current`. -/
def channelOf (s : ExecutorConnectionRegistry) (lease : Lease) : Option ExecutorConnectionChannel :=
  match s.connections.lookup lease.installationId with
  | none => none
  | some registered =>
    if registered.online.connectionId = lease.connectionId then some registered.channel else none

/-- The locked section of `shutdown`: what is left to close. -/
def clear (s : ExecutorConnectionRegistry) :
    Option (List RegisteredConnection) × ExecutorConnectionRegistry :=
  if s.closed then (none, s)
  else
    (some (s.connections.entries.map Sigma.snd),
      { s with closed := true, connections := ∅, history := .shutdown :: s.history })

end ExecutorConnectionRegistry

inductive RegistryOp where
  | insert (bound : BoundExecutorConnection) (channel : ExecutorConnectionChannel) (now : Time)
  | heartbeat (lease : Lease) (sequence : Nat) (now : Time)
  | isCurrent (lease : Lease)
  | remove (lease : Lease)
  | channelOf (lease : Lease)
  | sendText (lease : Lease) (channel : ExecutorConnectionChannel) (source : String)
  | clear
  | close (closer : Option Lease) (channel : ExecutorConnectionChannel) (frame : CloseFrame)
  /-- Websockets break and heal as they like. -/
  | network (failing : List ExecutorConnectionChannel)

abbrev RegistryOp.Ret : RegistryOp → Type
  | .insert .. => Except RegistryFailure (OnlineExecutorConnection × Option RegisteredConnection)
  | .heartbeat .. => Except RegistryFailure OnlineExecutorConnection
  | .isCurrent .. => Bool
  | .remove .. => Bool
  | .channelOf .. => Option ExecutorConnectionChannel
  | .sendText .. => Bool
  | .clear => Option (List RegisteredConnection)
  | .close .. => Unit
  | .network .. => Unit

def exec : (o : RegistryOp) → ExecutorConnectionRegistry → o.Ret × ExecutorConnectionRegistry
  | .insert bound channel now, s => s.insert bound channel now
  | .heartbeat lease sequence now, s => s.heartbeat lease sequence now
  | .isCurrent lease, s => (s.isCurrent lease, s)
  | .remove lease, s => s.remove lease
  | .channelOf lease, s => (s.channelOf lease, s)
  | .sendText lease channel source, s =>
    (channel ∉ s.failing, { s with history := .sent lease channel source :: s.history })
  | .clear, s => s.clear
  | .close closer channel frame, s =>
    ((), { s with history := .closed closer channel frame :: s.history })
  | .network failing, s => ((), { s with failing })

/-! ## The operations -/

abbrev RegistryProg := Prog RegistryOp RegistryOp.Ret

/-- `now` is what `_now` read before the lock was taken.
mirrors executor_connection_registry.py:117-154 -/
def register (bound : BoundExecutorConnection) (channel : ExecutorConnectionChannel) (now : Time) :
    RegistryProg (Except RegistryFailure OnlineExecutorConnection) :=
  if bound.validBound = false then pure (.error .rejected)
  else do
    match ← Prog.op (RegistryOp.insert bound channel now) with
    | .error e => pure (.error e)
    | .ok (online, none) => pure (.ok online)
    | .ok (online, some previous) =>
      let _ ← Prog.op
        (RegistryOp.close (some bound.lease) previous.channel executorConnectionReplaced)
      pure (.ok online)

/-- mirrors executor_connection_registry.py:156-184 -/
def recordHeartbeat (bound : BoundExecutorConnection) (sequence : Nat) (now : Time) :
    RegistryProg (Except RegistryFailure OnlineExecutorConnection) :=
  if bound.validBound = false ∨ ¬(1 ≤ sequence ∧ sequence ≤ maxExecutorSequence) then
    pure (.error .rejected)
  else Prog.op (RegistryOp.heartbeat bound.lease sequence now)

/-- mirrors executor_connection_registry.py:206-211 -/
def queryCurrent (bound : BoundExecutorConnection) : RegistryProg (Except RegistryFailure Bool) :=
  if bound.validBound = false then pure (.error .rejected)
  else do
    let current ← Prog.op (RegistryOp.isCurrent bound.lease)
    pure (.ok current)

/-- mirrors executor_connection_registry.py:213-221 -/
def unregister (bound : BoundExecutorConnection) : RegistryProg (Except RegistryFailure Bool) :=
  if bound.validBound = false then pure (.error .rejected)
  else do
    let removed ← Prog.op (RegistryOp.remove bound.lease)
    pure (.ok removed)

/-- mirrors executor_connection_registry.py:223-258 -/
def sendCurrent (lease : Lease) (source : String) : RegistryProg (Except RegistryFailure Unit) :=
  if ¬(1 ≤ source.utf8ByteSize ∧ source.utf8ByteSize ≤ maxExecutorMessageBytes) then
    pure (.error .rejected)
  else do
    match ← Prog.op (RegistryOp.channelOf lease) with
    | none => pure (.error .stale)
    | some channel =>
      if ← Prog.op (RegistryOp.sendText lease channel source) then
        if ← Prog.op (RegistryOp.isCurrent lease) then pure (.ok ()) else pure (.error .stale)
      else pure (.error .unavailable)

/-- mirrors executor_connection_registry.py:260-272 -/
def shutdown : RegistryProg Unit := do
  match ← Prog.op RegistryOp.clear with
  | none => pure ()
  | some registered =>
    Prog.each (registered.map fun r => RegistryOp.close none r.channel executorConnectionShutdown)

/-- Anybody may call anything, with any lease. -/
inductive RegistryOffered : RegistryProg Unit → Prop where
  | register (b : BoundExecutorConnection) (channel : ExecutorConnectionChannel) (now : Time) :
      RegistryOffered (register b channel now >>= fun _ => pure ())
  | recordHeartbeat (b : BoundExecutorConnection) (sequence : Nat) (now : Time) :
      RegistryOffered (recordHeartbeat b sequence now >>= fun _ => pure ())
  | queryCurrent (b : BoundExecutorConnection) :
      RegistryOffered (queryCurrent b >>= fun _ => pure ())
  | unregister (b : BoundExecutorConnection) :
      RegistryOffered (unregister b >>= fun _ => pure ())
  | sendCurrent (lease : Lease) (source : String) :
      RegistryOffered (sendCurrent lease source >>= fun _ => pure ())
  | shutdown : RegistryOffered Registry.shutdown
  | network (failing : List ExecutorConnectionChannel) :
      RegistryOffered (Prog.op (RegistryOp.network failing) >>= fun _ => pure ())

end AutomationTool.ControlPlane.Registry
