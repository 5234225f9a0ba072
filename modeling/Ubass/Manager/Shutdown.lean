import Ubass.Utils.HandleMonitor

/-!
# Closing the protocol

Dropping the `Api` runs `inner_close`, which is to tell the manager to close and joins
its thread.  `Close` goes down through the outbound halves of the layers, `Closed`
comes back up through the inbound ones, and each layer is a function that waits for
its two halves with `select!`.

A channel counts as closed when all the tasks that hold a sender of it are over.  The
state holds one of the channel to the packet processor, which is thus never closed.
The halves and the functions that wait for them are taken not to panic; the monitored
tasks may.
-/

set_option autoImplicit false

namespace Ubass

inductive AppPhase where
  | running
  /-- In `handle.join()`. -/
  | joining
  | closed
deriving DecidableEq

/-- One half of a layer, which flushes its monitor when it was told to close. -/
inductive HalfPhase where
  | running
  | flushing
  | ended
deriving DecidableEq

/-- The `init` of a layer. -/
inductive LayerPhase where
  | selecting
  /-- One half is over, and the other one is awaited. -/
  | waiting
  | ended
deriving DecidableEq

/-- How far `manager/outbound.rs` has come with `Close`. -/
inductive ManagerOutbound where
  | receiving
  /-- `monitor.flush()` -/
  | flushing
  /-- `global_handle_monitor.flush()` -/
  | flushingGlobal
  /-- `join_layers` -/
  | joining
  | ended
deriving DecidableEq

/-- The application and the layers.  Numbers are messages that are on their way. -/
structure Layers where
  app : AppPhase
  protocolOpen : Bool
  closeCommands : Nat
  manager : LayerPhase
  managerInbound : HalfPhase
  managerOutbound : ManagerOutbound
  commands : HandleMonitor
  globalHandleMonitor : HandleMonitor
  ackCanceled : Bool
  fecPruneCanceled : Bool
  fingerprintsCanceled : Bool
  toProcessor : Nat
  processor : LayerPhase
  processorInbound : HalfPhase
  processorOutbound : HalfPhase
  toTransport : Nat
  transport : LayerPhase
  transportInbound : HalfPhase
  transportOutbound : HalfPhase
  stopSignal : Bool
  closedToProcessor : Nat
  closedToManager : Nat
deriving DecidableEq

inductive ShutdownLabel where
  /-- `inner_close` up to `handle.join()`, and its end. -/
  | dropApi
  | joined
  /-- A step of the monitor of `manager/outbound.rs`, or of the global one. -/
  | commands (label : MonitorLabel)
  | globalHandleMonitor (label : MonitorLabel)
  | receiveClose
  | flushed
  | flushedGlobal
  | layersJoined
  /-- The application and its sender are gone. -/
  | commandsClosed
  | managerInboundDone
  | managerOutboundDone
  /-- The inbound half is over as well, or `INBOUND_CLOSE_TIMEOUT` has passed. -/
  | managerWaited
  | managerChannelClosed
  | managerReceivesClosed
  | managerFlushed
  | processorReceivesClose
  | processorFlushed
  | processorChannelClosed
  | processorReceivesClosed
  | processorInboundDone
  | processorWaited
  | processorOutboundDone
  | transportReceivesClose
  | transportFlushed
  | transportChannelClosed
  | failedToBind
  /-- `RecvFailedTooManyTimes`, or nobody receives what the half sends up. -/
  | receiveFailed
  | stopped
  | transportInboundDone
  | transportOutboundDone
  | transportWaited

namespace Layers

/-- `manager::init` has set up the layers, which fails when a port is taken, and has started the
three routines that prune, in this order: the pending acknowledgements, the batches, the
fingerprints. -/
def init : Layers where
  app := .running
  protocolOpen := true
  closeCommands := 0
  manager := .selecting
  managerInbound := .running
  managerOutbound := .receiving
  commands := HandleMonitor.default
  globalHandleMonitor := ⟨3, false, [.running, .running, .running], .idle⟩
  ackCanceled := false
  fecPruneCanceled := false
  fingerprintsCanceled := false
  toProcessor := 0
  processor := .selecting
  processorInbound := .running
  processorOutbound := .running
  toTransport := 0
  transport := .selecting
  transportInbound := .running
  transportOutbound := .running
  stopSignal := false
  closedToProcessor := 0
  closedToManager := 0

/-- Only the loop of `manager/outbound.rs` dispatches the endpoints, and only it flushes. -/
def commandsMay (self : Layers) : MonitorLabel → Bool
  | .dispatch caller => caller.isNone && self.managerOutbound = .receiving
  | .flush => self.managerOutbound = .flushing
  | .spawn _ | .complete _ | .panic _ | .fetchSub _ | .notifyOne _ | .load | .pollNotified
  | .resume => true

/-- `PendingAckWindow::add` dispatches until the window is closed.  A routine that prunes ends when
its flag is set; that of the acknowledgements also when it finds a packet without a session. -/
def globalMay (self : Layers) : MonitorLabel → Bool
  | .dispatch caller => caller.isNone && !self.ackCanceled
  | .complete 1 => self.fecPruneCanceled
  | .complete 2 => self.fingerprintsCanceled
  | .flush => self.managerOutbound = .flushingGlobal
  | .complete _ | .spawn _ | .panic _ | .fetchSub _ | .notifyOne _ | .load | .pollNotified
  | .resume => true

/-- `awaited` says whether the future of `tx.send(ApiCommand::Close)` is awaited.  In the source it
is not, and nothing is sent. -/
def machine (awaited : Bool) : Machine Layers ShutdownLabel where
  initial state := state = init
  step state
    | .dropApi =>
        if state.app = .running then
          some (if state.protocolOpen then
            { state with app := .joining, closeCommands := state.closeCommands + awaited.toNat }
          else { state with app := .closed })
        else none
    | .joined =>
        if state.app = .joining ∧ state.manager = .ended then
          some { state with app := .closed, protocolOpen := false }
        else none
    | .commands label =>
        if state.commandsMay label then
          (HandleMonitor.machine.step state.commands label).map fun commands =>
            { state with commands := commands }
        else none
    | .globalHandleMonitor label =>
        if state.globalMay label then
          (HandleMonitor.machine.step state.globalHandleMonitor label).map fun monitor =>
            { state with globalHandleMonitor := monitor }
        else none
    | .receiveClose =>
        if state.managerOutbound = .receiving ∧ 0 < state.closeCommands then
          some { state with
            managerOutbound := .flushing, closeCommands := state.closeCommands - 1 }
        else none
    | .flushed =>
        if state.managerOutbound = .flushing ∧ state.commands.flush = .returned then
          some { state with
            managerOutbound := .flushingGlobal, ackCanceled := true, fecPruneCanceled := true }
        else none
    | .flushedGlobal =>
        if state.managerOutbound = .flushingGlobal ∧
            state.globalHandleMonitor.flush = .returned then
          some { state with managerOutbound := .joining, toProcessor := state.toProcessor + 1 }
        else none
    | .layersJoined =>
        if state.managerOutbound = .joining ∧ state.processor = .ended ∧
            state.transport = .ended then
          some { state with managerOutbound := .ended }
        else none
    | .commandsClosed =>
        if state.managerOutbound = .receiving ∧ state.app = .closed then
          some { state with managerOutbound := .ended }
        else none
    | .managerInboundDone =>
        if state.manager = .selecting ∧ state.managerInbound = .ended then
          some { state with manager := .ended, managerOutbound := .ended }
        else none
    | .managerOutboundDone =>
        if state.manager = .selecting ∧ state.managerOutbound = .ended then
          some { state with manager := .waiting }
        else none
    | .managerWaited =>
        if state.manager = .waiting then some { state with manager := .ended } else none
    | .managerChannelClosed =>
        if state.managerInbound = .running ∧ state.processor = .ended ∧
            state.processorInbound = .ended ∧ state.processorOutbound = .ended then
          some { state with managerInbound := .ended }
        else none
    | .managerReceivesClosed =>
        if state.managerInbound = .running ∧ 0 < state.closedToManager then
          some { state with
            managerInbound := .flushing, closedToManager := state.closedToManager - 1 }
        else none
    | .managerFlushed =>
        if state.managerInbound = .flushing then some { state with managerInbound := .ended }
        else none
    | .processorReceivesClose =>
        if state.processorOutbound = .running ∧ 0 < state.toProcessor then
          some { state with
            processorOutbound := .flushing, toProcessor := state.toProcessor - 1 }
        else none
    | .processorFlushed =>
        if state.processorOutbound = .flushing then
          some { state with processorOutbound := .ended, toTransport := state.toTransport + 1 }
        else none
    | .processorChannelClosed =>
        if state.processorInbound = .running ∧ state.transport = .ended ∧
            state.transportInbound = .ended then
          some { state with processorInbound := .ended }
        else none
    | .processorReceivesClosed =>
        if state.processorInbound = .running ∧ 0 < state.closedToProcessor then
          some { state with
            processorInbound := .ended
            closedToProcessor := state.closedToProcessor - 1
            closedToManager := state.closedToManager + 1 }
        else none
    | .processorInboundDone =>
        if state.processor = .selecting ∧ state.processorInbound = .ended then
          some { state with processor := .waiting }
        else none
    | .processorWaited =>
        if state.processor = .waiting ∧ state.processorOutbound = .ended then
          some { state with processor := .ended, toTransport := state.toTransport + 1 }
        else none
    | .processorOutboundDone =>
        if state.processor = .selecting ∧ state.processorOutbound = .ended then
          some { state with
            processor := .ended
            processorInbound := .ended
            toTransport := state.toTransport + 1 }
        else none
    | .transportReceivesClose =>
        if state.transportOutbound = .running ∧ 0 < state.toTransport then
          some { state with
            transportOutbound := .flushing, toTransport := state.toTransport - 1 }
        else none
    | .transportFlushed =>
        if state.transportOutbound = .flushing then
          some { state with transportOutbound := .ended, stopSignal := true }
        else none
    | .transportChannelClosed =>
        if state.transportOutbound = .running ∧ state.processor = .ended ∧
            state.processorOutbound = .ended then
          some { state with transportOutbound := .ended }
        else none
    | .failedToBind =>
        if state.transportOutbound = .running then
          some { state with transportOutbound := .ended }
        else none
    | .receiveFailed =>
        if state.transportInbound = .running then
          some { state with transportInbound := .ended }
        else none
    | .stopped =>
        if state.transportInbound = .running ∧ state.stopSignal = true then
          some { state with
            transportInbound := .ended
            stopSignal := false
            closedToProcessor := state.closedToProcessor + 1 }
        else none
    | .transportInboundDone =>
        if state.transport = .selecting ∧ state.transportInbound = .ended then
          some { state with transport := .ended }
        else none
    | .transportOutboundDone =>
        if state.transport = .selecting ∧ state.transportOutbound = .ended then
          some { state with transport := .waiting }
        else none
    | .transportWaited =>
        if state.transport = .waiting ∧ state.transportInbound = .ended then
          some { state with transport := .ended }
        else none

/-! ## What keeps the layers open -/

/-- The fingerprints are pruned, so the manager does not get past its second `flush`, and nobody
below it is told to close. -/
structure Open (state : Layers) : Prop where
  app : state.app ≠ .closed
  protocolOpen : state.protocolOpen = true
  manager : state.manager = .selecting
  managerInbound : state.managerInbound = .running
  notJoining : state.managerOutbound ≠ .joining
  notEnded : state.managerOutbound ≠ .ended
  sound : state.globalHandleMonitor.Sound
  prunes : state.globalHandleMonitor.Unfinished 2
  waits : state.globalHandleMonitor.flush ≠ .returned
  fingerprints : state.fingerprintsCanceled = false
  toProcessor : state.toProcessor = 0
  processor : state.processor ≠ .ended
  processorOutbound : state.processorOutbound = .running
  toTransport : state.toTransport = 0
  transportOutbound : state.transportOutbound ≠ .flushing
  stopSignal : state.stopSignal = false
  closedToProcessor : state.closedToProcessor = 0
  closedToManager : state.closedToManager = 0

theorem Open.global {state : Layers} (holds : state.Open) {label : MonitorLabel}
    (may : state.globalMay label = true) {monitor : HandleMonitor}
    (stepped : HandleMonitor.machine.step state.globalHandleMonitor label = some monitor) :
    Open { state with globalHandleMonitor := monitor } := by
  have goesOn : label ≠ .complete 2 := by
    rintro rfl
    rw [globalMay, holds.fingerprints] at may
    cases may
  exact { holds with
    sound := HandleMonitor.step_sound holds.sound stepped
    prunes := HandleMonitor.step_unfinished holds.prunes goesOn stepped
    waits := HandleMonitor.flush_of_unfinished holds.sound holds.prunes holds.waits stepped }

theorem Open.step {awaited : Bool} {state next : Layers} {label : ShutdownLabel}
    (holds : state.Open) (stepped : (machine awaited).step state label = some next) :
    next.Open := by
  cases label with
  | dropApi =>
      simp only [machine, holds.protocolOpen, if_true] at stepped
      split at stepped
      · cases stepped
        exact { holds with app := by simp, protocolOpen := rfl }
      · cases stepped
  | commands label =>
      simp only [machine] at stepped
      split at stepped
      · obtain ⟨_, _, rfl⟩ := Option.map_eq_some_iff.mp stepped
        exact { holds with }
      · cases stepped
  | globalHandleMonitor label =>
      simp only [machine] at stepped
      split at stepped
      · rename_i may
        obtain ⟨_, moved, rfl⟩ := Option.map_eq_some_iff.mp stepped
        exact holds.global may moved
      · cases stepped
  | joined =>
      simp only [machine, holds.manager, reduceCtorEq, and_false, if_false] at stepped
  | commandsClosed =>
      simp only [machine, holds.app, and_false, if_false, reduceCtorEq] at stepped
  | flushedGlobal =>
      simp only [machine, holds.waits, and_false, if_false, reduceCtorEq] at stepped
  | layersJoined =>
      simp only [machine, holds.notJoining, false_and, if_false, reduceCtorEq] at stepped
  | managerInboundDone | managerReceivesClosed | managerFlushed | managerChannelClosed =>
      simp [machine, holds.managerInbound, holds.closedToManager, holds.processor] at stepped
  | managerOutboundDone | managerWaited =>
      simp [machine, holds.manager, holds.notEnded] at stepped
  | processorReceivesClose | processorFlushed | processorWaited | processorOutboundDone =>
      simp [machine, holds.toProcessor, holds.processorOutbound] at stepped
  | processorReceivesClosed =>
      simp [machine, holds.closedToProcessor] at stepped
  | transportReceivesClose | transportFlushed =>
      simp [machine, holds.toTransport, holds.transportOutbound] at stepped
  | transportChannelClosed =>
      simp [machine, holds.processor] at stepped
  | stopped =>
      simp [machine, holds.stopSignal] at stepped
  | receiveClose | flushed =>
      simp only [machine, Option.ite_none_right_eq_some, Option.some.injEq] at stepped
      obtain ⟨_, rfl⟩ := stepped
      exact { holds with notJoining := by simp, notEnded := by simp }
  | processorChannelClosed | receiveFailed | transportInboundDone | transportOutboundDone
  | transportWaited =>
      simp only [machine, Option.ite_none_right_eq_some, Option.some.injEq] at stepped
      obtain ⟨_, rfl⟩ := stepped
      exact { holds with }
  | processorInboundDone =>
      simp only [machine, Option.ite_none_right_eq_some, Option.some.injEq] at stepped
      obtain ⟨_, rfl⟩ := stepped
      exact { holds with processor := by simp }
  | failedToBind =>
      simp only [machine, Option.ite_none_right_eq_some, Option.some.injEq] at stepped
      obtain ⟨_, rfl⟩ := stepped
      exact { holds with transportOutbound := by simp }

/-- `Close` arrives, and the manager waits for the three routines. -/
def closing : List ShutdownLabel :=
  [.dropApi, .receiveClose, .commands .flush, .commands .load, .flushed,
    .globalHandleMonitor .flush, .globalHandleMonitor .load, .globalHandleMonitor .pollNotified,
    .globalHandleMonitor (.complete 0), .globalHandleMonitor (.fetchSub 0),
    .globalHandleMonitor (.complete 1), .globalHandleMonitor (.fetchSub 1)]

end Layers
end Ubass
