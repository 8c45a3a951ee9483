namespace ServiceBeacon

/-!
# The shutdown latch

Any number of handles can request a shutdown and any number of signals can
wait for one.  The request is a latch: once made it stays, for every handle
and every signal, whenever they were created.  A signal whose last handle is
gone is ready too, since nobody could ever wake it.

Handles and signals are named by the order of their creation and are never
reused.
-/

/-- The latch with its handles and signals: for each that was ever made, whether it
is still alive. -/
structure Shutdown where
  requested : Bool
  handles : List Bool
  signals : List Bool
deriving DecidableEq, Repr

namespace Shutdown

/-- One handle, no signal, no request. -/
def initial : Shutdown := ⟨false, [true], []⟩

/-- What can be done to a latch.  `subscribe` makes a signal, `count` asks how many
are alive, and `recv` looks once whether a signal is ready. -/
inductive Action where
  | clone (handle : Nat)
  | subscribe (handle : Nat)
  | trigger (handle : Nat)
  | drop (handle : Nat)
  | dropSignal (signal : Nat)
  | isTriggered (handle : Nat)
  | signalIsTriggered (signal : Nat)
  | count (handle : Nat)
  | recv (signal : Nat)
deriving DecidableEq, Repr

/-- What an action answers.  A handle or signal that is gone does not exist any
more, or never did; one that was made is known by its index. -/
inductive Answer where
  | gone
  | done
  | made (index : Nat)
  | flag (value : Bool)
  | amount (signals : Nat)
  | ready
  | pending
deriving DecidableEq, Repr

def hasHandle (latch : Shutdown) (handle : Nat) : Bool := latch.handles[handle]?.getD false

def hasSignal (latch : Shutdown) (signal : Nat) : Bool := latch.signals[signal]?.getD false

def hasHandles (latch : Shutdown) : Bool := latch.handles.any id

def liveSignals (latch : Shutdown) : Nat := latch.signals.count true

/-- Takes one action, if the handle or signal it goes through is alive. -/
def step (latch : Shutdown) : Action → Answer × Shutdown
  | .clone handle =>
    if latch.hasHandle handle then
      (.made latch.handles.length, { latch with handles := latch.handles ++ [true] })
    else (.gone, latch)
  | .subscribe handle =>
    if latch.hasHandle handle then
      (.made latch.signals.length, { latch with signals := latch.signals ++ [true] })
    else (.gone, latch)
  | .trigger handle =>
    if latch.hasHandle handle then (.done, { latch with requested := true }) else (.gone, latch)
  | .drop handle =>
    if latch.hasHandle handle then
      (.done, { latch with handles := latch.handles.set handle false })
    else (.gone, latch)
  | .dropSignal signal =>
    if latch.hasSignal signal then
      (.done, { latch with signals := latch.signals.set signal false })
    else (.gone, latch)
  | .isTriggered handle =>
    (if latch.hasHandle handle then .flag latch.requested else .gone, latch)
  | .signalIsTriggered signal =>
    (if latch.hasSignal signal then .flag latch.requested else .gone, latch)
  | .count handle =>
    (if latch.hasHandle handle then .amount latch.liveSignals else .gone, latch)
  | .recv signal =>
    (if latch.hasSignal signal then
      if latch.requested || !latch.hasHandles then .ready else .pending
    else .gone, latch)

/-- The latch after an action. -/
def after (latch : Shutdown) (action : Action) : Shutdown := (latch.step action).2

/-- Whether a signal is ready. -/
def isReady (latch : Shutdown) (signal : Nat) : Bool := (latch.step (.recv signal)).1 == .ready

/-- Whether a shutdown was requested, asked through a handle. -/
def isTriggered (latch : Shutdown) (handle : Nat) : Bool :=
  (latch.step (.isTriggered handle)).1 == .flag true

/-- The answers to a sequence of actions. -/
def run (latch : Shutdown) : List Action → List Answer
  | [] => []
  | action :: rest => (latch.step action).1 :: run (latch.step action).2 rest

end Shutdown
end ServiceBeacon
