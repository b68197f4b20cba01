import Masm.Spec.Jobs

/-! The shutdown of the process (`main` in `src/masm.go`; `Actions.OnExit`, `Actions.Query`
and the exit listener of `NewActions` in `src/liveattrs/actions.go`) as a step function.
The parties are the signal goroutine of `main`, `main` itself, the exit listener, and the
`Query` handlers past their cache miss, about to send on `usageData`. `exitEvent` is
unbuffered: its one send meets one receiver, `main` or the listener; once it is closed,
every receive returns at once with the zero value. Of the `OnExit` handlers only the one of
the liveattrs actions touches these channels, so the signal step closes `usageData`.
The exit channels are those registered when the signal arrives; their extractions are
running and receive what is sent. A send on a closed channel panics; the state records
that one happened. -/

namespace Masm

/-- Where the signal goroutine of `main` is: waiting on `syscallChan`, sending on
`exitEvent` after every `OnExit`, about to close `exitEvent`, or done. -/
inductive SignalPc
  | waiting
  | sending
  | sent
  | closed
  deriving DecidableEq, Repr

/-- Where `main` is: serving, blocked in its `select` on `exitEvent`; shutting the server
down, having received the signal (`gotSignal`) or the zero value of the closed channel;
returned. -/
inductive MainPc
  | serving
  | shuttingDown (gotSignal : Bool)
  | returned (gotSignal : Bool)
  deriving DecidableEq, Repr

/-- Whether `main` received the signal value. -/
def MainPc.gotSignal : MainPc → Bool
  | .serving => false
  | .shuttingDown g => g
  | .returned g => g

/-- Where the exit listener is: waiting on `exitEvent`, forwarding the value it received to
the exit channels still to serve, or past its loop once `exitEvent` is closed. -/
inductive ListenerPc
  | waiting
  | forwarding (pending : List Nat)
  | done
  deriving DecidableEq, Repr

structure ShutdownSys where
  signal : SignalPc := .waiting
  main : MainPc := .serving
  listener : ListenerPc := .waiting
  usageClosed : Bool := false
  /-- Queries past their cache miss that have not sent on `usageData` yet. -/
  inFlight : Nat := 0
  sendOnClosed : Bool := false
  vteExitEvents : List Nat
  interrupted : List Nat := []
  deriving DecidableEq, Repr

/-- One step of one party. -/
inductive ShutdownAction
  | signalArrives
  | signalCloses
  | mainReceives
  | shutdownDone
  | listenerReceives
  | listenerForwards
  | queryArrives
  | querySends
  deriving DecidableEq, Repr

/-- The step of a party, or `none` when it cannot take it. The server accepts queries until
`main` shuts it down, and `Shutdown` returns once no query is in flight. -/
def shutdownStep (s : ShutdownSys) : ShutdownAction → Option ShutdownSys
  | .signalArrives =>
    if s.signal = .waiting then some { s with signal := .sending, usageClosed := true } else none
  | .signalCloses => if s.signal = .sent then some { s with signal := .closed } else none
  | .mainReceives =>
    match s.main, s.signal with
    | .serving, .sending => some { s with main := .shuttingDown true, signal := .sent }
    | .serving, .closed => some { s with main := .shuttingDown false }
    | _, _ => none
  | .shutdownDone =>
    match s.main with
    | .shuttingDown g => if s.inFlight = 0 then some { s with main := .returned g } else none
    | _ => none
  | .listenerReceives =>
    match s.listener, s.signal with
    | .waiting, .sending => some { s with listener := .forwarding s.vteExitEvents, signal := .sent }
    | .waiting, .closed => some { s with listener := .done }
    | _, _ => none
  | .listenerForwards =>
    match s.listener with
    | .forwarding (ch :: rest) =>
      some { s with listener := .forwarding rest, interrupted := s.interrupted ++ [ch] }
    | .forwarding [] => some { s with listener := .waiting }
    | _ => none
  | .queryArrives =>
    if s.main = .serving then some { s with inFlight := s.inFlight + 1 } else none
  | .querySends =>
    if 0 < s.inFlight then
      some { s with inFlight := s.inFlight - 1, sendOnClosed := s.sendOnClosed || s.usageClosed }
    else none

def shutdownRun (s : ShutdownSys) : List ShutdownAction → Option ShutdownSys
  | [] => some s
  | a :: as => (shutdownStep s a).bind (shutdownRun · as)

/-- The states reachable from a serving process whose registered exit channels are `chans`. -/
def ShutdownReachable (chans : List Nat) (s : ShutdownSys) : Prop :=
  ∃ acts, shutdownRun { vteExitEvents := chans } acts = some s

end Masm
