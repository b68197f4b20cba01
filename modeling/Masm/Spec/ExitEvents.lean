import Masm.Spec.Jobs

/-! The exit channels of extractions (`vteExitEvents` in `src/liveattrs/actions.go`).
`createDataFromJobStatus`, called by `Create` and by `RestartLiveAttrsJob`, makes a channel
for the job before it starts the extraction; the job's worker, once its progress stream
and post-processing are done, closes the channel found under its id and deletes the entry.
Two goroutines send on these channels: the stop-request listener `runStopJobListener` and
the exit broadcaster that `NewActions` spawns. Each looks a channel up in the map and then
sends on it; the send, unbuffered, completes when the running extraction receives. Channels
are numbered in the order `make` creates them. -/

namespace Masm

/-- Where the worker of a job is in its deferred clean-up. -/
inductive ExitWorkerPc
  | running
  | closing
  | deleting
  deriving DecidableEq, Repr

/-- A goroutine that sends interrupts: idle, or sending on the channel it looked up. -/
inductive SenderPc
  | idle
  | sending (ch : Nat)
  deriving DecidableEq, Repr

/-- The two goroutines that send on exit channels. -/
inductive Sender
  | stopListener
  | exitBroadcaster
  deriving DecidableEq, Repr

structure ExitSys where
  vteExitEvents : GoMap Nat := ∅
  made : Nat := 0
  closed : List Nat := []
  workers : GoMap ExitWorkerPc := ∅
  stopListener : SenderPc := .idle
  exitBroadcaster : SenderPc := .idle

def ExitSys.sender (s : ExitSys) : Sender → SenderPc
  | .stopListener => s.stopListener
  | .exitBroadcaster => s.exitBroadcaster

def ExitSys.setSender (s : ExitSys) (pc : SenderPc) : Sender → ExitSys
  | .stopListener => { s with stopListener := pc }
  | .exitBroadcaster => { s with exitBroadcaster := pc }

/-- One step of one party: `createData` is a call of `createDataFromJobStatus` whose
extraction starts or fails to start; `finish`, `closeExit` and `deleteExit` are the end
of the job's worker; `lookup` and `deliver` the two halves of a sender's `ch <- v`. -/
inductive ExitAction
  | createData (id : String) (started : Bool)
  | finish (id : String)
  | closeExit (id : String)
  | deleteExit (id : String)
  | lookup (who : Sender) (id : String)
  | deliver (who : Sender)

/-- Whether the extraction of some running worker reads the channel `ch`. -/
def ExitSys.reading (s : ExitSys) (ch : Nat) : Bool :=
  s.vteExitEvents.entries.any fun e => e.2 == ch && s.workers.lookup e.1 == some .running

/-- The step of a party, or `none` when it cannot take it. Job ids are fresh: `Create`
draws a new UUID, and the restarts at startup each reuse a distinct persisted id. -/
def exitStep (s : ExitSys) : ExitAction → Option ExitSys
  | .createData id started =>
    if id ∈ s.vteExitEvents ∨ id ∈ s.workers then none
    else some { s with vteExitEvents := s.vteExitEvents.insert id s.made, made := s.made + 1,
                       workers := if started then s.workers.insert id .running else s.workers }
  | .finish id =>
    if s.workers.lookup id = some .running then
      some { s with workers := s.workers.insert id .closing }
    else none
  | .closeExit id =>
    match s.workers.lookup id, s.vteExitEvents.lookup id with
    | some .closing, some ch =>
      some { s with closed := ch :: s.closed, workers := s.workers.insert id .deleting }
    | _, _ => none
  | .deleteExit id =>
    if s.workers.lookup id = some .deleting then
      some { s with vteExitEvents := s.vteExitEvents.erase id, workers := s.workers.erase id }
    else none
  | .lookup who id =>
    match s.sender who, s.vteExitEvents.lookup id with
    | .idle, some ch => some (s.setSender (.sending ch) who)
    | _, _ => none
  | .deliver who =>
    match s.sender who with
    | .sending ch => if ch ∉ s.closed ∧ s.reading ch then some (s.setSender .idle who) else none
    | .idle => none

def exitRun (s : ExitSys) : List ExitAction → Option ExitSys
  | [] => some s
  | a :: as => (exitStep s a).bind (exitRun · as)

/-- The states reachable from `NewActions`, which starts with an empty map. -/
def ExitReachable (s : ExitSys) : Prop := ∃ acts, exitRun {} acts = some s

end Masm
