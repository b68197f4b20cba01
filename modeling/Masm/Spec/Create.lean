import Masm.Spec.Worker

/-! Concurrent `Create` requests for liveattrs jobs and the workers they spawn
(`Actions.Create`, `createDataFromJobStatus` in `src/liveattrs/actions.go`), as a step
function over the registry, the requests in flight and the workers. A request enters once
its job id is drawn (`uuid.NewUUID`, fresh); it runs the conflict check, then
`createDataFromJobStatus`, which starts the extraction and spawns the worker, or fails to
start it. The check is `LastUnfinishedJobOfType` of the registry, whose body is not under
src/; it reads the registered records as `FindUnfinishedJobOfType` does. A worker
registers the status with `AddJobInfo`, pushes the records of `createDataFromJobStatusWorker`
one by one, and closes its update channel. Requests and workers are keyed by job id. -/

namespace Masm

/-- Where a `Create` request is once its job id is drawn. -/
inductive CreatePc
  | check
  | start
  | conflict
  | failed
  | created
  deriving DecidableEq, Repr

/-- A `Create` request: the status it builds and where it is. -/
structure CreateRequest where
  status : LiveAttrsJobInfo
  pc : CreatePc
  deriving DecidableEq, Repr

/-- The worker of `createDataFromJobStatus`: whether it registered its status, the records
it pushed and those still to push, and whether it closed its update channel. -/
structure ExtractionWorker where
  status : LiveAttrsJobInfo
  registered : Bool := false
  pushed : List LiveAttrsJobInfo := []
  pending : List LiveAttrsJobInfo
  exited : Bool := false
  deriving DecidableEq, Repr

/-- The registry, the requests and the workers. -/
structure CreateSys where
  jobs : GoMap GeneralJobInfo
  requests : GoMap CreateRequest
  workers : GoMap ExtractionWorker

/-- One step of one party. A worker's records come from its environment: the extraction's
events, the outcomes of the installation and the reset request, and the clock. -/
inductive CreateAction
  | request (id corpusID : String) (start : JSONTime) (args : JobInfoArgs)
  | check (id : String)
  | startFailed (id : String)
  | started (id : String) (upds : List StatusUpdate) (install : GoError)
      (post : Except String GoInt) (now : Nat → JSONTime)
  | register (id : String)
  | push (id : String)
  | exit (id : String) (now : JSONTime)

/-- The step of a party, or `none` when it cannot take that step. -/
def createStep (s : CreateSys) : CreateAction → Option CreateSys
  | .request id corpusID start args =>
    if id ∈ s.requests ∨ id ∈ s.jobs then none
    else some { s with requests := s.requests.insert id ⟨{ id, corpusID, start, args }, .check⟩ }
  | .check id =>
    match s.requests.lookup id with
    | some ⟨st, .check⟩ =>
      let pc := if (findUnfinishedJobOfType s.jobs st.corpusID jobType).isSome then .conflict
        else .start
      some { s with requests := s.requests.insert id ⟨st, pc⟩ }
    | _ => none
  | .startFailed id =>
    match s.requests.lookup id with
    | some ⟨st, .start⟩ => some { s with requests := s.requests.insert id ⟨st, .failed⟩ }
    | _ => none
  | .started id upds install post now =>
    match s.requests.lookup id with
    | some ⟨st, .start⟩ =>
      let w : ExtractionWorker :=
        { status := st, pending := pushedRecords (createDataFromJobStatusWorker st upds install post now) }
      some { s with requests := s.requests.insert id ⟨st, .created⟩, workers := s.workers.insert id w }
    | _ => none
  | .register id =>
    match s.workers.lookup id with
    | some w =>
      if w.registered then none
      else some { s with jobs := storeJob s.jobs (.liveAttrs w.status),
                         workers := s.workers.insert id { w with registered := true } }
    | none => none
  | .push id =>
    match s.workers.lookup id with
    | some w =>
      match w.registered, w.pending with
      | true, r :: rest =>
        some { s with jobs := storeJob s.jobs (.liveAttrs r),
                      workers := s.workers.insert id { w with pushed := w.pushed ++ [r], pending := rest } }
      | _, _ => none
    | none => none
  | .exit id now =>
    match s.workers.lookup id with
    | some w =>
      if w.registered ∧ w.pending = [] ∧ w.exited = false then
        some { s with jobs := finishJob s.jobs id now, workers := s.workers.insert id { w with exited := true } }
      else none
    | none => none

/-- The steps of a schedule, one after the other. -/
def createRun (s : CreateSys) : List CreateAction → Option CreateSys
  | [] => some s
  | a :: as => (createStep s a).bind (createRun · as)

/-- The process serves requests from the registry it restored, with none in flight. -/
def CreateSys.init (jobs : GoMap GeneralJobInfo) : CreateSys := ⟨jobs, ∅, ∅⟩

/-- The states some schedule reaches from the restored registry `jobs₀`. -/
def CreateReachable (jobs₀ : GoMap GeneralJobInfo) (s : CreateSys) : Prop :=
  ∃ acts, createRun (.init jobs₀) acts = some s

end Masm
