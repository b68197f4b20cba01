import Masm.Spec.Create

/-! The index-update job of liveattrs (`UpdateIndexes` and `updateIndexesFromJobStatus` in
`src/liveattrs/actions.go`, the record `IdxUpdateJobInfo` of `src/liveattrs/idxjob.go`), and
the job system in which it runs beside the extraction jobs of `Create`. The handler checks
its argument, draws a job id and spawns a worker; the worker registers the status, loads
the corpus data, updates the indexes, pushes one final record and closes its channel.
`strconv.Atoi`, `uuid.NewUUID`, `cncDB.LoadInfo`, `db.UpdateIndexes` and the clock are the
environment. The job's `Args` and `Result`, which no registry operation reads, stay in the
reply and the worker. -/

namespace Masm

/-- What `UpdateIndexes` meets outside itself: `strconv.Atoi` of the argument, the outcome of
`uuid.NewUUID`, and the two clock readings of the new status. -/
structure UpdateIndexesEnv where
  atoi : String → Except String GoInt
  jobID : Except String String
  start : JSONTime
  update : JSONTime

/-- The response of `UpdateIndexes`: an error with its HTTP status, or the new job's status
with its `Args.MaxColumns`, sent with status 201. -/
inductive UpdateIndexesReply
  | error (code : Nat) (msg : String)
  | created (status : IdxUpdateJobInfo) (maxColumns : GoInt)
  deriving DecidableEq, Repr

/-- `UpdateIndexes` up to the spawn of the worker. -/
def updateIndexes (corpusID maxColumnsArg : String) (env : UpdateIndexesEnv) :
    UpdateIndexesReply :=
  if maxColumnsArg = "" then .error 400 "missing maxColumns argument"
  else
    match env.atoi maxColumnsArg with
    | .error err => .error 422 err
    | .ok maxColumns =>
      match env.jobID with
      | .error _ => .error 401 ("Failed to start 'update indexes' job for '" ++ corpusID ++ "'")
      | .ok jobID =>
        .created { id := jobID
                   type := "liveattrs-idx-update"
                   corpusID
                   start := env.start
                   update := env.update
                   finished := false } maxColumns

/-- The record the worker of `updateIndexesFromJobStatus` pushes: the status with the error
of `cncDB.LoadInfo`, overwritten by the error `db.UpdateIndexes` reports, then the clock
reading `now` and `Finished`. `db.UpdateIndexes` is called even when `LoadInfo` failed. -/
def idxFinalStatus (status : IdxUpdateJobInfo) (loadInfoError ansError : GoError)
    (now : JSONTime) : IdxUpdateJobInfo :=
  let finalStatus :=
    match loadInfoError with
    | some err => { status with error := newJSONError (some err) }
    | none => status
  let finalStatus :=
    match ansError with
    | some err => { finalStatus with error := newJSONError (some err) }
    | none => finalStatus
  { finalStatus with update := now, finished := true }

/-- The simplified record of the job list (`jobs.JobInfoCompact`). -/
structure JobInfoCompact where
  id : String
  corpusID : String
  type : String
  start : JSONTime
  update : JSONTime
  finished : Bool
  ok : Bool
  deriving DecidableEq, Repr

/-- `IdxUpdateJobInfo.CompactVersion`: the record for the job list, not `OK` once an error
is set. -/
def IdxUpdateJobInfo.compactVersion (j : IdxUpdateJobInfo) : JobInfoCompact :=
  let item : JobInfoCompact :=
    { id := j.id, type := j.type, corpusID := j.corpusID, start := j.start,
      update := j.update, finished := j.finished, ok := true }
  if !j.error.isEmpty then { item with ok := false } else item

/-- The worker of `updateIndexesFromJobStatus`: its status, what its environment answers
(the errors of `LoadInfo` and `UpdateIndexes`, the clock), and how far it is. -/
structure IdxUpdateWorker where
  status : IdxUpdateJobInfo
  loadInfoError : GoError
  ansError : GoError
  now : JSONTime
  registered : Bool := false
  pushed : Bool := false
  exited : Bool := false
  deriving DecidableEq, Repr

/-- The record the worker pushes. -/
def IdxUpdateWorker.finalStatus (w : IdxUpdateWorker) : IdxUpdateJobInfo :=
  idxFinalStatus w.status w.loadInfoError w.ansError w.now

/-- The job system: the registry, the `Create` requests and extraction workers, and the
workers of the index-update jobs. -/
structure JobsSys where
  jobs : GoMap GeneralJobInfo
  requests : GoMap CreateRequest
  workers : GoMap ExtractionWorker
  idxWorkers : GoMap IdxUpdateWorker

/-- The part of the system that `createStep` runs on. -/
def JobsSys.toCreateSys (s : JobsSys) : CreateSys := ⟨s.jobs, s.requests, s.workers⟩

/-- The system after a step of that part. -/
def JobsSys.withCreateSys (s : JobsSys) (c : CreateSys) : JobsSys :=
  { s with jobs := c.jobs, requests := c.requests, workers := c.workers }

@[simp] theorem JobsSys.toCreateSys_withCreateSys (s : JobsSys) (c : CreateSys) :
    (s.withCreateSys c).toCreateSys = c := rfl

@[simp] theorem JobsSys.withCreateSys_idxWorkers (s : JobsSys) (c : CreateSys) :
    (s.withCreateSys c).idxWorkers = s.idxWorkers := rfl

@[simp] theorem JobsSys.withCreateSys_jobs (s : JobsSys) (c : CreateSys) :
    (s.withCreateSys c).jobs = c.jobs := rfl

@[simp] theorem JobsSys.withCreateSys_requests (s : JobsSys) (c : CreateSys) :
    (s.withCreateSys c).requests = c.requests := rfl

@[simp] theorem JobsSys.withCreateSys_workers (s : JobsSys) (c : CreateSys) :
    (s.withCreateSys c).workers = c.workers := rfl

/-- The job id a `Create` step draws. -/
def CreateAction.drawnID : CreateAction → Option String
  | .request id _ _ _ => some id
  | _ => none

/-- One step of one party: a step of the liveattrs `Create` system, an `UpdateIndexes`
request with the environment of the worker it spawns, or a step of such a worker. Job ids
are fresh across both kinds of jobs. -/
inductive JobsAction
  | liveAttrs (a : CreateAction)
  | updateIndexes (corpusID maxColumnsArg : String) (env : UpdateIndexesEnv)
      (loadInfoError ansError : GoError) (now : JSONTime)
  | idxRegister (id : String)
  | idxPush (id : String)
  | idxExit (id : String) (now : JSONTime)

/-- The step of a party, or `none` when it cannot take that step. An `UpdateIndexes` request
that fails changes nothing. -/
def jobsStep (s : JobsSys) : JobsAction → Option JobsSys
  | .liveAttrs a =>
    if a.drawnID.any (· ∈ s.idxWorkers) then none
    else (createStep s.toCreateSys a).map s.withCreateSys
  | .updateIndexes corpusID maxColumnsArg env loadInfoError ansError now =>
    match updateIndexes corpusID maxColumnsArg env with
    | .error _ _ => some s
    | .created status _ =>
      if status.id ∈ s.requests ∨ status.id ∈ s.jobs ∨ status.id ∈ s.idxWorkers then none
      else some { s with idxWorkers :=
        s.idxWorkers.insert status.id { status, loadInfoError, ansError, now } }
  | .idxRegister id =>
    match s.idxWorkers.lookup id with
    | some w =>
      if w.registered then none
      else some { s with jobs := storeJob s.jobs (.idxUpdate w.status),
                         idxWorkers := s.idxWorkers.insert id { w with registered := true } }
    | none => none
  | .idxPush id =>
    match s.idxWorkers.lookup id with
    | some w =>
      if w.registered ∧ w.pushed = false then
        some { s with jobs := storeJob s.jobs (.idxUpdate w.finalStatus),
                      idxWorkers := s.idxWorkers.insert id { w with pushed := true } }
      else none
    | none => none
  | .idxExit id now =>
    match s.idxWorkers.lookup id with
    | some w =>
      if w.pushed ∧ w.exited = false then
        some { s with jobs := finishJob s.jobs id now,
                      idxWorkers := s.idxWorkers.insert id { w with exited := true } }
      else none
    | none => none

/-- The steps of a schedule, one after the other. -/
def jobsRun (s : JobsSys) : List JobsAction → Option JobsSys
  | [] => some s
  | a :: as => (jobsStep s a).bind (jobsRun · as)

/-- The process serves requests from the registry it restored, with nothing in flight. -/
def JobsSys.init (jobs : GoMap GeneralJobInfo) : JobsSys := ⟨jobs, ∅, ∅, ∅⟩

/-- The states some schedule reaches from the restored registry `jobs₀`. -/
def JobsReachable (jobs₀ : GoMap GeneralJobInfo) (s : JobsSys) : Prop :=
  ∃ acts, jobsRun (.init jobs₀) acts = some s

end Masm
