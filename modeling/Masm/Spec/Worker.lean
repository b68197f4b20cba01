import Masm.Spec.Jobs

/-! The worker goroutine that `createDataFromJobStatus` spawns (`src/liveattrs/actions.go`),
as the trace of what it does after registering the status: the records it pushes on the
job's update channel, the sqlite installation and the cache-reset request. Its environment
is an input: the extraction's progress events, the outcomes of the installation and of the
request, and the clock reading taken for the `i`-th progress record. Then
`RestartLiveAttrsJob`, and the life of one job's record through its workers and restarts. -/

namespace Masm

/-- The liveattrs job type (`jobType`). -/
def jobType : String := "liveattrs"

/-- A progress event of the extraction (vert-tagextract's status update). -/
structure StatusUpdate where
  processedAtoms : GoInt := 0
  processedLines : GoInt := 0
  error : GoError := none
  deriving DecidableEq, Repr

/-- What the worker does that others can observe, in program order. -/
inductive WorkerEffect
  | push (r : LiveAttrsJobInfo)
  | installSqliteDatabase (corpus dbName : String)
  | postSoftReset
  deriving DecidableEq, Repr

/-- The record pushed for a progress event, read with the clock at `now`. -/
def progressRecord (status : LiveAttrsJobInfo) (now : JSONTime) (upd : StatusUpdate) :
    LiveAttrsJobInfo :=
  { id := status.id
    type := jobType
    corpusID := status.corpusID
    start := status.start
    update := now
    error := newJSONError upd.error
    processedAtoms := upd.processedAtoms
    processedLines := upd.processedLines
    numRestarts := status.numRestarts
    args := status.args }

/-- The record pushed after the installation or the cache reset. The two literals of the
source differ only in `err`; neither sets `Update`. -/
def postRecord (status : LiveAttrsJobInfo) (err : GoError) : LiveAttrsJobInfo :=
  { id := status.id
    type := jobType
    corpusID := status.corpusID
    start := status.start
    error := newJSONError err
    numRestarts := status.numRestarts
    args := status.args }

/-- The loop `for upd := range procStatus`: a record per event, the `i`-th read with the
clock at `now i`; the `Bool` is `true` when the loop returned at an event with an error. -/
def progressLoop (status : LiveAttrsJobInfo) (now : Nat → JSONTime) :
    Nat → List StatusUpdate → List WorkerEffect × Bool
  | _, [] => ([], false)
  | i, upd :: rest =>
    let e := WorkerEffect.push (progressRecord status (now i) upd)
    if upd.error.isSome then ([e], true)
    else
      let r := progressLoop status now (i + 1) rest
      (e :: r.1, r.2)

/-- What follows a progress stream that closed without an error: for a sqlite job, the
installation and then, if it succeeded, the cache-reset request. A response status below
400 and a transport error are pushed; a status of 400 or more is not. -/
def postProcessing (status : LiveAttrsJobInfo) (install : GoError)
    (post : Except String GoInt) : List WorkerEffect :=
  if status.args.vteConf.db.type = "sqlite" then
    .installSqliteDatabase status.args.vteConf.corpus status.args.vteConf.db.name ::
      match install with
      | some err => [.push (postRecord status (some err))]
      | none =>
        .postSoftReset ::
          match post with
          | .error err => [.push (postRecord status (some err))]
          | .ok statusCode => if statusCode.slt 400 then [.push (postRecord status none)] else []
  else []

/-- The worker of `createDataFromJobStatus` after `AddJobInfo(status)`. -/
def createDataFromJobStatusWorker (status : LiveAttrsJobInfo) (upds : List StatusUpdate)
    (install : GoError) (post : Except String GoInt) (now : Nat → JSONTime) :
    List WorkerEffect :=
  let r := progressLoop status now 0 upds
  if r.2 then r.1 else r.1 ++ postProcessing status install post

/-- The records among a worker's effects, in the order they are pushed. -/
def pushedRecords : List WorkerEffect → List LiveAttrsJobInfo :=
  List.filterMap fun
    | .push r => some r
    | _ => none

/-- The record the registry holds for the job once the worker is done: the last one
pushed, or the registered status when none was. -/
def lastRecord (status : LiveAttrsJobInfo) (effs : List WorkerEffect) : LiveAttrsJobInfo :=
  (status :: pushedRecords effs).getLast (List.cons_ne_nil _ _)

/-- `RestartLiveAttrsJob`: the record after the call (the source mutates `*jinfo`) and the
error it returns. `t₁` and `t₂` are the two clock readings, and `createData` the error of
`createDataFromJobStatus` on the updated record. -/
def restartLiveAttrsJob (maxNumRestarts : GoInt) (t₁ t₂ : JSONTime)
    (createData : LiveAttrsJobInfo → GoError) (jinfo : LiveAttrsJobInfo) :
    LiveAttrsJobInfo × GoError :=
  if maxNumRestarts.sle jinfo.numRestarts then
    (jinfo, some ("cannot restart job " ++ jinfo.id ++ " - max. num. of restarts reached"))
  else
    let r := { jinfo with start := t₁, numRestarts := jinfo.numRestarts + 1, update := t₂ }
    (r, createData r)

/-- What can happen next to one liveattrs job's record at the registry: its current worker
pushes a progress record or a post-processing record, its update channel closes, or, at a
startup, `main` restarts the persisted record (`createData` is the error of
`createDataFromJobStatus` there). -/
inductive LifeAction
  | progress (now : JSONTime) (upd : StatusUpdate)
  | post (err : GoError)
  | finish (now : JSONTime)
  | restart (t₁ t₂ : JSONTime) (createData : GoError)

/-- One job at the registry: `status` is the record its current worker was started with,
`stored` the record the registry holds. -/
structure JobLife where
  status : LiveAttrsJobInfo
  stored : LiveAttrsJobInfo
  deriving DecidableEq, Repr

/-- One step of a job's life. `main` skips a finished job; a restart that fails (refused,
or the extraction does not start) ends the life, as `main` then clears the job. -/
def lifeStep (maxNumRestarts : GoInt) (l : JobLife) : LifeAction → Option JobLife
  | .progress now upd => some { l with stored := progressRecord l.status now upd }
  | .post err => some { l with stored := postRecord l.status err }
  | .finish now => some { l with stored := l.stored.setFinished now }
  | .restart t₁ t₂ err =>
    if l.stored.finished then some l
    else
      match restartLiveAttrsJob maxNumRestarts t₁ t₂ (fun _ => err) l.stored with
      | (r, none) => some ⟨r, r⟩
      | (_, some _) => none

/-- A job's life from `l` under a sequence of steps; `none` once the job is gone. -/
def life (maxNumRestarts : GoInt) : JobLife → List LifeAction → Option JobLife
  | l, [] => some l
  | l, a :: as => (lifeStep maxNumRestarts l a).bind (life maxNumRestarts · as)

end Masm
