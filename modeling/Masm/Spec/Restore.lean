import Masm.Spec.Worker

/-! The startup of `main` (`src/masm.go`): each job the registry kept from the last run
(`GetDetachedJobs`) that had not finished is restarted by its kind, then cleared from the
detached jobs (`ClearDetachedJob`), whether or not the restart succeeded; a failure is
logged. `RestartLiveAttrsJob` is `restartLiveAttrsJob`; `RestartIdxUpdateJob` does nothing
and returns `nil`. The corpus actions' `RestartJob`, `createDataFromJobStatus` and the clock
are the environment. -/

namespace Masm

/-- What the startup loop does that others see, in program order. -/
inductive RestoreEffect
  | createData (status : LiveAttrsJobInfo)
  | restartJob (id : String)
  | logError (msg : String) (err : String)
  | clearDetachedJob (id : String)
  deriving DecidableEq, Repr

/-- `RestartIdxUpdateJob`: nothing, and `nil`. -/
def restartIdxUpdateJob (_jinfo : IdxUpdateJobInfo) : GoError := none

/-- What the startup loop meets outside itself: the restart limit, the two clock readings of
`RestartLiveAttrsJob` for a job, the error of `createDataFromJobStatus` on a record and the
error of the corpus actions' `RestartJob`. -/
structure RestoreEnv where
  maxNumRestarts : GoInt
  clock : String → JSONTime × JSONTime
  createData : LiveAttrsJobInfo → GoError
  restartJob : CorpusJobInfo → GoError

/-- The log line of a failed restart, with the error attached. -/
def restoreFailure (id : String) : GoError → List RestoreEffect
  | some err => [.logError ("Failed to restart job " ++ id ++ ". The job will be removed.") err]
  | none => []

/-- One pass of the loop over the detached jobs. -/
def restoreJob (env : RestoreEnv) (dj : GeneralJobInfo) : List RestoreEffect :=
  if dj.isFinished then []
  else
    match dj with
    | .liveAttrs tdj =>
      let r := restartLiveAttrsJob env.maxNumRestarts (env.clock tdj.id).1 (env.clock tdj.id).2
        env.createData tdj
      (if env.maxNumRestarts.sle tdj.numRestarts then [] else [.createData r.1]) ++
        restoreFailure tdj.id r.2 ++ [.clearDetachedJob tdj.id]
    | .idxUpdate tdj => restoreFailure tdj.id (restartIdxUpdateJob tdj) ++ [.clearDetachedJob tdj.id]
    | .corpus tdj =>
      .restartJob tdj.id :: restoreFailure tdj.id (env.restartJob tdj) ++ [.clearDetachedJob tdj.id]

/-- The loop `for _, dj := range jobActions.GetDetachedJobs()`. -/
def restoreDetachedJobs (env : RestoreEnv) (detached : List GeneralJobInfo) : List RestoreEffect :=
  detached.flatMap (restoreJob env)

end Masm
