import Masm.Spec.Restore
import Masm.Proofs.Restart

/-! The startup loop over the detached jobs. Whatever the restarts answer, it clears exactly
the unfinished jobs, in order; it starts the extraction of exactly the unfinished liveattrs
jobs below the restart limit, with their count raised by one and never past the limit; it
restarts exactly the unfinished corpus jobs; and an unfinished index-update job is cleared
without being run again. -/

namespace Masm

namespace RestoreEffect

/-- The job a clear names. -/
@[simp] def cleared : RestoreEffect → Option String
  | .clearDetachedJob id => some id
  | _ => none

/-- The record an extraction is started with. -/
@[simp] def started : RestoreEffect → Option LiveAttrsJobInfo
  | .createData r => some r
  | _ => none

/-- The corpus job a restart names. -/
@[simp] def restarted : RestoreEffect → Option String
  | .restartJob id => some id
  | _ => none

end RestoreEffect

/-- The record the loop restarts a detached job's extraction with, if it does. -/
def restartedRecord (env : RestoreEnv) : GeneralJobInfo → Option LiveAttrsJobInfo
  | .liveAttrs j =>
    if j.finished = false ∧ env.maxNumRestarts.sle j.numRestarts = false then
      some { j with start := (env.clock j.id).1, numRestarts := j.numRestarts + 1,
                    update := (env.clock j.id).2 }
    else none
  | _ => none

/-- The corpus job the loop restarts, if it does. -/
def restartedCorpusJob : GeneralJobInfo → Option String
  | .corpus j => if j.finish != 0 then none else some j.id
  | _ => none

theorem filterMap_restoreFailure {β : Type} (f : RestoreEffect → Option β)
    (hf : ∀ msg err, f (.logError msg err) = none) (id : String) (e : GoError) :
    (restoreFailure id e).filterMap f = [] := by
  cases e <;> simp [restoreFailure, hf]

theorem restoreJob_effects (env : RestoreEnv) (dj : GeneralJobInfo) :
    (restoreJob env dj).filterMap RestoreEffect.cleared =
        (if dj.isFinished then [] else [dj.getID]) ∧
      (restoreJob env dj).filterMap RestoreEffect.started = (restartedRecord env dj).toList ∧
      (restoreJob env dj).filterMap RestoreEffect.restarted = (restartedCorpusJob dj).toList := by
  have hc := filterMap_restoreFailure RestoreEffect.cleared fun _ _ => rfl
  have hs := filterMap_restoreFailure RestoreEffect.started fun _ _ => rfl
  have hr := filterMap_restoreFailure RestoreEffect.restarted fun _ _ => rfl
  cases dj with
  | liveAttrs j =>
    cases hfin : j.finished <;> cases hmax : env.maxNumRestarts.sle j.numRestarts <;>
      simp [restoreJob, restartedRecord, restartedCorpusJob, restartLiveAttrsJob,
        GeneralJobInfo.isFinished, GeneralJobInfo.getID, hfin, hmax, hc, hs, hr]
  | idxUpdate j =>
    cases hfin : j.finished <;>
      simp [restoreJob, restartedRecord, restartedCorpusJob, GeneralJobInfo.isFinished,
        GeneralJobInfo.getID, hfin, hc, hs, hr]
  | corpus j =>
    by_cases hfin : j.finish = 0 <;>
      simp [restoreJob, restartedRecord, restartedCorpusJob, GeneralJobInfo.isFinished,
        GeneralJobInfo.getID, hfin, hc, hs, hr]

theorem filterMap_flatMap {α β γ : Type} (l : List α) (f : α → List β) (g : β → Option γ) :
    (l.flatMap f).filterMap g = l.flatMap fun a => (f a).filterMap g := by
  induction l with
  | nil => rfl
  | cons a l ih => simp [List.flatMap_cons, List.filterMap_append, ih]

theorem restartedRecord_numRestarts {env : RestoreEnv} {dj : GeneralJobInfo}
    {r : LiveAttrsJobInfo} (h : restartedRecord env dj = some r) :
    ∃ j, dj = .liveAttrs j ∧ r.numRestarts.toInt = j.numRestarts.toInt + 1 ∧
      r.numRestarts.sle env.maxNumRestarts = true := by
  cases dj with
  | liveAttrs j =>
    simp only [restartedRecord] at h
    split_ifs at h with hc
    cases h
    have hlt : j.numRestarts.slt env.maxNumRestarts = true := by
      rw [BitVec.sle_eq_not_slt] at hc
      simpa using hc.2
    exact ⟨j, rfl, add_one_of_slt hlt⟩
  | idxUpdate _ => cases h
  | corpus _ => cases h

theorem restoreDetachedJobs_selected (env : RestoreEnv) (detached : List GeneralJobInfo) :
    (restoreDetachedJobs env detached).filterMap RestoreEffect.cleared =
        (detached.filter fun dj => !dj.isFinished).map GeneralJobInfo.getID ∧
      (restoreDetachedJobs env detached).filterMap RestoreEffect.started =
        detached.filterMap (restartedRecord env) ∧
      (restoreDetachedJobs env detached).filterMap RestoreEffect.restarted =
        detached.filterMap restartedCorpusJob := by
  simp only [restoreDetachedJobs, filterMap_flatMap]
  induction detached with
  | nil => exact ⟨rfl, rfl, rfl⟩
  | cons dj rest ih =>
    obtain ⟨h1, h2, h3⟩ := restoreJob_effects env dj
    obtain ⟨ih1, ih2, ih3⟩ := ih
    refine ⟨?_, ?_, ?_⟩
    · rw [List.flatMap_cons, h1, ih1, List.filter_cons]
      cases dj.isFinished <;> rfl
    · rw [List.flatMap_cons, h2, ih2, List.filterMap_cons]
      cases restartedRecord env dj <;> rfl
    · rw [List.flatMap_cons, h3, ih3, List.filterMap_cons]
      cases restartedCorpusJob dj <;> rfl

/-- At startup, whatever the restarts answer, the loop over the detached jobs clears exactly
the unfinished ones, in order; starts the extraction of exactly the unfinished liveattrs
jobs whose restart count is below the limit, each with the count raised by one and the
clock's readings, so that no extraction is started past the limit; restarts exactly the
unfinished corpus jobs; and so never runs an unfinished index-update job again. -/
theorem restoreDetachedJobs_effects (env : RestoreEnv) (detached : List GeneralJobInfo) :
    (restoreDetachedJobs env detached).filterMap RestoreEffect.cleared =
        (detached.filter fun dj => !dj.isFinished).map GeneralJobInfo.getID ∧
      (restoreDetachedJobs env detached).filterMap RestoreEffect.started =
        detached.filterMap (restartedRecord env) ∧
      (restoreDetachedJobs env detached).filterMap RestoreEffect.restarted =
        detached.filterMap restartedCorpusJob ∧
      ∀ r ∈ (restoreDetachedJobs env detached).filterMap RestoreEffect.started,
        r.numRestarts.sle env.maxNumRestarts = true := by
  obtain ⟨h1, h2, h3⟩ := restoreDetachedJobs_selected env detached
  refine ⟨h1, h2, h3, fun r hr => ?_⟩
  rw [h2, List.mem_filterMap] at hr
  obtain ⟨dj, -, hdj⟩ := hr
  obtain ⟨_, -, -, hle⟩ := restartedRecord_numRestarts hdj
  exact hle

end Masm
