import Masm.Spec.Worker

/-! What the worker of `createDataFromJobStatus` leaves in the registry. For a status as
`Create` builds it, the job's last record carries an error exactly when an event carried
one, or when a sqlite job's installation failed or its cache-reset request failed in
transport. A reset endpoint that answers with an error status leaves no trace: the source
pushes a record only for `err != nil || resp.StatusCode < 400`. The records built after
the stream closes set no `Update`, so they fall before the job's `Start`. -/

namespace Masm

section LastRecord

variable (s : LiveAttrsJobInfo)

@[simp] theorem pushedRecords_nil : pushedRecords [] = [] := rfl

@[simp] theorem pushedRecords_push (r : LiveAttrsJobInfo) (l : List WorkerEffect) :
    pushedRecords (.push r :: l) = r :: pushedRecords l := rfl

@[simp] theorem pushedRecords_append (a b : List WorkerEffect) :
    pushedRecords (a ++ b) = pushedRecords a ++ pushedRecords b :=
  List.filterMap_append ..

theorem lastRecord_eq (effs : List WorkerEffect) :
    lastRecord s effs = (pushedRecords effs).getLast?.getD s := by
  rw [lastRecord, List.getLast_eq_getLastD, List.getLastD_eq_getLast?]

@[simp] theorem lastRecord_nil : lastRecord s [] = s := rfl

@[simp] theorem lastRecord_push (r : LiveAttrsJobInfo) (l : List WorkerEffect) :
    lastRecord s (.push r :: l) = lastRecord r l := by
  simp [lastRecord_eq, List.getLast?_cons]

@[simp] theorem lastRecord_install (c d : String) (l : List WorkerEffect) :
    lastRecord s (.installSqliteDatabase c d :: l) = lastRecord s l := by
  simp only [lastRecord_eq]; rfl

@[simp] theorem lastRecord_reset (l : List WorkerEffect) :
    lastRecord s (.postSoftReset :: l) = lastRecord s l := by
  simp only [lastRecord_eq]; rfl

theorem lastRecord_append (a b : List WorkerEffect) :
    lastRecord s (a ++ b) = lastRecord (lastRecord s a) b := by
  simp only [lastRecord_eq, pushedRecords_append, List.getLast?_append]
  cases (pushedRecords b).getLast? <;> rfl

end LastRecord

section Worker

variable (status : LiveAttrsJobInfo) (now : Nat → JSONTime)

@[simp] theorem pushedRecords_install (c d : String) (l : List WorkerEffect) :
    pushedRecords (.installSqliteDatabase c d :: l) = pushedRecords l := rfl

@[simp] theorem pushedRecords_reset (l : List WorkerEffect) :
    pushedRecords (.postSoftReset :: l) = pushedRecords l := rfl

theorem mem_pushedRecords_progressLoop (i : Nat) (upds : List StatusUpdate) {r : LiveAttrsJobInfo}
    (h : r ∈ pushedRecords (progressLoop status now i upds).1) :
    ∃ t u, r = progressRecord status t u := by
  induction upds generalizing i with
  | nil => simp [progressLoop] at h
  | cons u us ih =>
    by_cases hu : u.error.isSome
    · simp only [progressLoop, hu, ite_true, pushedRecords_push, pushedRecords_nil,
        List.mem_singleton] at h
      exact h ▸ ⟨_, _, rfl⟩
    · simp only [progressLoop, hu, Bool.false_eq_true, ite_false, pushedRecords_push,
        List.mem_cons] at h
      exact h.elim (fun h => h ▸ ⟨_, _, rfl⟩) (ih _)

theorem mem_pushedRecords_postProcessing (install : GoError) (post : Except String GoInt)
    {r : LiveAttrsJobInfo} (h : r ∈ pushedRecords (postProcessing status install post)) :
    ∃ e, r = postRecord status e := by
  unfold postProcessing at h
  split_ifs at h
  · cases install with
    | some err => simp at h; exact ⟨_, h⟩
    | none =>
      cases post with
      | error err => simp at h; exact ⟨_, h⟩
      | ok code => dsimp only at h; split at h <;> simp at h; exact ⟨_, h⟩
  · simp at h

theorem mem_pushedRecords_worker {upds : List StatusUpdate} {install : GoError}
    {post : Except String GoInt} {r : LiveAttrsJobInfo}
    (h : r ∈ pushedRecords (createDataFromJobStatusWorker status upds install post now)) :
    r.finished = false ∧ r.id = status.id ∧ r.type = jobType ∧ r.corpusID = status.corpusID ∧
      r.start = status.start ∧ r.numRestarts = status.numRestarts ∧ r.args = status.args := by
  have hr : (∃ t u, r = progressRecord status t u) ∨ ∃ e, r = postRecord status e := by
    simp only [createDataFromJobStatusWorker] at h
    split_ifs at h
    · exact .inl (mem_pushedRecords_progressLoop status now 0 upds h)
    · rw [pushedRecords_append, List.mem_append] at h
      exact h.imp (mem_pushedRecords_progressLoop status now 0 upds)
        (mem_pushedRecords_postProcessing status install post)
  rcases hr with ⟨t, u, rfl⟩ | ⟨e, rfl⟩ <;> exact ⟨rfl, rfl, rfl, rfl, rfl, rfl, rfl⟩

theorem progressLoop_updates (i : Nat) (upds : List StatusUpdate) :
    (pushedRecords (progressLoop status now i upds).1).map LiveAttrsJobInfo.update =
      (List.range' i (pushedRecords (progressLoop status now i upds).1).length).map now := by
  induction upds generalizing i with
  | nil => rfl
  | cons u us ih =>
    by_cases hu : u.error.isSome
    · simp [progressLoop, hu, progressRecord]
    · simp [progressLoop, hu, progressRecord, ih, List.range'_succ]

/-- Under a clock that never moves backwards and starts at `Start` or later, the progress
records keep `Update ≥ Start` and come in order of `Update`: only the records built after the
stream, which set no `Update`, can break either. -/
theorem progressRecords_update_ordered (hmono : ∀ i j, i ≤ j → now i ≤ now j)
    (hstart : status.start ≤ now 0) (upds : List StatusUpdate) :
    ((pushedRecords (progressLoop status now 0 upds).1).map LiveAttrsJobInfo.update).Pairwise
        (· ≤ ·) ∧
      ∀ r ∈ pushedRecords (progressLoop status now 0 upds).1, r.start ≤ r.update := by
  rw [progressLoop_updates]
  refine ⟨(List.pairwise_le_range' 0 _).map now hmono, fun r hr => ?_⟩
  have hu := List.mem_map_of_mem LiveAttrsJobInfo.update hr
  rw [progressLoop_updates] at hu
  obtain ⟨j, -, hj⟩ := List.mem_map.1 hu
  obtain ⟨t, u, rfl⟩ := mem_pushedRecords_progressLoop status now 0 upds hr
  exact hstart.trans (hj ▸ hmono 0 j (Nat.zero_le j))

theorem progressLoop_snd (i : Nat) (upds : List StatusUpdate) :
    (progressLoop status now i upds).2 = upds.any (·.error.isSome) := by
  induction upds generalizing i with
  | nil => rfl
  | cons u us ih => by_cases h : u.error.isSome <;> simp [progressLoop, h, ih]

theorem progressLoop_lastRecord_error (s : LiveAttrsJobInfo) (i : Nat) (upds : List StatusUpdate) :
    (lastRecord s (progressLoop status now i upds).1).error.isEmpty =
      if upds.any (·.error.isSome) then false else upds ≠ [] || s.error.isEmpty := by
  induction upds generalizing s i with
  | nil => simp [progressLoop]
  | cons u us ih =>
    by_cases h : u.error.isSome
    · simp [progressLoop, h, progressRecord]
    · have hu : u.error = none := by simpa using h
      simp only [progressLoop, h, Bool.false_eq_true, ite_false, lastRecord_push, ih]
      simp [h, progressRecord, hu]

theorem postProcessing_lastRecord_error (s : LiveAttrsJobInfo) (hs : s.error.isEmpty = true)
    (install : GoError) (post : Except String GoInt) :
    (lastRecord s (postProcessing status install post)).error.isEmpty = false ↔
      status.args.vteConf.db.type = "sqlite" ∧ (install.isSome ∨ ∃ e, post = .error e) := by
  unfold postProcessing
  split_ifs with hdb
  · cases install with
    | some err => simp [postRecord, hdb]
    | none =>
      cases post with
      | error e => simp [postRecord, hdb]
      | ok code => dsimp only; split <;> simp [postRecord, hs, hdb]
  · simp [hs, hdb]

/-- The error the job ends with, for a status without an error (as `Create` builds it). -/
theorem lastRecord_error_nonempty_iff (hs : status.error.isEmpty = true)
    (upds : List StatusUpdate) (install : GoError) (post : Except String GoInt) :
    (lastRecord status (createDataFromJobStatusWorker status upds install post now)).error.isEmpty
        = false ↔
      (∃ u ∈ upds, u.error.isSome) ∨
        status.args.vteConf.db.type = "sqlite" ∧ (install.isSome ∨ ∃ e, post = .error e) := by
  have hloop := progressLoop_lastRecord_error status now status 0 upds
  simp only [createDataFromJobStatusWorker]
  rw [progressLoop_snd]
  by_cases herr : upds.any (·.error.isSome)
  · simp only [herr, ite_true] at hloop ⊢
    simp [hloop, List.any_eq_true.1 herr]
  · simp only [herr, Bool.false_eq_true, ite_false] at hloop ⊢
    rw [lastRecord_append, postProcessing_lastRecord_error _ _ (by simp [hloop, hs])]
    simp [List.any_eq_true.not.1 herr]

/-- The events the loop reads: all of them, or those up to and including the first that
carries an error. -/
def throughFirstError : List StatusUpdate → List StatusUpdate
  | [] => []
  | u :: us => if u.error.isSome then [u] else u :: throughFirstError us

theorem pushedRecords_progressLoop (i : Nat) (upds : List StatusUpdate) :
    pushedRecords (progressLoop status now i upds).1 =
      (throughFirstError upds).mapIdx fun j u => progressRecord status (now (i + j)) u := by
  induction upds generalizing i with
  | nil => rfl
  | cons u us ih =>
    by_cases hu : u.error.isSome
    · simp [progressLoop, throughFirstError, hu]
    · simp [progressLoop, throughFirstError, hu, ih, Nat.add_assoc, Nat.add_comm 1]

theorem progressLoop_records_forall₂ (i : Nat) (upds : List StatusUpdate) :
    List.Forall₂ (fun r u => r.processedAtoms = u.processedAtoms ∧
        r.processedLines = u.processedLines ∧ r.error = newJSONError u.error)
      (pushedRecords (progressLoop status now i upds).1) (throughFirstError upds) := by
  induction upds generalizing i with
  | nil => exact .nil
  | cons u us ih =>
    by_cases hu : u.error.isSome
    · simp only [progressLoop, throughFirstError, hu, ite_true, pushedRecords_push,
        pushedRecords_nil]
      exact .cons ⟨rfl, rfl, rfl⟩ .nil
    · simp only [progressLoop, throughFirstError, hu, Bool.false_eq_true, ite_false,
        pushedRecords_push]
      exact .cons ⟨rfl, rfl, rfl⟩ (ih _)

theorem mem_progressLoop_push (i : Nat) (upds : List StatusUpdate) {e : WorkerEffect}
    (he : e ∈ (progressLoop status now i upds).1) : ∃ r, e = .push r := by
  induction upds generalizing i with
  | nil => simp [progressLoop] at he
  | cons u us ih =>
    by_cases hu : u.error.isSome
    · simp only [progressLoop, hu, ite_true, List.mem_singleton] at he
      exact ⟨_, he⟩
    · simp only [progressLoop, hu, Bool.false_eq_true, ite_false, List.mem_cons] at he
      exact he.elim (fun he => ⟨_, he⟩) (ih _)

theorem postProcessing_effects (install : GoError) (post : Except String GoInt) :
    ((∃ c d, WorkerEffect.installSqliteDatabase c d ∈ postProcessing status install post) ↔
      status.args.vteConf.db.type = "sqlite") ∧
    (WorkerEffect.postSoftReset ∈ postProcessing status install post ↔
      status.args.vteConf.db.type = "sqlite" ∧ install = none) ∧
    (pushedRecords (postProcessing status install post)).length ≤ 1 ∧
    (pushedRecords (postProcessing status install post) ≠ [] →
      status.args.vteConf.db.type = "sqlite") := by
  unfold postProcessing
  split_ifs with hdb
  · cases install with
    | some err => simp [hdb]
    | none =>
      cases post with
      | error err => simp [hdb]
      | ok code => dsimp only; split <;> simp [hdb]
  · simp [hdb]

end Worker

/-- A sqlite job whose progress stream ends cleanly, whose installation succeeds and whose
cache reset is answered with status 500: the reset is requested, and the job's last record
carries no error. -/
theorem reset_error_status_not_recorded :
    let status : LiveAttrsJobInfo :=
      { id := "j", corpusID := "c", start := 5,
        args := { vteConf := { corpus := "c", db := { type := "sqlite", name := "c" } } } }
    let effs := createDataFromJobStatusWorker status [{}] none (.ok 500) fun i => 5 + i
    WorkerEffect.postSoftReset ∈ effs ∧ (lastRecord status effs).error.isEmpty = true := by
  intro status effs
  refine ⟨by decide, eq_true_of_ne_false fun hf => ?_⟩
  simpa using (lastRecord_error_nonempty_iff status (fun i => 5 + i) rfl [{}] none (.ok 500)).1 hf

/-- A sqlite job whose installation fails, under a clock that never moves backwards: its
progress record keeps `Update ≥ Start`, but the record pushed for the failure has `Update`
at the zero time, before the job's `Start`. -/
theorem install_failure_record_update_before_start :
    let status : LiveAttrsJobInfo :=
      { id := "j", corpusID := "c", start := 5,
        args := { vteConf := { corpus := "c", db := { type := "sqlite", name := "c" } } } }
    let now : Nat → JSONTime := fun i => 5 + i
    (∀ i j, i ≤ j → now i ≤ now j) ∧ status.start ≤ now 0 ∧
      (((pushedRecords (progressLoop status now 0 [{}]).1).map LiveAttrsJobInfo.update).Pairwise
          (· ≤ ·) ∧
        ∀ r ∈ pushedRecords (progressLoop status now 0 [{}]).1, r.start ≤ r.update) ∧
      ∃ r ∈ pushedRecords (createDataFromJobStatusWorker status [{}] (some "disk full") (.ok 200) now),
        r.update < r.start := by
  intro status now
  have hmono : ∀ i j, i ≤ j → now i ≤ now j := fun i j h => by show (5 : Int) + i ≤ 5 + j; omega
  have hstart : status.start ≤ now 0 := Int.le_refl _
  exact ⟨hmono, hstart, progressRecords_update_ordered status now hmono hstart [{}], by decide⟩

/-- For every status and every event stream, the worker pushes one record per event up to
and including the first with an error, in order, stamped by successive clock readings and
carrying that event's counts and error; then, only for a sqlite job whose events carried no
error, at most one record of the post-processing. Every record has the status's id, corpus,
`Start`, `NumRestarts` and `Args`, and the type `liveattrs`. The installation runs iff no
event carried an error and the job is a sqlite job, and the reset request iff moreover the
installation succeeded. -/
theorem createDataFromJobStatusWorker_effects (status : LiveAttrsJobInfo)
    (upds : List StatusUpdate) (install : GoError) (post : Except String GoInt)
    (now : Nat → JSONTime) :
    (∃ extra, pushedRecords (createDataFromJobStatusWorker status upds install post now) =
        (throughFirstError upds).mapIdx (fun i u => progressRecord status (now i) u) ++ extra ∧
      List.Forall₂ (fun r u => r.processedAtoms = u.processedAtoms ∧
          r.processedLines = u.processedLines ∧ r.error = newJSONError u.error)
        ((throughFirstError upds).mapIdx (fun i u => progressRecord status (now i) u))
        (throughFirstError upds) ∧
      extra.length ≤ 1 ∧
      (extra ≠ [] → upds.any (·.error.isSome) = false ∧ status.args.vteConf.db.type = "sqlite") ∧
      ∀ r ∈ extra, ∃ e, r = postRecord status e) ∧
    (∀ r ∈ pushedRecords (createDataFromJobStatusWorker status upds install post now),
      r.id = status.id ∧ r.type = jobType ∧ r.corpusID = status.corpusID ∧
        r.start = status.start ∧ r.numRestarts = status.numRestarts ∧ r.args = status.args) ∧
    ((∃ c d, WorkerEffect.installSqliteDatabase c d ∈
        createDataFromJobStatusWorker status upds install post now) ↔
      upds.any (·.error.isSome) = false ∧ status.args.vteConf.db.type = "sqlite") ∧
    (WorkerEffect.postSoftReset ∈ createDataFromJobStatusWorker status upds install post now ↔
      upds.any (·.error.isSome) = false ∧ status.args.vteConf.db.type = "sqlite" ∧
        install = none) := by
  obtain ⟨hinst, hreset, hlen, hsq⟩ := postProcessing_effects status install post
  have hrec := pushedRecords_progressLoop status now 0 upds
  simp only [Nat.zero_add] at hrec
  have hfields := hrec ▸ progressLoop_records_forall₂ status now 0 upds
  have hnotInst : ∀ c d, WorkerEffect.installSqliteDatabase c d ∉ (progressLoop status now 0 upds).1 :=
    fun c d h => by obtain ⟨r, hr⟩ := mem_progressLoop_push status now 0 upds h; cases hr
  have hnotReset : WorkerEffect.postSoftReset ∉ (progressLoop status now 0 upds).1 :=
    fun h => by obtain ⟨r, hr⟩ := mem_progressLoop_push status now 0 upds h; cases hr
  refine ⟨?_, fun _ hr => (mem_pushedRecords_worker status now hr).2, ?_⟩ <;>
    simp only [createDataFromJobStatusWorker, progressLoop_snd]
  all_goals by_cases hf : upds.any (·.error.isSome) = true
  · simp only [hf, ite_true]
    exact ⟨[], by simp [hrec], hfields, by simp, by simp, by simp⟩
  · simp only [hf, Bool.false_eq_true, ite_false, pushedRecords_append, hrec]
    exact ⟨_, rfl, hfields, hlen, fun h => ⟨trivial, hsq h⟩,
      fun r hr => mem_pushedRecords_postProcessing status install post hr⟩
  · simp only [hf, ite_true, Bool.true_eq_false, false_and, iff_false, not_exists]
    exact ⟨hnotInst, hnotReset⟩
  · simp only [hf, Bool.false_eq_true, ite_false, true_and, List.mem_append]
    refine ⟨?_, ?_⟩
    · rw [← hinst]
      exact ⟨fun ⟨c, d, h⟩ => ⟨c, d, h.resolve_left (hnotInst c d)⟩,
        fun ⟨c, d, h⟩ => ⟨c, d, .inr h⟩⟩
    · rw [← hreset, or_iff_right hnotReset]

/-- A sqlite job whose stream sends no event: the worker still pushes a record, the one of
the cache reset. And when the installation fails, the reset request is not made. -/
theorem worker_pushes_post_record_without_events :
    let status : LiveAttrsJobInfo :=
      { id := "j", corpusID := "c",
        args := { vteConf := { corpus := "c", db := { type := "sqlite", name := "c" } } } }
    pushedRecords (createDataFromJobStatusWorker status [] none (.ok 200) fun _ => 0) =
        [postRecord status none] ∧
      WorkerEffect.postSoftReset ∉
        createDataFromJobStatusWorker status [] (some "disk full") (.ok 200) fun _ => 0 := by
  decide

end Masm
