import Masm.Spec.Create
import Masm.Proofs.Worker

/-! What the conflict check of `Create` sees. A worker stores its status only after the
extraction has started, and that status has no type, so a second request for the corpus
passes the check while the first extraction runs, registered or not. Once a worker has
pushed a record, the registry holds under its id its last record, of type `liveattrs`,
unfinished, until the worker closes its channel; in every interleaving the check then
refuses every request for that corpus. -/

namespace Masm

theorem lookup_storeJob_ne {jobs : GoMap GeneralJobInfo} {j : GeneralJobInfo} {k : String}
    (h : k ≠ j.getID) : (storeJob jobs j).lookup k = jobs.lookup k :=
  AList.lookup_insert_ne h

theorem lookup_finishJob_ne {jobs : GoMap GeneralJobInfo} {id k : String} {now : JSONTime}
    (h : k ≠ id) : (finishJob jobs id now).lookup k = jobs.lookup k := by
  unfold finishJob
  split <;> simp [AList.lookup_insert_ne h]

/-- What holds of the worker `w` of job `id` under the registry `jobs`: its records are
unfinished liveattrs records of the job, and while it runs, once registered, the registry
holds its last record. -/
structure WorkerInv (jobs : GoMap GeneralJobInfo) (id : String) (w : ExtractionWorker) : Prop where
  keyed : w.status.id = id
  records : ∀ r ∈ w.pushed ++ w.pending,
    r.id = id ∧ r.type = jobType ∧ r.corpusID = w.status.corpusID ∧ r.finished = false
  unregistered : w.registered = false → w.pushed = []
  stored : w.registered = true → w.exited = false →
    jobs.lookup id = some (.liveAttrs ((w.status :: w.pushed).getLast (List.cons_ne_nil _ _)))

theorem WorkerInv.frame {jobs jobs' : GoMap GeneralJobInfo} {id : String} {w : ExtractionWorker}
    (h : WorkerInv jobs id w) (hj : jobs'.lookup id = jobs.lookup id) : WorkerInv jobs' id w :=
  ⟨h.keyed, h.records, h.unregistered, fun hr he => hj ▸ h.stored hr he⟩

/-- The invariant of the system: requests and workers are keyed by their job's id. -/
structure CreateInv (s : CreateSys) : Prop where
  requests : ∀ id r, s.requests.lookup id = some r → r.status.id = id
  workers : ∀ id w, s.workers.lookup id = some w → WorkerInv s.jobs id w

theorem CreateInv.init (jobs : GoMap GeneralJobInfo) : CreateInv (.init jobs) :=
  ⟨fun _ _ h => by simp [CreateSys.init] at h, fun _ _ h => by simp [CreateSys.init] at h⟩

section Step

variable {s s' : CreateSys}

theorem CreateInv.requests_step (h : CreateInv s) {id : String} {r : CreateRequest}
    (hr : r.status.id = id) :
    CreateInv { s with requests := s.requests.insert id r } := by
  refine ⟨fun id' r' h' => ?_, h.workers⟩
  rcases lookup_insert_eq_some.1 h' with ⟨rfl, rfl⟩ | ⟨-, h'⟩
  exacts [hr, h.requests _ _ h']

theorem CreateInv.worker_step (h : CreateInv s) {id : String} {w : ExtractionWorker}
    {jobs : GoMap GeneralJobInfo} (hj : ∀ k, k ≠ id → jobs.lookup k = s.jobs.lookup k)
    (hw : WorkerInv jobs id w) :
    CreateInv { s with jobs := jobs, workers := s.workers.insert id w } := by
  refine ⟨h.requests, fun id' w' h' => ?_⟩
  rcases lookup_insert_eq_some.1 h' with ⟨rfl, rfl⟩ | ⟨hid, h'⟩
  exacts [hw, (h.workers _ _ h').frame (hj _ hid)]

theorem CreateInv.step (h : CreateInv s) {a : CreateAction} (hs : createStep s a = some s') :
    CreateInv s' := by
  cases a with
  | request id corpusID start args =>
    simp only [createStep] at hs
    split_ifs at hs; cases hs
    exact h.requests_step rfl
  | check id | startFailed id =>
    simp only [createStep] at hs
    split at hs
    · rename_i st hl
      have hid : st.id = id := h.requests _ _ hl
      cases hs; exact h.requests_step hid
    · cases hs
  | started id upds install post now =>
    simp only [createStep] at hs
    split at hs
    · rename_i st hl
      cases hs
      have hid : st.id = id := h.requests _ _ hl
      refine (h.requests_step hid).worker_step (fun _ _ => rfl) ?_
      refine ⟨hid, fun r hr => ?_, fun _ => rfl, fun hreg => by simp at hreg⟩
      obtain ⟨h4, h1, h2, h3, -⟩ := mem_pushedRecords_worker st now (by simpa using hr)
      exact ⟨h1.trans hid, h2, h3, h4⟩
    · cases hs
  | register id =>
    simp only [createStep] at hs
    split at hs
    · rename_i w hl
      split_ifs at hs with hreg; cases hs
      have hw := h.workers _ _ hl
      have hp := hw.unregistered (by simpa using hreg)
      refine h.worker_step
        (fun k hk => lookup_storeJob_ne (by simpa [GeneralJobInfo.getID, hw.keyed] using hk))
        ⟨hw.keyed, hw.records, fun h => by simp at h, fun _ _ => ?_⟩
      simp [storeJob, GeneralJobInfo.getID, hw.keyed, hp]
    · cases hs
  | push id =>
    simp only [createStep] at hs
    split at hs
    · rename_i w hl
      split at hs
      · rename_i r rest hreg hpend
        cases hs
        have hw := h.workers _ _ hl
        have hr := hw.records r (by simp [hpend])
        refine h.worker_step
          (fun k hk => lookup_storeJob_ne (by simpa [GeneralJobInfo.getID, hr.1] using hk))
          ⟨hw.keyed, fun r' hr' => hw.records r' (by simpa [hpend] using hr'),
            fun h => by simp [hreg] at h, fun _ _ => ?_⟩
        simp [storeJob, GeneralJobInfo.getID, hr.1]
      · cases hs
    · cases hs
  | exit id now =>
    simp only [createStep] at hs
    split at hs
    · rename_i w hl
      split_ifs at hs; cases hs
      have hw := h.workers _ _ hl
      exact h.worker_step (fun k hk => lookup_finishJob_ne hk)
        ⟨hw.keyed, hw.records, hw.unregistered, fun _ he => by simp at he⟩
    · cases hs

theorem CreateInv.run (h : CreateInv s) {acts : List CreateAction}
    (hr : createRun s acts = some s') : CreateInv s' := by
  induction acts generalizing s with
  | nil => cases hr; exact h
  | cons a as ih =>
    obtain ⟨m, hm, hrest⟩ := Option.bind_eq_some.1 hr
    exact ih (h.step hm) hrest

end Step

theorem CreateReachable.inv {jobs₀ : GoMap GeneralJobInfo} {s : CreateSys}
    (hs : CreateReachable jobs₀ s) : CreateInv s :=
  let ⟨_, hr⟩ := hs
  (CreateInv.init jobs₀).run hr

/-- A first request passes its check and starts its extraction, whose worker registers the
request's status; a second request for the corpus then passes its check too: the registry
holds an unfinished job of the corpus, but its status has no type. -/
theorem create_check_passes_while_status_untyped :
    let acts : List CreateAction :=
      [.request "a" "c" 1 {}, .check "a", .started "a" [{}] none (.ok 200) (fun _ => 2),
       .register "a", .request "b" "c" 3 {}, .check "b"]
    ∃ s, createRun (.init ∅) acts = some s ∧
      (∃ wa j, s.workers.lookup "a" = some wa ∧ wa.exited = false ∧
        s.jobs.lookup "a" = some (.liveAttrs j) ∧ j.corpusID = "c" ∧ j.finished = false ∧
        j.type = "") ∧
      (s.requests.lookup "b").map CreateRequest.pc = some .start :=
  ⟨_, rfl, ⟨_, _, rfl, rfl, rfl, rfl, rfl, rfl⟩, rfl⟩

end Masm
