import Masm.Proofs.IdxUpdate

/-! What the job list shows over whole runs of the job system. Only a job's own worker
writes its record: `Create` and `UpdateIndexes` draw ids the registry does not hold, a
worker stores its status when it registers and its records while it runs, and the close of
its channel marks the record finished. The records of a running extraction are unfinished,
and so is an index-update job's status until its final record. So once the registry lists
a job as finished, it lists it so in every later state of every interleaving, and its
record changes no more, except for the time the close of a channel stamps on it. -/

namespace Masm

@[simp] theorem GeneralJobInfo.setFinished_setFinished (j : GeneralJobInfo) (t t' : JSONTime) :
    (j.setFinished t).setFinished t' = j.setFinished t' := by
  cases j <;> rfl

/-- What a run may do to the finished records of the registry: keep each one, or stamp it
finished at another time. -/
def FinishedKept (jobs jobs' : GoMap GeneralJobInfo) : Prop :=
  ∀ id j, jobs.lookup id = some j → j.isFinished = true →
    ∃ j', jobs'.lookup id = some j' ∧ j'.isFinished = true ∧ (j' = j ∨ ∃ t, j' = j.setFinished t)

namespace FinishedKept

theorem refl (jobs : GoMap GeneralJobInfo) : FinishedKept jobs jobs :=
  fun _ j hj hf => ⟨j, hj, hf, .inl rfl⟩

theorem trans {jobs₁ jobs₂ jobs₃ : GoMap GeneralJobInfo} (h₁ : FinishedKept jobs₁ jobs₂)
    (h₂ : FinishedKept jobs₂ jobs₃) : FinishedKept jobs₁ jobs₃ := by
  intro id j hj hf
  obtain ⟨j₂, hj₂, hf₂, he₂⟩ := h₁ id j hj hf
  obtain ⟨j₃, hj₃, hf₃, he₃⟩ := h₂ id j₂ hj₂ hf₂
  refine ⟨j₃, hj₃, hf₃, ?_⟩
  rcases he₂ with rfl | ⟨t, rfl⟩
  · exact he₃
  · rcases he₃ with rfl | ⟨t', rfl⟩
    exacts [.inr ⟨t, rfl⟩, .inr ⟨t', by simp⟩]

theorem of_write {jobs jobs' : GoMap GeneralJobInfo} {id : String}
    (hne : ∀ k, k ≠ id → jobs'.lookup k = jobs.lookup k)
    (hid : ∀ j, jobs.lookup id = some j → j.isFinished = false) : FinishedKept jobs jobs' := by
  intro k j hj hf
  by_cases hk : k = id
  · subst hk
    simp [hid j hj] at hf
  · exact ⟨j, (hne k hk).trans hj, hf, .inl rfl⟩

end FinishedKept

/-- What holds of the `Create` requests beside `CreateInv`: their statuses are unfinished, a
worker runs only for the request that started it, with that request's status, and has
nothing left to push once it has closed its channel; and the registry holds nothing at a
request's id until its worker registers. -/
structure CreateFresh (c : CreateSys) : Prop where
  requests : ∀ id r, c.requests.lookup id = some r → r.status.finished = false
  workers : ∀ id w, c.workers.lookup id = some w →
    c.requests.lookup id = some ⟨w.status, .created⟩ ∧ (w.exited = true → w.pending = [])
  fresh : ∀ id r, c.requests.lookup id = some r →
    (∀ w, c.workers.lookup id = some w → w.registered = false) → c.jobs.lookup id = none

namespace CreateFresh

variable {c c' : CreateSys}

theorem init (jobs : GoMap GeneralJobInfo) : CreateFresh (.init jobs) :=
  ⟨fun _ _ h => by simp [CreateSys.init] at h, fun _ _ h => by simp [CreateSys.init] at h,
    fun _ _ h => by simp [CreateSys.init] at h⟩

theorem setPc (h : CreateFresh c) {id : String} {st : LiveAttrsJobInfo} {pc pc' : CreatePc}
    (hl : c.requests.lookup id = some ⟨st, pc⟩) (hpc : pc ≠ .created) :
    CreateFresh { c with requests := c.requests.insert id ⟨st, pc'⟩ } := by
  have hnw : ∀ w, c.workers.lookup id ≠ some w := fun w hw => by
    rw [(h.workers id w hw).1] at hl
    cases hl
    exact hpc rfl
  refine ⟨fun k r hk => ?_, fun k w hk => ?_, fun k r hk hw => ?_⟩
  · rcases lookup_insert_eq_some.1 hk with ⟨rfl, rfl⟩ | ⟨-, hk⟩
    exacts [h.requests k ⟨st, pc⟩ hl, h.requests k r hk]
  · have hne : k ≠ id := by rintro rfl; exact hnw w hk
    exact ⟨(AList.lookup_insert_ne hne).trans (h.workers k w hk).1, (h.workers k w hk).2⟩
  · rcases lookup_insert_eq_some.1 hk with ⟨rfl, -⟩ | ⟨-, hk⟩
    exacts [h.fresh k _ hl hw, h.fresh k r hk hw]

theorem worker_step (h : CreateFresh c) {id : String} {w w' : ExtractionWorker}
    (hl : c.workers.lookup id = some w) {jobs : GoMap GeneralJobInfo}
    (hj : ∀ k, k ≠ id → jobs.lookup k = c.jobs.lookup k) (hst : w'.status = w.status)
    (hreg : w'.registered = true) (hd : w'.exited = true → w'.pending = []) :
    CreateFresh { c with jobs := jobs, workers := c.workers.insert id w' } := by
  refine ⟨h.requests, fun k w₀ hk => ?_, fun k r hk hw => ?_⟩
  · rcases lookup_insert_eq_some.1 hk with ⟨rfl, rfl⟩ | ⟨-, hk⟩
    exacts [⟨hst ▸ (h.workers k w hl).1, hd⟩, h.workers k w₀ hk]
  · by_cases hne : k = id
    · subst hne
      simp [hw w' (AList.lookup_insert _)] at hreg
    · exact (hj k hne).trans
        (h.fresh k r hk fun w₀ hw₀ => hw w₀ (by rwa [AList.lookup_insert_ne hne]))

theorem step (hi : CreateInv c) (h : CreateFresh c) {a : CreateAction}
    (hs : createStep c a = some c') : CreateFresh c' := by
  cases a with
  | request id corpusID start args =>
    simp only [createStep] at hs
    split_ifs at hs with hg; cases hs
    refine ⟨fun k r hk => ?_, fun k w hk => ?_, fun k r hk hw => ?_⟩
    · rcases lookup_insert_eq_some.1 hk with ⟨rfl, rfl⟩ | ⟨-, hk⟩
      exacts [rfl, h.requests k r hk]
    · have hne : k ≠ id := by
        rintro rfl; exact hg (.inl (mem_of_lookup_eq_some (h.workers k w hk).1))
      exact ⟨(AList.lookup_insert_ne hne).trans (h.workers k w hk).1, (h.workers k w hk).2⟩
    · rcases lookup_insert_eq_some.1 hk with ⟨rfl, -⟩ | ⟨-, hk⟩
      exacts [AList.lookup_eq_none.2 fun hm => hg (.inr hm), h.fresh k r hk hw]
  | check id | startFailed id =>
    simp only [createStep] at hs
    split at hs
    · rename_i st hl
      cases hs
      exact h.setPc hl (by simp)
    · cases hs
  | started id upds install post now =>
    simp only [createStep] at hs
    split at hs
    · rename_i st hl
      cases hs
      have hnw : ∀ w, c.workers.lookup id ≠ some w := fun w hw => by
        rw [(h.workers id w hw).1] at hl
        cases hl
      refine ⟨fun k r hk => ?_, fun k w hk => ?_, fun k r hk hw => ?_⟩
      · rcases lookup_insert_eq_some.1 hk with ⟨rfl, rfl⟩ | ⟨-, hk⟩
        exacts [h.requests k ⟨st, .start⟩ hl, h.requests k r hk]
      · rcases lookup_insert_eq_some.1 hk with ⟨rfl, rfl⟩ | ⟨hne, hk⟩
        · exact ⟨AList.lookup_insert _, fun he => by simp at he⟩
        · exact ⟨(AList.lookup_insert_ne hne).trans (h.workers k w hk).1, (h.workers k w hk).2⟩
      · by_cases hne : k = id
        · subst hne
          exact h.fresh k _ hl fun w hw => absurd hw (hnw w)
        · rw [AList.lookup_insert_ne hne] at hk
          exact h.fresh k r hk fun w hw' => hw w (by rwa [AList.lookup_insert_ne hne])
    · cases hs
  | register id =>
    simp only [createStep] at hs
    split at hs
    · rename_i w hl
      split_ifs at hs; cases hs
      have hw := hi.workers _ _ hl
      exact h.worker_step hl
        (fun k hk => lookup_storeJob_ne (by simpa [GeneralJobInfo.getID, hw.keyed] using hk))
        rfl rfl (h.workers id w hl).2
    · cases hs
  | push id =>
    simp only [createStep] at hs
    split at hs
    · rename_i w hl
      split at hs
      · rename_i r rest hreg hpend
        cases hs
        have hr := (hi.workers _ _ hl).records r (by simp [hpend])
        refine h.worker_step hl
          (fun k hk => lookup_storeJob_ne (by simpa [GeneralJobInfo.getID, hr.1] using hk))
          rfl hreg fun he => ?_
        simpa [hpend] using (h.workers id w hl).2 he
      · cases hs
    · cases hs
  | exit id now =>
    simp only [createStep] at hs
    split at hs
    · rename_i w hl
      split_ifs at hs with hg; cases hs
      exact h.worker_step hl (fun k hk => lookup_finishJob_ne hk) rfl hg.1 fun _ => hg.2.1
    · cases hs

theorem unfinished (hi : CreateInv c) (h : CreateFresh c) {id : String} {w : ExtractionWorker}
    (hw : c.workers.lookup id = some w) (he : w.exited = false) {j : GeneralJobInfo}
    (hj : c.jobs.lookup id = some j) : j.isFinished = false := by
  obtain ⟨hreq, -⟩ := h.workers id w hw
  cases hreg : w.registered
  · rw [h.fresh id _ hreq fun w' hw' => by rw [hw] at hw'; cases hw'; exact hreg] at hj
    cases hj
  · have hwi := hi.workers id w hw
    rw [hwi.stored hreg he] at hj
    cases hj
    rcases List.mem_cons.1 (List.getLast_mem (List.cons_ne_nil w.status w.pushed)) with h' | h'
    · simpa [GeneralJobInfo.isFinished, h'] using h.requests id _ hreq
    · simpa [GeneralJobInfo.isFinished] using (hwi.records _ (List.mem_append_left _ h')).2.2.2

end CreateFresh

theorem createStep_finishedKept {c c' : CreateSys} (hi : CreateInv c) (h : CreateFresh c)
    {a : CreateAction} (hs : createStep c a = some c') : FinishedKept c.jobs c'.jobs := by
  cases a with
  | request id corpusID start args =>
    simp only [createStep] at hs
    split_ifs at hs; cases hs
    exact .refl _
  | check id | startFailed id | started id upds install post now =>
    simp only [createStep] at hs
    split at hs
    · cases hs; exact .refl _
    · cases hs
  | register id =>
    simp only [createStep] at hs
    split at hs
    · rename_i w hl
      split_ifs at hs with hreg; cases hs
      have hw := hi.workers _ _ hl
      have hnone := h.fresh id _ (h.workers id w hl).1 fun w' hw' => by
        rw [hl] at hw'; cases hw'; simpa using hreg
      exact .of_write
        (fun k hk => lookup_storeJob_ne (by simpa [GeneralJobInfo.getID, hw.keyed] using hk))
        fun j hj => by rw [hnone] at hj; cases hj
    · cases hs
  | push id =>
    simp only [createStep] at hs
    split at hs
    · rename_i w hl
      split at hs
      · rename_i r rest hreg hpend
        cases hs
        have hr := (hi.workers _ _ hl).records r (by simp [hpend])
        have he : w.exited = false := by
          cases he : w.exited
          · rfl
          · simpa [hpend] using (h.workers id w hl).2 he
        exact .of_write
          (fun k hk => lookup_storeJob_ne (by simpa [GeneralJobInfo.getID, hr.1] using hk))
          fun j hj => h.unfinished hi hl he hj
      · cases hs
    · cases hs
  | exit id now =>
    simp only [createStep] at hs
    split at hs
    · rename_i w hl
      split_ifs at hs with hg; cases hs
      exact .of_write (fun k hk => lookup_finishJob_ne hk) fun j hj => h.unfinished hi hl hg.2.2 hj
    · cases hs

/-- The invariant of the job system that the finished records rest on. -/
structure RegistryInv (s : JobsSys) : Prop where
  jobs : JobsInv s
  create : CreateFresh s.toCreateSys
  idx : ∀ id w, s.idxWorkers.lookup id = some w → w.status.finished = false

namespace RegistryInv

variable {s s' : JobsSys}

theorem init (jobs : GoMap GeneralJobInfo) : RegistryInv (.init jobs) :=
  ⟨JobsInv.init jobs, CreateFresh.init jobs, fun _ _ h => by simp [JobsSys.init] at h⟩

theorem idx_step (h : RegistryInv s) {id : String} {w w' : IdxUpdateWorker}
    (hl : s.idxWorkers.lookup id = some w) {jobs : GoMap GeneralJobInfo}
    (h' : JobsInv { s with jobs := jobs, idxWorkers := s.idxWorkers.insert id w' })
    (hj : ∀ k, k ≠ id → jobs.lookup k = s.jobs.lookup k) (hst : w'.status = w.status) :
    RegistryInv { s with jobs := jobs, idxWorkers := s.idxWorkers.insert id w' } := by
  have hreq : ∀ k ∈ s.requests, jobs.lookup k = s.jobs.lookup k := fun k hk =>
    hj k fun e => h.jobs.idxFresh id (mem_of_lookup_eq_some hl) (e ▸ hk)
  refine ⟨h', ⟨h.create.requests, h.create.workers, fun k r hk hw => ?_⟩, fun k w₀ hk => ?_⟩
  · exact (hreq k (mem_of_lookup_eq_some hk)).trans (h.create.fresh k r hk hw)
  · rcases lookup_insert_eq_some.1 hk with ⟨rfl, rfl⟩ | ⟨-, hk⟩
    exacts [hst ▸ h.idx k w hl, h.idx k w₀ hk]

theorem step (h : RegistryInv s) {a : JobsAction} (hs : jobsStep s a = some s') :
    RegistryInv s' := by
  have h' := h.jobs.step hs
  cases a with
  | liveAttrs a =>
    simp only [jobsStep] at hs
    split_ifs at hs
    obtain ⟨t, ht, rfl⟩ := Option.map_eq_some'.1 hs
    exact ⟨h', by simpa using h.create.step h.jobs.create ht, by simpa using h.idx⟩
  | updateIndexes corpusID arg env loadInfoError ansError now =>
    simp only [jobsStep] at hs
    split at hs
    · cases hs; exact h
    · rename_i status maxColumns hc
      split_ifs at hs; cases hs
      refine ⟨h', h.create, fun id w hw => ?_⟩
      rcases lookup_insert_eq_some.1 hw with ⟨rfl, rfl⟩ | ⟨-, hw⟩
      exacts [(updateIndexes_created hc).2.2.2, h.idx id w hw]
  | idxRegister id | idxPush id =>
    simp only [jobsStep] at hs
    split at hs
    · rename_i w hl
      split_ifs at hs with hg; cases hs
      have hw := h.jobs.idx id w hl
      refine h.idx_step hl h' (fun k hk => lookup_storeJob_ne ?_) rfl
      simpa [GeneralJobInfo.getID, IdxUpdateWorker.finalStatus, hw.keyed] using hk
    · cases hs
  | idxExit id now =>
    simp only [jobsStep] at hs
    split at hs
    · rename_i w hl
      split_ifs at hs; cases hs
      exact h.idx_step hl h' (fun k hk => lookup_finishJob_ne hk) rfl
    · cases hs

end RegistryInv

theorem jobsStep_finishedKept {s s' : JobsSys} (h : RegistryInv s) {a : JobsAction}
    (hs : jobsStep s a = some s') : FinishedKept s.jobs s'.jobs := by
  cases a with
  | liveAttrs a =>
    simp only [jobsStep] at hs
    split_ifs at hs
    obtain ⟨t, ht, rfl⟩ := Option.map_eq_some'.1 hs
    exact createStep_finishedKept h.jobs.create h.create ht
  | updateIndexes corpusID arg env loadInfoError ansError now =>
    simp only [jobsStep] at hs
    split at hs
    · cases hs; exact .refl _
    · split_ifs at hs; cases hs; exact .refl _
  | idxRegister id =>
    simp only [jobsStep] at hs
    split at hs
    · rename_i w hl
      split_ifs at hs with hreg; cases hs
      have hw := h.jobs.idx id w hl
      have hnone := (hw.unregistered (by simpa using hreg)).2
      exact .of_write
        (fun k hk => lookup_storeJob_ne (by simpa [GeneralJobInfo.getID, hw.keyed] using hk))
        fun j hj => by rw [hnone] at hj; cases hj
    · cases hs
  | idxPush id =>
    simp only [jobsStep] at hs
    split at hs
    · rename_i w hl
      split_ifs at hs with hg; cases hs
      have hw := h.jobs.idx id w hl
      obtain ⟨r, hr, hst⟩ := hw.stored hg.1
      refine @FinishedKept.of_write _ _ id (fun k hk => lookup_storeJob_ne ?_) fun j hj => ?_
      · simpa [GeneralJobInfo.getID, IdxUpdateWorker.finalStatus, hw.keyed] using hk
      · rw [hr, hst.status (by simpa using hg.2)] at hj
        cases hj
        exact h.idx id w hl
    · cases hs
  | idxExit id now =>
    simp only [jobsStep] at hs
    split at hs
    · rename_i w hl
      split_ifs at hs with hg; cases hs
      intro k j hj hf
      by_cases hk : k = id
      · subst hk
        have hw := h.jobs.idx k w hl
        obtain ⟨r, hr, -⟩ := hw.stored (hw.registered_of_pushed hg.1)
        rw [hr] at hj
        cases hj
        exact ⟨_, lookup_finishJob_self hr now, rfl, .inr ⟨now, rfl⟩⟩
      · exact ⟨j, (lookup_finishJob_ne hk).trans hj, hf, .inl rfl⟩
    · cases hs

theorem RegistryInv.run {s s' : JobsSys} (h : RegistryInv s) {acts : List JobsAction}
    (hr : jobsRun s acts = some s') : RegistryInv s' ∧ FinishedKept s.jobs s'.jobs := by
  induction acts generalizing s with
  | nil => cases hr; exact ⟨h, .refl _⟩
  | cons a as ih =>
    obtain ⟨m, hm, hrest⟩ := Option.bind_eq_some.1 hr
    obtain ⟨h', hk⟩ := ih (h.step hm) hrest
    exact ⟨h', (jobsStep_finishedKept h hm).trans hk⟩

/-- Once the registry lists a job as finished, it lists it so in every later state of every
interleaving of extraction and index-update jobs, and the job's record changes no more,
except for the time the close of a worker's channel stamps on it. -/
theorem finished_job_stays_finished {jobs₀ : GoMap GeneralJobInfo} {s s' : JobsSys}
    {acts : List JobsAction} (hs : JobsReachable jobs₀ s) (hr : jobsRun s acts = some s')
    {id : String} {j : GeneralJobInfo} (hj : s.jobs.lookup id = some j)
    (hf : j.isFinished = true) :
    ∃ j', s'.jobs.lookup id = some j' ∧ j'.isFinished = true ∧
      (j' = j ∨ ∃ t, j' = j.setFinished t) := by
  obtain ⟨acts₀, hr₀⟩ := hs
  exact (((RegistryInv.init jobs₀).run hr₀).1.run hr).2 id j hj hf

/-- An index-update job whose final record is stored stays finished when its worker closes
its channel and a liveattrs request follows. -/
theorem finished_job_stays_finished_after_exit :
    ∃ s s' j, JobsReachable ∅ s ∧
      jobsRun s [.idxExit "u" 8, .liveAttrs (.request "a" "c" 1 {})] = some s' ∧
      s.jobs.lookup "u" = some j ∧ j.isFinished = true ∧
      ∃ j', s'.jobs.lookup "u" = some j' ∧ j'.isFinished = true ∧
        (j' = j ∨ ∃ t, j' = j.setFinished t) := by
  have hs : JobsReachable ∅ _ :=
    ⟨[.updateIndexes "c" "5" ⟨fun _ => .ok 5, .ok "u", 1, 1⟩ none none 7, .idxRegister "u",
      .idxPush "u"], rfl⟩
  let j : GeneralJobInfo := .idxUpdate
    { id := "u", type := "liveattrs-idx-update", corpusID := "c", start := 1, update := 7,
      finished := true }
  exact ⟨_, _, j, hs, rfl, by decide, rfl, @finished_job_stays_finished ∅ _ _
    [.idxExit "u" 8, .liveAttrs (.request "a" "c" 1 {})] hs rfl "u" j (by decide) rfl⟩

end Masm
