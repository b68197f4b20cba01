import Masm.Spec.IdxUpdate
import Masm.Proofs.Create

/-! The index-update jobs beside the extraction jobs. An index-update job writes the registry
only at its own id, under a record of type `liveattrs-idx-update`, which the conflict check
of `Create` never matches; so every run of the job system, restricted to its liveattrs
steps, is a run of the `Create` system that sees the same registry outside the
index-update jobs. And once an index-update worker has closed its channel, the registry
holds its job finished, with the error of `db.UpdateIndexes`, or else of `LoadInfo`. -/

namespace Masm

section Registry

theorem mem_of_lookup_eq_some {V : Type} {m : GoMap V} {k : String} {v : V}
    (h : m.lookup k = some v) : k ∈ m :=
  AList.lookup_isSome.1 (by rw [h]; rfl)

theorem mem_insert_of_lookup {V : Type} {m : GoMap V} {x k : String} {v w : V}
    (h : m.lookup x = some v) : k ∈ m.insert x w ↔ k ∈ m := by
  rw [AList.mem_insert]
  exact ⟨fun h' => h'.elim (fun e => e ▸ mem_of_lookup_eq_some h) id, .inr⟩

theorem lookup_storeJob_self (jobs : GoMap GeneralJobInfo) (j : GeneralJobInfo) :
    (storeJob jobs j).lookup j.getID = some j :=
  AList.lookup_insert _

variable {jobs : GoMap GeneralJobInfo}

theorem lookup_finishJob_self {id : String} {j : GeneralJobInfo} (h : jobs.lookup id = some j)
    (now : JSONTime) : (finishJob jobs id now).lookup id = some (j.setFinished now) := by
  simp [finishJob, h]

theorem findUnfinishedJobOfType_isSome_iff {c t : String} :
    (findUnfinishedJobOfType jobs c t).isSome ↔
      ∃ k j, jobs.lookup k = some j ∧ j.getCorpus = c ∧ j.getType = t ∧ j.isFinished = false := by
  refine ⟨fun h => ?_, fun ⟨_, _, hk, hj⟩ => findUnfinishedJobOfType_isSome hk hj⟩
  obtain ⟨_, hj, hp⟩ := List.find?_isSome.1 h
  obtain ⟨⟨k, j⟩, hk, rfl⟩ := List.mem_map.1 hj
  exact ⟨k, j, AList.mem_lookup_iff.2 hk, by simpa [and_assoc] using hp⟩

end Registry

section Handler

variable {corpusID arg : String} {env : UpdateIndexesEnv} {status : IdxUpdateJobInfo}
  {maxColumns : GoInt}

theorem updateIndexes_created (h : updateIndexes corpusID arg env = .created status maxColumns) :
    status.type = "liveattrs-idx-update" ∧ status.corpusID = corpusID ∧ status.error = {} ∧
      status.finished = false := by
  simp only [updateIndexes] at h
  split_ifs at h
  split at h
  · cases h
  · split at h
    · cases h
    · cases h; exact ⟨rfl, rfl, rfl, rfl⟩

@[simp] theorem idxFinalStatus_id (s : IdxUpdateJobInfo) (le ae : GoError) (now : JSONTime) :
    (idxFinalStatus s le ae now).id = s.id := by
  cases le <;> cases ae <;> rfl

@[simp] theorem idxFinalStatus_type (s : IdxUpdateJobInfo) (le ae : GoError) (now : JSONTime) :
    (idxFinalStatus s le ae now).type = s.type := by
  cases le <;> cases ae <;> rfl

@[simp] theorem idxFinalStatus_corpusID (s : IdxUpdateJobInfo) (le ae : GoError) (now : JSONTime) :
    (idxFinalStatus s le ae now).corpusID = s.corpusID := by
  cases le <;> cases ae <;> rfl

theorem idxFinalStatus_error (s : IdxUpdateJobInfo) (hs : s.error = {}) (le ae : GoError)
    (now : JSONTime) : (idxFinalStatus s le ae now).error = newJSONError (ae <|> le) := by
  cases le <;> cases ae <;> simp [idxFinalStatus, hs, newJSONError]

end Handler

/-- What the registry holds for an index-update worker that has registered: its status until
it pushes, then its final record, finished by the close of its channel. -/
structure IdxStored (w : IdxUpdateWorker) (r : IdxUpdateJobInfo) : Prop where
  status : w.pushed = false → r = w.status
  final : w.pushed = true → w.exited = false → r = w.finalStatus
  finished : w.exited = true → ∃ t, r = { w.finalStatus with update := t, finished := true }

/-- What holds of the index-update worker `w` of job `id` under the registry `jobs`. -/
structure IdxWorkerInv (jobs : GoMap GeneralJobInfo) (id : String) (w : IdxUpdateWorker) :
    Prop where
  keyed : w.status.id = id
  status : w.status.type = "liveattrs-idx-update" ∧ w.status.error = {}
  unregistered : w.registered = false → w.pushed = false ∧ jobs.lookup id = none
  exited : w.exited = true → w.pushed = true
  stored : w.registered = true → ∃ r, jobs.lookup id = some (.idxUpdate r) ∧ IdxStored w r

namespace IdxWorkerInv

variable {jobs jobs' : GoMap GeneralJobInfo} {id : String} {w : IdxUpdateWorker}

theorem frame (h : IdxWorkerInv jobs id w) (hj : jobs'.lookup id = jobs.lookup id) :
    IdxWorkerInv jobs' id w :=
  ⟨h.keyed, h.status, fun hr => hj ▸ h.unregistered hr, h.exited, fun hr => hj ▸ h.stored hr⟩

theorem registered_of_pushed (h : IdxWorkerInv jobs id w) (hp : w.pushed = true) :
    w.registered = true := by
  cases hr : w.registered
  · simp [(h.unregistered hr).1] at hp
  · rfl

theorem not_exited (h : IdxWorkerInv jobs id w) (hp : w.pushed = false) : w.exited = false := by
  cases he : w.exited
  · rfl
  · simp [h.exited he] at hp

theorem getType_eq (h : IdxWorkerInv jobs id w) {j : GeneralJobInfo} (hj : jobs.lookup id = some j) :
    j.getType = "liveattrs-idx-update" := by
  cases hr : w.registered
  · simp [(h.unregistered hr).2] at hj
  · obtain ⟨r, hr', hst⟩ := h.stored hr
    obtain rfl : GeneralJobInfo.idxUpdate r = j := Option.some.inj (hr'.symm.trans hj)
    cases hp : w.pushed
    · simp [GeneralJobInfo.getType, hst.status hp, h.status.1]
    · cases he : w.exited
      · simp [GeneralJobInfo.getType, hst.final hp he, IdxUpdateWorker.finalStatus, h.status.1]
      · obtain ⟨t, rfl⟩ := hst.finished he
        simp [GeneralJobInfo.getType, IdxUpdateWorker.finalStatus, h.status.1]

end IdxWorkerInv

/-- The registry `c` is `t` without the entries at the ids of the index-update workers `idx`. -/
def RegistryView (idx : GoMap IdxUpdateWorker) (c t : GoMap GeneralJobInfo) : Prop :=
  ∀ k, c.lookup k = if k ∈ idx then none else t.lookup k

namespace RegistryView

variable {idx : GoMap IdxUpdateWorker} {c t : GoMap GeneralJobInfo}

theorem mem (h : RegistryView idx c t) {k : String} (hk : k ∈ c) : k ∉ idx ∧ k ∈ t := by
  rw [← AList.lookup_isSome, h k] at hk
  split_ifs at hk with hi
  · simp at hk
  · exact ⟨hi, AList.lookup_isSome.1 hk⟩

theorem write {c' t' : GoMap GeneralJobInfo} (h : RegistryView idx c t) {x : String} (hx : x ∉ idx)
    (hc : ∀ k, k ≠ x → c'.lookup k = c.lookup k) (ht : ∀ k, k ≠ x → t'.lookup k = t.lookup k)
    (hxx : c.lookup x = t.lookup x → c'.lookup x = t'.lookup x) : RegistryView idx c' t' := by
  intro k
  by_cases hk : k = x
  · subst hk
    rw [if_neg hx]
    exact hxx (by rw [h, if_neg hx])
  · rw [hc k hk, ht k hk, h k]

theorem storeJob (h : RegistryView idx c t) {j : GeneralJobInfo} (hj : j.getID ∉ idx) :
    RegistryView idx (Masm.storeJob c j) (Masm.storeJob t j) :=
  h.write hj (fun _ => lookup_storeJob_ne) (fun _ => lookup_storeJob_ne)
    fun _ => by rw [lookup_storeJob_self, lookup_storeJob_self]

theorem finishJob (h : RegistryView idx c t) {id : String} (hid : id ∉ idx) (now : JSONTime) :
    RegistryView idx (Masm.finishJob c id now) (Masm.finishJob t id now) :=
  h.write hid (fun _ => lookup_finishJob_ne) (fun _ => lookup_finishJob_ne)
    fun he => by unfold Masm.finishJob; rw [he]; split <;> simp [he]

theorem write_hidden {t' : GoMap GeneralJobInfo} (h : RegistryView idx c t) {x : String}
    (hx : x ∈ idx) (ht : ∀ k, k ≠ x → t'.lookup k = t.lookup k) : RegistryView idx c t' := by
  intro k
  by_cases hk : k = x
  · subst hk; rw [h, if_pos hx, if_pos hx]
  · rw [h k, ht k hk]

theorem hide (h : RegistryView idx c t) {x : String} (hx : x ∉ t) (w : IdxUpdateWorker) :
    RegistryView (idx.insert x w) c t := by
  intro k
  by_cases hk : k = x
  · subst hk
    rw [h, if_pos ((AList.mem_insert _).2 (.inl rfl))]
    split_ifs <;> simp [AList.lookup_eq_none.2 hx]
  · simp only [h k, AList.mem_insert, hk, false_or]

theorem update_idx (h : RegistryView idx c t) {x : String} (hx : x ∈ idx) (w : IdxUpdateWorker) :
    RegistryView (idx.insert x w) c t := by
  intro k
  have : k ∈ idx.insert x w ↔ k ∈ idx := by
    rw [AList.mem_insert]; exact ⟨fun h' => h'.elim (· ▸ hx) id, .inr⟩
  rw [h k, if_congr this rfl rfl]

theorem findUnfinished_isSome (h : RegistryView idx c t)
    (ht : ∀ k j, k ∈ idx → t.lookup k = some j → j.getType ≠ jobType) (corpusID : String) :
    (findUnfinishedJobOfType c corpusID jobType).isSome =
      (findUnfinishedJobOfType t corpusID jobType).isSome := by
  refine Bool.eq_iff_iff.2 ?_
  simp only [findUnfinishedJobOfType_isSome_iff]
  constructor
  · rintro ⟨k, j, hk, hj⟩
    rw [h k] at hk
    split_ifs at hk
    exact ⟨k, j, hk, hj⟩
  · rintro ⟨k, j, hk, hj⟩
    exact ⟨k, j, by rwa [h k, if_neg fun hi => ht k j hi hk hj.2.1], hj⟩

end RegistryView

section CreateSteps

variable {c t t' : CreateSys} {a : CreateAction}

/-- What a step of the `Create` system changes: it adds the request it draws, adds workers
only for requests, and writes the registry only at its workers' ids. -/
structure CreateFrame (t t' : CreateSys) (a : CreateAction) : Prop where
  requests : ∀ k, k ∈ t'.requests ↔ k ∈ t.requests ∨ a.drawnID = some k
  workers : ∀ k, k ∈ t'.workers → k ∈ t.workers ∨ k ∈ t.requests
  jobs : ∀ k, k ∉ t.workers → t'.jobs.lookup k = t.jobs.lookup k

theorem createStep_frame (ht : CreateInv t) (hs : createStep t a = some t') : CreateFrame t t' a := by
  have not_mem {id k : String} {w : ExtractionWorker} (hl : t.workers.lookup id = some w)
      (hk : k ∉ t.workers) : k ≠ id := fun e => hk (e ▸ mem_of_lookup_eq_some hl)
  cases a with
  | request id corpusID start args =>
    simp only [createStep] at hs
    split_ifs at hs; cases hs
    exact ⟨fun k => by simp [CreateAction.drawnID, AList.mem_insert, eq_comm, or_comm],
      fun k hk => .inl hk, fun _ _ => rfl⟩
  | check id | startFailed id =>
    simp only [createStep] at hs
    split at hs
    · rename_i hl; cases hs
      exact ⟨fun k => by simp [mem_insert_of_lookup hl, CreateAction.drawnID], fun k hk => .inl hk,
        fun _ _ => rfl⟩
    · cases hs
  | started id upds install post now =>
    simp only [createStep] at hs
    split at hs
    · rename_i hl; cases hs
      refine ⟨fun k => by simp [mem_insert_of_lookup hl, CreateAction.drawnID], fun k hk => ?_,
        fun _ _ => rfl⟩
      rcases (AList.mem_insert _).1 hk with rfl | hk
      exacts [.inr (mem_of_lookup_eq_some hl), .inl hk]
    · cases hs
  | register id =>
    simp only [createStep] at hs
    split at hs
    · rename_i w hl
      split_ifs at hs; cases hs
      refine ⟨fun k => by simp [CreateAction.drawnID], fun k hk => .inl
        ((mem_insert_of_lookup hl).1 hk), fun k hk => lookup_storeJob_ne ?_⟩
      simpa [GeneralJobInfo.getID, (ht.workers _ _ hl).keyed] using not_mem hl hk
    · cases hs
  | push id =>
    simp only [createStep] at hs
    split at hs
    · rename_i w hl
      split at hs
      · rename_i r rest _ hpend
        cases hs
        have hr := ((ht.workers _ _ hl).records r (by simp [hpend])).1
        refine ⟨fun k => by simp [CreateAction.drawnID], fun k hk => .inl
          ((mem_insert_of_lookup hl).1 hk), fun k hk => lookup_storeJob_ne ?_⟩
        simpa [GeneralJobInfo.getID, hr] using not_mem hl hk
      · cases hs
    · cases hs
  | exit id now =>
    simp only [createStep] at hs
    split at hs
    · rename_i w hl
      split_ifs at hs; cases hs
      exact ⟨fun k => by simp [CreateAction.drawnID], fun k hk => .inl
        ((mem_insert_of_lookup hl).1 hk), fun k hk => lookup_finishJob_ne (not_mem hl hk)⟩
    · cases hs

theorem createStep_view {idx : GoMap IdxUpdateWorker} (hv : RegistryView idx c.jobs t.jobs)
    (hreq : c.requests = t.requests) (hw : c.workers = t.workers)
    (htype : ∀ k j, k ∈ idx → t.jobs.lookup k = some j → j.getType ≠ jobType)
    (hwi : ∀ k, k ∈ t.workers → k ∉ idx) (hd : ∀ k, a.drawnID = some k → k ∉ idx)
    (ht : CreateInv t) (hs : createStep t a = some t') :
    ∃ c', createStep c a = some c' ∧ RegistryView idx c'.jobs t'.jobs ∧
      c'.requests = t'.requests ∧ c'.workers = t'.workers := by
  obtain ⟨cj, cr, cw⟩ := c
  dsimp only at hv hreq hw
  subst hreq hw
  have hwid {id : String} {w : ExtractionWorker} (hl : t.workers.lookup id = some w) : id ∉ idx :=
    hwi id (mem_of_lookup_eq_some hl)
  cases a with
  | request id corpusID start args =>
    simp only [createStep] at hs ⊢
    split_ifs at hs with hg; cases hs
    rw [if_neg fun h' => hg (h'.imp_right fun hm => (hv.mem hm).2)]
    exact ⟨_, rfl, hv, rfl, rfl⟩
  | check id =>
    simp only [createStep] at hs ⊢
    split at hs
    · rename_i st hl; cases hs
      simp only [hl, hv.findUnfinished_isSome htype]
      exact ⟨_, rfl, hv, rfl, rfl⟩
    · cases hs
  | startFailed id | started id upds install post now =>
    simp only [createStep] at hs ⊢
    split at hs
    · rename_i st hl; cases hs
      simp only [hl]
      exact ⟨_, rfl, hv, rfl, rfl⟩
    · cases hs
  | register id =>
    simp only [createStep] at hs ⊢
    split at hs
    · rename_i w hl
      split_ifs at hs with hreg; cases hs
      simp only [hl, hreg]
      refine ⟨_, rfl, hv.storeJob ?_, rfl, rfl⟩
      simpa [GeneralJobInfo.getID, (ht.workers _ _ hl).keyed] using hwid hl
    · cases hs
  | push id =>
    simp only [createStep] at hs ⊢
    split at hs
    · rename_i w hl
      split at hs
      · rename_i r rest hreg hpend
        cases hs
        have hr := ((ht.workers _ _ hl).records r (by simp [hpend])).1
        simp only [hl, hreg, hpend]
        refine ⟨_, rfl, hv.storeJob ?_, rfl, rfl⟩
        simpa [GeneralJobInfo.getID, hr] using hwid hl
      · cases hs
    · cases hs
  | exit id now =>
    simp only [createStep] at hs ⊢
    split at hs
    · rename_i w hl
      split_ifs at hs with hg; cases hs
      simp only [hl, if_pos hg]
      exact ⟨_, rfl, hv.finishJob (hwid hl) now, rfl, rfl⟩
    · cases hs

end CreateSteps

/-- The invariant of the job system: the liveattrs part keeps its own, the index-update
workers theirs, and the ids of the index-update jobs are no request's. -/
structure JobsInv (s : JobsSys) : Prop where
  create : CreateInv s.toCreateSys
  idx : ∀ id w, s.idxWorkers.lookup id = some w → IdxWorkerInv s.jobs id w
  idxFresh : ∀ id, id ∈ s.idxWorkers → id ∉ s.requests
  workers : ∀ id, id ∈ s.workers → id ∈ s.requests

namespace JobsInv

variable {s s' : JobsSys}

theorem init (jobs : GoMap GeneralJobInfo) : JobsInv (.init jobs) :=
  ⟨CreateInv.init jobs, fun _ _ h => by simp [JobsSys.init] at h,
    fun _ h => by simp [JobsSys.init] at h, fun _ h => by simp [JobsSys.init] at h⟩

theorem not_mem_workers (h : JobsInv s) {id : String} (hi : id ∈ s.idxWorkers) : id ∉ s.workers :=
  fun hw => h.idxFresh id hi (h.workers id hw)

theorem idx_step (h : JobsInv s) {id : String} {w w₀ : IdxUpdateWorker}
    (hl : s.idxWorkers.lookup id = some w₀) {jobs : GoMap GeneralJobInfo}
    (hj : ∀ k, k ≠ id → jobs.lookup k = s.jobs.lookup k) (hw : IdxWorkerInv jobs id w) :
    JobsInv { s with jobs := jobs, idxWorkers := s.idxWorkers.insert id w } := by
  have hnw := h.not_mem_workers (mem_of_lookup_eq_some hl)
  refine ⟨⟨h.create.requests, fun k w' hk => ?_⟩, fun k w' hk => ?_, fun k hk => ?_, h.workers⟩
  · have hne : k ≠ id := by rintro rfl; exact hnw (mem_of_lookup_eq_some hk)
    exact (h.create.workers k w' hk).frame (hj k hne)
  · rcases lookup_insert_eq_some.1 hk with ⟨rfl, rfl⟩ | ⟨hne, hk⟩
    exacts [hw, (h.idx k w' hk).frame (hj k hne)]
  · exact h.idxFresh k ((mem_insert_of_lookup hl).1 hk)

theorem step (h : JobsInv s) {a : JobsAction} (hs : jobsStep s a = some s') : JobsInv s' := by
  cases a with
  | liveAttrs a =>
    simp only [jobsStep] at hs
    split_ifs at hs with hd
    obtain ⟨t, ht, rfl⟩ := Option.map_eq_some'.1 hs
    have hf := createStep_frame h.create ht
    refine ⟨by simpa using h.create.step ht, fun id w hw => ?_, fun id hi hr => ?_, fun id hw => ?_⟩
    · simp only [JobsSys.withCreateSys_idxWorkers, JobsSys.withCreateSys_jobs] at hw ⊢
      exact (h.idx id w hw).frame (hf.jobs id (h.not_mem_workers (mem_of_lookup_eq_some hw)))
    · simp only [JobsSys.withCreateSys_idxWorkers, JobsSys.withCreateSys_requests] at hi hr
      rcases (hf.requests id).1 hr with hr | hr
      · exact h.idxFresh id hi hr
      · exact hd (by simp [hr, hi])
    · simp only [JobsSys.withCreateSys_workers, JobsSys.withCreateSys_requests] at hw ⊢
      exact (hf.requests id).2 (.inl ((hf.workers id hw).elim (h.workers id) fun hr => hr))
  | updateIndexes corpusID arg env loadInfoError ansError now =>
    simp only [jobsStep] at hs
    split at hs
    · cases hs; exact h
    · rename_i status maxColumns hc
      split_ifs at hs with hg; cases hs
      obtain ⟨htype, -, herr, -⟩ := updateIndexes_created hc
      have hnj : s.jobs.lookup status.id = none := AList.lookup_eq_none.2 fun hm => hg (.inr (.inl hm))
      refine ⟨h.create, fun id w hw => ?_, fun id hi => ?_, h.workers⟩
      · rcases lookup_insert_eq_some.1 hw with ⟨rfl, rfl⟩ | ⟨-, hw⟩
        exacts [⟨rfl, ⟨htype, herr⟩, fun _ => ⟨rfl, hnj⟩, fun he => by simp at he,
          fun hr => by simp at hr⟩, h.idx id w hw]
      · rcases (AList.mem_insert _).1 hi with rfl | hi
        exacts [fun hr => hg (.inl hr), h.idxFresh id hi]
  | idxRegister id =>
    simp only [jobsStep] at hs
    split at hs
    · rename_i w hl
      split_ifs at hs with hreg; cases hs
      have hw := h.idx id w hl
      obtain ⟨hp, -⟩ := hw.unregistered (by simpa using hreg)
      have hne := hw.not_exited hp
      refine h.idx_step hl (fun k hk => lookup_storeJob_ne (by simpa [GeneralJobInfo.getID, hw.keyed])) ?_
      refine ⟨hw.keyed, hw.status, fun h' => by simp at h', fun he => by simp [hne] at he, fun _ => ?_⟩
      have hk : (GeneralJobInfo.idxUpdate w.status).getID = id := hw.keyed
      refine ⟨w.status, by rw [← hk]; exact lookup_storeJob_self _ _, ⟨fun _ => rfl,
        fun h' => by simp [hp] at h', fun he => by simp [hne] at he⟩⟩
    · cases hs
  | idxPush id =>
    simp only [jobsStep] at hs
    split at hs
    · rename_i w hl
      split_ifs at hs with hg; cases hs
      have hw := h.idx id w hl
      have hne := hw.not_exited hg.2
      refine h.idx_step hl (fun k hk => lookup_storeJob_ne (by
        simpa [GeneralJobInfo.getID, IdxUpdateWorker.finalStatus, hw.keyed])) ?_
      refine ⟨hw.keyed, hw.status, fun h' => by simp [hg.1] at h', fun _ => rfl, fun _ => ?_⟩
      have hk : (GeneralJobInfo.idxUpdate w.finalStatus).getID = id := by
        simp [GeneralJobInfo.getID, IdxUpdateWorker.finalStatus, hw.keyed]
      refine ⟨w.finalStatus, by rw [← hk]; exact lookup_storeJob_self _ _,
        ⟨fun h' => by simp at h', fun _ _ => rfl, fun he => by simp [hne] at he⟩⟩
    · cases hs
  | idxExit id now =>
    simp only [jobsStep] at hs
    split at hs
    · rename_i w hl
      split_ifs at hs with hg; cases hs
      have hw := h.idx id w hl
      have hreg := hw.registered_of_pushed hg.1
      obtain ⟨r, hr, hst⟩ := hw.stored hreg
      have hrf : r = w.finalStatus := hst.final hg.1 hg.2
      refine h.idx_step hl (fun k hk => lookup_finishJob_ne hk) ?_
      refine ⟨hw.keyed, hw.status, fun h' => by simp [hreg] at h', fun _ => hg.1, fun _ => ?_⟩
      refine ⟨_, lookup_finishJob_self hr now, ⟨fun h' => by simp [hg.1] at h',
        fun _ h' => by simp at h', fun _ => ⟨now, by subst hrf; rfl⟩⟩⟩
    · cases hs

end JobsInv

/-- The liveattrs steps of a schedule of the job system. -/
def JobsAction.createActions : JobsAction → List CreateAction
  | .liveAttrs a => [a]
  | _ => []

/-- The `Create` system `c` sees the job system `s`: the same requests and workers, and the
registry of `s` without the index-update jobs. -/
structure Projects (s : JobsSys) (c : CreateSys) : Prop where
  jobs : RegistryView s.idxWorkers c.jobs s.jobs
  requests : c.requests = s.requests
  workers : c.workers = s.workers

theorem Projects.step {s s' : JobsSys} {c : CreateSys} (hi : JobsInv s) (hp : Projects s c)
    {a : JobsAction} (hs : jobsStep s a = some s') :
    ∃ c', createRun c a.createActions = some c' ∧ Projects s' c' := by
  have htype k j (hk : k ∈ s.idxWorkers) (hj : s.jobs.lookup k = some j) : j.getType ≠ jobType := by
    obtain ⟨w, hw⟩ := Option.isSome_iff_exists.1 (AList.lookup_isSome.2 hk)
    rw [(hi.idx k w hw).getType_eq hj]
    decide
  cases a with
  | liveAttrs a =>
    simp only [jobsStep] at hs
    split_ifs at hs with hd
    obtain ⟨t, ht, rfl⟩ := Option.map_eq_some'.1 hs
    obtain ⟨c', hc', hv, hr, hw⟩ := createStep_view hp.jobs hp.requests hp.workers htype
      (fun k hk => fun hi' => hi.not_mem_workers hi' hk) (fun k hk hi' => hd (by simp [hk, hi']))
      hi.create ht
    exact ⟨c', by simp [JobsAction.createActions, createRun, hc'], hv, hr, hw⟩
  | updateIndexes corpusID arg env loadInfoError ansError now =>
    simp only [jobsStep] at hs
    split at hs
    · cases hs; exact ⟨c, rfl, hp⟩
    · split_ifs at hs with hg; cases hs
      exact ⟨c, rfl, hp.jobs.hide (fun hm => hg (.inr (.inl hm))) _, hp.requests, hp.workers⟩
  | idxRegister id | idxPush id | idxExit id now =>
    simp only [jobsStep] at hs
    split at hs
    · rename_i w hl
      have hid : id ∈ s.idxWorkers := mem_of_lookup_eq_some hl
      split_ifs at hs; cases hs
      refine ⟨c, rfl, (hp.jobs.update_idx hid _).write_hidden
        ((mem_insert_of_lookup hl).2 hid) ?_, hp.requests, hp.workers⟩
      first
        | exact fun k hk => lookup_storeJob_ne (by simpa [GeneralJobInfo.getID,
            IdxUpdateWorker.finalStatus, (hi.idx id w hl).keyed] using hk)
        | exact fun k hk => lookup_finishJob_ne hk
    · cases hs

theorem createRun_append (c : CreateSys) (as bs : List CreateAction) :
    createRun c (as ++ bs) = (createRun c as).bind (createRun · bs) := by
  induction as generalizing c with
  | nil => rfl
  | cons a as ih =>
    simp only [List.cons_append, createRun]
    cases createStep c a <;> simp [ih]

/-- The index-update jobs do not disturb the liveattrs jobs: the liveattrs steps of every
schedule of the job system, run alone on the `Create` system from the same registry, reach
the same requests and workers, and the registry of the job system without its index-update
jobs. -/
theorem jobsRun_projects {jobs₀ : GoMap GeneralJobInfo} {acts : List JobsAction} {s : JobsSys}
    (hr : jobsRun (.init jobs₀) acts = some s) :
    ∃ c, createRun (.init jobs₀) (acts.flatMap JobsAction.createActions) = some c ∧ Projects s c := by
  suffices ∀ (acts : List JobsAction) (s₀ : JobsSys) (c₀ : CreateSys) (pre : List CreateAction),
      JobsInv s₀ → Projects s₀ c₀ → createRun (.init jobs₀) pre = some c₀ →
      jobsRun s₀ acts = some s →
      ∃ c, createRun (.init jobs₀) (pre ++ acts.flatMap JobsAction.createActions) = some c ∧
        Projects s c from
    this acts _ _ [] (JobsInv.init jobs₀) ⟨fun _ => by simp [JobsSys.init, CreateSys.init], rfl, rfl⟩ rfl hr
  intro acts
  induction acts with
  | nil =>
    intro s₀ c₀ pre _ hp hc hr
    cases hr
    exact ⟨c₀, by simpa using hc, hp⟩
  | cons a as ih =>
    intro s₀ c₀ pre hi hp hc hr
    obtain ⟨s₁, hs, hrest⟩ := Option.bind_eq_some.1 hr
    obtain ⟨c₁, hc₁, hp₁⟩ := hp.step hi hs
    have := ih s₁ c₁ (pre ++ a.createActions) (hi.step hs) hp₁
      (by rw [createRun_append, hc]; exact hc₁) hrest
    simpa [List.flatMap_cons, List.append_assoc] using this

/-- An index-update job interleaved with a liveattrs request for the same corpus: the
liveattrs steps alone reach the same liveattrs state. -/
theorem jobsRun_projects_interleaved :
    let acts : List JobsAction :=
      [.updateIndexes "c" "5" ⟨fun _ => .ok 5, .ok "u", 1, 1⟩ (some "load") none 7,
       .liveAttrs (.request "a" "c" 1 {}), .idxRegister "u", .liveAttrs (.check "a"),
       .idxPush "u", .idxExit "u" 8]
    ∃ s, jobsRun (.init ∅) acts = some s ∧
      ∃ c, createRun (.init ∅) (acts.flatMap JobsAction.createActions) = some c ∧
        Projects s c :=
  ⟨_, rfl, jobsRun_projects rfl⟩

theorem jobsRun_inv {jobs₀ : GoMap GeneralJobInfo} {acts : List JobsAction} {s : JobsSys}
    (hr : jobsRun (.init jobs₀) acts = some s) : JobsInv s := by
  suffices ∀ (acts : List JobsAction) (s₀ : JobsSys), JobsInv s₀ → jobsRun s₀ acts = some s →
      JobsInv s from this acts _ (JobsInv.init jobs₀) hr
  intro acts
  induction acts with
  | nil => intro s₀ h hr; cases hr; exact h
  | cons a as ih =>
    intro s₀ h hr
    obtain ⟨s₁, hs, hrest⟩ := Option.bind_eq_some.1 hr
    exact ih s₁ (h.step hs) hrest

/-- In every interleaving of extraction and index-update jobs, an index-update worker that
has closed its channel has left its job in the registry finished, of the index-update
type and its corpus, with the error `db.UpdateIndexes` reported, or else the one of
`LoadInfo`; the job list shows it as failed exactly when one of the two calls failed. -/
theorem idxUpdate_job_finished_after_exit {jobs₀ : GoMap GeneralJobInfo} {s : JobsSys}
    (hs : JobsReachable jobs₀ s) {id : String} {w : IdxUpdateWorker}
    (hw : s.idxWorkers.lookup id = some w) (hex : w.exited = true) :
    ∃ r, s.jobs.lookup id = some (.idxUpdate r) ∧ r.finished = true ∧
      r.type = "liveattrs-idx-update" ∧ r.corpusID = w.status.corpusID ∧
      r.error = newJSONError (w.ansError <|> w.loadInfoError) ∧
      r.compactVersion.ok = (w.ansError.isNone && w.loadInfoError.isNone) := by
  obtain ⟨acts, hr⟩ := hs
  have hi := (jobsRun_inv hr).idx id w hw
  obtain ⟨r, hl, hst⟩ := hi.stored (hi.registered_of_pushed (hi.exited hex))
  obtain ⟨t, rfl⟩ := hst.finished hex
  have herr := idxFinalStatus_error _ hi.status.2 w.loadInfoError w.ansError w.now
  refine ⟨_, hl, rfl, ?_, ?_, herr, ?_⟩
  · simp [IdxUpdateWorker.finalStatus, hi.status.1]
  · simp [IdxUpdateWorker.finalStatus]
  · simp only [IdxUpdateJobInfo.compactVersion, IdxUpdateWorker.finalStatus,
      herr, newJSONError_isEmpty]
    cases w.ansError <;> cases w.loadInfoError <;> rfl

/-- The same interleaving, with a failing `LoadInfo`: once the index-update worker has
exited, its job is finished with the error of `LoadInfo`. -/
theorem idxUpdate_job_finished_after_load_failure :
    ∃ s w, JobsReachable ∅ s ∧ s.idxWorkers.lookup "u" = some w ∧ w.exited = true ∧
      ∃ r, s.jobs.lookup "u" = some (.idxUpdate r) ∧ r.finished = true ∧
        r.type = "liveattrs-idx-update" ∧ r.corpusID = w.status.corpusID ∧
        r.error = newJSONError (w.ansError <|> w.loadInfoError) ∧
        r.compactVersion.ok = (w.ansError.isNone && w.loadInfoError.isNone) := by
  have hs : JobsReachable ∅ _ :=
    ⟨[.updateIndexes "c" "5" ⟨fun _ => .ok 5, .ok "u", 1, 1⟩ (some "load") none 7,
      .liveAttrs (.request "a" "c" 1 {}), .idxRegister "u", .liveAttrs (.check "a"),
      .idxPush "u", .idxExit "u" 8], rfl⟩
  exact ⟨_, _, hs, rfl, rfl, idxUpdate_job_finished_after_exit hs rfl rfl⟩

end Masm
