import Masm.Spec.Worker

/-! The restart counter of a liveattrs job. `Create` starts a job at `NumRestarts = 0`;
every record its workers push copies `NumRestarts` from the worker's status, and closing
the update channel keeps it. So only `RestartLiveAttrsJob` moves the counter, by one, and
only while it is below `MaxNumRestarts`: a signed 64-bit increment below a bound does not
wrap, and the counter never passes the bound over any life of the job. -/

namespace Masm

theorem add_one_of_slt {n m : GoInt} (h : n.slt m = true) :
    (n + 1).toInt = n.toInt + 1 ∧ (n + 1).sle m = true := by
  have h1 : (1 : GoInt).toNat = 1 := rfl
  simp only [BitVec.slt, BitVec.sle, decide_eq_true_eq, BitVec.toInt_eq_toNat_cond,
    BitVec.toNat_add, h1] at *
  have := n.isLt
  have := m.isLt
  constructor <;> split_ifs at * <;> omega

section Restart

variable (maxNumRestarts : GoInt) (t₁ t₂ : JSONTime) (createData : LiveAttrsJobInfo → GoError)
  (jinfo : LiveAttrsJobInfo)

theorem restartLiveAttrsJob_refused (h : maxNumRestarts.sle jinfo.numRestarts = true) :
    (restartLiveAttrsJob maxNumRestarts t₁ t₂ createData jinfo).1 = jinfo := by
  simp [restartLiveAttrsJob, h]

theorem restartLiveAttrsJob_accepted (h : maxNumRestarts.sle jinfo.numRestarts = false) :
    let r := (restartLiveAttrsJob maxNumRestarts t₁ t₂ createData jinfo).1
    r.numRestarts.toInt = jinfo.numRestarts.toInt + 1 ∧ r.numRestarts.sle maxNumRestarts ∧
      r.id = jinfo.id ∧ r.corpusID = jinfo.corpusID ∧ r.args = jinfo.args := by
  have hlt : jinfo.numRestarts.slt maxNumRestarts = true := by
    rw [BitVec.sle_eq_not_slt] at h
    simpa using h
  simpa [restartLiveAttrsJob, h] using add_one_of_slt hlt

end Restart

/-- What holds of a job's life that `Create` started from `c`: the counter is within the
bound, the registry's record has the worker's counter, and the identity and the
arguments are `c`'s. -/
structure LifeInv (maxNumRestarts : GoInt) (c : LiveAttrsJobInfo) (l : JobLife) : Prop where
  bound : l.status.numRestarts.sle maxNumRestarts = true
  stored_numRestarts : l.stored.numRestarts = l.status.numRestarts
  status_id : l.status.id = c.id ∧ l.status.corpusID = c.corpusID ∧ l.status.args = c.args
  stored_id : l.stored.id = c.id ∧ l.stored.corpusID = c.corpusID ∧ l.stored.args = c.args

section Life

variable {maxNumRestarts : GoInt} {c : LiveAttrsJobInfo} {l l' : JobLife} {a : LifeAction}

theorem LifeInv.init (hmax : (0 : GoInt).sle maxNumRestarts = true) (hc : c.numRestarts = 0) :
    LifeInv maxNumRestarts c ⟨c, c⟩ :=
  ⟨by simpa [hc] using hmax, rfl, ⟨rfl, rfl, rfl⟩, ⟨rfl, rfl, rfl⟩⟩

theorem LifeInv.step (h : LifeInv maxNumRestarts c l) (hs : lifeStep maxNumRestarts l a = some l') :
    LifeInv maxNumRestarts c l' := by
  obtain ⟨hb, hn, hst, hsi, hsc, hsa⟩ := h
  cases a with
  | progress now upd => cases hs; exact ⟨hb, rfl, hst, hst⟩
  | post err => cases hs; exact ⟨hb, rfl, hst, hst⟩
  | finish now => cases hs; exact ⟨hb, hn, hst, hsi, hsc, hsa⟩
  | restart t₁ t₂ err =>
    simp only [lifeStep] at hs
    split_ifs at hs with hf
    · cases hs; exact ⟨hb, hn, hst, hsi, hsc, hsa⟩
    · cases hr : maxNumRestarts.sle l.stored.numRestarts
      · obtain ⟨-, hle, hid, hcid, hargs⟩ :=
          restartLiveAttrsJob_accepted maxNumRestarts t₁ t₂ (fun _ => err) l.stored hr
        split at hs
        · rename_i r hrs
          cases hs
          simp only [hrs] at hle hid hcid hargs
          have hc' := And.intro (hid.trans hsi) (And.intro (hcid.trans hsc) (hargs.trans hsa))
          exact ⟨hle, rfl, hc', hc'⟩
        · cases hs
      · simp [restartLiveAttrsJob, hr] at hs

theorem LifeInv.life (h : LifeInv maxNumRestarts c l) {acts : List LifeAction}
    (hl : life maxNumRestarts l acts = some l') : LifeInv maxNumRestarts c l' := by
  induction acts generalizing l with
  | nil => cases hl; exact h
  | cons a as ih =>
    obtain ⟨m, hm, hrest⟩ := Option.bind_eq_some.1 hl
    exact ih (h.step hm) hrest

theorem lifeStep_numRestarts (h : LifeInv maxNumRestarts c l)
    (hs : lifeStep maxNumRestarts l a = some l') (ha : ∀ t₁ t₂ e, a ≠ .restart t₁ t₂ e) :
    l'.stored.numRestarts = l.stored.numRestarts := by
  cases a with
  | progress now upd => cases hs; exact h.stored_numRestarts.symm
  | post err => cases hs; exact h.stored_numRestarts.symm
  | finish now => cases hs; rfl
  | restart t₁ t₂ err => exact absurd rfl (ha t₁ t₂ err)

end Life

/-- Over every life of a job that `Create` started (counter `0`), with any bound
`MaxNumRestarts ≥ 0`: the registry's record never has more restarts than the bound, only a
restart moves its counter, a restart the bound allows adds exactly one and keeps the id,
the corpus and the arguments, and a refused one leaves the record as it was. -/
theorem numRestarts_bounded_over_life (maxNumRestarts : GoInt)
    (hmax : (0 : GoInt).sle maxNumRestarts = true) (c : LiveAttrsJobInfo) (hc : c.numRestarts = 0)
    (acts : List LifeAction) (l : JobLife) (hl : life maxNumRestarts ⟨c, c⟩ acts = some l) :
    l.stored.numRestarts.sle maxNumRestarts = true ∧
    (∀ a l', lifeStep maxNumRestarts l a = some l' → (∀ t₁ t₂ e, a ≠ .restart t₁ t₂ e) →
      l'.stored.numRestarts = l.stored.numRestarts) ∧
    (∀ t₁ t₂ createData,
      let r := (restartLiveAttrsJob maxNumRestarts t₁ t₂ createData l.stored).1
      if maxNumRestarts.sle l.stored.numRestarts then r = l.stored
      else r.numRestarts.toInt = l.stored.numRestarts.toInt + 1 ∧ r.id = l.stored.id ∧
        r.corpusID = l.stored.corpusID ∧ r.args = l.stored.args) ∧
    l.stored.id = c.id ∧ l.stored.corpusID = c.corpusID ∧ l.stored.args = c.args := by
  have h := (LifeInv.init hmax hc).life hl
  refine ⟨h.stored_numRestarts ▸ h.bound, fun a l' hs ha => lifeStep_numRestarts h hs ha,
    fun t₁ t₂ cd => ?_, h.stored_id⟩
  split_ifs with hr
  · exact restartLiveAttrsJob_refused _ _ _ _ _ hr
  · obtain ⟨h1, -, h2⟩ := restartLiveAttrsJob_accepted maxNumRestarts t₁ t₂ cd l.stored
      (by simpa using hr)
    exact ⟨h1, h2⟩

/-- A job with one restart allowed: a progress record, then a restart at startup. -/
theorem numRestarts_bounded_over_life_one_restart :
    let c : LiveAttrsJobInfo := { id := "j" }
    let l : JobLife := ⟨{ c with type := jobType, start := 2, update := 3, numRestarts := 1 },
      { c with type := jobType, start := 2, update := 3, numRestarts := 1 }⟩
    (0 : GoInt).sle 1 = true ∧ life 1 ⟨c, c⟩ [.progress 1 {}, .restart 2 3 none] = some l ∧
      l.stored.numRestarts.sle 1 = true :=
  ⟨by decide, by decide,
    (numRestarts_bounded_over_life 1 (by decide) { id := "j" } rfl
      [.progress 1 {}, .restart 2 3 none] _ (by decide)).1⟩

end Masm
