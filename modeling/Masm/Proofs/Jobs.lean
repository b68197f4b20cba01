import Masm.Spec.Jobs

/-! The three loops of the `jobs` package over a map of jobs. A map in one iteration order
is an association list with its entries in that order, so each statement, made for every
list, holds for every map and every order. `FindUnfinishedJobOfType` finds a matching job
iff there is one; `FindJob` finds the job of the one key with the prefix and nothing when
no key or two keys have it; `clearOldJobs` keeps exactly the jobs started at most 168 hours
before the clock. -/

namespace Masm

section FindUnfinished

variable (data : GoMap GeneralJobInfo) (corpusID jobType : String)

theorem mem_values_iff {j : GeneralJobInfo} :
    j ∈ data.entries.map (·.2) ↔ ∃ k, data.lookup k = some j := by
  rw [List.mem_map]
  exact ⟨fun ⟨⟨k, v⟩, he, hj⟩ => ⟨k, hj ▸ AList.mem_lookup_iff.2 he⟩,
    fun ⟨k, hk⟩ => ⟨⟨k, j⟩, AList.mem_lookup_iff.1 hk, rfl⟩⟩

/-- `FindUnfinishedJobOfType` returns `nil` iff no job of the map is of the corpus and the
type and unfinished, and otherwise one such job of the map. -/
theorem findUnfinishedJobOfType_nil_iff_none_matches :
    (findUnfinishedJobOfType data corpusID jobType = none ↔
      ∀ k j, data.lookup k = some j →
        ¬(j.getCorpus = corpusID ∧ j.getType = jobType ∧ j.isFinished = false)) ∧
    ∀ j, findUnfinishedJobOfType data corpusID jobType = some j →
      (∃ k, data.lookup k = some j) ∧
        j.getCorpus = corpusID ∧ j.getType = jobType ∧ j.isFinished = false := by
  refine ⟨?_, fun j hj => ⟨(mem_values_iff data).1 (List.mem_of_find?_eq_some hj), ?_⟩⟩
  · rw [findUnfinishedJobOfType, List.find?_eq_none]
    constructor
    · intro h k j hk
      simpa using h j ((mem_values_iff data).2 ⟨k, hk⟩)
    · intro h j hj
      obtain ⟨k, hk⟩ := (mem_values_iff data).1 hj
      simpa using h k j hk
  · simpa [and_assoc] using List.find?_some hj

end FindUnfinished

section FindJob

variable (jobID : String)

theorem findJobLoop_eq (ans : Option GeneralJobInfo) (es : List (Σ _ : String, GeneralJobInfo)) :
    findJobLoop jobID ans es =
      match ans, es.filter fun e => jobID.isPrefixOf e.1 with
      | ans, [] => ans
      | none, [e] => some e.2
      | _, _ => none := by
  induction es generalizing ans with
  | nil => cases ans <;> rfl
  | cons e es ih =>
    obtain ⟨ident, job⟩ := e
    by_cases hp : jobID.isPrefixOf ident
    · cases ans
      · simp only [findJobLoop, hp, ite_true, Option.isSome_none, Bool.false_eq_true, ite_false,
          List.filter_cons, ih]
        cases es.filter fun e => jobID.isPrefixOf e.1 <;> rfl
      · simp only [findJobLoop, hp, ite_true, Option.isSome_some, List.filter_cons]
    · simp only [findJobLoop, hp, List.filter_cons, Bool.false_eq_true, ite_false, ih]

variable (m : GoMap GeneralJobInfo)

theorem filter_prefix_entries :
    (∀ e ∈ m.entries.filter (fun e => jobID.isPrefixOf e.1),
      m.lookup e.1 = some e.2 ∧ jobID.isPrefixOf e.1 = true) ∧
    ((m.entries.filter fun e => jobID.isPrefixOf e.1).map (·.1)).Nodup :=
  ⟨fun e he => by
    rw [List.mem_filter] at he
    exact ⟨AList.mem_lookup_iff.2 he.1, he.2⟩,
   m.nodupKeys.sublist (List.filter_sublist _)⟩

/-- `FindJob` returns `m[k]` when `k` is the only key with the prefix, and `nil` when no
key or at least two keys have it. -/
theorem findJob_unique_prefix :
    (∀ k, k ∈ m → jobID.isPrefixOf k = true →
      (∀ k', k' ∈ m → jobID.isPrefixOf k' = true → k' = k) → findJob m jobID = m.lookup k) ∧
    ((∀ k, k ∈ m → jobID.isPrefixOf k = false) → findJob m jobID = none) ∧
    (∀ k₁ k₂, k₁ ∈ m → k₂ ∈ m → k₁ ≠ k₂ → jobID.isPrefixOf k₁ = true →
      jobID.isPrefixOf k₂ = true → findJob m jobID = none) := by
  have hin : ∀ k, k ∈ m → jobID.isPrefixOf k = true → ∃ j, m.lookup k = some j ∧
      (⟨k, j⟩ : Σ _ : String, GeneralJobInfo) ∈ m.entries.filter fun e => jobID.isPrefixOf e.1 :=
    fun k hk hp => by
      obtain ⟨j, hj⟩ := Option.isSome_iff_exists.1 (AList.lookup_isSome.2 hk)
      exact ⟨j, hj, List.mem_filter.2 ⟨AList.mem_lookup_iff.1 hj, hp⟩⟩
  obtain ⟨hent, hnodup⟩ := filter_prefix_entries jobID m
  rw [findJob, findJobLoop_eq]
  generalize m.entries.filter (fun e => jobID.isPrefixOf e.1) = F at hin hent hnodup
  refine ⟨fun k hk hp huniq => ?_, fun hnone => ?_, fun k₁ k₂ h₁ h₂ hne hp₁ hp₂ => ?_⟩
  · obtain ⟨j, hj, hkF⟩ := hin k hk hp
    match F, hkF, hent, hnodup with
    | [e], _, hent, _ =>
      have he := hent e (List.mem_singleton_self _)
      have hek : e.1 = k := huniq _ (AList.lookup_isSome.1 (by simp [he.1])) he.2
      rw [← hek, he.1]
    | e :: e' :: _, _, hent, hnodup =>
      have he := hent e (List.mem_cons_self _ _)
      have he' := hent e' (List.mem_cons_of_mem _ (List.mem_cons_self _ _))
      have hk₁ := huniq _ (AList.lookup_isSome.1 (by simp [he.1])) he.2
      have hk₂ := huniq _ (AList.lookup_isSome.1 (by simp [he'.1])) he'.2
      simp [hk₁, hk₂] at hnodup
  · cases F with
    | nil => rfl
    | cons e _ =>
      have he := hent e (List.mem_cons_self _ _)
      have hfalse := hnone e.1 (AList.lookup_isSome.1 (by simp [he.1]))
      exact absurd (hfalse.symm.trans he.2) Bool.false_ne_true
  · obtain ⟨j₁, -, hF₁⟩ := hin k₁ h₁ hp₁
    obtain ⟨j₂, -, hF₂⟩ := hin k₂ h₂ hp₂
    match F, hF₁, hF₂ with
    | [_], hF₁, hF₂ =>
      simp only [List.mem_singleton] at hF₁ hF₂
      exact absurd (congrArg Sigma.fst (hF₁.trans hF₂.symm)) hne
    | _ :: _ :: _, _, _ => rfl

end FindJob

section ClearOldJobs

variable (curr : JSONTime)

theorem lookup_clearOldJobsLoop (data : GoMap GeneralJobInfo)
    (es : List (Σ _ : String, GeneralJobInfo)) (k : String) :
    (clearOldJobsLoop curr data es).lookup k =
      if ∃ e ∈ es, e.1 = k ∧ timeSub curr e.2.getStartDT > 168 * 3600 * 1000000000 then none
      else data.lookup k := by
  induction es generalizing data with
  | nil => simp [clearOldJobsLoop]
  | cons e es ih =>
    obtain ⟨k', v'⟩ := e
    rw [clearOldJobsLoop, ih]
    simp only [List.mem_cons, or_and_right, exists_or, exists_eq_left]
    by_cases hold : timeSub curr v'.getStartDT > 168 * 3600 * 1000000000
    · rw [if_pos hold]
      by_cases hk : k' = k
      · subst hk
        rw [AList.lookup_erase, ite_self, if_pos (Or.inl ⟨rfl, hold⟩)]
      · rw [AList.lookup_erase_ne (Ne.symm hk)]
        simp only [hk, false_and, false_or]
    · rw [if_neg hold]
      simp only [hold, and_false, false_or]

/-- Whatever the iteration order, and whether the jobs are finished or not, `clearOldJobs`
keeps exactly the jobs with `curr.Sub(start) ≤ 168 h`. -/
theorem clearOldJobs_keeps_recent (data : GoMap GeneralJobInfo) (k : String) :
    (clearOldJobs data curr).lookup k =
      (data.lookup k).filter fun v => timeSub curr v.getStartDT ≤ 168 * 3600 * 1000000000 := by
  rw [clearOldJobs, lookup_clearOldJobsLoop]
  generalize (168 * 3600 * 1000000000 : Int) = c
  cases h : data.lookup k with
  | none => simp
  | some v =>
    have hkey : ∀ e ∈ data.entries, e.1 = k → e.2 = v := fun e he hek => by
      rw [← AList.mem_lookup_iff, hek, h] at he
      exact (Option.some.inj he).symm
    have hold : (∃ e ∈ data.entries, e.1 = k ∧ timeSub curr e.2.getStartDT > c) ↔
        timeSub curr v.getStartDT > c :=
      ⟨fun ⟨e, he, hek, ho⟩ => hkey e he hek ▸ ho,
        fun ho => ⟨⟨k, v⟩, AList.mem_lookup_iff.1 h, rfl, ho⟩⟩
    by_cases ho : timeSub curr v.getStartDT > c
    · simp [hold, ho, Option.filter, not_le.2 ho]
    · simp [hold, ho, Option.filter, le_of_not_lt ho]

end ClearOldJobs

end Masm
