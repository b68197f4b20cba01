import Masm.Proofs.CorpusInfo
import Masm.Spec.LAConfig

/-! The extraction configuration. `createLAConfig` succeeds exactly when the atom structure
resolves to an indexed structure and every merge attribute is `s.a`; its self-join columns
are then `s_a` in order, and the list of each structure is the registry's followed by the
merge attributes of the structure that are new to it, each once, in the order they first
occur. `Create` saves a regenerated configuration before it draws the job id and checks for
a running job, so a request that then fails with a conflict, a failed id or a failed start
leaves the regenerated configuration in the cache; a request whose configuration came from
the cache leaves the cache as it was. -/

namespace Masm

theorem except_bind_eq_ok {ε α β : Type} {x : Except ε α} {f : α → Except ε β} {b : β} :
    (x >>= f) = .ok b ↔ ∃ a, x = .ok a ∧ f a = .ok b := by
  cases x <;> simp [bind, Except.bind]

theorem resolveAtomStructure_eq_ok (structures : GoMap (List String))
    (atomStructure atom : String) :
    resolveAtomStructure structures atomStructure = .ok atom ↔
      (atomStructure ≠ "" ∧ atom = atomStructure) ∨
        (atomStructure = "" ∧ structures.keys = [atom]) := by
  unfold resolveAtomStructure
  split_ifs with h
  · rcases hk : structures.keys with _ | ⟨k, _ | ⟨k', ks⟩⟩ <;> simp [h, eq_comm]
  · simp [h, eq_comm]

theorem checkAtomExists_eq_ok (corpusInfo : Info) (atom : String) (u : Unit) :
    checkAtomExists corpusInfo atom = .ok u ↔ atom ∈ corpusInfo.indexedStructs := by
  unfold checkAtomExists
  split_ifs with h
  · exact iff_of_true rfl (by simpa using h)
  · exact iff_of_false nofun (by simpa using h)

section MergeAttrs

theorem mergeAttrsLoop_ok_iff (structures : GoMap (List String)) (mergeAttrs : List String) :
    (∃ r, mergeAttrsLoop structures mergeAttrs = .ok r) ↔
      ∀ m ∈ mergeAttrs, (goSplit m '.').length = 2 := by
  induction mergeAttrs generalizing structures with
  | nil => simp [mergeAttrsLoop]
  | cons argCol rest ih =>
    rw [mergeAttrsLoop]
    split
    · rename_i s a hs
      simp only [except_bind_eq_ok, List.mem_cons, forall_eq_or_imp, hs, List.length_cons,
        List.length_nil, true_and, ← ih (mergeAttrsStep structures s a)]
      exact ⟨fun ⟨_, r, h, _⟩ => ⟨r, h⟩, fun ⟨r, h⟩ => ⟨_, r, h, rfl⟩⟩
    · rename_i hs
      refine iff_of_false (by simp) fun h => ?_
      obtain ⟨s, a, he⟩ := List.length_eq_two.1 (h _ (List.mem_cons_self _ _))
      exact hs s a he

theorem mergeAttrsLoop_pairs (structures : GoMap (List String)) (mergeAttrs : List String)
    (pairs : List (String × String))
    (h : mergeAttrs.map (goSplit · '.') = pairs.map fun p => [p.1, p.2]) :
    mergeAttrsLoop structures mergeAttrs =
      .ok (pairs.map (fun p => p.1 ++ "_" ++ p.2),
        pairs.foldl (fun st p => mergeAttrsStep st p.1 p.2) structures) := by
  induction pairs generalizing mergeAttrs structures with
  | nil =>
    obtain rfl : mergeAttrs = [] := by simpa using h
    rfl
  | cons p ps ih =>
    cases mergeAttrs with
    | nil => simp at h
    | cons argCol rest =>
      simp only [List.map_cons, List.cons.injEq] at h
      simp only [mergeAttrsLoop, h.1, ih _ _ h.2]
      rfl

theorem joinMergeAttrs_ok_iff (structures : GoMap (List String)) (mergeAttrs : List String)
    (mergeFn : String) :
    (∃ r, joinMergeAttrs structures mergeAttrs mergeFn = .ok r) ↔
      ∀ m ∈ mergeAttrs, (goSplit m '.').length = 2 := by
  rw [joinMergeAttrs, ← mergeAttrsLoop_ok_iff structures]
  split_ifs with h
  · cases mergeAttrsLoop structures mergeAttrs <;> simp [Except.map]
  · simp only [not_not] at h
    subst h
    exact ⟨fun _ => ⟨_, rfl⟩, fun _ => ⟨_, rfl⟩⟩

theorem joinMergeAttrs_pairs (structures : GoMap (List String)) (mergeAttrs : List String)
    (mergeFn : String) (pairs : List (String × String))
    (h : mergeAttrs.map (goSplit · '.') = pairs.map fun p => [p.1, p.2]) :
    ∃ r, joinMergeAttrs structures mergeAttrs mergeFn = .ok r ∧
      r.1.argColumns = pairs.map (fun p => p.1 ++ "_" ++ p.2) ∧
      r.2 = pairs.foldl (fun st p => mergeAttrsStep st p.1 p.2) structures := by
  rw [joinMergeAttrs]
  split_ifs with hm
  · exact ⟨_, by rw [mergeAttrsLoop_pairs structures mergeAttrs pairs h]; rfl, rfl, rfl⟩
  · simp only [not_not] at hm
    subst hm
    obtain rfl : pairs = [] := by simpa using h.symm
    exact ⟨_, rfl, rfl, rfl⟩

/-- What the join does to one structure's list: `a` is appended unless it is there. -/
def appendNew (attrs : List String) (a : String) : List String :=
  if attrs.contains a then attrs else attrs ++ [a]

theorem mem_appendNew (L : List String) (a b : String) : a ∈ appendNew L b ↔ a ∈ L ∨ a = b := by
  unfold appendNew
  split_ifs with h
  · exact ⟨Or.inl, fun h' => h'.elim id fun e => e ▸ by simpa using h⟩
  · simp

theorem lookup_mergeAttrsStep (st : GoMap (List String)) (s' a s : String) :
    ((mergeAttrsStep st s' a).lookup s).getD [] =
      if s' = s then appendNew ((st.lookup s).getD []) a else (st.lookup s).getD [] := by
  by_cases hs : s' = s
  · subst hs
    cases hl : st.lookup s' <;> simp [mergeAttrsStep, hl, appendNew]
    split_ifs <;> simp [hl]
  · cases hl : st.lookup s' <;> simp [mergeAttrsStep, hl, AList.lookup_insert_ne (Ne.symm hs), hs]
    split_ifs <;> simp [AList.lookup_insert_ne (Ne.symm hs)]

theorem mem_mergeAttrsStep (st : GoMap (List String)) (s' a s : String) :
    s ∈ mergeAttrsStep st s' a ↔ s = s' ∨ s ∈ st := by
  cases hl : st.lookup s' with
  | none => simp [mergeAttrsStep, hl]
  | some attrs =>
    have hmem : s' ∈ st := AList.lookup_isSome.1 (by simp [hl])
    simp only [mergeAttrsStep, hl]
    split_ifs
    · exact ⟨Or.inr, by rintro (rfl | h); exacts [hmem, h]⟩
    · simp

variable (pairs : List (String × String))

theorem lookup_foldl_mergeAttrsStep (st : GoMap (List String)) (s : String) :
    ((pairs.foldl (fun st p => mergeAttrsStep st p.1 p.2) st).lookup s).getD [] =
      ((pairs.filter (·.1 = s)).map (·.2)).foldl appendNew ((st.lookup s).getD []) := by
  induction pairs generalizing st with
  | nil => rfl
  | cons p ps ih =>
    rw [List.foldl_cons, ih, lookup_mergeAttrsStep]
    by_cases hs : p.1 = s <;> simp [List.filter_cons, hs]

theorem mem_foldl_mergeAttrsStep (st : GoMap (List String)) (s : String) :
    s ∈ pairs.foldl (fun st p => mergeAttrsStep st p.1 p.2) st ↔ s ∈ st ∨ ∃ a, (s, a) ∈ pairs := by
  induction pairs generalizing st with
  | nil => simp
  | cons p ps ih =>
    obtain ⟨s', a'⟩ := p
    rw [List.foldl_cons, ih, mem_mergeAttrsStep]
    simp only [List.mem_cons, Prod.mk.injEq]
    constructor
    · rintro ((rfl | h) | ⟨a, h⟩)
      exacts [Or.inr ⟨a', .inl ⟨rfl, rfl⟩⟩, .inl h, .inr ⟨a, .inr h⟩]
    · rintro (h | ⟨a, ⟨rfl, rfl⟩ | h⟩)
      exacts [.inl (.inr h), .inl (.inl rfl), .inr ⟨a, h⟩]

theorem foldl_appendNew_loop (L₀ : List String) (as bs : List String) (hbs : ∀ b ∈ bs, b ∉ L₀) :
    as.foldl appendNew (L₀ ++ bs.reverse) = L₀ ++ List.eraseDups.loop (as.filter (· ∉ L₀)) bs := by
  induction as generalizing bs with
  | nil => rfl
  | cons a as ih =>
    rw [List.foldl_cons]
    by_cases ha : a ∈ L₀
    · rw [appendNew, if_pos (by simp [ha]), ih bs hbs, List.filter_cons_of_neg (by simpa using ha)]
    · rw [List.filter_cons_of_pos (by simpa using ha), List.eraseDups.loop]
      by_cases hb : a ∈ bs
      · rw [appendNew, if_pos (by simp [hb]), ih bs hbs]
        simp [List.elem_eq_mem, hb]
      · rw [appendNew, if_neg (by simp [ha, hb]), List.append_assoc, ← List.reverse_cons,
          ih (a :: bs) (by simpa [ha] using hbs)]
        simp [List.elem_eq_mem, hb]

theorem foldl_appendNew (L₀ as : List String) :
    as.foldl appendNew L₀ = L₀ ++ (as.filter (· ∉ L₀)).eraseDups := by
  simpa using foldl_appendNew_loop L₀ as [] (by simp)

theorem mem_foldl_appendNew (L₀ as : List String) (a : String) :
    a ∈ as.foldl appendNew L₀ ↔ a ∈ L₀ ∨ a ∈ as := by
  induction as generalizing L₀ with
  | nil => simp
  | cons b as ih => rw [List.foldl_cons, ih, mem_appendNew, List.mem_cons, or_assoc]

end MergeAttrs

section CreateLAConfig

variable (masmConf : LiveAttrsDBConf) (corpusInfo : Info) (corpusDBInfo : DBInfo)
  (importKey : String → String) (atomStructure bibIdAttr : String) (mergeAttrs : List String)
  (mergeFn : String)

theorem createLAConfig_eq_ok_iff :
    (∃ conf, createLAConfig masmConf corpusInfo corpusDBInfo importKey atomStructure bibIdAttr
        mergeAttrs mergeFn = .ok conf) ↔
      (∃ atom, resolveAtomStructure corpusInfo.registryConf.subcorpAttrs atomStructure = .ok atom ∧
        atom ∈ corpusInfo.indexedStructs) ∧
      ∃ r, joinMergeAttrs corpusInfo.registryConf.subcorpAttrs mergeAttrs mergeFn = .ok r := by
  simp only [createLAConfig, except_bind_eq_ok, checkAtomExists_eq_ok]
  constructor
  · rintro ⟨_, atom, ha, -, hmem, r, hr, -⟩
    exact ⟨⟨atom, ha, hmem⟩, r, hr⟩
  · rintro ⟨⟨atom, ha, hmem⟩, r, hr⟩
    exact ⟨_, atom, ha, (), hmem, r, hr, rfl⟩

theorem createLAConfig_join {conf : VTEConf}
    (h : createLAConfig masmConf corpusInfo corpusDBInfo importKey atomStructure bibIdAttr
      mergeAttrs mergeFn = .ok conf) :
    joinMergeAttrs corpusInfo.registryConf.subcorpAttrs mergeAttrs mergeFn =
      .ok (conf.selfJoin, conf.structures) := by
  simp only [createLAConfig, except_bind_eq_ok] at h
  obtain ⟨_, -, _, -, r, hr, h⟩ := h
  cases h
  exact hr

/-- `createLAConfig` succeeds iff the atom structure (the given one, or the only registry
structure) is indexed and every merge attribute is `s.a`. Then the self-join columns are the
attributes' `s_a` in order, and the list of a structure `s` is the registry's followed by the
merge attributes of `s` not in it, each once, in the order they first occur; so every
self-join column names an extracted attribute. -/
theorem createLAConfig_ok_iff_joins :
    ((∃ conf, createLAConfig masmConf corpusInfo corpusDBInfo importKey atomStructure bibIdAttr
        mergeAttrs mergeFn = .ok conf) ↔
      ((atomStructure ≠ "" ∧ atomStructure ∈ corpusInfo.indexedStructs) ∨
        (atomStructure = "" ∧ ∃ k, corpusInfo.registryConf.subcorpAttrs.keys = [k] ∧
          k ∈ corpusInfo.indexedStructs)) ∧
      ∀ m ∈ mergeAttrs, (goSplit m '.').length = 2) ∧
    ∀ (conf : VTEConf) (pairs : List (String × String)),
      createLAConfig masmConf corpusInfo corpusDBInfo importKey atomStructure bibIdAttr
        mergeAttrs mergeFn = .ok conf →
      mergeAttrs.map (goSplit · '.') = pairs.map (fun p => [p.1, p.2]) →
      conf.selfJoin.argColumns = pairs.map (fun p => p.1 ++ "_" ++ p.2) ∧
      (∀ s, (conf.structures.lookup s).getD [] =
          (corpusInfo.registryConf.subcorpAttrs.lookup s).getD [] ++
            (((pairs.filter (·.1 = s)).map (·.2)).filter
              (· ∉ (corpusInfo.registryConf.subcorpAttrs.lookup s).getD [])).eraseDups ∧
        (s ∈ conf.structures ↔
          s ∈ corpusInfo.registryConf.subcorpAttrs ∨ ∃ a, (s, a) ∈ pairs)) ∧
      ∀ p ∈ pairs, p.2 ∈ (conf.structures.lookup p.1).getD [] := by
  refine ⟨?_, fun conf pairs hconf hpairs => ?_⟩
  · rw [createLAConfig_eq_ok_iff, joinMergeAttrs_ok_iff]
    simp only [resolveAtomStructure_eq_ok, or_and_right, exists_or, and_assoc, exists_and_left,
      exists_eq_left]
  · obtain ⟨r, hr, hcols, hst⟩ := joinMergeAttrs_pairs corpusInfo.registryConf.subcorpAttrs
      mergeAttrs mergeFn pairs hpairs
    rw [createLAConfig_join masmConf corpusInfo corpusDBInfo importKey atomStructure bibIdAttr
      mergeAttrs mergeFn hconf, Except.ok.injEq] at hr
    subst hr
    dsimp only at hcols hst
    refine ⟨hcols, fun s => ?_, fun p hp => ?_⟩
    · rw [hst, lookup_foldl_mergeAttrsStep, foldl_appendNew, mem_foldl_mergeAttrsStep]
      exact ⟨rfl, Iff.rfl⟩
    · rw [hst, lookup_foldl_mergeAttrsStep]
      exact (mem_foldl_appendNew _ _ _).2
        (.inr (List.mem_map.2 ⟨p, List.mem_filter.2 ⟨hp, by simp⟩, rfl⟩))

end CreateLAConfig

end Masm
