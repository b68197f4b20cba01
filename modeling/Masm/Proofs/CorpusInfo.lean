import Masm.Spec.CorpusInfo

/-! The parse of `SUBCORPATTRS` in `GetCorpusInfo`. An item of the form `s.a` appends `a`
to the attributes of `s`; an item without a `.`, which a bare structure name or an empty
item (a trailing or doubled `|` or `,`) is, splits into one part, and the loop reads
`split[1]` past its end: `GetCorpusInfo` panics instead of returning an `InfoError`. The
parse panics exactly when some item has no `.`. -/

namespace Masm

theorem goSplit_length (s : String) (sep : Char) :
    (goSplit s sep).length = s.toList.count sep + 1 := by
  rw [goSplit, List.length_map, List.splitOn]
  induction s.toList with
  | nil => rfl
  | cons c cs ih =>
    rw [List.splitOnP_cons, List.count_cons]
    split_ifs with h <;> simp_all

theorem subcorpAttrsInsert_of_not_mem (m : GoMap (List String)) {item : String}
    (h : '.' ∉ item.toList) :
    subcorpAttrsInsert m item = .panic "runtime error: index out of range [1] with length 1" := by
  have hl := goSplit_length item '.'
  rw [List.count_eq_zero_of_not_mem h] at hl
  rw [subcorpAttrsInsert]
  match goSplit item '.', hl with
  | [_], _ => rfl

theorem subcorpAttrsInsert_of_mem (m : GoMap (List String)) {item : String}
    (h : '.' ∈ item.toList) :
    ∃ s a, subcorpAttrsInsert m item = .ok (m.insert s ((m.lookup s).getD [] ++ [a])) := by
  have hl := goSplit_length item '.'
  have h1 := List.count_pos_iff.2 h
  rw [subcorpAttrsInsert]
  match goSplit item '.', hl with
  | s :: a :: _, _ => exact ⟨s, a, rfl⟩
  | [_], hl => simp only [List.length_singleton] at hl; omega

section Fold

variable (items : List String)

theorem foldlM_subcorpAttrsInsert_panic (acc : GoMap (List String))
    (h : ∃ item ∈ items, '.' ∉ item.toList) :
    items.foldlM subcorpAttrsInsert acc = .panic "runtime error: index out of range [1] with length 1" := by
  induction items generalizing acc with
  | nil => simp at h
  | cons item rest ih =>
    rw [List.foldlM_cons]
    by_cases hi : '.' ∈ item.toList
    · obtain ⟨s, a, hs⟩ := subcorpAttrsInsert_of_mem acc hi
      obtain ⟨i, hmem, hni⟩ := h
      rw [hs, GoResult.ok_bind]
      rcases List.mem_cons.1 hmem with rfl | hr
      exacts [absurd hi hni, ih _ ⟨i, hr, hni⟩]
    · rw [subcorpAttrsInsert_of_not_mem acc hi, GoResult.panic_bind]

theorem foldlM_subcorpAttrsInsert_ok (acc : GoMap (List String))
    (h : ∀ item ∈ items, '.' ∈ item.toList) :
    ∃ m, items.foldlM subcorpAttrsInsert acc = .ok m := by
  induction items generalizing acc with
  | nil => exact ⟨acc, rfl⟩
  | cons item rest ih =>
    obtain ⟨s, a, hs⟩ := subcorpAttrsInsert_of_mem acc (h item (List.mem_cons_self _ _))
    rw [List.foldlM_cons, hs, GoResult.ok_bind]
    exact ih _ fun i hi => h i (List.mem_cons_of_mem _ hi)

end Fold

theorem parseSubcorpAttrs_eq (v : String) :
    parseSubcorpAttrs v = (subcorpAttrsItems v).foldlM subcorpAttrsInsert ∅ := by
  rw [parseSubcorpAttrs, subcorpAttrsItems]
  generalize (∅ : GoMap (List String)) = acc
  induction goSplit v '|' generalizing acc with
  | nil => rfl
  | cons p ps ih => simp only [List.foldlM_cons, List.flatMap_cons, List.foldlM_append, ih]

theorem parseSubcorpAttrs_eq_panic_iff (v msg : String) :
    parseSubcorpAttrs v = .panic msg ↔ msg = "runtime error: index out of range [1] with length 1" ∧
      ∃ item ∈ subcorpAttrsItems v, '.' ∉ item.toList := by
  rw [parseSubcorpAttrs_eq]
  by_cases hbad : ∃ item ∈ subcorpAttrsItems v, '.' ∉ item.toList
  · rw [foldlM_subcorpAttrsInsert_panic _ _ hbad]
    exact ⟨fun h => ⟨(GoResult.panic.inj h).symm, hbad⟩, fun h => h.1 ▸ rfl⟩
  · obtain ⟨m, hm⟩ := foldlM_subcorpAttrsInsert_ok _ ∅ (by simpa using hbad)
    exact iff_of_false (by simp [hm]) fun h => hbad h.2

/-- `GetCorpusInfo` panics exactly when the encoding and a non-empty `SUBCORPATTRS` are read
and an item of it has no `.`; the panic is the out-of-range read of `split[1]`. -/
theorem getCorpusInfo_eq_panic_iff (corpusID : String) (getCorpusConf : String → Except String String)
    (bindValueToPath : String → Except String FileMappedValue) (msg : String) :
    getCorpusInfo corpusID getCorpusConf bindValueToPath = .panic msg ↔
      msg = "runtime error: index out of range [1] with length 1" ∧
      (∃ encoding, getCorpusConf "ENCODING" = .ok encoding) ∧
      ∃ v, getCorpusConf "SUBCORPATTRS" = .ok v ∧ v ≠ "" ∧
        ∃ item ∈ subcorpAttrsItems v, '.' ∉ item.toList := by
  simp only [getCorpusInfo, GoResult.bind_eq_panic, infoError_ne_panic, infoError_eq_ok, false_or,
    ite_eq_iff, GoResult.ok_bind, GoResult.pure_eq, reduceCtorEq, and_false, exists_false, or_false,
    parseSubcorpAttrs_eq_panic_iff]
  constructor
  · rintro ⟨encoding, hE, v, hS, hv, rfl, hbad⟩
    exact ⟨rfl, ⟨encoding, hE⟩, v, hS, hv, hbad⟩
  · rintro ⟨rfl, ⟨encoding, hE⟩, v, hS, hv, hbad⟩
    exact ⟨encoding, hE, v, hS, hv, rfl, hbad⟩

/-- A bare structure name, and an empty item after a trailing `|`, make `GetCorpusInfo`
panic where an `InfoError` was meant. -/
theorem getCorpusInfo_panics_on_item_without_dot :
    getCorpusInfo "c" (fun key => .ok (if key = "SUBCORPATTRS" then "doc" else ""))
        (fun v => .ok ⟨v, v⟩) = .panic "runtime error: index out of range [1] with length 1" ∧
    getCorpusInfo "c" (fun key => .ok (if key = "SUBCORPATTRS" then "doc.title|" else ""))
        (fun v => .ok ⟨v, v⟩) = .panic "runtime error: index out of range [1] with length 1" :=
  ⟨(getCorpusInfo_eq_panic_iff _ _ _ _).2 ⟨rfl, ⟨"", rfl⟩, "doc", rfl, by decide, "doc", by decide, by decide⟩,
    (getCorpusInfo_eq_panic_iff _ _ _ _).2
      ⟨rfl, ⟨"", rfl⟩, "doc.title|", rfl, by decide, "", by decide, by decide⟩⟩

end Masm
