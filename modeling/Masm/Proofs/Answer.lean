import Masm.Spec.Query
import Masm.Proofs.Aggregation
import Masm.Proofs.GroupBib

/-! The answer `getAttrValues` builds before the bibliography grouping and the export. The
iteration starts from an empty list under every searched attribute; when every column of
every row exports to one of them, it succeeds, and moving `tmpAns` into the answer lists
under each searched attribute exactly the entries collected for it, one per value identity,
each counting the position counts of all the rows with that value, and nothing under any
other key. -/

namespace Masm

section Move

@[simp] theorem addListedValue_poscount (ans : QueryAns) (k : String) (c : ListedValue) :
    (ans.addListedValue k c).poscount = ans.poscount := by
  unfold QueryAns.addListedValue; split <;> rfl

theorem foldl_addListedValue {k : String} (es : List (Σ _ : String, ListedValue)) :
    ∀ {ans : QueryAns} {vs : List ListedValue}, ans.attrValues.lookup k = some (.listed vs) →
      let a := es.foldl (fun a c => a.addListedValue k c.2) ans
      a.poscount = ans.poscount ∧ ∀ k', a.attrValues.lookup k' =
        if k' = k then some (.listed (vs ++ es.map (·.2))) else ans.attrValues.lookup k' := by
  induction es with
  | nil =>
    intro ans vs h
    refine ⟨rfl, fun k' => ?_⟩
    split_ifs with hk
    · subst hk; simp [h]
    · rfl
  | cons e es ih =>
    intro ans vs h
    have hstep : (ans.addListedValue k e.2).attrValues =
        ans.attrValues.insert k (.listed (vs ++ [e.2])) := by
      simp [QueryAns.addListedValue, h]
    obtain ⟨hp, hl⟩ := ih (by rw [hstep]; exact AList.lookup_insert _ :
      (ans.addListedValue k e.2).attrValues.lookup k = some (.listed (vs ++ [e.2])))
    refine ⟨by simpa using hp, fun k' => ?_⟩
    simp only [List.foldl_cons, hl, hstep, List.map_cons, List.append_assoc, List.singleton_append]
    split_ifs with hk
    · rfl
    · exact AList.lookup_insert_ne hk

theorem foldl_move (l : List (Σ _ : String, GoMap ListedValue)) (hl : l.NodupKeys) :
    ∀ {ans : QueryAns}, (∀ e ∈ l, ans.attrValues.lookup e.1 = some (.listed [])) →
      let a := l.foldl (fun ans e => e.2.entries.foldl (fun ans c => ans.addListedValue e.1 c.2) ans) ans
      a.poscount = ans.poscount ∧ ∀ k, a.attrValues.lookup k =
        (l.dlookup k).elim (ans.attrValues.lookup k) fun m => some (.listed (m.entries.map (·.2))) := by
  induction l with
  | nil => intro ans _; exact ⟨rfl, fun _ => rfl⟩
  | cons e rest ih =>
    intro ans h
    obtain ⟨he, hrest⟩ := List.nodupKeys_cons.1 hl
    obtain ⟨hp₁, hl₁⟩ := foldl_addListedValue e.2.entries (h e (List.mem_cons_self _ _))
    have hne {e' : Σ _ : String, GoMap ListedValue} (h' : e' ∈ rest) : e'.1 ≠ e.1 :=
      fun hk => he (hk ▸ List.mem_keys_of_mem h')
    obtain ⟨hp, hk⟩ := ih hrest fun e' h' => by
      rw [hl₁, if_neg (hne h')]; exact h e' (List.mem_cons_of_mem _ h')
    refine ⟨hp.trans hp₁, fun k => ?_⟩
    rw [List.foldl_cons, hk, hl₁]
    by_cases hke : k = e.1
    · subst hke
      rw [List.dlookup_eq_none.2 he, List.dlookup_cons_eq]
      simp
    · rw [List.dlookup_cons_ne _ _ hke, if_neg hke]

theorem moveTmpAns_lookup {ans : QueryAns} {t : GoMap (GoMap ListedValue)}
    (h : ∀ k ∈ t, ans.attrValues.lookup k = some (.listed [])) (k : String) :
    (moveTmpAns ans t).poscount = ans.poscount ∧ (moveTmpAns ans t).attrValues.lookup k =
      (t.lookup k).elim (ans.attrValues.lookup k) fun m => some (.listed (m.entries.map (·.2))) :=
  let r := foldl_move t.entries t.nodupKeys fun e he => h e.1 (AList.mem_keys.2 (List.mem_keys_of_mem he))
  ⟨r.1, r.2 k⟩

end Move

theorem lookup_foldl_insert_listed (srch : List String) (m : GoMap AttrValue) (k : String) :
    (srch.foldl (fun m a => m.insert a (.listed [])) m).lookup k =
      if k ∈ srch then some (.listed []) else m.lookup k := by
  induction srch generalizing m with
  | nil => simp
  | cons a srch ih =>
    rw [List.foldl_cons, ih]
    by_cases hk : k = a
    · subst hk; simp
    · by_cases hs : k ∈ srch <;> simp [hs, hk, AList.lookup_insert_ne hk]

theorem lookup_initialAttrValues (srch : List String) (k : String) :
    (initialAttrValues srch).lookup k = if k ∈ srch then some (.listed []) else none := by
  rw [initialAttrValues, lookup_foldl_insert_listed]; rfl

/-- Every entry `tmpAns` collects is stored under its own identity. -/
def IdKeyed (t : GoMap (GoMap ListedValue)) : Prop :=
  ∀ k v x, lookup2 t k v = some x → x.id = v

theorem IdKeyed.tmpAnsAddAll {t : GoMap (GoMap ListedValue)} (h : IdKeyed t)
    (cs : List (String × ListedValue × GoInt)) : IdKeyed (tmpAnsAddAll t cs) := by
  induction cs generalizing t with
  | nil => exact h
  | cons c cs ih =>
    refine ih fun k v x hx => ?_
    rw [lookup2_tmpAnsAdd] at hx
    split_ifs at hx with hc
    · obtain ⟨-, rfl⟩ := hc
      cases hl : lookup2 t c.1 c.2.1.id <;> rw [hl] at hx <;> cases hx
      · rfl
      · simpa using h _ _ _ hl
    · exact h _ _ _ hx

theorem mem_tmpAnsAddAll {t : GoMap (GoMap ListedValue)} {k : String}
    (cs : List (String × ListedValue × GoInt)) (hk : k ∈ tmpAnsAddAll t cs) :
    k ∈ t ∨ ∃ c ∈ cs, c.1 = k := by
  induction cs generalizing t with
  | nil => exact .inl hk
  | cons c cs ih =>
    rcases ih hk with h | ⟨c', hc', rfl⟩
    · rcases (AList.mem_insert _).1 h with rfl | h
      exacts [.inr ⟨c, List.mem_cons_self _ _, rfl⟩, .inl h]
    · exact .inr ⟨c', List.mem_cons_of_mem _ hc', rfl⟩

/-- The collected entries of `tmpAns[k]`, as moving them lists them. -/
def collected (t : GoMap (GoMap ListedValue)) (k : String) : List ListedValue :=
  ((t.lookup k).map fun m => m.entries.map (·.2)).getD []

theorem collected_find? {t : GoMap (GoMap ListedValue)} (h : IdKeyed t) (k : String) :
    ((collected t k).map ListedValue.id).Nodup ∧
      ∀ v, (collected t k).find? (·.id = v) = lookup2 t k v := by
  cases hl : t.lookup k with
  | none => simp [collected, lookup2, hl]
  | some m =>
    have hid : ∀ e ∈ m.entries, e.2.id = e.1 := fun e he =>
      h k e.1 e.2 (by rw [lookup2, hl]; exact AList.mem_lookup_iff.2 he)
    refine ⟨?_, fun v => ?_⟩
    · simp only [collected, hl, Option.map_some', Option.getD_some, List.map_map]
      exact (congrArg List.Nodup (List.map_congr_left fun e he => hid e he)).mpr m.nodupKeys
    · simp only [collected, hl, Option.map_some', Option.getD_some, lookup2, Option.bind_some]
      exact find?_eq_dlookup ListedValue.id _ hid v

section Callback

variable (db : DbKeys) (shortenVal : String → Nat → String) (corpusInfo : DBInfo)

theorem mem_contributions {rows : List ResultRow} {c : String × ListedValue × GoInt}
    (hc : c ∈ contributions db shortenVal corpusInfo rows) :
    ∃ row ∈ rows, ∃ dbKey ∈ row.attrs.keys, c.1 = db.exportKey dbKey := by
  obtain ⟨row, hr, hc⟩ := List.mem_flatMap.1 hc
  obtain ⟨e, he, rfl⟩ := List.mem_map.1 hc
  exact ⟨row, hr, e.1, List.mem_keys_of_mem he, rfl⟩

/-- What an answer lists once the collected values are moved in: the rows' total position
count, under each searched attribute one entry per value identity (the first contribution
with that identity, counting the position counts of all of them), and nothing under any
other key. -/
structure ListsCollected (srch : List String) (rows : List ResultRow) (A : QueryAns) : Prop where
  poscount : A.poscount = (rows.map ResultRow.poscount).sum
  unsearched : ∀ k, k ∉ srch → A.attrValues.lookup k = none
  searched : ∀ k ∈ srch, ∃ L, A.attrValues.lookup k = some (.listed L) ∧
    (L.map ListedValue.id).Nodup ∧ ∀ v, L.find? (·.id = v) =
      let m := matching k v (contributions db shortenVal corpusInfo rows)
      m.head?.map fun c => { c.2.1 with count := (m.map (·.2.2)).sum }

theorem moveTmpAns_iterate (srch : List String) (rows : List ResultRow)
    (hlist : ∀ row ∈ rows, ∀ dbKey ∈ row.attrs.keys, db.exportKey dbKey ∈ srch) :
    ∃ st, iterate db shortenVal corpusInfo rows ⟨{ attrValues := initialAttrValues srch }, ∅⟩ = .ok st ∧
      ListsCollected db shortenVal corpusInfo srch rows (moveTmpAns st.ans st.tmpAns) := by
  have hslots : ∀ row ∈ rows, ∀ dbKey ∈ row.attrs.keys,
      ∃ vs, (initialAttrValues srch).lookup (db.exportKey dbKey) = some (.listed vs) :=
    fun row hr k hk => ⟨[], by rw [lookup_initialAttrValues, if_pos (hlist row hr k hk)]⟩
  refine ⟨_, iterate_eq db shortenVal corpusInfo rows _ hslots, ?_⟩
  dsimp only
  generalize ht : tmpAnsAddAll ∅ (contributions db shortenVal corpusInfo rows) = t
  -- every key of `tmpAns` is a searched attribute, which starts with an empty list
  have hmem : ∀ k ∈ t, k ∈ srch := fun k hk => by
    rcases mem_tmpAnsAddAll _ (ht ▸ hk) with h | ⟨c, hc, rfl⟩
    · simp at h
    · obtain ⟨row, hr, dbKey, hk, he⟩ := mem_contributions db shortenVal corpusInfo hc
      exact he ▸ hlist row hr dbKey hk
  have hmove := @moveTmpAns_lookup ⟨0 + (rows.map ResultRow.poscount).sum, initialAttrValues srch⟩
    t fun k hk => by rw [lookup_initialAttrValues, if_pos (hmem k hk)]
  refine ⟨by simpa using (hmove "").1, fun k hk => ?_, fun k hk => ?_⟩
  · rw [(hmove k).2, lookup_initialAttrValues, if_neg hk]
    cases hl : t.lookup k
    · rfl
    · exact absurd (hmem k (AList.lookup_isSome.1 (by rw [hl]; rfl))) hk
  · have hkeyed : IdKeyed t := ht ▸ IdKeyed.tmpAnsAddAll (fun _ _ _ h => by simp [lookup2] at h) _
    obtain ⟨hnd, hfind⟩ := collected_find? hkeyed k
    refine ⟨collected t k, ?_, hnd, fun v => ?_⟩
    · rw [(hmove k).2, lookup_initialAttrValues, if_pos hk, collected]
      cases t.lookup k <;> rfl
    · rw [hfind, ← ht, lookup2_tmpAnsAddAll]
      cases matching k v (contributions db shortenVal corpusInfo rows) <;> rfl

end Callback

section GetAttrValues

variable {env : AttrValuesEnv} {ci : CorpusDBInfo} {qry : Payload} {laConf : VTEConf}
  {srch expand : List String} {attrs : GoMap AttrQueryValue} {rows : List ResultRow}

theorem getAttrValues_eq_ok {st : IterState} (hc : env.laConf ci.name = .ok laConf)
    (ha : autocompleteAttrs env qry (initialSearchAttrs env ci laConf) = .ok (srch, expand, attrs))
    (hrows : env.dataRows ⟨ci, attrs, srch, qry.aligned, qry.autocompleteAttr,
      emptyValuePlaceholder⟩ = (rows, none))
    (hit : iterate env.keys env.shortenVal ci.toDBInfo rows
      ⟨{ attrValues := initialAttrValues srch }, ∅⟩ = .ok st) :
    getAttrValues env ci qry = (.ok (finishAttrValues env ci qry (env.keys.importKey ci.bibLabelAttr)
      qry.aligned (expandRangeAttrs env attrs expand) st), attrs) := by
  simp only [getAttrValues, hc, ha, hrows, hit]

/-- The answer `getAttrValues` hands to the export: when the configuration loads, the
autocomplete block gives the searched attributes, and every column of every row the data
iterator yields exports to one of them, `getAttrValues` succeeds and exports an answer that
lists, under each searched attribute, one entry per value identity counting the position
counts of all the rows with that value, and the rows' total position count; its
bibliography label is regrouped only when the corpus's `BibGroupDuplicates` is positive, and
the list size defaults to 30. -/
theorem getAttrValues_exports_collected (hc : env.laConf ci.name = .ok laConf)
    (ha : autocompleteAttrs env qry (initialSearchAttrs env ci laConf) = .ok (srch, expand, attrs))
    (hrows : env.dataRows ⟨ci, attrs, srch, qry.aligned, qry.autocompleteAttr,
      emptyValuePlaceholder⟩ = (rows, none))
    (hlist : ∀ row ∈ rows, ∀ dbKey ∈ row.attrs.keys, env.keys.exportKey dbKey ∈ srch) :
    ∃ A, ListsCollected env.keys env.shortenVal ci.toDBInfo srch rows A ∧
      (getAttrValues env ci qry).1 = .ok (env.exportAttrValues
        (if (0 : GoInt).slt ci.bibGroupDuplicates then groupBibItems A (env.keys.importKey ci.bibLabelAttr)
          else A)
        qry.aligned (expandRangeAttrs env attrs expand) ci.locale
        (if qry.maxAttrListSize = 0 then 30 else qry.maxAttrListSize)) := by
  obtain ⟨st, hit, hA⟩ := moveTmpAns_iterate env.keys env.shortenVal ci.toDBInfo srch rows hlist
  exact ⟨_, hA, by rw [getAttrValues_eq_ok hc ha hrows hit]; rfl⟩

/-- One row with value `x` of the configured attribute `a`: the exported answer lists `x`
with the row's position count `3`. -/
theorem getAttrValues_exports_collected_one_row :
    let env : AttrValuesEnv :=
      { laConf := fun _ => .ok {}, getSubcorpAttrs := fun _ => ["a"], keys := ⟨id, id⟩,
        shortenVal := fun s _ => s, getListingOf := fun _ _ => .ok [],
        attrIsRange := fun _ _ => false, dataRows := fun _ => ([⟨AList.insert "a" "x" ∅, 3⟩], none),
        exportAttrValues := fun a _ _ _ _ => a }
    ∃ A, ListsCollected env.keys env.shortenVal ({} : CorpusDBInfo).toDBInfo ["a"]
        [⟨AList.insert "a" "x" ∅, 3⟩] A ∧ (getAttrValues env {} {}).1 = .ok A := by
  intro env
  have hlist : ∀ row ∈ [(⟨AList.insert "a" "x" ∅, 3⟩ : ResultRow)], ∀ dbKey ∈ row.attrs.keys,
      env.keys.exportKey dbKey ∈ ["a"] := by
    intro row hr
    rw [List.mem_singleton.1 hr]
    decide
  obtain ⟨A, hA, h⟩ := @getAttrValues_exports_collected env {} {} {} ["a"] [] ∅ _ rfl rfl rfl hlist
  exact ⟨A, hA, h.trans rfl⟩

end GetAttrValues

end Masm
