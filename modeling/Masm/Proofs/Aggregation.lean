import Masm.Spec.Aggregation

/-! The accumulation of `getAttrValues`. When every column of every row lands on a listed
slot, the iteration never fails, the answer's position count is the sum over the rows, and
`tmpAns[k][v]` is the first contribution with key `k` and identity `v`, counting the sum
of the position counts of all such contributions: nothing is lost or counted twice. -/

namespace Masm

/-- `tmpAns[k][v]`, or `none` when either key is absent. -/
def lookup2 (t : GoMap (GoMap ListedValue)) (k v : String) : Option ListedValue :=
  (t.lookup k).bind (AList.lookup v)

/-- A stored entry, or the first contribution when there is none, with the position
counts of the contributions `m` added. -/
def mergeCount : Option ListedValue → List (String × ListedValue × GoInt) → Option ListedValue
  | some e, m => some { e with count := e.count + (m.map (·.2.2)).sum }
  | none, [] => none
  | none, c :: m => some { c.2.1 with count := c.2.2 + (m.map (·.2.2)).sum }

/-- The contributions with key `k` and identity `v`. -/
def matching (k v : String) (cs : List (String × ListedValue × GoInt)) :
    List (String × ListedValue × GoInt) :=
  cs.filter fun c => c.1 = k ∧ c.2.1.id = v

/-- `tmpAns` after the contributions `cs`, one after the other. -/
def tmpAnsAddAll (t : GoMap (GoMap ListedValue)) (cs : List (String × ListedValue × GoInt)) :
    GoMap (GoMap ListedValue) :=
  cs.foldl (fun t c => tmpAnsAdd t c.1 c.2.1 c.2.2) t

theorem tmpAnsAddAll_append (t : GoMap (GoMap ListedValue)) (a b : List (String × ListedValue × GoInt)) :
    tmpAnsAddAll t (a ++ b) = tmpAnsAddAll (tmpAnsAddAll t a) b :=
  List.foldl_append ..

theorem lookup2_tmpAnsAdd (t : GoMap (GoMap ListedValue)) (k : String) (a : ListedValue)
    (n : GoInt) (k' v : String) :
    lookup2 (tmpAnsAdd t k a n) k' v =
      if k = k' ∧ a.id = v then
        some ((lookup2 t k v).elim { a with count := n } fun c => { c with count := c.count + n })
      else lookup2 t k' v := by
  have hb : ∀ o : Option (GoMap ListedValue), o.bind (AList.lookup v) = (o.getD ∅).lookup v :=
    fun o => by cases o <;> rfl
  unfold tmpAnsAdd lookup2
  by_cases hk : k = k'
  · subst hk
    simp only [AList.lookup_insert, Option.bind_some, hb, true_and]
    generalize (t.lookup k).getD ∅ = inner
    by_cases hv : a.id = v
    · subst hv; cases h : inner.lookup a.id <;> simp [h]
    · cases h : inner.lookup a.id <;> simp [h, AList.lookup_insert_ne (Ne.symm hv), hv]
  · simp [AList.lookup_insert_ne (Ne.symm hk), hk]

theorem lookup2_tmpAnsAddAll (cs : List (String × ListedValue × GoInt))
    (t : GoMap (GoMap ListedValue)) (k v : String) :
    lookup2 (tmpAnsAddAll t cs) k v = mergeCount (lookup2 t k v) (matching k v cs) := by
  induction cs generalizing t with
  | nil => cases h : lookup2 t k v <;> simp [tmpAnsAddAll, mergeCount, matching, h]
  | cons c cs ih =>
    rw [tmpAnsAddAll, List.foldl_cons, ← tmpAnsAddAll, ih, lookup2_tmpAnsAdd]
    by_cases hc : c.1 = k ∧ c.2.1.id = v
    · obtain ⟨rfl, rfl⟩ := hc
      cases lookup2 t c.1 c.2.1.id <;> simp [mergeCount, matching, add_assoc]
    · simp only [hc, ite_false, matching, List.filter_cons, decide_eq_true_eq]

section Callback

variable (db : DbKeys) (shortenVal : String → Nat → String) (corpusInfo : DBInfo)

/-- What a column `e` of `row` contributes: its key, the entry it describes (identified by
the row's bibliography id on the label column, by its own value elsewhere), and the row's
position count. -/
def contribution (row : ResultRow) (e : Σ _ : String, String) : String × ListedValue × GoInt :=
  let k := db.exportKey e.1
  (k, { id := if k = corpusInfo.bibLabelAttr
                then (row.attrs.lookup (db.importKey corpusInfo.bibIDAttr)).getD "" else e.2
        shortLabel := shortenVal e.2 shortLabelMaxLength
        label := e.2
        grouping := 1 }, row.poscount)

/-- Every contribution of the rows, in the order the callback meets them. -/
def contributions (rows : List ResultRow) : List (String × ListedValue × GoInt) :=
  rows.flatMap fun row => row.attrs.entries.map (contribution db shortenVal corpusInfo row)

theorem rowAttrVal_eq_contribution {row : ResultRow} {e : Σ _ : String, String}
    (he : e ∈ row.attrs.entries) :
    rowAttrVal db shortenVal corpusInfo row (db.exportKey e.1) e.1 e.2 =
      (contribution db shortenVal corpusInfo row e).2.1 := by
  have hl : row.attrs.lookup e.1 = some e.2 := AList.mem_lookup_iff.2 he
  simp only [rowAttrVal, contribution, hl, Option.getD_some]

theorem foldlM_accumColumn (row : ResultRow) (es : List (Σ _ : String, String))
    (hes : ∀ e ∈ es, e ∈ row.attrs.entries) (st : IterState)
    (hlist : ∀ e ∈ es, ∃ vs, st.ans.attrValues.lookup (db.exportKey e.1) = some (.listed vs)) :
    es.foldlM (fun st e => accumColumn db shortenVal corpusInfo row st e.1 e.2) st =
      .ok { st with
        tmpAns := tmpAnsAddAll st.tmpAns (es.map (contribution db shortenVal corpusInfo row)) } := by
  induction es generalizing st with
  | nil => rfl
  | cons e es ih =>
    obtain ⟨vs, hvs⟩ := hlist e (List.mem_cons_self _ _)
    have hstep : accumColumn db shortenVal corpusInfo row st e.1 e.2 =
        .ok { st with tmpAns := tmpAnsAddAll st.tmpAns [contribution db shortenVal corpusInfo row e] } := by
      simp only [accumColumn, hvs,
        rowAttrVal_eq_contribution db shortenVal corpusInfo (hes e (List.mem_cons_self _ _))]
      rfl
    rw [List.foldlM_cons, hstep]
    exact ih (fun e' h => hes e' (List.mem_cons_of_mem _ h)) _
      (fun e' h => hlist e' (List.mem_cons_of_mem _ h))

theorem iterate_eq (rows : List ResultRow) (st : IterState)
    (hlist : ∀ row ∈ rows, ∀ dbKey ∈ row.attrs.keys,
      ∃ vs, st.ans.attrValues.lookup (db.exportKey dbKey) = some (.listed vs)) :
    iterate db shortenVal corpusInfo rows st =
      .ok { ans := { st.ans with poscount := st.ans.poscount + (rows.map ResultRow.poscount).sum },
            tmpAns := tmpAnsAddAll st.tmpAns (contributions db shortenVal corpusInfo rows) } := by
  induction rows generalizing st with
  | nil => simp [iterate, contributions, tmpAnsAddAll]; rfl
  | cons row rows ih =>
    have hrow := foldlM_accumColumn db shortenVal corpusInfo row row.attrs.entries (fun _ h => h)
      { st with ans := { st.ans with poscount := st.ans.poscount + row.poscount } }
      (fun e he => hlist row (List.mem_cons_self _ _) e.1 (List.mem_map_of_mem _ he))
    have hrest := ih ⟨{ st.ans with poscount := st.ans.poscount + row.poscount },
        tmpAnsAddAll st.tmpAns (row.attrs.entries.map (contribution db shortenVal corpusInfo row))⟩
      (fun r hr => hlist r (List.mem_cons_of_mem _ hr))
    simp only [iterate, List.foldlM_cons, iterCallback] at hrow hrest ⊢
    rw [hrow]
    refine hrest.trans ?_
    simp [contributions, tmpAnsAddAll_append, add_assoc]

/-- The accumulation of `getAttrValues` over any rows, for an answer that starts at
position count `0` and any slots on which every column of every row is listed. -/
theorem getAttrValues_accumulation (attrValues : GoMap AttrValue) (rows : List ResultRow)
    (hlist : ∀ row ∈ rows, ∀ dbKey ∈ row.attrs.keys,
      ∃ vs, attrValues.lookup (db.exportKey dbKey) = some (.listed vs)) :
    ∃ st, iterate db shortenVal corpusInfo rows ⟨{ attrValues }, ∅⟩ = .ok st ∧
      st.ans.poscount = (rows.map ResultRow.poscount).sum ∧
      ∀ k v, lookup2 st.tmpAns k v =
        let m := matching k v (contributions db shortenVal corpusInfo rows)
        m.head?.map fun c => { c.2.1 with count := (m.map (·.2.2)).sum } := by
  refine ⟨_, iterate_eq db shortenVal corpusInfo rows _ hlist, by simp, fun k v => ?_⟩
  rw [lookup2_tmpAnsAddAll]
  cases matching k v (contributions db shortenVal corpusInfo rows) <;> rfl

end Callback

/-- The spec's rows: attribute `a` valued `x`, `x` and `y` with position counts `3`, `2`
and `5`, which add up to `10` and give `x` a count of `5`. -/
theorem getAttrValues_accumulation_spec_rows :
    ∃ st, iterate ⟨id, id⟩ (fun s _ => s) {}
        [⟨AList.insert "a" "x" ∅, 3⟩, ⟨AList.insert "a" "x" ∅, 2⟩, ⟨AList.insert "a" "y" ∅, 5⟩]
        ⟨{ attrValues := AList.insert "a" (.listed []) ∅ }, ∅⟩ = .ok st ∧
      st.ans.poscount = 10 ∧ (lookup2 st.tmpAns "a" "x").map ListedValue.count = some 5 := by
  obtain ⟨st, hit, hpos, hmap⟩ := getAttrValues_accumulation ⟨id, id⟩ (fun s _ => s) {}
    (AList.insert "a" (.listed []) ∅)
    [⟨AList.insert "a" "x" ∅, 3⟩, ⟨AList.insert "a" "x" ∅, 2⟩, ⟨AList.insert "a" "y" ∅, 5⟩]
    (by simp; exact ⟨_, rfl⟩)
  exact ⟨st, hit, hpos.trans (by decide), by rw [hmap]; decide⟩

end Masm
