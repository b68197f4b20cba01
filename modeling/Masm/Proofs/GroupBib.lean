import Masm.Spec.Aggregation
import Mathlib.Tactic.Ring

/-! What `groupBibItems` computes for every list of entries with grouping `1`, as
`getAttrValues` builds them. A label keeps the entry of its first occurrence; each later
occurrence doubles the stored count (`+= val.Count` adds the stored entry to itself),
raises the grouping by one and gives the entry the id `@label`. A label met `n` times thus
counts its first entry's count times `2^(n-1)`, not the sum of the counts. The list has
one entry per label, and the other keys of the answer are left alone. -/

namespace Masm

/-- The entry stored for a label whose first occurrence is `x`, after `k` more. -/
def groupedEntry (x : ListedValue) (k : Nat) : ListedValue :=
  { x with id := if k = 0 then x.id else "@" ++ x.label, count := x.count * 2 ^ k,
           grouping := x.grouping + k }

@[simp] theorem groupedEntry_label (x : ListedValue) (k : Nat) :
    (groupedEntry x k).label = x.label := rfl

@[simp] theorem groupedEntry_zero (x : ListedValue) : groupedEntry x 0 = x := by
  cases x; simp [groupedEntry]

/-- The occurrences of the label `L`. -/
def occurrences (xs : List ListedValue) (L : String) : List ListedValue :=
  xs.filter (·.label = L)

/-- What the grouping map holds for `L` after the list `xs`. -/
def groupedAt (xs : List ListedValue) (L : String) : Option ListedValue :=
  (occurrences xs L).head?.map fun x => groupedEntry x ((occurrences xs L).length - 1)

section Step

variable {g : GoMap ListedValue} {item : ListedValue}

theorem lookup_groupStep_ne {L : String} (h : item.label ≠ L) :
    (groupStep g item).lookup L = g.lookup L := by
  cases hg : g.lookup item.label <;> simp only [groupStep, hg, AList.lookup_insert] <;>
    split_ifs <;> simp [AList.lookup_insert_ne (Ne.symm h)]

theorem lookup_groupStep_first (hn : g.lookup item.label = none) (h1 : item.grouping = 1) :
    (groupStep g item).lookup item.label = some (groupedEntry item 0) := by
  simp [groupStep, hn, h1]

theorem lookup_groupStep_next {x : ListedValue} {k : Nat}
    (hv : g.lookup item.label = some (groupedEntry x k)) (h1 : x.grouping = 1) :
    (groupStep g item).lookup item.label = some (groupedEntry x (k + 1)) := by
  have hcount : x.count * 2 ^ k + x.count * 2 ^ k = x.count * 2 ^ (k + 1) := by ring
  have hgr : x.grouping + k + 1 = x.grouping + ((k + 1 : Nat) : GoInt) := by push_cast; ring
  simp only [groupStep, hv, AList.lookup_insert]
  split_ifs with hlt
  · simp only [groupedEntry, AList.lookup_insert, Option.some.injEq, ListedValue.mk.injEq]
    exact ⟨by simp, trivial, trivial, hcount, hgr⟩
  · -- not marked now: the first later occurrence always marks, so the id was marked before
    obtain _ | k := k
    · simp [h1] at hlt
    · simp only [groupedEntry, AList.lookup_insert, Option.some.injEq, ListedValue.mk.injEq]
      exact ⟨by simp, trivial, trivial, hcount, hgr⟩

end Step

theorem lookup_foldl_groupStep_of_some (xs : List ListedValue) {g : GoMap ListedValue}
    {x : ListedValue} {k : Nat} (hv : g.lookup x.label = some (groupedEntry x k))
    (h1 : x.grouping = 1) :
    (xs.foldl groupStep g).lookup x.label =
      some (groupedEntry x (k + (occurrences xs x.label).length)) := by
  induction xs generalizing g k with
  | nil => simpa [occurrences] using hv
  | cons y ys ih =>
    by_cases hy : y.label = x.label
    · have hstep := lookup_groupStep_next (hy ▸ hv) h1
      rw [List.foldl_cons, ih (hy ▸ hstep)]
      simp [occurrences, List.filter_cons, hy, Nat.add_assoc, Nat.add_comm 1]
    · rw [List.foldl_cons, ih ((lookup_groupStep_ne hy).trans hv)]
      simp [occurrences, List.filter_cons, hy]

theorem lookup_foldl_groupStep (xs : List ListedValue) (hg : ∀ x ∈ xs, x.grouping = 1)
    {g : GoMap ListedValue} (L : String) (hn : g.lookup L = none) :
    (xs.foldl groupStep g).lookup L = groupedAt xs L := by
  induction xs generalizing g with
  | nil => simp [groupedAt, occurrences, hn]
  | cons y ys ih =>
    by_cases hy : y.label = L
    · subst hy
      have h1 := hg y (List.mem_cons_self _ _)
      rw [List.foldl_cons, lookup_foldl_groupStep_of_some ys (lookup_groupStep_first hn h1) h1]
      simp [groupedAt, occurrences, List.filter_cons]
    · rw [List.foldl_cons, ih (fun x hx => hg x (List.mem_cons_of_mem _ hx))
        ((lookup_groupStep_ne hy).trans hn)]
      simp [groupedAt, occurrences, List.filter_cons, hy]

theorem find?_eq_dlookup (f : ListedValue → String) (es : List (Σ _ : String, ListedValue))
    (hes : ∀ e ∈ es, f e.2 = e.1) (L : String) :
    (es.map (·.2)).find? (f · = L) = es.dlookup L := by
  induction es with
  | nil => rfl
  | cons e es ih =>
    obtain ⟨k, v⟩ := e
    have hk : f v = k := hes _ (List.mem_cons_self _ _)
    have ih' := ih fun e he => hes e (List.mem_cons_of_mem _ he)
    by_cases h : k = L
    · subst h; simp [hk]
    · simp [hk, h, ih', List.dlookup_cons_ne es ⟨k, v⟩ (Ne.symm h)]

theorem label_of_mem_foldl_groupStep (xs : List ListedValue) (hg : ∀ x ∈ xs, x.grouping = 1)
    {e : Σ _ : String, ListedValue} (he : e ∈ (xs.foldl groupStep ∅).entries) :
    e.2.label = e.1 := by
  have hl := lookup_foldl_groupStep xs hg e.1 (AList.lookup_empty _)
  rw [AList.mem_lookup_iff.2 he, groupedAt] at hl
  obtain ⟨x, hx, hxe⟩ := Option.map_eq_some'.1 hl.symm
  rw [← hxe, groupedEntry_label]
  simpa [occurrences] using (List.mem_filter.1 (List.mem_of_mem_head? hx)).2

/-- On a list whose entries have grouping `1`, `groupBibItems` lists one entry per label:
the label's first occurrence, doubled once for each later one. -/
theorem groupBibItems_listed (data : QueryAns) (bibLabel : String) (xs : List ListedValue)
    (hxs : data.attrValues.lookup bibLabel = some (.listed xs)) (hg : ∀ x ∈ xs, x.grouping = 1) :
    ∃ ys, (groupBibItems data bibLabel).attrValues.lookup bibLabel = some (.listed ys) ∧
      (ys.map ListedValue.label).Nodup ∧ ∀ L, ys.find? (·.label = L) = groupedAt xs L := by
  have hlab := fun e (he : e ∈ (xs.foldl groupStep ∅).entries) =>
    label_of_mem_foldl_groupStep xs hg he
  refine ⟨(xs.foldl groupStep ∅).entries.map (·.2), by simp [groupBibItems, hxs], ?_,
    fun L => ?_⟩
  · have hkeys : ((xs.foldl groupStep ∅).entries.map (·.2)).map ListedValue.label =
        (xs.foldl groupStep ∅).keys := by
      rw [List.map_map, AList.keys, List.keys]
      exact List.map_congr_left fun e he => hlab e he
    rw [hkeys]
    exact AList.keys_nodup _
  · rw [find?_eq_dlookup ListedValue.label _ hlab]
    exact lookup_foldl_groupStep xs hg L (AList.lookup_empty _)

/-- Two bibliography entries with one label and counts `1` and `2`: `groupBibItems` merges
them into an entry counting `2`, not `3`. -/
theorem groupBibItems_merge_doubles_count :
    let ans : QueryAns :=
      { attrValues := AList.insert "doc.title" (.listed
          [{ id := "a", label := "L", count := 1, grouping := 1 },
           { id := "b", label := "L", count := 2, grouping := 1 }]) ∅ }
    (groupBibItems ans "doc.title").attrValues.lookup "doc.title" =
      some (.listed [{ id := "@L", label := "L", count := 2, grouping := 2 }]) := by
  intro ans
  obtain ⟨ys, hys, hnd, hfind⟩ := groupBibItems_listed ans "doc.title" _ rfl (by decide)
  have hlabel : ∀ y ∈ ys, y.label = "L" := fun y hy => by
    by_contra hne
    have hnone : ys.find? (·.label = y.label) = none := by
      rw [hfind]
      simp [groupedAt, occurrences, Ne.symm hne]
    exact List.find?_eq_none.1 hnone y hy (by simp)
  have hL : ys.find? (·.label = "L") = some { id := "@L", label := "L", count := 2, grouping := 2 } := by
    rw [hfind]
    decide
  rw [hys]
  rcases ys with _ | ⟨y, _ | ⟨z, zs⟩⟩
  · simp at hL
  · simp [hlabel y (by simp)] at hL
    subst hL
    rfl
  · simp [hlabel y (by simp), hlabel z (by simp)] at hnd

end Masm
