import Masm.Spec.Query

/-! The query cache of `Query`. `Query` answers from the cache when it holds the request's
key and otherwise computes the answer as `AttrValAutocomplete` does. For queries without an
autocomplete attribute, over every sequence of requests from the empty cache, each served
under the database of its own time, `Query` replies as a memo table that is never
invalidated: a request gets the answer computed for the first earlier request with its key
that was answered, however the database has changed since, and the usage recorder receives
each key once: those the cache holds. An autocomplete query is different: `getAttrValues`
rewrites the shared `Attrs` map, so its answer is cached and reported under the rewritten
query, and the same request, repeated, misses the cache and is reported every time. -/

namespace Masm

section GetAttrValues

variable {env : AttrValuesEnv} {corpusInfo : CorpusDBInfo} {qry : Payload}

theorem autocompleteAttrs_of_empty (h : qry.autocompleteAttr = "") (srchAttrs : List String) :
    autocompleteAttrs env qry srchAttrs = .ok (srchAttrs, [], qry.attrs) := by
  simp [autocompleteAttrs, h]

theorem autocompleteAttrs_of_listing (h : qry.autocompleteAttr ≠ "") {v : String}
    {vs : List String} (hl : env.getListingOf qry.attrs qry.autocompleteAttr = .ok (v :: vs))
    (srchAttrs : List String) :
    autocompleteAttrs env qry srchAttrs =
      .ok (setAdd srchAttrs (env.keys.importKey qry.autocompleteAttr),
        [env.keys.importKey qry.autocompleteAttr],
        qry.attrs.insert qry.autocompleteAttr (.str ("%" ++ v ++ "%"))) := by
  simp only [autocompleteAttrs, if_pos h, hl]

theorem getAttrValues_snd {attrs : GoMap AttrQueryValue} {laConf : VTEConf}
    (hc : env.laConf corpusInfo.name = .ok laConf)
    (ha : ∀ srchAttrs, ∃ s e, autocompleteAttrs env qry srchAttrs = .ok (s, e, attrs)) :
    (getAttrValues env corpusInfo qry).2 = attrs := by
  obtain ⟨s, e, hs⟩ := ha (initialSearchAttrs env corpusInfo laConf)
  simp only [getAttrValues, hc, hs]
  split <;> (try split) <;> rfl

theorem getAttrValues_snd_of_empty (h : qry.autocompleteAttr = "") :
    (getAttrValues env corpusInfo qry).2 = qry.attrs := by
  cases hc : env.laConf corpusInfo.name with
  | error err => simp [getAttrValues, hc]
  | ok laConf => exact getAttrValues_snd hc fun s => ⟨s, [], autocompleteAttrs_of_empty h s⟩

theorem getAttrValues_snd_of_listing (h : qry.autocompleteAttr ≠ "") {v : String}
    {vs : List String} (hl : env.getListingOf qry.attrs qry.autocompleteAttr = .ok (v :: vs))
    {laConf : VTEConf} (hc : env.laConf corpusInfo.name = .ok laConf) :
    (getAttrValues env corpusInfo qry).2 =
      qry.attrs.insert qry.autocompleteAttr (.str ("%" ++ v ++ "%")) :=
  getAttrValues_snd hc fun s => ⟨_, _, autocompleteAttrs_of_listing h hl s⟩

end GetAttrValues

section Cache

variable {K : Type} [DecidableEq K] (normalize : Payload → K) (env : QueryEnv)

/-- The request carries no autocomplete attribute (or fails to decode). -/
def NoAutocomplete (body : Except String Payload) : Prop :=
  ∀ q, body = .ok q → q.autocompleteAttr = ""

/-- The answer of a reply, if it is one. -/
def QueryReply.answer? : QueryReply → Option QueryAns
  | .ok ans => some ans
  | _ => none

theorem query_cases (eqCache : EqCache K) (corpusID : String) {body : Except String Payload}
    (hac : NoAutocomplete body) :
    (∃ qry ci ans, body = .ok qry ∧ loadInfo (env.corpusRow corpusID) = .ok ci ∧
      eqCache.lookup (corpusID, normalize qry) = some ans ∧
      query normalize env eqCache corpusID body = (.ok ans, eqCache, none)) ∨
    (∃ qry ci ans, body = .ok qry ∧ loadInfo (env.corpusRow corpusID) = .ok ci ∧
      eqCache.lookup (corpusID, normalize qry) = none ∧
      (getAttrValues env.attrValues ci qry).1 = .ok ans ∧
      query normalize env eqCache corpusID body =
        (.ok ans, eqCache.insert (corpusID, normalize qry) ans, some ⟨corpusID, qry⟩)) ∨
    ((∀ qry ci, body = .ok qry → loadInfo (env.corpusRow corpusID) = .ok ci →
        eqCache.lookup (corpusID, normalize qry) = none) ∧
      (attrValAutocomplete env corpusID body).answer? = none ∧
      query normalize env eqCache corpusID body =
        (attrValAutocomplete env corpusID body, eqCache, none)) := by
  cases body with
  | error err => exact .inr (.inr ⟨fun _ _ h => (nomatch h), rfl, rfl⟩)
  | ok qry =>
    cases hl : loadInfo (env.corpusRow corpusID) with
    | error err =>
      exact .inr (.inr ⟨fun _ _ _ h => (nomatch h), by simp [attrValAutocomplete, hl, QueryReply.answer?],
        by simp [query, attrValAutocomplete, hl]⟩)
    | ok ci =>
      cases hc : eqCache.lookup (corpusID, normalize qry) with
      | some ans => exact .inl ⟨qry, ci, ans, rfl, rfl, hc, by simp [query, hl, hc]⟩
      | none =>
        have hsnd : (getAttrValues env.attrValues ci qry).2 = qry.attrs :=
          getAttrValues_snd_of_empty (hac qry rfl)
        rcases hg : getAttrValues env.attrValues ci qry with ⟨r, attrs⟩
        rw [hg] at hsnd
        subst hsnd
        cases r with
        | ok ans =>
          exact .inr (.inl ⟨qry, ci, ans, rfl, rfl, hc, by rw [hg], by simp [query, hl, hc, hg]⟩)
        | error _ | panic _ =>
          exact .inr (.inr ⟨fun _ _ h _ => by cases h; exact hc,
            by simp [attrValAutocomplete, hl, hg, QueryReply.answer?],
            by simp [query, attrValAutocomplete, hl, hc, hg]⟩)

end Cache

/-! The cache as the spec describes it: a memo table from a corpus and a normalised query to
an answer, kept for the life of the process and never invalidated. -/

section Memo

variable {K : Type} [DecidableEq K] (normalize : Payload → K)

/-- The reply `AttrValAutocomplete`, which has no cache, gives the request. -/
def QueryRequest.fresh (req : QueryRequest) : QueryReply :=
  attrValAutocomplete req.env req.corpusID req.body

/-- The cache key of a request whose body decodes. -/
def QueryRequest.key? (req : QueryRequest) : Option (String × K) :=
  match req.body with
  | .ok q => some (req.corpusID, normalize q)
  | .error _ => none

/-- What the memo table holds under `k` after the requests `past`: the answer given to the
first of them with key `k` that was answered. -/
def memoAnswer (past : List QueryRequest) (k : String × K) : Option QueryAns :=
  (past.filterMap fun p => if p.key? normalize = some k then p.fresh.answer? else none).head?

/-- The memo table's reply to `req` after `past`: for a request that decodes and whose corpus
loads, the answer it holds under the request's key, if any; otherwise the reply
`AttrValAutocomplete` gives now. -/
def memoReply (past : List QueryRequest) (req : QueryRequest) : QueryReply :=
  match req.body, loadInfo (req.env.corpusRow req.corpusID) with
  | .ok q, .ok _ =>
    match memoAnswer normalize past (req.corpusID, normalize q) with
    | some ans => .ok ans
    | none => req.fresh
  | _, _ => req.fresh

/-- The memo table's replies to requests served one after another, after `past`. -/
def memoReplies : List QueryRequest → List QueryRequest → List QueryReply
  | _, [] => []
  | past, req :: rest => memoReply normalize past req :: memoReplies (past ++ [req]) rest

variable {normalize}

theorem memoAnswer_append (past : List QueryRequest) (req : QueryRequest) (k : String × K) :
    memoAnswer normalize (past ++ [req]) k = (memoAnswer normalize past k).or
      (if req.key? normalize = some k then req.fresh.answer? else none) := by
  simp only [memoAnswer, List.filterMap_append, List.head?_append, List.filterMap_cons,
    List.filterMap_nil]
  cases (if req.key? normalize = some k then req.fresh.answer? else none) <;> rfl

theorem memoReply_of_none {past : List QueryRequest} {req : QueryRequest}
    (h : ∀ q ci, req.body = .ok q → loadInfo (req.env.corpusRow req.corpusID) = .ok ci →
      memoAnswer normalize past (req.corpusID, normalize q) = none) :
    memoReply normalize past req = req.fresh := by
  unfold memoReply
  split
  · rename_i q ci hq hl
    rw [h q ci hq hl]
  · rfl

theorem query_memo {past : List QueryRequest} {eqCache : EqCache K}
    (hc : ∀ k, eqCache.lookup k = memoAnswer normalize past k) (req : QueryRequest)
    (hac : NoAutocomplete req.body) :
    (query normalize req.env eqCache req.corpusID req.body).1 = memoReply normalize past req ∧
      ∀ k, (query normalize req.env eqCache req.corpusID req.body).2.1.lookup k =
        memoAnswer normalize (past ++ [req]) k := by
  rcases query_cases normalize req.env eqCache req.corpusID hac with
    ⟨qry, ci, ans, hb, hl, hhit, hq⟩ | ⟨qry, ci, ans, hb, hl, hmiss, hg, hq⟩ | ⟨hnone, hfa, hq⟩ <;>
    rw [hq]
  · have hkey : req.key? normalize = some (req.corpusID, normalize qry) := by
      simp [QueryRequest.key?, hb]
    refine ⟨by simp [memoReply, hb, hl, ← hc, hhit], fun k => ?_⟩
    rw [memoAnswer_append, ← hc, hkey]
    by_cases hk : (req.corpusID, normalize qry) = k
    · subst hk
      simp [hhit]
    · simp [hk]
  · have hkey : req.key? normalize = some (req.corpusID, normalize qry) := by
      simp [QueryRequest.key?, hb]
    have hfresh : req.fresh = .ok ans := by
      simp [QueryRequest.fresh, attrValAutocomplete, hb, hl, hg]
    refine ⟨?_, fun k => ?_⟩
    · rw [memoReply_of_none fun q c hq _ => ?_, hfresh]
      obtain rfl : qry = q := Except.ok.inj (hb.symm.trans hq)
      rw [← hc, hmiss]
    · rw [memoAnswer_append, ← hc, hkey, hfresh]
      by_cases hk : (req.corpusID, normalize qry) = k
      · subst hk
        simp [hmiss, QueryReply.answer?]
      · simp [AList.lookup_insert_ne (Ne.symm hk), hk]
  · have hfa : req.fresh.answer? = none := hfa
    refine ⟨(memoReply_of_none fun q c hq hl => (hc _).symm.trans (hnone q c hq hl)).symm,
      fun k => ?_⟩
    rw [memoAnswer_append, ← hc, hfa]
    split <;> simp

theorem queryRunAt_fst_memo {reqs : List QueryRequest} (hac : ∀ r ∈ reqs, NoAutocomplete r.body)
    {past : List QueryRequest} {eqCache : EqCache K}
    (hc : ∀ k, eqCache.lookup k = memoAnswer normalize past k) :
    (queryRunAt normalize eqCache reqs).1 = memoReplies normalize past reqs := by
  induction reqs generalizing past eqCache with
  | nil => rfl
  | cons req rest ih =>
    obtain ⟨h1, h2⟩ := query_memo hc req (hac req (List.mem_cons_self _ _))
    simp only [queryRunAt, memoReplies, h1, ih (fun r hr => hac r (List.mem_cons_of_mem _ hr)) h2]

variable (normalize) in
/-- The query cache is a memo table kept for the life of the process and never invalidated:
over every sequence of `Query` requests without an autocomplete attribute, each served under
the database and configurations of its own time, from the empty cache of a new process, a
request whose body decodes and whose corpus loads gets the answer `AttrValAutocomplete` gave,
under its own environment, to the first earlier request with the same corpus and normalised
query that it answered; when there is none, and for every other request, the reply is the
one `AttrValAutocomplete` gives now. -/
theorem queryRunAt_replies_eq_memoReplies {reqs : List QueryRequest}
    (hac : ∀ r ∈ reqs, NoAutocomplete r.body) :
    (queryRunAt normalize ∅ reqs).1 = memoReplies normalize [] reqs :=
  queryRunAt_fst_memo hac fun _ => rfl

/-- The same request twice, the database having changed in between: its rows count `3`
positions, then `5`. The second reply is the first one, which `AttrValAutocomplete` no
longer gives. -/
theorem queryRunAt_replies_eq_memoReplies_stale :
    let env₁ : QueryEnv :=
      { corpusRow := fun _ => .ok {}
        attrValues :=
          { laConf := fun _ => .ok {}, getSubcorpAttrs := fun _ => ["doc_id"], keys := ⟨id, id⟩,
            shortenVal := fun s _ => s, getListingOf := fun _ _ => .ok [],
            attrIsRange := fun _ _ => false, dataRows := fun _ => ([⟨∅, 3⟩], none),
            exportAttrValues := fun a _ _ _ _ => a } }
    let env₂ : QueryEnv :=
      { env₁ with attrValues := { env₁.attrValues with dataRows := fun _ => ([⟨∅, 5⟩], none) } }
    let reqs : List QueryRequest := [⟨env₁, "c", .ok {}⟩, ⟨env₂, "c", .ok {}⟩]
    (∀ r ∈ reqs, NoAutocomplete r.body) ∧
      (queryRunAt id ∅ reqs).1 = memoReplies id [] reqs ∧
      memoReplies id [] reqs =
        [attrValAutocomplete env₁ "c" (.ok {}), attrValAutocomplete env₁ "c" (.ok {})] ∧
      attrValAutocomplete env₁ "c" (.ok {}) ≠ attrValAutocomplete env₂ "c" (.ok {}) := by
  intro env₁ env₂ reqs
  have hac : ∀ r ∈ reqs, NoAutocomplete r.body := by
    simp only [reqs, List.mem_cons, List.mem_singleton, forall_eq_or_imp, forall_eq,
      List.not_mem_nil, false_imp_iff, implies_true, and_true, and_self]
    rintro q ⟨⟩; rfl
  exact ⟨hac, queryRunAt_replies_eq_memoReplies id hac, rfl, by decide⟩

end Memo

section Usage

variable {K : Type} [DecidableEq K] (normalize : Payload → K) (env : QueryEnv)

/-- The key a usage record stands for. -/
def RequestData.key (u : RequestData) : String × K :=
  (u.corpusID, normalize u.payload)

variable {normalize env}

theorem queryRun_cons (eqCache : EqCache K) (r : String × Except String Payload)
    (rest : List (String × Except String Payload)) :
    queryRun normalize env eqCache (r :: rest) =
      let q := query normalize env eqCache r.1 r.2
      let rs := queryRun normalize env q.2.1 rest
      (q.1 :: rs.1, rs.2.1, q.2.2.toList ++ rs.2.2) := rfl

variable (normalize env) in
/-- An autocomplete request is cached and reported under the query as `getAttrValues`
rewrote it, its attribute's value replaced by the pattern `%v%`: when the rewritten query
normalises apart from the request's, the same request sent any number of times misses the
cache every time, is answered by a new computation and is reported to the usage recorder
every time, under the rewritten query, and the cache ends holding the answer under the
rewritten query's key alone. -/
theorem query_autocomplete_repeat_reported {eqCache : EqCache K} {corpusID : String}
    {qry : Payload} {ci : CorpusDBInfo} {v : String} {vs : List String} {ans : QueryAns}
    (n : Nat) (hac : qry.autocompleteAttr ≠ "")
    (hl : env.attrValues.getListingOf qry.attrs qry.autocompleteAttr = .ok (v :: vs))
    (hload : loadInfo (env.corpusRow corpusID) = .ok ci)
    (hok : (getAttrValues env.attrValues ci qry).1 = .ok ans)
    (hmiss : eqCache.lookup (corpusID, normalize qry) = none)
    (hne : normalize { qry with
      attrs := (qry.attrs.insert qry.autocompleteAttr (.str ("%" ++ v ++ "%"))) } ≠
        normalize qry) :
    let qry' : Payload :=
      { qry with attrs := qry.attrs.insert qry.autocompleteAttr (.str ("%" ++ v ++ "%")) }
    queryRun normalize env eqCache (List.replicate (n + 1) (corpusID, .ok qry)) =
      (List.replicate (n + 1) (.ok ans), eqCache.insert (corpusID, normalize qry') ans,
        List.replicate (n + 1) ⟨corpusID, qry'⟩) := by
  intro qry'
  obtain ⟨laConf, hc⟩ : ∃ laConf, env.attrValues.laConf ci.name = .ok laConf := by
    cases hc : env.attrValues.laConf ci.name with
    | error e => simp [getAttrValues, hc] at hok
    | ok laConf => exact ⟨_, rfl⟩
  have hg : getAttrValues env.attrValues ci qry = (.ok ans, qry'.attrs) :=
    Prod.ext hok (getAttrValues_snd_of_listing hac hl hc)
  have hstep : ∀ c : EqCache K, c.lookup (corpusID, normalize qry) = none →
      query normalize env c corpusID (.ok qry) =
        (.ok ans, c.insert (corpusID, normalize qry') ans, some ⟨corpusID, qry'⟩) ∧
      (c.insert (corpusID, normalize qry') ans).lookup (corpusID, normalize qry) = none :=
    fun c hc => ⟨by simp [query, hload, hc, hg],
      by rw [AList.lookup_insert_ne (by simpa using hne.symm), hc]⟩
  induction n generalizing eqCache with
  | zero => simp [queryRun_cons, (hstep eqCache hmiss).1, queryRun, queryRunAt]
  | succ n ih =>
    rw [List.replicate_succ, queryRun_cons]
    simp only [(hstep eqCache hmiss).1, ih (hstep eqCache hmiss).2, AList.insert_insert,
      Option.toList_some, List.singleton_append]
    rfl

/-- An autocomplete request whose attribute `a` is valued `x`, sent twice: both miss the
cache and are reported under the query with `a` valued `%x%`. -/
theorem query_autocomplete_repeat_reported_twice :
    let env : QueryEnv :=
      { corpusRow := fun _ => .ok {}
        attrValues :=
          { laConf := fun _ => .ok {}, getSubcorpAttrs := fun _ => [], keys := ⟨id, id⟩,
            shortenVal := fun s _ => s, getListingOf := fun _ _ => .ok ["x"],
            attrIsRange := fun _ _ => false, dataRows := fun _ => ([], none),
            exportAttrValues := fun a _ _ _ _ => a } }
    let qry : Payload := { attrs := AList.insert "a" (.str "x") ∅, autocompleteAttr := "a" }
    let qry' : Payload := { qry with attrs := AList.insert "a" (.str "%x%") ∅ }
    ∃ ans, queryRun id env ∅ (List.replicate 2 ("c", .ok qry)) =
      (List.replicate 2 (.ok ans), AList.insert ("c", qry') ans ∅, List.replicate 2 ⟨"c", qry'⟩) :=
  ⟨_, @query_autocomplete_repeat_reported _ _ id _ ∅ "c" _ _ "x" [] _ 1 (by decide) rfl rfl rfl rfl
    (by decide)⟩

end Usage

end Masm
