import Masm.Spec.Aggregation
import Masm.Spec.CorpusInfo

/-! The attribute query of liveattrs (`src/liveattrs/actions.go`): `getAttrValues`, which
builds the answer from the liveattrs database, and the two handlers that call it, `Query`
through the query cache `eqCache` and `AttrValAutocomplete` without it; and `LoadInfo`
(`src/cncdb/cncdb.go`), with which both read the corpus data. The query builder, the data
iterator, the key conversions, the configuration loader, the cache and the export of the
answer are not under src/ and are the environment. `qry.Attrs` is a Go map, shared by the
copy of the `Payload` that `getAttrValues` receives, so what it writes there is seen by its
caller: it returns the map beside its answer. -/

namespace Masm

/-- A nullable column (`sql.NullString`): `none` is SQL `NULL`. -/
abbrev NullString := Option String

/-- The row `LoadInfo` scans: the corpus, its bibliography columns, the name of its parallel
corpus and its restricted registry variant. -/
structure CorpusRow where
  name : String := ""
  active : Bool := false
  bibLabelStruct : NullString := none
  bibLabelAttr : NullString := none
  bibIDStruct : NullString := none
  bibIDAttr : NullString := none
  bibGroupDuplicates : GoInt := 0
  locale : NullString := none
  pcName : NullString := none
  variant : NullString := none
  deriving DecidableEq, Repr

/-- `corpus.DBInfo` as `LoadInfo` fills it (its declaration is not under src/). -/
structure CorpusDBInfo extends DBInfo where
  name : String := ""
  active : Bool := false
  locale : String := ""
  hasLimitedVariant : Bool := false
  deriving DecidableEq, Repr

/-- `struct.attr` when both columns are set, else the empty string. -/
def joinNullKey : NullString → NullString → String
  | some s, some a => s ++ "." ++ a
  | _, _ => ""

/-- `LoadInfo`, from the outcome of `row.Scan` (an error when the corpus has no row). -/
def loadInfo (scan : Except String CorpusRow) : Except String CorpusDBInfo := do
  let row ← scan
  pure { name := row.name
         active := row.active
         bibLabelAttr := joinNullKey row.bibLabelStruct row.bibLabelAttr
         bibIDAttr := joinNullKey row.bibIDStruct row.bibIDAttr
         bibGroupDuplicates := row.bibGroupDuplicates
         locale := row.locale.getD ""
         parallelCorpus := row.pcName.getD ""
         hasLimitedVariant := row.variant.isSome }

/-- Modelled from the spec: a value of `query.Payload.Attrs` (the package is not under
src/): a string, a list of strings, or another JSON value (a range, a regular expression),
kept as its text. -/
inductive AttrQueryValue
  | str (s : String)
  | list (vs : List String)
  | other (json : String)
  deriving DecidableEq, Repr

/-- Modelled from the spec: `query.Payload`, with the fields `getAttrValues` reads. -/
structure Payload where
  attrs : GoMap AttrQueryValue := ∅
  aligned : List String := []
  autocompleteAttr : String := ""
  maxAttrListSize : GoInt := 0
  deriving DecidableEq, Repr

/-- Modelled from the spec: `collections.Set` (not under src/), a list without duplicates.
`ToOrderedSlice` sorts it; the model keeps the order of insertion, as the slices only list
keys of maps or columns of a query. -/
def setAdd (s : List String) (a : String) : List String := if a ∈ s then s else s ++ [a]

/-- `collections.NewSet(items...)`. -/
def newSet (items : List String) : List String := items.foldl setAdd []

/-- The query builder's settings (`qbuilder.Builder`), which the data iterator selects by. -/
structure Builder where
  corpusInfo : CorpusDBInfo
  attrMap : GoMap AttrQueryValue
  searchAttrs : List String
  alignedCorpora : List String
  autocompleteAttr : String
  emptyValPlaceholder : String

/-- What `getAttrValues` meets outside itself, none of it under src/: the configuration
loader (`laConfCache.Get`) and `cnf.GetSubcorpAttrs`, the key conversions, `shortenVal`, the
`Attrs` methods `GetListingOf` and `AttrIsRange`, the data iterator (the rows it yields for a
builder, then the error it ends with), and `response.ExportAttrValues`. -/
structure AttrValuesEnv where
  laConf : String → Except String VTEConf
  getSubcorpAttrs : VTEConf → List String
  keys : DbKeys
  shortenVal : String → Nat → String
  getListingOf : GoMap AttrQueryValue → String → Except String (List String)
  attrIsRange : GoMap AttrQueryValue → String → Bool
  dataRows : Builder → List ResultRow × GoError
  exportAttrValues : QueryAns → List String → List String → String → GoInt → QueryAns

/-- The placeholder of empty values (`emptyValuePlaceholder`). -/
def emptyValuePlaceholder : String := "?"

/-- The default length of a value list (`dfltMaxAttrListSize`). -/
def dfltMaxAttrListSize : GoInt := 30

/-- The autocomplete block: the target column joins the searched and the expanded
attributes, and its query value becomes `%v%` for the first value `v` the query lists for
it; `acVals[0]` of an empty listing panics. The searched attributes, the expanded ones and
the query's attributes afterwards. -/
def autocompleteAttrs (env : AttrValuesEnv) (qry : Payload) (srchAttrs : List String) :
    GoResult (List String × List String × GoMap AttrQueryValue) :=
  if qry.autocompleteAttr ≠ "" then
    let a := env.keys.importKey qry.autocompleteAttr
    match env.getListingOf qry.attrs qry.autocompleteAttr with
    | .error err => .error err
    | .ok [] => .panic "runtime error: index out of range [0] with length 0"
    | .ok (v :: _) =>
      .ok (setAdd srchAttrs a, [a], qry.attrs.insert qry.autocompleteAttr (.str ("%" ++ v ++ "%")))
  else .ok (srchAttrs, [], qry.attrs)

/-- The loop adding the range attributes of the query to the expanded ones. -/
def expandRangeAttrs (env : AttrValuesEnv) (attrs : GoMap AttrQueryValue)
    (expandAttrs : List String) : List String :=
  attrs.keys.foldl
    (fun e attr => if env.attrIsRange attrs attr then setAdd e (env.keys.importKey attr) else e)
    expandAttrs

/-- Modelled from the spec: `QueryAns.AddListedValue` (not under src/) appends an entry to
the value list of an attribute. `getAttrValues` calls it only on attributes holding a list. -/
def QueryAns.addListedValue (ans : QueryAns) (attr : String) (v : ListedValue) : QueryAns :=
  match ans.attrValues.lookup attr with
  | some (.listed vs) => { ans with attrValues := ans.attrValues.insert attr (.listed (vs ++ [v])) }
  | _ => ans

/-- The loops moving `tmpAns` into the answer, in the maps' iteration orders. -/
def moveTmpAns (ans : QueryAns) (tmpAns : GoMap (GoMap ListedValue)) : QueryAns :=
  tmpAns.entries.foldl
    (fun ans e => e.2.entries.foldl (fun ans c => ans.addListedValue e.1 c.2) ans) ans

/-- The answer before the iteration: an empty list for every searched attribute. -/
def initialAttrValues (searchAttrs : List String) : GoMap AttrValue :=
  searchAttrs.foldl (fun m a => m.insert a (.listed [])) ∅

/-- What follows a successful iteration: the collected values moved into the answer, the
bibliography entries grouped when the corpus asks for it, and the export. -/
def finishAttrValues (env : AttrValuesEnv) (corpusInfo : CorpusDBInfo) (qry : Payload)
    (bibLabel : String) (alignedCorpora expandAttrs : List String) (st : IterState) :
    QueryAns :=
  let ans := moveTmpAns st.ans st.tmpAns
  let ans := if (0 : GoInt).slt corpusInfo.bibGroupDuplicates then groupBibItems ans bibLabel
    else ans
  let maxAttrListSize := if qry.maxAttrListSize = 0 then dfltMaxAttrListSize else qry.maxAttrListSize
  env.exportAttrValues ans alignedCorpora expandAttrs corpusInfo.locale maxAttrListSize

/-- The searched attributes before the autocomplete block: the subcorpus attributes of the
configuration, and the bibliography label when it converts to a column. -/
def initialSearchAttrs (env : AttrValuesEnv) (corpusInfo : CorpusDBInfo) (laConf : VTEConf) :
    List String :=
  let srchAttrs := newSet (env.getSubcorpAttrs laConf)
  let bibLabel := env.keys.importKey corpusInfo.bibLabelAttr
  if bibLabel ≠ "" then setAdd srchAttrs bibLabel else srchAttrs

/-- `getAttrValues`: the answer, the error or the panic, and the query's `Attrs` after the
call. -/
def getAttrValues (env : AttrValuesEnv) (corpusInfo : CorpusDBInfo) (qry : Payload) :
    GoResult QueryAns × GoMap AttrQueryValue :=
  match env.laConf corpusInfo.name with
  | .error err => (.error err, qry.attrs)
  | .ok laConf =>
    let bibLabel := env.keys.importKey corpusInfo.bibLabelAttr
    match autocompleteAttrs env qry (initialSearchAttrs env corpusInfo laConf) with
    | .error err => (.error err, qry.attrs)
    | .panic msg => (.panic msg, qry.attrs)
    | .ok (srchAttrs, expandAttrs, attrs) =>
      let expandAttrs := expandRangeAttrs env attrs expandAttrs
      let qBuilder : Builder :=
        { corpusInfo
          attrMap := attrs
          searchAttrs := srchAttrs
          alignedCorpora := qry.aligned
          autocompleteAttr := qry.autocompleteAttr
          emptyValPlaceholder := emptyValuePlaceholder }
      let (rows, iterErr) := env.dataRows qBuilder
      match iterate env.keys env.shortenVal corpusInfo.toDBInfo rows
          ⟨{ attrValues := initialAttrValues qBuilder.searchAttrs }, ∅⟩ with
      | .error err => (.error err, attrs)
      | .ok st =>
        match iterErr with
        | some err => (.error err, attrs)
        | none =>
          (.ok (finishAttrValues env corpusInfo qry bibLabel qBuilder.alignedCorpora expandAttrs st),
            attrs)

/-- What `Query` sends to the usage recorder (`db.RequestData`). -/
structure RequestData where
  corpusID : String
  payload : Payload
  deriving DecidableEq, Repr

/-- The response of a query handler: an error with its HTTP status, the answer, or the
panic the handler raises. -/
inductive QueryReply
  | error (code : Nat) (msg : String)
  | ok (ans : QueryAns)
  | panic (msg : String)
  deriving DecidableEq

/-- What the query handlers meet outside themselves: the row `LoadInfo` scans for a corpus,
and the environment of `getAttrValues`. -/
structure QueryEnv where
  corpusRow : String → Except String CorpusRow
  attrValues : AttrValuesEnv

/-- `AttrValAutocomplete`: the body decoded, the corpus data loaded, and `getAttrValues`. -/
def attrValAutocomplete (env : QueryEnv) (corpusID : String) (body : Except String Payload) :
    QueryReply :=
  match body with
  | .error err => .error 400 err
  | .ok qry =>
    match loadInfo (env.corpusRow corpusID) with
    | .error err => .error 500 err
    | .ok corpInfo =>
      match (getAttrValues env.attrValues corpInfo qry).1 with
      | .ok ans => .ok ans
      | .error err => .error 500 err
      | .panic msg => .panic msg

/-- Modelled from the spec: the query cache `eqCache` (`cache.EmptyQueryCache`, not under
src/), a map from a corpus and a query, normalised so that equal queries meet, to an answer.
The comment at its declaration in `Actions` says it stores the results of empty queries
only (the initial text types data); `Get` and `Set` are not under src/, and the model
follows the spec, under which every query's answer is cached. What is proved about repeated
queries rests on that choice. -/
abbrev EqCache (K : Type) [DecidableEq K] := AList (fun _ : String × K => QueryAns)

section Query

variable {K : Type} [DecidableEq K] (normalize : Payload → K)

/-- `Query`: the reply, the cache afterwards, and the record sent to the usage recorder,
if one is. The answer is cached and reported under the query as `getAttrValues` left it. -/
def query (env : QueryEnv) (eqCache : EqCache K) (corpusID : String)
    (body : Except String Payload) : QueryReply × EqCache K × Option RequestData :=
  match body with
  | .error err => (.error 400 err, eqCache, none)
  | .ok qry =>
    match loadInfo (env.corpusRow corpusID) with
    | .error err => (.error 500 err, eqCache, none)
    | .ok corpInfo =>
      match eqCache.lookup (corpusID, normalize qry) with
      | some ans => (.ok ans, eqCache, none)
      | none =>
        match getAttrValues env.attrValues corpInfo qry with
        | (.ok ans, attrs) =>
          let qry := { qry with attrs }
          (.ok ans, eqCache.insert (corpusID, normalize qry) ans, some ⟨corpusID, qry⟩)
        | (.error err, _) => (.error 500 err, eqCache, none)
        | (.panic msg, _) => (.panic msg, eqCache, none)

/-- A `Query` request: what the database and the configurations hold when it is served, the
corpus and the body. `Create` saves configurations and extractions write rows between
requests, so each request meets its own environment. -/
structure QueryRequest where
  env : QueryEnv
  corpusID : String
  body : Except String Payload

/-- `Query` requests served one after another: the replies, the cache at the end, and the
records sent to the usage recorder, in order. -/
def queryRunAt : EqCache K → List QueryRequest → List QueryReply × EqCache K × List RequestData
  | eqCache, [] => ([], eqCache, [])
  | eqCache, req :: rest =>
    let r := query normalize req.env eqCache req.corpusID req.body
    let rs := queryRunAt r.2.1 rest
    (r.1 :: rs.1, rs.2.1, r.2.2.toList ++ rs.2.2)

/-- `Query` requests served one after another while the database and the configurations do
not change. -/
def queryRun (env : QueryEnv) (eqCache : EqCache K) (reqs : List (String × Except String Payload)) :
    List QueryReply × EqCache K × List RequestData :=
  queryRunAt normalize eqCache (reqs.map fun r => ⟨env, r.1, r.2⟩)

end Query

end Masm
