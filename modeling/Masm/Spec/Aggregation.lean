import Masm.Spec.Jobs
import Mathlib.Algebra.BigOperators.Group.List

/-! The attribute aggregation of `getAttrValues` (`src/liveattrs/actions.go`): the callback
that the data iterator calls once per result row, and `groupBibItems`, which merges the
bibliography entries sharing a label. The key conversions of the `db` package and
`shortenVal` are not under src/ and are parameters. Every Go `*response.ListedValue` is
reached only through the map that stores it, so the maps hold the entries by value. -/

namespace Masm

/-- The length `shortenVal` cuts labels to (`shortLabelMaxLength`). -/
def shortLabelMaxLength : Nat := 30

/-- Modelled from the spec: `response.ListedValue`, one entry of an attribute's value list
(its declaration is not under src/). -/
structure ListedValue where
  id : String := ""
  shortLabel : String := ""
  label : String := ""
  count : GoInt := 0
  grouping : GoInt := 0
  deriving DecidableEq, Repr

/-- A value of `QueryAns.AttrValues` (an `any`), as the code's type switches see it. A
missing key is Go's `nil`. -/
inductive AttrValue
  | listed (vs : List ListedValue)
  | count (n : GoInt)
  deriving DecidableEq, Repr

/-- Modelled from the spec: `response.QueryAns`, a position count and the value lists. -/
structure QueryAns where
  poscount : GoInt := 0
  attrValues : GoMap AttrValue := ∅
  deriving DecidableEq

/-- The corpus data of `corpus.DBInfo` (`cncdb.LoadInfo`) that the aggregation and
`createLAConfig` read. -/
structure DBInfo where
  bibLabelAttr : String := ""
  bibIDAttr : String := ""
  bibGroupDuplicates : GoInt := 0
  parallelCorpus : String := ""
  deriving DecidableEq, Repr

/-- The key conversions of the `db` package (not under src/): `ImportKey` turns `doc.title`
into a column name, `ExportKey` back. -/
structure DbKeys where
  importKey : String → String
  exportKey : String → String

/-- A result row of the data iterator (`qbuilder.ResultRow`). -/
structure ResultRow where
  attrs : GoMap String
  poscount : GoInt

/-- The state the row callback updates: the answer and `tmpAns`, the value maps per key. -/
structure IterState where
  ans : QueryAns
  tmpAns : GoMap (GoMap ListedValue)

/-- `tmpAns[colKey][attrVal.ID]` gains a row's position count; an absent entry is created
from `attrVal` (and an absent `tmpAns[colKey]` first, as the source does). -/
def tmpAnsAdd (tmpAns : GoMap (GoMap ListedValue)) (colKey : String) (attrVal : ListedValue)
    (poscount : GoInt) : GoMap (GoMap ListedValue) :=
  let inner := (tmpAns.lookup colKey).getD ∅
  tmpAns.insert colKey <|
    match inner.lookup attrVal.id with
    | some curr => inner.insert attrVal.id { curr with count := curr.count + poscount }
    | none => inner.insert attrVal.id { attrVal with count := poscount }

section Callback

variable (db : DbKeys) (shortenVal : String → Nat → String) (corpusInfo : DBInfo)

/-- The entry a column of a row describes; the bibliography label is identified by the
row's bibliography id (`row.Attrs[bibID]`), any other column by its own value. -/
def rowAttrVal (row : ResultRow) (colKey dbKey dbVal : String) : ListedValue :=
  let bibID := db.importKey corpusInfo.bibIDAttr
  let valIdent :=
    if colKey = corpusInfo.bibLabelAttr then (row.attrs.lookup bibID).getD ""
    else (row.attrs.lookup dbKey).getD ""
  { id := valIdent
    shortLabel := shortenVal dbVal shortLabelMaxLength
    label := dbVal
    grouping := 1 }

/-- One column of a row: the type switch on `ans.AttrValues[colKey]`. On a missing key the
error prints `reflect.TypeOf(nil)`, a nil interface, which `%s` renders as `%!s(<nil>)`. -/
def accumColumn (row : ResultRow) (st : IterState) (dbKey dbVal : String) :
    Except String IterState :=
  let colKey := db.exportKey dbKey
  match st.ans.attrValues.lookup colKey with
  | some (.listed _) =>
    .ok { st with
      tmpAns := tmpAnsAdd st.tmpAns colKey (rowAttrVal db shortenVal corpusInfo row colKey dbKey dbVal)
        row.poscount }
  | some (.count n) =>
    .ok { st with
      ans := { st.ans with attrValues := st.ans.attrValues.insert colKey (.count (n + row.poscount)) } }
  | none => .error ("invalid value type for attr " ++ colKey ++ " for data iterator: %!s(<nil>)")

/-- The callback passed to `dataIterator.Iterate`, for one row. -/
def iterCallback (st : IterState) (row : ResultRow) : Except String IterState :=
  row.attrs.entries.foldlM (fun st e => accumColumn db shortenVal corpusInfo row st e.1 e.2)
    { st with ans := { st.ans with poscount := st.ans.poscount + row.poscount } }

/-- The iteration over the result rows, stopping at the first error of the callback. -/
def iterate (rows : List ResultRow) (st : IterState) : Except String IterState :=
  rows.foldlM (iterCallback db shortenVal corpusInfo) st

end Callback

/-- One pass of the loop of `groupBibItems` over `item`. `val` is the entry already stored
for the label, so `grouping[item.Label].Count += val.Count` adds that entry's own count. -/
def groupStep (grouping : GoMap ListedValue) (item : ListedValue) : GoMap ListedValue :=
  let grouping :=
    match grouping.lookup item.label with
    | some val =>
      grouping.insert item.label { val with count := val.count + val.count, grouping := val.grouping + 1 }
    | none => grouping.insert item.label item
  match grouping.lookup item.label with
  | some g =>
    if (1 : GoInt).slt g.grouping then grouping.insert item.label { g with id := "@" ++ g.label }
    else grouping
  | none => grouping

/-- `groupBibItems`: the list under `bibLabel` is replaced by one entry per label, in the
grouping map's iteration order; anything else under `bibLabel` is left alone. -/
def groupBibItems (data : QueryAns) (bibLabel : String) : QueryAns :=
  match data.attrValues.lookup bibLabel with
  | some (.listed tEntry) =>
    let grouping := tEntry.foldl groupStep ∅
    { data with attrValues := data.attrValues.insert bibLabel (.listed (grouping.entries.map (·.2))) }
  | _ => data

end Masm
