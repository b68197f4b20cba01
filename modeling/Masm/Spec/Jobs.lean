import Mathlib.Data.List.AList
import Mathlib.Data.BitVec

/-! The job records of masm and the registry that holds them: the package `jobs`
(`src/unnamed/part_001`), the job types of `liveattrs` and `corpus`, and the three
registry operations that the runners use. Go's `int` is a 64-bit word, a `time.Time`
is an integer count of nanoseconds from Go's zero time, and a `map[string]V` is an
association list in one of its iteration orders. A structure's field defaults are
Go's zero values, so a record literal here reads like the Go literal it models. -/

namespace Masm

/-- Go's `int` on the 64-bit targets masm is built for. -/
abbrev GoInt := BitVec 64

/-- An instant (`jobs.JSONTime`), in nanoseconds from Go's zero `time.Time`, which is `0`. -/
abbrev JSONTime := Int

/-- A Go `error`: `none` is `nil`, `some msg` an error with that message. -/
abbrev GoError := Option String

/-- A Go `map[string]V`, listed in one iteration order; its keys are distinct. -/
abbrev GoMap (V : Type) := AList (fun _ : String => V)

/-- Two maps in an iteration order are equal when their entries are, which the kernel can
evaluate, so records holding maps can be compared by `decide`. -/
instance (priority := high) {V : Type} [DecidableEq V] : DecidableEq (GoMap V) := fun a b =>
  decidable_of_iff (a.entries = b.entries) AList.ext_iff.symm

instance {V : Type} [Repr V] : Repr (GoMap V) :=
  ⟨fun m p => reprPrec (m.entries.map fun e => (e.1, e.2)) p⟩

section GoMap

variable {κ V : Type} [DecidableEq κ] {m : AList (fun _ : κ => V)} {k k' : κ} {x : V}

/-- A key of `m[k] = v` holds `v` at `k` and its old value elsewhere. -/
theorem lookup_insert_eq_some {v : V} :
    (m.insert k v).lookup k' = some x ↔ k' = k ∧ v = x ∨ k' ≠ k ∧ m.lookup k' = some x := by
  by_cases h : k' = k
  · subst h
    simp
  · simp [AList.lookup_insert_ne h, h]

/-- After `delete(m, k)`, the keys other than `k` keep their values. -/
theorem lookup_erase_eq_some : (m.erase k).lookup k' = some x ↔ k' ≠ k ∧ m.lookup k' = some x := by
  by_cases h : k' = k
  · subst h
    simp
  · simp [AList.lookup_erase_ne h, h]

end GoMap

/-- Modelled from the spec: `jobs.JSONError`, the optional structured error of a job
record (the package's declaration is not under src/). -/
structure JSONError where
  error : GoError := none
  deriving DecidableEq, Repr

/-- Modelled from the spec: `jobs.NewJSONError` wraps a Go error; `nil` gives the empty error. -/
def newJSONError (err : GoError) : JSONError := ⟨err⟩

def JSONError.isEmpty (e : JSONError) : Bool := e.error.isNone

@[simp] theorem newJSONError_isEmpty (err : GoError) :
    (newJSONError err).isEmpty = err.isNone := rfl

/-- The database section of vert-tagextract's configuration (`vteDb.Conf`), with the fields
masm sets and reads. -/
structure VTEDbConf where
  type : String := ""
  name : String := ""
  host : String := ""
  user : String := ""
  password : String := ""
  preconfQueries : List String := []
  deriving DecidableEq, Repr

/-- The bibliography view of the extraction (`vteDb.BibViewConf`). -/
structure BibViewConf where
  idAttr : String := ""
  cols : List String := []
  deriving DecidableEq, Repr

/-- The self-join of the extraction (`SelfJoin`): the merged columns and the merge function. -/
structure SelfJoinConf where
  argColumns : List String := []
  generatorFn : String := ""
  deriving DecidableEq, Repr

/-- Vert-tagextract's extraction configuration (`vteCnf.VTEConf`), with the fields masm sets
and reads; `Ngrams`, which masm only sets to its zero value, is left out. -/
structure VTEConf where
  corpus : String := ""
  parallelCorpus : String := ""
  atomStructure : String := ""
  atomParentStructure : String := ""
  stackStructEval : Bool := false
  maxNumErrors : GoInt := 0
  encoding : String := ""
  indexedCols : List String := []
  verticalFile : String := ""
  verticalFiles : List String := []
  structures : GoMap (List String) := ∅
  bibView : BibViewConf := {}
  selfJoin : SelfJoinConf := {}
  db : VTEDbConf := {}
  deriving DecidableEq, Repr

/-- The arguments a liveattrs job is created with (`jobInfoArgs`). -/
structure JobInfoArgs where
  vteConf : VTEConf := {}
  append : Bool := false
  deriving DecidableEq, Repr

/-- Modelled from the spec: `liveattrs.LiveAttrsJobInfo` (its declaration is not under
src/) with the fields src/ sets and reads, laid out as its sibling `IdxUpdateJobInfo`. -/
structure LiveAttrsJobInfo where
  id : String := ""
  type : String := ""
  corpusID : String := ""
  start : JSONTime := 0
  update : JSONTime := 0
  finished : Bool := false
  error : JSONError := {}
  processedAtoms : GoInt := 0
  processedLines : GoInt := 0
  numRestarts : GoInt := 0
  args : JobInfoArgs := {}
  deriving DecidableEq, Repr

/-- Modelled from the spec: `SetFinished` of a liveattrs job, as its sibling
`IdxUpdateJobInfo.SetFinished` does it. -/
def LiveAttrsJobInfo.setFinished (j : LiveAttrsJobInfo) (now : JSONTime) : LiveAttrsJobInfo :=
  { j with update := now, finished := true }

/-- The index-update job record (`IdxUpdateJobInfo`); `Args` and `Result` are left out. -/
structure IdxUpdateJobInfo where
  id : String := ""
  type : String := ""
  corpusID : String := ""
  start : JSONTime := 0
  update : JSONTime := 0
  finished : Bool := false
  error : JSONError := {}
  numRestarts : GoInt := 0
  deriving DecidableEq, Repr

/-- The corpus-synchronisation job record (`corpus.JobInfo`); `Result` is left out. -/
structure CorpusJobInfo where
  id : String := ""
  type : String := ""
  corpusID : String := ""
  start : JSONTime := 0
  finish : JSONTime := 0
  error : String := ""
  deriving DecidableEq, Repr

/-- A registered job (`jobs.GeneralJobInfo`): one of the three kinds `masm.go` registers. -/
inductive GeneralJobInfo
  | liveAttrs (j : LiveAttrsJobInfo)
  | idxUpdate (j : IdxUpdateJobInfo)
  | corpus (j : CorpusJobInfo)
  deriving DecidableEq, Repr

namespace GeneralJobInfo

def getID : GeneralJobInfo → String
  | liveAttrs j => j.id
  | idxUpdate j => j.id
  | corpus j => j.id

def getType : GeneralJobInfo → String
  | liveAttrs j => j.type
  | idxUpdate j => j.type
  | corpus j => j.type

def getStartDT : GeneralJobInfo → JSONTime
  | liveAttrs j => j.start
  | idxUpdate j => j.start
  | corpus j => j.start

def getCorpus : GeneralJobInfo → String
  | liveAttrs j => j.corpusID
  | idxUpdate j => j.corpusID
  | corpus j => j.corpusID

/-- A corpus job is finished once its `Finish` time is set (`!j.Finish.IsZero()`). -/
def isFinished : GeneralJobInfo → Bool
  | liveAttrs j => j.finished
  | idxUpdate j => j.finished
  | corpus j => j.finish != 0

def setFinished (now : JSONTime) : GeneralJobInfo → GeneralJobInfo
  | liveAttrs j => liveAttrs (j.setFinished now)
  | idxUpdate j => idxUpdate { j with update := now, finished := true }
  | corpus j => corpus { j with finish := now }

@[simp] theorem getID_setFinished (now : JSONTime) (j : GeneralJobInfo) :
    (j.setFinished now).getID = j.getID := by
  cases j <;> rfl

end GeneralJobInfo

/-- The search loop of `FindUnfinishedJobOfType`: the first job, in the map's iteration
order, of the corpus and the type that has not finished. -/
def findUnfinishedJobOfType (data : GoMap GeneralJobInfo) (corpusID jobType : String) :
    Option GeneralJobInfo :=
  (data.entries.map (·.2)).find? fun v =>
    v.getCorpus == corpusID && v.getType == jobType && !v.isFinished

/-- The search loop of `FindJob`: `ans` is the match found so far, and a second match
returns `nil` at once. -/
def findJobLoop (jobID : String) :
    Option GeneralJobInfo → List (Σ _ : String, GeneralJobInfo) → Option GeneralJobInfo
  | ans, [] => ans
  | ans, ⟨ident, job⟩ :: rest =>
    if jobID.isPrefixOf ident then
      if ans.isSome then none else findJobLoop jobID (some job) rest
    else findJobLoop jobID ans rest

/-- `FindJob`: a job by its full id or by a prefix of it that no other id has. -/
def findJob (syncJobs : GoMap GeneralJobInfo) (jobID : String) : Option GeneralJobInfo :=
  findJobLoop jobID none syncJobs.entries

/-- Modelled from the spec: `Sub` of `jobs.JSONTime` (whose methods are not under src/), as
Go's `time.Time.Sub`: the difference in nanoseconds, saturated to the range of
`time.Duration`. -/
def timeSub (t u : JSONTime) : Int := max (-2 ^ 63) (min (2 ^ 63 - 1) (t - u))

/-- The loop of `clearOldJobs` over the map's entries in the order the range loop meets them:
a job started more than `time.Duration(168) * time.Hour` before `curr` is deleted when
reached. The loop deletes only the key it is at, so it meets every entry. -/
def clearOldJobsLoop (curr : JSONTime) :
    GoMap GeneralJobInfo → List (Σ _ : String, GeneralJobInfo) → GoMap GeneralJobInfo
  | data, [] => data
  | data, ⟨k, v⟩ :: rest =>
    clearOldJobsLoop curr
      (if timeSub curr v.getStartDT > 168 * 3600 * 1000000000 then data.erase k else data) rest

/-- `clearOldJobs`, reading the clock once as `curr` (`CurrentDatetime()`). -/
def clearOldJobs (data : GoMap GeneralJobInfo) (curr : JSONTime) : GoMap GeneralJobInfo :=
  clearOldJobsLoop curr data data.entries

/-! The registry (`jobs.Actions`, not under src/) as the spec describes it: registration
stores the status, every record pushed on the update channel overwrites the stored one,
and closing the channel marks the stored record finished. -/

/-- Modelled from the spec: `AddJobInfo` and every push on its channel store a record
under its id, overwriting the record stored before. -/
def storeJob (jobs : GoMap GeneralJobInfo) (j : GeneralJobInfo) : GoMap GeneralJobInfo :=
  jobs.insert j.getID j

/-- Modelled from the spec: closing a job's update channel marks the stored record
finished (`SetFinished`), keeping its latest information. -/
def finishJob (jobs : GoMap GeneralJobInfo) (id : String) (now : JSONTime) :
    GoMap GeneralJobInfo :=
  match jobs.lookup id with
  | some j => jobs.insert id (j.setFinished now)
  | none => jobs

theorem findUnfinishedJobOfType_isSome {data : GoMap GeneralJobInfo} {c t : String}
    {k : String} {j : GeneralJobInfo} (hk : data.lookup k = some j)
    (hj : j.getCorpus = c ∧ j.getType = t ∧ j.isFinished = false) :
    (findUnfinishedJobOfType data c t).isSome := by
  have hmem : j ∈ data.entries.map (·.2) :=
    List.mem_map.2 ⟨⟨k, j⟩, AList.mem_lookup_iff.1 hk, rfl⟩
  rw [findUnfinishedJobOfType, List.find?_isSome]
  exact ⟨j, hmem, by simp only [hj, beq_self_eq_true, Bool.not_false, Bool.and_self]⟩

end Masm
