import Masm.Spec.CorpusInfo
import Masm.Spec.Aggregation
import Masm.Spec.Worker

/-! The extraction configuration of a liveattrs job (`src/liveattrs/actions.go`):
`createLAConfig`, which builds it from the corpus registry, and the part of `Create` that
resolves it through the configuration cache `laConfCache` before it starts the job. The
cache (`cnf.LiveAttrsBuildConfLoader`) is not under src/; it is modelled as a map from a
corpus to its saved configuration, which `Get` reads and `Save` writes under the
configuration's corpus. -/

namespace Masm

/-- The settings of `masmConf.LiveAttrs.DB` that `createLAConfig` copies. -/
structure LiveAttrsDBConf where
  host : String := ""
  user : String := ""
  password : String := ""
  preconfQueries : List String := []
  deriving DecidableEq, Repr

/-- The columns of the bibliography view: `stru_attr` for every registry attribute, in the
map's iteration order. -/
def bibViewCols (subcorpAttrs : GoMap (List String)) : List String :=
  subcorpAttrs.entries.flatMap fun e => e.2.map fun attr => e.1 ++ "_" ++ attr

/-- The atom structure: the given one, or the only structure of the registry. -/
def resolveAtomStructure (structures : GoMap (List String)) (atomStructure : String) :
    Except String String :=
  if atomStructure = "" then
    match structures.keys with
    | [k] => .ok k
    | _ => .error "no atomStructure specified and the value cannot be inferred due to multiple involved structures"
  else .ok atomStructure

/-- A merge attribute `s.a` joins the structures: appended to the list of `s` unless
`collections.SliceContains` finds it there (not under src/; membership), or as the first
attribute of a new key. -/
def mergeAttrsStep (structures : GoMap (List String)) (s a : String) : GoMap (List String) :=
  match structures.lookup s with
  | some attrs => if attrs.contains a then structures else structures.insert s (attrs ++ [a])
  | none => structures.insert s [a]

/-- The loop over `mergeAttrs`: the self-join column of each attribute, in order, and the
structures with the attributes joined; the first attribute that does not split on `.` into
two parts ends it with an error. -/
def mergeAttrsLoop (structures : GoMap (List String)) :
    List String → Except String (List String × GoMap (List String))
  | [] => .ok ([], structures)
  | argCol :: rest =>
    match goSplit argCol '.' with
    | [s, a] => do
      let (argColumns, structures) ← mergeAttrsLoop (mergeAttrsStep structures s a) rest
      pure ((s ++ "_" ++ a) :: argColumns, structures)
    | _ => .error ("invalid mergeAttr format: " ++ argCol)

/-- The check `atomExists`: the atom structure is one of the corpus's indexed structures. -/
def checkAtomExists (corpusInfo : Info) (atom : String) : Except String Unit :=
  if corpusInfo.indexedStructs.contains atom then pure ()
  else throw ("atom structure '" ++ atom ++ "' does not exist in corpus " ++ corpusInfo.id)

/-- The `if len(mergeAttrs) > 0` block: the self-join and the joined structures. -/
def joinMergeAttrs (structures : GoMap (List String)) (mergeAttrs : List String)
    (mergeFn : String) : Except String (SelfJoinConf × GoMap (List String)) :=
  if mergeAttrs ≠ [] then
    (mergeAttrsLoop structures mergeAttrs).map fun r =>
      ({ argColumns := r.1, generatorFn := mergeFn }, r.2)
  else pure ({}, structures)

/-- `createLAConfig`. `newConf.Structures` is the registry's map itself, so the joined
attributes also land in `corpusInfo`, which `Create` drops afterwards; the bibliography
columns are read before the join. -/
def createLAConfig (masmConf : LiveAttrsDBConf) (corpusInfo : Info) (corpusDBInfo : DBInfo)
    (importKey : String → String) (atomStructure bibIdAttr : String) (mergeAttrs : List String)
    (mergeFn : String) : Except String VTEConf := do
  let atom ← resolveAtomStructure corpusInfo.registryConf.subcorpAttrs atomStructure
  checkAtomExists corpusInfo atom
  let (selfJoin, structures) ←
    joinMergeAttrs corpusInfo.registryConf.subcorpAttrs mergeAttrs mergeFn
  pure { corpus := corpusInfo.id
         parallelCorpus := corpusDBInfo.parallelCorpus
         maxNumErrors := 1000
         encoding := "UTF-8"
         verticalFile := corpusInfo.registryConf.vertical.path
         structures
         bibView :=
           if bibIdAttr ≠ "" then
             { idAttr := importKey bibIdAttr, cols := bibViewCols corpusInfo.registryConf.subcorpAttrs }
           else {}
         atomStructure := atom
         selfJoin
         db := { type := "mysql"
                 host := masmConf.host
                 user := masmConf.user
                 password := masmConf.password
                 preconfQueries := masmConf.preconfQueries
                 name := if corpusDBInfo.parallelCorpus ≠ "" then corpusDBInfo.parallelCorpus
                   else corpusInfo.id } }

/-- The URL arguments of a `Create` request. -/
structure CreateArgs where
  corpusId : String
  noCache : String := ""
  atomStructure : String := ""
  bibIdAttr : String := ""
  mergeAttr : List String := []
  mergeFn : String := ""
  append : String := ""
  deriving DecidableEq, Repr

/-- What `Create` meets outside itself: the registry of the corpus (read by `GetCorpusInfo`),
`cncDB.LoadInfo`, the settings, the key conversion, the outcome of `laConfCache.Save`, of
`uuid.NewUUID`, the clock, and whether `createDataFromJobStatus` starts the extraction. -/
structure CreateEnv where
  getCorpusConf : String → Except String String
  bindValueToPath : String → Except String FileMappedValue
  corpusDBInfo : Except String DBInfo
  masmConf : LiveAttrsDBConf
  importKey : String → String
  saveErr : GoError := none
  jobID : Except String String
  start : JSONTime
  startErr : GoError := none

/-- The response of `Create`: an error with its HTTP status, or the new job's status. -/
inductive CreateReply
  | error (code : Nat) (msg : String)
  | created (status : LiveAttrsJobInfo)
  deriving DecidableEq, Repr

/-- `Create` once the configuration is resolved: the vertical files of the body, the job id,
the conflict check (`LastUnfinishedJobOfType`, read as `FindUnfinishedJobOfType`), and the
start of the extraction. -/
def createWithConf (jobs : GoMap GeneralJobInfo) (args : CreateArgs) (verticalFiles : List String)
    (conf : VTEConf) (env : CreateEnv) : CreateReply :=
  let conf := if verticalFiles ≠ [] then { conf with verticalFiles } else conf
  match env.jobID with
  | .error _ => .error 401 ("Failed to start liveattrs job for '" ++ args.corpusId ++ "'")
  | .ok jobID =>
    match findUnfinishedJobOfType jobs args.corpusId jobType with
    | some prevRunning =>
      .error 409 ("LiveAttrs generator failed - the previous job '" ++ prevRunning.getID ++
        "' have not finished yet")
    | none =>
      let status : LiveAttrsJobInfo :=
        { id := jobID, corpusID := args.corpusId, start := env.start
          args := { vteConf := conf, append := args.append = "1" } }
      match env.startErr with
      | some err => .error 500 ("failed to start vert-tagextract: " ++ err)
      | none => .created status

/-- `Create`: the reply, or the panic it raises, and the configuration cache afterwards. The
body is decoded to its vertical files (an empty body is `io.EOF`, no files) or fails. `Get`
hands the configuration back by value: whether the loader hands out its cached object, which
setting the vertical files would then change, is not under src/. -/
def create (laConfCache : GoMap VTEConf) (jobs : GoMap GeneralJobInfo) (args : CreateArgs)
    (body : Except String (List String)) (env : CreateEnv) :
    GoResult CreateReply × GoMap VTEConf :=
  let corpusID := args.corpusId
  let conf := if args.noCache = "1" then none else laConfCache.lookup corpusID
  match body with
  | .error err => (.ok (.error 500 ("liveAttrs generator failed: '" ++ err ++ "'")), laConfCache)
  | .ok verticalFiles =>
    match conf with
    | some conf => (.ok (createWithConf jobs args verticalFiles conf env), laConfCache)
    | none =>
      match getCorpusInfo corpusID env.getCorpusConf env.bindValueToPath with
      | .panic msg => (.panic msg, laConfCache)
      | .error err => (.ok (.error 500 ("liveAttrs generator failed: '" ++ err ++ "'")), laConfCache)
      | .ok corpusInfo =>
        match env.corpusDBInfo with
        | .error err =>
          (.ok (.error 500 ("liveAttrs generator failed: '" ++ err ++ "'")), laConfCache)
        | .ok corpusDBInfo =>
          match createLAConfig env.masmConf corpusInfo corpusDBInfo env.importKey
              args.atomStructure args.bibIdAttr args.mergeAttr args.mergeFn with
          | .error err =>
            (.ok (.error 400 ("LiveAttrs generator failed: '" ++ err ++ "'")), laConfCache)
          | .ok newConf =>
            match env.saveErr with
            | some err =>
              (.ok (.error 400 ("LiveAttrs generator failed: '" ++ err ++ "'")), laConfCache)
            | none =>
              let laConfCache := laConfCache.insert newConf.corpus newConf
              match laConfCache.lookup corpusID with
              | some conf => (.ok (createWithConf jobs args verticalFiles conf env), laConfCache)
              | none =>
                (.panic "runtime error: invalid memory address or nil pointer dereference",
                  laConfCache)

end Masm
