import Mathlib.Data.List.Basic
import Masm.Spec.Jobs

/-! The registry part of `corpus.GetCorpusInfo` (`src/unnamed/part_000`): the encoding,
the `SUBCORPATTRS` list of structural attributes, the `STRUCTLIST` of indexed structures
and the vertical file, read from the registry of the opened corpus. The calls into Manatee
and the file system are the environment: `getCorpusConf` answers `mango.GetCorpusConf` for
each key, `bindValueToPath` the binding of the vertical file. A Go call can end three
ways: with its value, with the error it returns, or with a runtime panic. -/

namespace Masm

/-- The outcome of a Go call: its value, the error it returns, or the runtime panic it
raises, with the panic's message. -/
inductive GoResult (α : Type) where
  | ok (a : α)
  | error (err : String)
  | panic (msg : String)
  deriving DecidableEq, Repr

namespace GoResult

variable {α β : Type}

/-- A returned error and a panic both end the calling function; an error is passed up by
the caller's `if err != nil { return nil, err }`, a panic unwinds it. -/
def bind : GoResult α → (α → GoResult β) → GoResult β
  | .ok a, f => f a
  | .error e, _ => .error e
  | .panic m, _ => .panic m

instance : Monad GoResult where
  pure := .ok
  bind := bind

@[simp] theorem pure_eq (a : α) : (pure a : GoResult α) = .ok a := rfl

@[simp] theorem ok_bind (a : α) (f : α → GoResult β) : (GoResult.ok a >>= f) = f a := rfl

@[simp] theorem error_bind (e : String) (f : α → GoResult β) :
    (GoResult.error e >>= f) = .error e := rfl

@[simp] theorem panic_bind (m : String) (f : α → GoResult β) :
    (GoResult.panic m >>= f) = .panic m := rfl

theorem bind_eq_panic {x : GoResult α} {f : α → GoResult β} {m : String} :
    (x >>= f) = .panic m ↔ x = .panic m ∨ ∃ a, x = .ok a ∧ f a = .panic m := by
  cases x <;> simp

instance : LawfulMonad GoResult :=
  LawfulMonad.mk' GoResult (fun x => by cases x <;> rfl) (fun _ _ => rfl)
    (fun x _ _ => by cases x <;> rfl)

end GoResult

/-- Go's `strings.Split(s, sep)` for a one-character separator: the parts between the
separators, so never an empty list (`""` gives `[""]`, a trailing separator an empty last
part). -/
def goSplit (s : String) (sep : Char) : List String :=
  (s.toList.splitOn sep).map String.mk

/-- A file-mapped value (`FileMappedValue`): the registry value and the path it is bound to;
what the file system reports about the path is left out, as nothing modelled reads it. -/
structure FileMappedValue where
  value : String := ""
  path : String := ""
  deriving DecidableEq, Repr

/-- The registry configuration (`RegistryConf`) with the fields `createLAConfig` reads. -/
structure RegistryConf where
  vertical : FileMappedValue := {}
  encoding : String := ""
  subcorpAttrs : GoMap (List String) := ∅
  deriving DecidableEq

/-- The corpus installation info (`corpus.Info`), without the data-file reports. -/
structure Info where
  id : String := ""
  indexedStructs : List String := []
  registryConf : RegistryConf := {}
  deriving DecidableEq

/-- `InfoError{err}` embeds the error, so it reports the wrapped error's message. -/
def infoError {α : Type} : Except String α → GoResult α
  | .ok a => .ok a
  | .error e => .error e

@[simp] theorem infoError_eq_ok {α : Type} {x : Except String α} {a : α} :
    infoError x = .ok a ↔ x = .ok a := by
  cases x <;> simp [infoError]

@[simp] theorem infoError_ne_panic {α : Type} (x : Except String α) (m : String) :
    infoError x ≠ .panic m := by
  cases x <;> simp [infoError]

/-- One item `s.a` of `SUBCORPATTRS`, appended to the attributes of `s`:
`ans.RegistryConf.SubcorpAttrs[split[0]] = append(…[split[0]], split[1])`. An item without
a `.` splits into one part, and reading `split[1]` panics. -/
def subcorpAttrsInsert (subcorpAttrs : GoMap (List String)) (attr2 : String) :
    GoResult (GoMap (List String)) :=
  match goSplit attr2 '.' with
  | s :: a :: _ => .ok (subcorpAttrs.insert s ((subcorpAttrs.lookup s).getD [] ++ [a]))
  | [_] => .panic "runtime error: index out of range [1] with length 1"
  | [] => .panic "runtime error: index out of range [0] with length 0"

/-- The two nested loops over `strings.Split(subcorpAttrsString, "|")` and, in each part,
over `strings.Split(attr1, ",")`. -/
def parseSubcorpAttrs (subcorpAttrsString : String) : GoResult (GoMap (List String)) :=
  (goSplit subcorpAttrsString '|').foldlM
    (fun acc attr1 => (goSplit attr1 ',').foldlM subcorpAttrsInsert acc) ∅

/-- The items the two loops visit, in order. -/
def subcorpAttrsItems (subcorpAttrsString : String) : List String :=
  (goSplit subcorpAttrsString '|').flatMap (goSplit · ',')

/-- `GetCorpusInfo` from the opened corpus on. The earlier steps (the registry path, opening
the corpus, the data-file reports) are left out. -/
def getCorpusInfo (corpusID : String) (getCorpusConf : String → Except String String)
    (bindValueToPath : String → Except String FileMappedValue) : GoResult Info := do
  let encoding ← infoError (getCorpusConf "ENCODING")
  let subcorpAttrsString ← infoError (getCorpusConf "SUBCORPATTRS")
  let subcorpAttrs ←
    if subcorpAttrsString ≠ "" then parseSubcorpAttrs subcorpAttrsString else pure ∅
  let unparsedStructs ← infoError (getCorpusConf "STRUCTLIST")
  let regVertical ← infoError (getCorpusConf "VERTICAL")
  let vertical ← infoError (bindValueToPath regVertical)
  pure { id := corpusID
         indexedStructs := if unparsedStructs ≠ "" then goSplit unparsedStructs ',' else []
         registryConf := { vertical, encoding, subcorpAttrs } }

end Masm
