import FluentAssert.Chain
import FluentAssert.Glob

/-! Environments: shared stores, and handles that read them through a chain. A handle reports a bad
access on its chain and then answers with the default; plain access reports nothing. -/
namespace FluentAssert

namespace Store

/-- Keys that match a pattern, in ascending order. -/
def glob (store : Store) (pattern : String) : Except Glob.PatternError (List String) :=
  (Glob.parse pattern).map fun pattern => (Fields.keys store).filter (Glob.isMatch pattern)

end Store

namespace StoreId

variable {ω : Type}

def contents (id : StoreId) : Run ω Store := do return (← Run.world).store id

/-- Changes the store; values that leave it may then unwind the run. -/
def change (id : StoreId) (new : Store) (leaving : List Stored) : Run ω Unit := do
  Run.happen (.stored id new)
  match Store.alarm? leaving with
  | some reason => Run.unwind reason
  | none => return ()

def put (id : StoreId) (key : String) (value : Stored) : Run ω Unit := do
  let store ← id.contents
  id.change (Fields.insert key value store) (Fields.get? store key).toList

def has (id : StoreId) (key : String) : Run ω Bool := do return Fields.has (← id.contents) key

/-- Tells whether the key was there. -/
def delete (id : StoreId) (key : String) : Run ω Bool := do
  let store ← id.contents
  id.change (Fields.erase key store) (Fields.get? store key).toList
  return Fields.has store key

def clear (id : StoreId) : Run ω Unit := do
  let store ← id.contents
  id.change [] (Fields.values store)

def keys (id : StoreId) : Run ω (List String) := do return Fields.keys (← id.contents)

end StoreId

/-- Access to a store that reports through a chain. -/
structure Handle where
  chain : ChainId
  deriving DecidableEq, Repr

namespace Handle

variable {ω α : Type}

def store (handle : Handle) : Run ω StoreId := do return (← handle.chain.state).store

def put (handle : Handle) (key : String) (value : Stored) : Run ω Unit := do
  (← handle.store).put key value

def has (handle : Handle) (key : String) : Run ω Bool := do (← handle.store).has key

def delete (handle : Handle) (key : String) : Run ω Bool := do (← handle.store).delete key

def clear (handle : Handle) : Run ω Unit := do (← handle.store).clear

def keys (handle : Handle) : Run ω (List String) := do (← handle.store).keys

def label (accessor argument : String) : String :=
  "env()." ++ accessor ++ "(" ++ Text.quoted argument ++ ")"

/-- Keys that match a pattern; a pattern that is none is a failure. -/
def glob (handle : Handle) (pattern : String) : Run ω (List String) :=
  handle.chain.within (label "glob" pattern) do
    if ← handle.chain.isFailed then return []
    match (← (← handle.store).contents).glob pattern with
    | .ok keys => return keys
    | .error e =>
      handle.chain.report (.failure .valid
        ("invalid glob pattern " ++ Text.quoted pattern ++ ": " ++ e.message))
      return []

def missing (key : String) : Finding :=
  .failure .containsKey ("expected: environment contains key " ++ Text.quoted key)

def wrongType (key type : String) : Finding :=
  .failure .typeMismatch
    ("expected: environment value " ++ Text.quoted key ++ " is " ++ type ++
      ", but it has another type")

/-- Reads a value through a conversion. A missing key and a value that the conversion does not
accept are failures. -/
def read (handle : Handle) (accessor key type : String) (convert : Stored → Option α) :
    Run ω (Option α) :=
  handle.chain.within (label accessor key) do
    if ← handle.chain.isFailed then return none
    match Fields.get? (← (← handle.store).contents) key with
    | none =>
      handle.chain.report (missing key)
      return none
    | some stored =>
      match convert stored with
      | some value => return some value
      | none =>
        handle.chain.report (wrongType key type)
        return none

/-- A value of exactly this type. -/
def get (handle : Handle) (type : StoredType) (key : String) : Run ω (Option Stored) :=
  handle.read "get" key type.label (Stored.ofType? type)

def getText (handle : Handle) (key : String) : Run ω String := do
  return (← handle.read "get_string" key "string" Stored.text?).getD ""

def getInteger (handle : Handle) (key : String) : Run ω Int := do
  return (← handle.read "get_int" key "integer" Stored.integer?).getD 0

def getNumber (handle : Handle) (key : String) : Run ω Double := do
  return (← handle.read "get_float" key "number" Stored.number?).getD (.zero false)

def getBool (handle : Handle) (key : String) : Run ω Bool := do
  return (← handle.read "get_bool" key "boolean" Stored.bool?).getD false

def getBytes (handle : Handle) (key : String) : Run ω Text.Bytes := do
  return (← handle.read "get_bytes" key "bytes" Stored.bytes?).getD []

def getDuration (handle : Handle) (key : String) : Run ω Duration := do
  return (← handle.read "get_duration" key "duration" Stored.duration?).getD .zero

end Handle
end FluentAssert
