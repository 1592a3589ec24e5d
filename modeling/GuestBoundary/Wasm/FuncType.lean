import GuestBoundary.Signature

/-! Function types of guest modules, of which only those over integers are signatures. -/

namespace GuestBoundary

namespace Wasm

/-- The types that a guest may declare. -/
inductive ValType where
  | number (type : NumType)
  | f32
  | f64
  | externref
  deriving DecidableEq

/-- The boundary type that a declared type is, if it is an integer. -/
def ValType.number? : ValType → Option NumType
  | .number type => some type
  | _ => none

/-- The spelling of a declared type. -/
def ValType.text : ValType → String
  | .number type => type.text
  | .f32 => "f32"
  | .f64 => "f64"
  | .externref => "externref"

/-- The type of a guest function or import. -/
structure FuncType where
  params : List ValType
  results : List ValType
  deriving DecidableEq

/-- The spelling of a function type, such as (f32, i64) -> (i32). An engine lists a type in its own way,
and this stands where it does so. -/
def FuncType.text (type : FuncType) : String :=
  let group := fun types => "(" ++ String.intercalate ", " (types.map ValType.text) ++ ")"
  group type.params ++ " -> " ++ group type.results

/-- The signature that a function type is, if it uses integers alone. -/
def FuncType.signature? (type : FuncType) : Option Signature := do
  let params ← type.params.mapM ValType.number?
  let results ← type.results.mapM ValType.number?
  return ⟨params, results⟩

end Wasm

/-- A signature as a function type. -/
def Signature.funcType (signature : Signature) : Wasm.FuncType :=
  ⟨signature.params.map .number, signature.results.map .number⟩

end GuestBoundary
