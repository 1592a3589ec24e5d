import GuestBoundary.Value

/-! Signatures: the ordered parameter and result types of a boundary function. -/

namespace GuestBoundary

/-- The ordered parameter and result types of a boundary function. -/
structure Signature where
  params : List NumType
  results : List NumType
  deriving DecidableEq, Inhabited

namespace Signature

/-- A signature over 32-bit integers alone, by the number of its parameters and results. -/
def words (params results : Nat) : Signature :=
  ⟨List.replicate params .i32, List.replicate results .i32⟩

/-- The number of parameters. -/
def arity (signature : Signature) : Nat := signature.params.length

/-- A result list is accepted when its types are the declared ones, in order and number. -/
def acceptsResults (signature : Signature) (values : List Value) : Bool :=
  values.map Value.type == signature.results

/-- Types between round brackets. -/
def group (types : List NumType) : String :=
  "(" ++ String.intercalate ", " (types.map NumType.text) ++ ")"

/-- The plain spelling of a signature, such as (i32, i64) -> (i32). -/
def text (signature : Signature) : String :=
  group signature.params ++ " -> " ++ group signature.results

/-- The spelling of a signature in debugging output. -/
def debug (signature : Signature) : String :=
  let list := fun types => debugList (types.map NumType.debug)
  "Signature \x7b params: " ++ list signature.params ++ ", results: " ++ list signature.results ++ " \x7d"

end Signature

end GuestBoundary
