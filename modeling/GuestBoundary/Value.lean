/-! Integer values that cross the boundary between a host and a guest, and their types. -/

namespace GuestBoundary

/-- The integer types that a boundary call may use. -/
inductive NumType where
  | i32
  | i64
  deriving DecidableEq, Inhabited

/-- A boundary value holds an unsigned integer of one of the two widths. -/
inductive Value where
  | i32 (word : UInt32)
  | i64 (word : UInt64)
  deriving DecidableEq, Inhabited

/-- The spelling of a type in signatures and values. -/
def NumType.text : NumType → String
  | .i32 => "i32"
  | .i64 => "i64"

/-- The spelling of a type in debugging output. -/
def NumType.debug : NumType → String
  | .i32 => "I32"
  | .i64 => "I64"

namespace Value

/-- The type of a value. -/
def type : Value → NumType
  | .i32 _ => .i32
  | .i64 _ => .i64

/-- A value zero-extended to 64 bits. -/
def bits : Value → UInt64
  | .i32 word => word.toUInt64
  | .i64 word => word

/-- The low 32 bits of a value. -/
def low (value : Value) : UInt32 := value.bits.toUInt32

/-- A value fits a type that can hold all its bits, so only the step from 64 to 32 bits is refused. -/
def fits (value : Value) (type : NumType) : Bool :=
  match value, type with
  | .i32 _, _ => true
  | .i64 _, .i64 => true
  | .i64 _, .i32 => false

/-- A value as another type: wider by zero extension, narrower by dropping the high bits. -/
def coerce (value : Value) : NumType → Value
  | .i32 => .i32 value.low
  | .i64 => .i64 value.bits

/-- The zero of a type. -/
def zero : NumType → Value
  | .i32 => .i32 0
  | .i64 => .i64 0

/-- A signed integer reinterpreted bit for bit as an unsigned one of the type. -/
def ofInt (type : NumType) (number : Int) : Value :=
  match type with
  | .i32 => .i32 (UInt32.ofInt number)
  | .i64 => .i64 (UInt64.ofInt number)

/-- The unsigned decimal of a value. -/
def decimal (value : Value) : String := Nat.repr value.bits.toNat

/-- The plain spelling of a value, such as 5:i32. -/
def text (value : Value) : String := s!"{value.decimal}:{value.type.text}"

/-- The spelling of a value in debugging output, such as I32(5). -/
def debug (value : Value) : String := s!"{value.type.debug}({value.decimal})"

/-- A coerced value has the type asked for. -/
@[simp] theorem type_coerce (value : Value) (type : NumType) :
    (value.coerce type).type = type := by
  cases type <;> rfl

/-- A value that fits keeps its unsigned number when it is coerced. -/
theorem bits_coerce {value : Value} {type : NumType} (fit : value.fits type = true) :
    (value.coerce type).bits = value.bits := by
  -- Only a narrow value is ever asked to become narrow.
  cases value <;> cases type <;> simp_all [fits, coerce, bits, low]

end Value

/-- A list in debugging output, from the spellings of its members. -/
def debugList (members : List String) : String :=
  "[" ++ String.intercalate ", " members ++ "]"

/-- A value list in debugging output, such as [I32(3), I64(5)]. -/
def debugValues (values : List Value) : String := debugList (values.map Value.debug)

end GuestBoundary
