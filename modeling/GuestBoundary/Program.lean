import GuestBoundary.GuestLog
import GuestBoundary.Journal
import GuestBoundary.Wasm.FuncType

/-! Host programs: what a host may do at the boundary, as data that any calling context can run. -/

namespace GuestBoundary

/-- What a host may ask of the context it runs in. -/
inductive Request where
  /-- The names that the instance relies on. -/
  | conventions
  /-- The name under which the host is running. -/
  | self
  /-- The type of an exported function. -/
  | function (name : String)
  /-- Call an exported function, after checking the arguments. -/
  | invoke (name : String) (arguments : List Value)
  /-- The size of an exported memory in bytes. -/
  | memorySize (memory : String)
  | read (memory : String) (offset length : UInt32)
  | write (memory : String) (offset : UInt32) (bytes : List UInt8)
  /-- Record a line under the name of the host function. -/
  | log (message : String)
  /-- The number of lines recorded so far. -/
  | logged
  /-- Enter a note in the journal. -/
  | note (event : Event)

/-- What a context answers to a request; where it can fail, the program decides what follows. -/
abbrev Request.Reply : Request → Type
  | .conventions => Conventions
  | .self => String
  | .function _ => Option Wasm.FuncType
  | .invoke _ _ => Except Fault (List Value)
  | .memorySize _ => Option Nat
  | .read _ _ _ => Except Fault (List UInt8)
  | .write _ _ _ => Except Fault Unit
  | .log _ => Unit
  | .logged => Nat
  | .note _ => Unit

/-- A host program ends with a value or a fault, or asks and goes on with the reply. -/
inductive Program (α : Type) where
  | done (value : α)
  | fail (fault : Fault)
  | ask (request : Request) (resume : request.Reply → Program α)

namespace Program

variable {α β γ : Type}

/-- Go on with the value of a program; a fault ends both. -/
def bind (program : Program α) (next : α → Program β) : Program β :=
  match program with
  | .done value => next value
  | .fail fault => .fail fault
  | .ask request resume => .ask request fun reply => (resume reply).bind next

instance : Monad Program where
  pure := .done
  bind := .bind

/-- Going on with the value alone changes nothing. -/
theorem bind_done (program : Program α) : program.bind .done = program := by
  induction program with
  | done => rfl
  | fail => rfl
  | ask request resume ih => exact congrArg _ (funext ih)

/-- It does not matter how steps are grouped. -/
theorem bind_assoc (program : Program α) (f : α → Program β) (g : β → Program γ) :
    (program.bind f).bind g = program.bind fun value => (f value).bind g := by
  induction program with
  | done => rfl
  | fail => rfl
  | ask request resume ih => exact congrArg _ (funext ih)

instance : LawfulMonad Program :=
  LawfulMonad.mk' Program bind_done (fun _ _ => rfl) bind_assoc

/-- Run a program to its end, whether that is a value or a fault. -/
def attempt : Program α → Program (Except Fault α)
  | .done value => .done (.ok value)
  | .fail fault => .done (.error fault)
  | .ask request resume => .ask request fun reply => (resume reply).attempt

/-- End with an outcome. -/
def settle : Except Fault α → Program α
  | .ok value => .done value
  | .error fault => .fail fault

/-- Ask for the names that the instance relies on. -/
def conventions : Program Conventions := .ask .conventions .done

/-- Ask for the name under which the host is running. -/
def self : Program String := .ask .self .done

/-- Record a line. -/
def log (message : String) : Program Unit := .ask (.log message) .done

/-- Ask for the number of lines recorded so far. -/
def logged : Program Nat := .ask .logged .done

/-- Enter a note in the journal. -/
def note (event : Event) : Program Unit := .ask (.note event) .done

/-- Call an exported function. -/
def invoke (name : String) (arguments : List Value) : Program (List Value) :=
  .ask (.invoke name arguments) settle

/-- Whether a function is exported under a name. -/
def hasExport (name : String) : Program Bool :=
  .ask (.function name) fun type => .done type.isSome

/-- The signature of an exported function. -/
def signature (name : String) : Program Signature :=
  .ask (.function name) fun
    | none => .fail (.exportNotFound name)
    | some type =>
      match type.signature? with
      | some signature => .done signature
      | none => .fail (.signatureMismatch name (.exportNotInteger type))

end Program

end GuestBoundary
