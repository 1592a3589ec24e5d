import GuestBoundary.Instance
import GuestBoundary.Program.Transfer

/-! A small guest with one host function of any body, to state what happens on a running instance. -/

namespace GuestBoundary

namespace Sample

/-- An allocator that hands out memory from a global on, and takes none of it back. -/
def allocator : Wasm.Function where
  id := "bump"
  type := ⟨[.number .i32], [.number .i32]⟩
  locals := []
  body := [.globalGet "next", .globalGet "next", .localGet 0, .word .add, .globalSet "next"]

/-- A deallocator that overwrites the start of what it is given. -/
def deallocator : Wasm.Function where
  id := "wipe"
  type := ⟨[.number .i32], []⟩
  locals := []
  body := [.localGet 0, .const (.i32 0), .store]

/-- An export that answers the span it is given, as one word. -/
def echo : Wasm.Function where
  id := "echo"
  type := ⟨[.number .i32, .number .i32], [.number .i64]⟩
  locals := []
  body := [.localGet 0, .extendU, .const (.i64 32), .long .shl, .localGet 1, .extendU, .long .or]

/-- An export that calls the host function, and records that the call has come back. -/
def relay : Wasm.Function where
  id := "relay"
  type := ⟨[.number .i32], []⟩
  locals := []
  body := [.localGet 0, .call "visit", .const (.i32 1), .globalSet "back"]

/-- A start function that calls the host function. -/
def boot : Wasm.Function where
  id := "boot"
  type := ⟨[], []⟩
  locals := []
  body := [.const (.i32 1), .call "visit"]

/-- The guest, with the exports that the default conventions name. -/
def guest : Wasm.Module where
  imports := [⟨"env", "visit", .function "visit" ⟨[.number .i32], []⟩⟩]
  memories := [⟨1, none⟩]
  tables := []
  globals := [⟨"next", .number .i32, 16⟩, ⟨"back", .number .i32, 0⟩]
  functions := [allocator, deallocator, echo, relay, boot]
  exports := [⟨"memory", .memory 0⟩, ⟨"malloc", .function "bump"⟩, ⟨"free", .function "wipe"⟩,
    ⟨"echo", .function "echo"⟩, ⟨"relay", .function "relay"⟩]
  segments := []
  start := none

/-- A host function that opens a scope and re-enters the guest in it, as often as it is told, and then
fails. -/
def nest : List Value → Program (List Value)
  | [.i32 count] =>
    if count = 0 then .fail (.engine "stop")
    else Program.withGuestBytes [1, 2, 3] fun _ => Program.invoke "relay" [.i32 (count - 1)]
  | _ => .done []

/-- A host function that re-enters the guest as often as it is told, and then fails. -/
def descend : List Value → Program (List Value)
  | [.i32 count] =>
    if count = 0 then .fail (.engine "stop") else Program.invoke "relay" [.i32 (count - 1)]
  | _ => .done []

variable (body : List Value → Program (List Value))

/-- The host function that the guest imports. -/
def visit : HostFunction := ⟨"env", "visit", .words 1 0, body⟩

/-- The registry of this host function alone. -/
def registry : Registry := ⟨[visit body], List.pairwise_singleton _ _⟩

/-- The guest with its import bound. -/
def linked : Linked := ⟨guest, [("visit", visit body)], .default, 1, 256⟩

/-- Whatever the host function does, the guest links against it. -/
theorem links : Linked.link .default (registry body) guest = .ok (linked body) := rfl

/-- The engine that the guest runs on. -/
def engine : Engine := ⟨16, 16⟩

/-- The guest, freshly instantiated. -/
def inst : Instance := ⟨linked body, Instance.initialStore .default (linked body)⟩

/-- The context of the guest's host. -/
def context : Context := Instance.context engine (linked body)

end Sample

end GuestBoundary
