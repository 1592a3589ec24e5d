import GuestBoundary.Program.Memory
import GuestBoundary.Registry

/-! The system interface that guests built for a system target import, as far as it is offered: two of
the functions that it defines. -/

namespace GuestBoundary

namespace SystemInterface

/-- The namespace of the system interface. -/
def space : String := "wasi_snapshot_preview1"

/-- The names that the system interface defines. -/
def names : List String :=
  [ "args_get", "args_sizes_get", "clock_res_get", "clock_time_get", "environ_get",
    "environ_sizes_get", "fd_advise", "fd_allocate", "fd_close", "fd_datasync", "fd_fdstat_get",
    "fd_fdstat_set_flags", "fd_fdstat_set_rights", "fd_filestat_get", "fd_filestat_set_size",
    "fd_filestat_set_times", "fd_pread", "fd_prestat_dir_name", "fd_prestat_get", "fd_pwrite",
    "fd_read", "fd_readdir", "fd_renumber", "fd_seek", "fd_sync", "fd_tell", "fd_write",
    "path_create_directory", "path_filestat_get", "path_filestat_set_times", "path_link",
    "path_open", "path_readlink", "path_remove_directory", "path_rename", "path_symlink",
    "path_unlink_file", "poll_oneoff", "proc_exit", "proc_raise", "random_get", "sched_yield",
    "sock_accept", "sock_recv", "sock_send", "sock_shutdown" ]

/-- The memory export that the system interface works on, whatever the conventions name. -/
def memory : View := ⟨"memory"⟩

/-- The status of success. -/
def success : List Value := [.i32 0]

/-- The status for a descriptor that takes no output. -/
def badDescriptor : List Value := [.i32 8]

/-- End the call of a guest that broke the rules of the system interface. -/
def refuse {α : Type} (text : String) : Program α := .fail (.engine text)

/-- Check an access; words must lie at multiples of four. -/
def checkAccess (size address count : Nat) (aligned : Bool) : Program Unit :=
  if address + count ≤ size ∧ (aligned = true → address % 4 = 0) then .done ()
  else refuse "invalid pointer"

/-- The first span with bytes among consecutive spans in memory. -/
def firstFilled (size : Nat) (address : Nat) : Nat → Program Span
  | 0 => .done ⟨0, 0⟩
  | count + 1 => do
    checkAccess size address 8 true
    let pointer ← memory.readWord (UInt32.ofNat address)
    let length ← memory.readWord (UInt32.ofNat (address + 4))
    if length = 0 then firstFilled size (address + 8) count else return ⟨pointer, length⟩

/-- Write the first filled span to an output, which discards it, and store how many bytes it had. -/
def write (descriptor vectors count written : UInt32) : Program (List Value) :=
  .ask (.memorySize memory.memory) fun
    | none => refuse "missing required memory export"
    | some size =>
      if descriptor = 1 ∨ descriptor = 2 then do
        let span ← firstFilled size vectors.toNat count.toNat
        checkAccess size span.pointer.toNat span.length.toNat false
        checkAccess size written.toNat 4 true
        memory.writeWord written span.length
        return success
      else return badDescriptor

/-- Write spans of bytes to a descriptor. -/
def descriptorWrite : HostFunction where
  space
  name := "fd_write"
  signature := .words 4 1
  body := fun
    | [.i32 descriptor, .i32 vectors, .i32 count, .i32 written] =>
      write descriptor vectors count written
    | _ => refuse "wrong arguments"

/-- End the guest's process, and with it the call. -/
def processExit : HostFunction where
  space
  name := "proc_exit"
  signature := .words 1 0
  body := fun _ => refuse "exit"

/-- The functions that are offered. All other names of the system interface are only reserved: a guest
that imports one of them is refused, as for an unknown import. -/
def functions : List HostFunction := [descriptorWrite, processExit]

end SystemInterface

end GuestBoundary
