import RestoreCheck.Program.Machine

/-!
# Unmounting by command

A mount is released by `fusermount -u`; if that fails in whatever way, `umount` is tried, and its
failure is the one that counts.
-/

namespace RestoreCheck.Machine

/-- Runs a program on a mountpoint. -/
def runOn (program : String) (arguments : List Bytes) (mountpoint : Path) (m : Machine) :
    Except Fault Unit × Machine :=
  match m.start ⟨.ofString program, arguments ++ [mountpoint]⟩ with
  | (.error cause, m) => (.error cause, m)
  | (.ok stub, m) =>
    if stub.status.isSuccess then (.ok (), m)
    else (.error (.unsuccessful program mountpoint stub.status stub.complaint), m)

/-- **Unmounts by command.** -/
def unmount (mountpoint : Path) (m : Machine) : Except Fault Unit × Machine :=
  match m.runOn "fusermount" [.ofString "-u"] mountpoint with
  | (.ok (), m) => (.ok (), m)
  | (.error _, m) => m.runOn "umount" [] mountpoint

end RestoreCheck.Machine
