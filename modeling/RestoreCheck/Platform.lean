import RestoreCheck.Time.Precision

/-!
# Platforms

`Platform.profile` is the table of what each family of operating systems can do with file times,
links, birth times and per-entry flags, and of the command that makes a path immutable there.
-/

namespace RestoreCheck

/-- A family of operating systems. -/
inductive Platform where
  | linux
  | macOs
  | freeBsd
  | netBsd
  | openBsd
  | illumos
  | windows
  | wasi
  | other
deriving DecidableEq

namespace Platform

/-- Every family, in the order of the table. -/
def all : List Platform :=
  [linux, macOs, freeBsd, netBsd, openBsd, illumos, windows, wasi, other]

/-- The family of an operating system's identifier. -/
def ofIdentifier (os : String) : Platform :=
  match os with
  | "linux" | "android" => linux
  | "macos" | "ios" => macOs
  | "freebsd" => freeBsd
  | "netbsd" => netBsd
  | "openbsd" => openBsd
  | "illumos" | "solaris" => illumos
  | "windows" => windows
  | "wasi" => wasi
  | _ => other

/-- The short name, as messages use it. -/
def text : Platform → String
  | linux => "linux"
  | macOs => "macos"
  | freeBsd => "freebsd"
  | netBsd => "netbsd"
  | openBsd => "openbsd"
  | illumos => "illumos"
  | windows => "windows"
  | wasi => "wasi"
  | other => "other"

/-- The name as a title. -/
def title : Platform → String
  | linux => "Linux"
  | macOs => "MacOs"
  | freeBsd => "FreeBsd"
  | netBsd => "NetBsd"
  | openBsd => "OpenBsd"
  | illumos => "Illumos"
  | windows => "Windows"
  | wasi => "Wasi"
  | other => "Other"

theorem mem_all (p : Platform) : p ∈ all := by
  cases p <;> decide

theorem ofIdentifier_text (p : Platform) : ofIdentifier p.text = p := by
  cases p <;> rfl

end Platform

/-- The finest call that sets file times. -/
inductive TimeSetting where
  | nanosecond
  | microsecond
  | second
deriving DecidableEq

namespace TimeSetting

/-- Every call, the finest first. -/
def all : List TimeSetting := [nanosecond, microsecond, second]

/-- The name as a title. -/
def title : TimeSetting → String
  | nanosecond => "Nanosecond"
  | microsecond => "Microsecond"
  | second => "Second"

end TimeSetting

/-- The call that reads and writes per-entry flags. -/
inductive FlagAccess where
  /-- there is none; flags count as zero -/
  | none
  /-- a request on the open file -/
  | request
  /-- a field of the file's status -/
  | status
deriving DecidableEq

/-- The name of the call as a title. -/
def FlagAccess.title : FlagAccess → String
  | none => "None"
  | request => "Ioctl"
  | status => "Chflags"

/-- The command that makes a path immutable. -/
structure SealCommand where
  /-- the program -/
  program : String
  /-- the argument that sets the mark -/
  set : String
  /-- the argument that clears it -/
  clear : String
deriving DecidableEq

/-- What a platform can do. -/
structure Profile where
  /-- the platform -/
  platform : Platform
  /-- how finely times can be set -/
  timeSetting : TimeSetting
  /-- the precision that is kept in fact, where it is coarser than the call promises -/
  observed : Option Precision
  /-- whether hard links can be made at all -/
  hasHardLinks : Bool
  /-- whether a file's status has a birth time -/
  hasBirthTime : Bool
  /-- how flags are accessed -/
  flagAccess : FlagAccess
  /-- how a path is made immutable -/
  immutable : Option SealCommand
deriving DecidableEq

namespace Platform

private def attributeCommand : SealCommand := ⟨"chattr", "+i", "-i"⟩

private def flagCommand : SealCommand := ⟨"chflags", "uchg", "nouchg"⟩

private def modeCommand : SealCommand := ⟨"chmod", "S+vimmutable", "S-vimmutable"⟩

/-- **The table of platforms.**  One platform sets times in nanoseconds and keeps ten microseconds;
one has no hard links. -/
def profile : Platform → Profile
  | linux => ⟨linux, .nanosecond, none, true, false, .request, some attributeCommand⟩
  | macOs => ⟨macOs, .nanosecond, none, true, true, .status, some flagCommand⟩
  | freeBsd => ⟨freeBsd, .nanosecond, none, true, true, .status, some flagCommand⟩
  | netBsd => ⟨netBsd, .nanosecond, some .tenMicroseconds, true, true, .status, some flagCommand⟩
  | openBsd => ⟨openBsd, .nanosecond, none, true, true, .status, some flagCommand⟩
  | illumos => ⟨illumos, .nanosecond, none, true, false, .none, some modeCommand⟩
  | windows => ⟨windows, .second, none, true, true, .none, none⟩
  | wasi => ⟨wasi, .second, none, false, false, .none, none⟩
  | other => ⟨other, .microsecond, none, true, false, .none, none⟩

theorem platform_profile (p : Platform) : p.profile.platform = p := by
  cases p <;> rfl

/-- The platform that this library's commands run on. -/
def current : Platform := linux

end Platform

/-- The precision that a call promises. -/
def TimeSetting.precision : TimeSetting → Precision
  | .nanosecond => .nanosecond
  | .microsecond => .microsecond
  | .second => .second

/-- **The precision of a platform**: the observed one, or else the one its call promises. -/
def Precision.resolve (setting : TimeSetting) (observed : Option Precision) : Precision :=
  observed.getD setting.precision

namespace Profile

/-- The precision of a profile. -/
def precision (p : Profile) : Precision :=
  .resolve p.timeSetting p.observed

/-- Whether there is a call that sets flags. -/
def hasFlags (p : Profile) : Bool :=
  p.flagAccess ≠ .none

end Profile

end RestoreCheck
