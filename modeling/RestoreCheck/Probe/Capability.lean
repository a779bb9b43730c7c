import RestoreCheck.Platform

/-!
# Capabilities of a file system

Six things that a file system may or may not be able to do, and the record of which of them one can.
-/

namespace RestoreCheck

/-- Something that a file system may be able to do. -/
inductive Capability where
  /-- symbolic links keep their targets -/
  | symlinks
  /-- hard links share a file -/
  | hardLinks
  /-- named pipes can be made -/
  | fifos
  /-- times can be set exactly, also on symbolic links -/
  | utime
  /-- the birth time is kept apart from the time of change -/
  | birthTime
  /-- flags can be set on files -/
  | flags
deriving DecidableEq

namespace Capability

/-- Every capability, in the order in which they are listed. -/
def all : List Capability :=
  [symlinks, hardLinks, fifos, utime, birthTime, flags]

/-- The short name of a capability. -/
def text : Capability → String
  | symlinks => "symlinks"
  | hardLinks => "hardlinks"
  | fifos => "fifos"
  | utime => "utime"
  | birthTime => "birthtime"
  | flags => "lchflags"

/-- The question whether a capability is there. -/
def question : Capability → String
  | utime => "utime_fully_supported"
  | birthTime => "birthtime_fully_supported"
  | c => c.text ++ "_supported"

theorem mem_all (c : Capability) : c ∈ all := by
  cases c <;> decide

end Capability

/-- What a file system can do, and how finely times are rounded. -/
structure Capabilities where
  /-- see `Capability.symlinks` -/
  symlinks : Bool
  /-- see `Capability.hardLinks` -/
  hardLinks : Bool
  /-- see `Capability.fifos` -/
  fifos : Bool
  /-- see `Capability.utime` -/
  utime : Bool
  /-- see `Capability.birthTime` -/
  birthTime : Bool
  /-- see `Capability.flags` -/
  flags : Bool
  /-- how times are rounded -/
  precision : Precision
deriving DecidableEq

namespace Capabilities

/-- Whether one of the capabilities is there. -/
def supports (c : Capabilities) : Capability → Bool
  | .symlinks => c.symlinks
  | .hardLinks => c.hardLinks
  | .fifos => c.fifos
  | .utime => c.utime
  | .birthTime => c.birthTime
  | .flags => c.flags

/-- The record with a given answer for each capability. -/
def ofAnswers (answer : Capability → Bool) (precision : Precision) : Capabilities :=
  ⟨answer .symlinks, answer .hardLinks, answer .fifos, answer .utime, answer .birthTime,
    answer .flags, precision⟩

@[simp] theorem supports_ofAnswers (answer : Capability → Bool) (precision : Precision)
    (c : Capability) : (ofAnswers answer precision).supports c = answer c := by
  cases c <;> rfl

end Capabilities

end RestoreCheck
