import RestoreCheck.Entry.Meta
import RestoreCheck.Probe.Capability

/-!
# What a comparison looks at

`Options` says which attributes are compared and how.  A mounted view counts the links of
directories in its own way and may round times, so both are treated apart where `ViewRule` says
that the right tree is one.
-/

namespace RestoreCheck

/-- When the right tree is taken for a mounted view. -/
inductive ViewRule where
  /-- entry by entry, if the two sides lie on different devices -/
  | detect
  /-- always -/
  | right
  /-- never -/
  | never
deriving DecidableEq

/-- Every choice. -/
def ViewRule.all : List ViewRule := [detect, right, never]

/-- The name of a choice. -/
def ViewRule.text : ViewRule → String
  | detect => "detect"
  | .right => "right"
  | never => "never"

/-- Whether a pair of entries counts as seen through a mount. -/
def ViewRule.applies (view : ViewRule) (left right : Meta) : Bool :=
  match view with
  | detect => left.device ≠ right.device
  | .right => true
  | never => false

/-- What a comparison looks at. -/
structure Options where
  /-- flags are not compared -/
  ignoreFlags : Bool
  /-- extended attributes are not compared -/
  ignoreXattrs : Bool
  /-- times are compared in whole seconds -/
  ignoreNanos : Bool
  /-- when the right tree is a mounted view -/
  mountedView : ViewRule
  /-- whether a mounted view carries nanoseconds -/
  mountHasNanos : Bool
deriving DecidableEq

namespace Options

/-- Everything is compared; mounted views are detected and carry nanoseconds. -/
def default : Options := ⟨false, false, false, .detect, true⟩

end Options

/-- How a time of change is normalized before it is compared. -/
inductive TimeRule where
  /-- the fraction of a second is dropped -/
  | wholeSeconds
  /-- rounded to a precision -/
  | rounded (precision : Precision)
deriving DecidableEq

/-- A time under a rule. -/
def TimeRule.apply : TimeRule → Stamp → Stamp
  | wholeSeconds, t => t.wholeSeconds
  | rounded precision, t => precision.round t

/-- **The rule for times of change.**  Where times cannot be set exactly there is none, and times
are not compared at all. -/
def Options.timeRule? (o : Options) (capabilities : Capabilities) (mounted : Bool) :
    Option TimeRule :=
  if !capabilities.utime then none
  else if o.ignoreNanos then some .wholeSeconds
  else if mounted && !o.mountHasNanos then some (.rounded .coarse)
  else some (.rounded capabilities.precision)

end RestoreCheck
