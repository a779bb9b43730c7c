import RestoreCheck.Compare.Inspectors
import RestoreCheck.Files.Layout
import RestoreCheck.Fixture.ReadOnly
import RestoreCheck.Mount.Stand
import RestoreCheck.Probe.Script
import RestoreCheck.Proofs.Compare.Classes
import RestoreCheck.Proofs.Compare.Disturbed
import RestoreCheck.Proofs.Compare.EqualTrees
import RestoreCheck.Proofs.Compare.Leniency
import RestoreCheck.Proofs.Compare.Links
import RestoreCheck.Proofs.Compare.Mirror
import RestoreCheck.Proofs.Compare.Noise
import RestoreCheck.Proofs.Compare.Vanishing
import RestoreCheck.Proofs.Compare.Vectors
import RestoreCheck.Proofs.Compare.WholeFiles
import RestoreCheck.Proofs.Compare.WholeSeconds
import RestoreCheck.Proofs.Entry.SecurityLabel
import RestoreCheck.Proofs.Files.Outside
import RestoreCheck.Proofs.Files.Paths
import RestoreCheck.Proofs.Files.Standing
import RestoreCheck.Proofs.Fixture.ReadOnly
import RestoreCheck.Proofs.Mount.Deadline
import RestoreCheck.Proofs.Mount.Detection
import RestoreCheck.Proofs.Mount.Events
import RestoreCheck.Proofs.Mount.Mountpoint
import RestoreCheck.Proofs.Mount.Outcome
import RestoreCheck.Proofs.Mount.Refusal
import RestoreCheck.Proofs.Mount.Runs
import RestoreCheck.Proofs.Mount.Teardown
import RestoreCheck.Proofs.Probe.Apart
import RestoreCheck.Proofs.Probe.Questions
import RestoreCheck.Proofs.Probe.Steady
import RestoreCheck.Proofs.Scope.AllOrNothing
import RestoreCheck.Proofs.Scope.Restoration
import RestoreCheck.Proofs.Scope.Scenario
import RestoreCheck.Proofs.Time.Conversion
import RestoreCheck.Proofs.Time.Nearest
import RestoreCheck.Proofs.Time.Observing
import RestoreCheck.Proofs.Time.Projection
import RestoreCheck.Scope.Environment
import RestoreCheck.Scope.Shelf
import RestoreCheck.Scope.WorkingDirectory
