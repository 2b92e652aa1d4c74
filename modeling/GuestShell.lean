import GuestShell.Main
import GuestShell.Program.Basic
import GuestShell.Display.Scripted
import GuestShell.Proofs.Manager.Convergence
import GuestShell.Proofs.Manager.HoldBack
import GuestShell.Proofs.Manager.SurfaceScale
import GuestShell.Proofs.Manager.Interference
import GuestShell.Proofs.Manager.HostTitle
import GuestShell.Proofs.Manager.AxisIndependence
import GuestShell.Proofs.Manager.ApplicationId
import GuestShell.Proofs.Manager.Notifications
import GuestShell.Proofs.Host.ByteStream
import GuestShell.Proofs.Manager.ScaleFactors
import GuestShell.Proofs.Manager.Untracked
import GuestShell.Proofs.Display.RootEvents
import GuestShell.Proofs.Scale.RoundTrip
import GuestShell.Proofs.Manager.Minimizing
import GuestShell.Proofs.Manager.Reconciliation
import GuestShell.Proofs.Display.Routing
import GuestShell.Proofs.Manager.Focus
import GuestShell.Proofs.Display.ActiveWindow
import GuestShell.Proofs.Scale.Damage
import GuestShell.Proofs.Wire.Incremental
import GuestShell.Proofs.Wire.Rewriting
import GuestShell.Proofs.Manager.StateMessages
import GuestShell.Proofs.Manager.Failures
import GuestShell.Proofs.Display.FollowUp
import GuestShell.Proofs.Display.Scan
import GuestShell.Proofs.Manager.ConfiguredId
import GuestShell.Proofs.Scale.Modes
import GuestShell.Proofs.Scale.DamageOrder
import GuestShell.Proofs.Scale.Axes
import GuestShell.Proofs.Manager.Registry
import GuestShell.Proofs.Wire.Bounds
import GuestShell.Proofs.Files.Tree
import GuestShell.Proofs.Config.Load
