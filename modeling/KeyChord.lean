import KeyChord.Main
import KeyChord.Proofs.Action.Command
import KeyChord.Proofs.Config.Binding
import KeyChord.Proofs.Config.Comment
import KeyChord.Proofs.Config.Header
import KeyChord.Proofs.Config.Layers
import KeyChord.Proofs.Daemon.Captures
import KeyChord.Proofs.Daemon.Isolation
import KeyChord.Proofs.Daemon.Load
import KeyChord.Proofs.Daemon.Pipes
import KeyChord.Proofs.Daemon.Signals
import KeyChord.Proofs.Daemon.SpecialKeys
import KeyChord.Proofs.Daemon.Switching
import KeyChord.Proofs.Device.Lookup
import KeyChord.Proofs.Device.Owner
import KeyChord.Proofs.Device.Restore
import KeyChord.Proofs.Dispatch.Bound
import KeyChord.Proofs.Dispatch.Noise
import KeyChord.Proofs.Dispatch.Order
import KeyChord.Proofs.Dispatch.Reset
import KeyChord.Proofs.Dispatch.Segmentation
import KeyChord.Proofs.Dispatch.Shadow
import KeyChord.Proofs.Pattern.Language
import KeyChord.Proofs.Pattern.Printed
import KeyChord.Proofs.Pattern.Sequence
import KeyChord.Proofs.Pattern.Spelling
