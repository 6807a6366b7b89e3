import SdkEventBridge.Library.PlanarNorm
import SdkEventBridge.Library.Resumption
import SdkEventBridge.Library.Ledger
import SdkEventBridge.Model.Main
import SdkEventBridge.CmdVel.Operations
import SdkEventBridge.CmdVel.History
import SdkEventBridge.CmdVel.PublicApi
import SdkEventBridge.CmdVel.Interleaving
import SdkEventBridge.CmdVel.Provenance
import SdkEventBridge.CmdVel.AutoStop
import SdkEventBridge.CmdVel.Move
import SdkEventBridge.CmdVel.WalkMode
import SdkEventBridge.App.Commands
import SdkEventBridge.Switcher.Register
import SdkEventBridge.App.Steps
import SdkEventBridge.App.CommandOrder
import SdkEventBridge.App.Switcher
import SdkEventBridge.App.Posture
import SdkEventBridge.App.Tables
import SdkEventBridge.App.Interleaving
import SdkEventBridge.App.Reset
import SdkEventBridge.App.Idle
import SdkEventBridge.App.Restart
import SdkEventBridge.App.Protocol
import SdkEventBridge.App.VelocityCalls
import SdkEventBridge.App.Gating
import SdkEventBridge.App.Settling
import SdkEventBridge.App.Progress
import SdkEventBridge.App.Registration
import SdkEventBridge.App.Serial
import SdkEventBridge.Lifecycle.Channels
import SdkEventBridge.Process.Refinement
import SdkEventBridge.Process.Termination
