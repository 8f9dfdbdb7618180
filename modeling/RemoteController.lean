import RemoteController.Udp.Codec
import RemoteController.Lib.Coalesce
import RemoteController.Watchdog
import RemoteController.Session.Submit
import RemoteController.Udp.Input
import RemoteController.Udp.Handshake
import RemoteController.Pairing.Enforced
import RemoteController.Lib.FramedStream
import RemoteController.Udp.Control
import RemoteController.EndToEnd.Input
import RemoteController.EndToEnd.Rumble
import RemoteController.Vigem.Report
import RemoteController.Pairing.Stable
import RemoteController.Lockstep
import RemoteController.Wakeup
import RemoteController.LanServer.FailedRelease
import RemoteController.LanClient.Stopping
import RemoteController.LocalBridge.Release
import RemoteController.StartStop
import RemoteController.Blocking.Sessions
import RemoteController.Vigem.Balance
import RemoteController.Pairing.Grammar
import RemoteController.Installer.Service
import RemoteController.Capture
import RemoteController.Abi.Enumerate
import RemoteController.Diagnostic
import RemoteController.Home.ViewModel
import RemoteController.RumbleMailbox
import RemoteController.Udp.Segmentation
import RemoteController.Udp.Starting
import RemoteController.Sdl.Device
import RemoteController.Response
import RemoteController.Udp.Heartbeat
import RemoteController.EndToEnd.Pads
import RemoteController.Blocking.Handles
import RemoteController.Abi.TwoPass
import RemoteController.Session.Life
import RemoteController.EndToEnd.LocalBridge
import RemoteController.LanServer.Noticed
import RemoteController.Home.Exclusive
