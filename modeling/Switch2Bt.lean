import Switch2Bt.Bridge.Characteristics
import Switch2Bt.Bridge.DiscoveryEnds
import Switch2Bt.Bridge.PairingOrder
import Switch2Bt.Bridge.Reports
import Switch2Bt.Btstack.Exact
import Switch2Bt.Codec.Encoders
import Switch2Bt.Codec.PairingStatus
import Switch2Bt.Codec.ParseInput
import Switch2Bt.Daemon.ActiveProfile
import Switch2Bt.Daemon.Attribution
import Switch2Bt.Daemon.Backoff
import Switch2Bt.Daemon.Disconnects
import Switch2Bt.Daemon.ExitCodes
import Switch2Bt.Daemon.FailureReasons
import Switch2Bt.Daemon.InputHandle
import Switch2Bt.Daemon.Leaks
import Switch2Bt.Daemon.Ordering
import Switch2Bt.Daemon.PairResponses
import Switch2Bt.Daemon.ScanRobust
import Switch2Bt.Daemon.Watchdog
import Switch2Bt.Dbus.Descriptors
import Switch2Bt.Dbus.Sessions
import Switch2Bt.Dump.Changes
import Switch2Bt.Gamepad.Visible
import Switch2Bt.Hid.HidReport
import Switch2Bt.Hid.Report09
import Switch2Bt.Hosts.Addresses
import Switch2Bt.Hosts.AttReader
import Switch2Bt.Hosts.GattProbe
import Switch2Bt.Hosts.PacketReader
import Switch2Bt.Hosts.PeerScan
import Switch2Bt.Hosts.Scanners
import Switch2Bt.Probe.ExitCodes
import Switch2Bt.Probe.Gamepads
import Switch2Bt.RawHci.Wire
import Switch2Bt.Sw2d.AclFraming
import Switch2Bt.Sw2d.AttExchange
import Switch2Bt.Sw2d.CharacteristicDiscovery
import Switch2Bt.Sw2d.CommandWait
import Switch2Bt.Sw2d.ConnectionWait
import Switch2Bt.Sw2d.CoreSmp
import Switch2Bt.Sw2d.Encrypted
import Switch2Bt.Sw2d.OneLink
import Switch2Bt.Sw2d.PairingAgreement
import Switch2Bt.Sw2d.Received
import Switch2Bt.Sw2d.Retries
import Switch2Bt.Sw2d.SmpOrder
import Switch2Bt.Sw2d.TerminalEvents
import Switch2Bt.Sw2dFinal.Runs
