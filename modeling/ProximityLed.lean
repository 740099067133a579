import ProximityLed.Library.Run
import ProximityLed.Library.Timer
import ProximityLed.Library.Clock
import ProximityLed.Library.Interrupt
import ProximityLed.Library.BoundedArray
import ProximityLed.Library.Bits
import ProximityLed.Library.Framing
import ProximityLed.Library.Endian
import ProximityLed.Library.Records
import ProximityLed.PwmDriver
import ProximityLed.ColorScan.Helpers
import ProximityLed.ColorScan.Handlers
import ProximityLed.ColorScan.DeviceView
import ProximityLed.ColorScan.Renaming
import ProximityLed.ColorScan.Startup
import ProximityLed.ColorScan.Soundness
import ProximityLed.ColorScan.Cache
import ProximityLed.ColorScan.Strip
import ProximityLed.ColorScan.StartupRace
import ProximityLed.ColorScan.Independence
import ProximityLed.ColorScan.FadeOut
import ProximityLed.ColorScan.Payload
import ProximityLed.ColorScan.Phases
import ProximityLed.ColorScan.Presence
import ProximityLed.ColorScan.ClockFree
import ProximityLed.ColorAdv.Program
import ProximityLed.ColorAdv.Selection
import ProximityLed.ColorAdv.Blinking
import ProximityLed.EndToEnd
import ProximityLed.Encoding
import ProximityLed.Duplicates
import ProximityLed.Sniffer.Slip
import ProximityLed.Sniffer.ReadQueue
import ProximityLed.Sniffer.OnAir
import ProximityLed.Sniffer.PacketLog
import ProximityLed.Sniffer.Packets
import ProximityLed.Library.Echo
import ProximityLed.System
import ProximityLed.Sniffer.Requests
import ProximityLed.Library.Keyed
import ProximityLed.Sniffer.Devices
import ProximityLed.Sniffer.Capture
import ProximityLed.Library.Shedding
import ProximityLed.Library.Stepwise
import ProximityLed.Sniffer.SnifferCapture
import ProximityLed.Sniffer.SnifferCollector
import ProximityLed.Sniffer.ThreadRuns
import ProximityLed.Sniffer.Pipeline
import ProximityLed.Library.Text
import ProximityLed.Sniffer.ControlChannel
import ProximityLed.Sniffer.Toolbar
import ProximityLed.Sniffer.Commands
import ProximityLed.Sniffer.CaptureFilter
import ProximityLed.ColorScan.StripOnClock
import ProximityLed.Library.Rounding
import ProximityLed.ColorScan.Scaling
