import DevKit.Foundation.Procedure
import DevKit.Foundation.History
import DevKit.Foundation.Memory
import DevKit.Ota.Guarantees
import DevKit.Package.RoundTrip
import DevKit.Udp.MulticastSending
import DevKit.Udp.MulticastReceiving
import DevKit.Udp.WiFiUdpPackets
import DevKit.Eeprom.Saved
import DevKit.Timing.Uptime
import DevKit.Timing.NtpClient
import DevKit.Web.UrlForms
import DevKit.Web.ResultPage
import DevKit.Console.Quoting
import DevKit.Http.Sending
import DevKit.Http.Response
import DevKit.FileSystem.BlockDevice
import DevKit.WebSocket.Bounds
import DevKit.AzureIoT.FwVersion
import DevKit.Ota.Streaming
import DevKit.Ota.Version
import DevKit.WebSocket.Termination
import DevKit.Core.Stream
import DevKit.Httpd.Handlers
import DevKit.Console.WiFiCommands
import DevKit.Ota.CrcResidue
import DevKit.Audio.Recording
import DevKit.Audio.Mono
import DevKit.AzureIoT.HostName
import DevKit.WiFi.Ownership
import DevKit.Core.Memmem
