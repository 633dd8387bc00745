import ScannerButton.Bjnp.Serdes
import ScannerButton.Bjnp.Header
import ScannerButton.Bjnp.Packet
import ScannerButton.Bjnp.Discover
import ScannerButton.Bjnp.Identity
import ScannerButton.Time.DateTime
import ScannerButton.Bjnp.Poll.Host
import ScannerButton.Bjnp.Poll.Command
import ScannerButton.Bjnp.Poll.Response
import ScannerButton.Bjnp.Framing
import ScannerButton.App.Runtime
import ScannerButton.App.Channel
import ScannerButton.App.Listener
import ScannerButton.App.Session
import ScannerButton.App.Conformance
import ScannerButton.App.Acknowledgement
import ScannerButton.App.Trace
import ScannerButton.App.Backoff
import ScannerButton.App.Panics
import ScannerButton.App.Scan
