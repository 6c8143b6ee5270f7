import InterfaceDiscovery.Text.Table
import InterfaceDiscovery.Text.Printable
import InterfaceDiscovery.Text.Cased
import InterfaceDiscovery.Text.Lowercase
import InterfaceDiscovery.Text.Uppercase
import InterfaceDiscovery.Text.Digit
import InterfaceDiscovery.Text.Blank
import InterfaceDiscovery.Text.Case
import InterfaceDiscovery.Text.Hex
import InterfaceDiscovery.Text.Quoted
import InterfaceDiscovery.Address.Basic
import InterfaceDiscovery.Address.Parser
import InterfaceDiscovery.Address.Printer
import InterfaceDiscovery.Interface.Basic
import InterfaceDiscovery.Interface.Association
import InterfaceDiscovery.Interface.Validation
import InterfaceDiscovery.Value
import InterfaceDiscovery.Number.Binary
import InterfaceDiscovery.Validation.Basic
import InterfaceDiscovery.Validation.Lax
import InterfaceDiscovery.NameMap
import InterfaceDiscovery.Discovery.Skip
import InterfaceDiscovery.Discovery.Registry
import InterfaceDiscovery.Discovery.Walk
import InterfaceDiscovery.NetworkError
import InterfaceDiscovery.Host.Snapshot
import InterfaceDiscovery.Host.Resolve
import InterfaceDiscovery.Number.Integer
import InterfaceDiscovery.Number.Real
import InterfaceDiscovery.Number.Shortest
import InterfaceDiscovery.Number.Decimal
import InterfaceDiscovery.Logging.Level
import InterfaceDiscovery.Logging.Format
import InterfaceDiscovery.Logging.Logger
import InterfaceDiscovery.Environment.Basic
import InterfaceDiscovery.Environment.Typed
import InterfaceDiscovery.Settings
import InterfaceDiscovery.Calendar.Date
import InterfaceDiscovery.Calendar.Format
import InterfaceDiscovery.Version.Basic
import InterfaceDiscovery.Report.Json
import InterfaceDiscovery.Report.Yaml.Plain
import InterfaceDiscovery.Report.Yaml.Writer
import InterfaceDiscovery.Report.Listing
import InterfaceDiscovery.Command.Line
import InterfaceDiscovery.Command.Help
import InterfaceDiscovery.Command.Run
import InterfaceDiscovery.Lifecycle
import InterfaceDiscovery.Service
import InterfaceDiscovery.Text.Lines
import InterfaceDiscovery.Text.Fold
import InterfaceDiscovery.Main
import InterfaceDiscovery.Text.Word
import InterfaceDiscovery.Proofs.Walk
import InterfaceDiscovery.Proofs.Nesting
import InterfaceDiscovery.Proofs.Attribution
import InterfaceDiscovery.Proofs.Lifecycle
import InterfaceDiscovery.Proofs.Registry
import InterfaceDiscovery.Proofs.Host
import InterfaceDiscovery.Proofs.Caching
import InterfaceDiscovery.Proofs.NameMaps
import InterfaceDiscovery.Proofs.Resolution
import InterfaceDiscovery.Proofs.Enumeration
import InterfaceDiscovery.Proofs.Views
import InterfaceDiscovery.Proofs.Pruning
import InterfaceDiscovery.Proofs.Settings
import InterfaceDiscovery.Proofs.Lookup
import InterfaceDiscovery.Proofs.Reconfiguration
