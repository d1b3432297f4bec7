import KeaGauge.Kea.Snapshot
import KeaGauge.Kea.Response
import KeaGauge.Kea.Command
import KeaGauge.Kea.Statistic
import KeaGauge.Text.Utf8
import KeaGauge.Toml.Reader
import KeaGauge.Settings.Source
import KeaGauge.Settings.Encoding
import KeaGauge.Cycle.Collector
import KeaGauge.Sink.Memory
import KeaGauge.Carbon.Receiver
import KeaGauge.Scripted.Link
import KeaGauge.Scripted.Harness
import KeaGauge.Scripted.Tree
import KeaGauge.Scripted.Network
import KeaGauge.Poll.Session
import KeaGauge.Poll.Launch
import KeaGauge.CommandLine
import KeaGauge.Main
import KeaGauge.Proofs.Kea.Snapshot
import KeaGauge.Proofs.Kea.Reversal
import KeaGauge.Proofs.Kea.Acceptance
import KeaGauge.Proofs.Kea.Discovery
import KeaGauge.Proofs.Kea.Response
import KeaGauge.Proofs.Cycle.Execution
import KeaGauge.Proofs.Cycle.Inquiry
import KeaGauge.Proofs.Cycle.Collection
import KeaGauge.Proofs.Cycle.Balance
import KeaGauge.Proofs.Cycle.Emission
import KeaGauge.Proofs.Cycle.ErrorLog
import KeaGauge.Proofs.Cycle.Attribution
import KeaGauge.Proofs.Cycle.Discipline
import KeaGauge.Proofs.Cycle.Repetition
import KeaGauge.Proofs.Cycle.Outstanding
import KeaGauge.Proofs.Cycle.Concurrency
import KeaGauge.Proofs.Cycle.Path
import KeaGauge.Proofs.Cycle.Termination
import KeaGauge.Proofs.Kea.Alike
import KeaGauge.Proofs.Kea.Description
import KeaGauge.Proofs.Kea.Excerpt
import KeaGauge.Proofs.Kea.Pool
import KeaGauge.Proofs.Cycle.SecondReading
import KeaGauge.Proofs.Cycle.Delivery
import KeaGauge.Proofs.Poll.Execution
import KeaGauge.Proofs.Poll.Isolation
import KeaGauge.Proofs.Poll.Reception
import KeaGauge.Proofs.Poll.Parallelism
import KeaGauge.Proofs.Settings.Encoding
import KeaGauge.Proofs.Settings.Launch
import KeaGauge.Proofs.Settings.Leniency
import KeaGauge.Proofs.Settings.Section
import KeaGauge.Proofs.Settings.Source
import KeaGauge.Proofs.Settings.Violation
import KeaGauge.Proofs.Text.Numeral
import KeaGauge.Proofs.Text.Splitting
import KeaGauge.Proofs.Text.Utf8
import KeaGauge.Proofs.Json.Object
import KeaGauge.Proofs.Json.Reading
import KeaGauge.Proofs.Json.RoundTrip
import KeaGauge.Proofs.Net.Address
import KeaGauge.Proofs.Net.Cidr
import KeaGauge.Proofs.Net.Lookalike
import KeaGauge.Proofs.Net.Network
import KeaGauge.Proofs.Calendar.Instant
import KeaGauge.Proofs.Calendar.Timestamp
import KeaGauge.Proofs.Carbon.Path
import KeaGauge.Proofs.Carbon.Payload
import KeaGauge.Proofs.Carbon.Reception
import KeaGauge.Proofs.Carbon.Tree
import KeaGauge.Proofs.Scripted.Script
import KeaGauge.Proofs.Scripted.Delivery
import KeaGauge.Proofs.Scripted.History
import KeaGauge.Proofs.Scripted.Fixture
import KeaGauge.Proofs.Scripted.Scenario
