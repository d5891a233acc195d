import Switchboard.Text.Utf8
import Switchboard.Key
import Switchboard.Config
import Switchboard.Decimal.Layout
import Switchboard.Mismatch
import Switchboard.Json.Fault
import Switchboard.Json.Writer
import Switchboard.Json.Skip
import Switchboard.Json.Reader
import Switchboard.MessagePack.Reader
import Switchboard.MessagePack.Writer
import Switchboard.Codec
import Switchboard.Invoker
import Switchboard.Main
import Switchboard.Customers.MemoryStore
import Switchboard.Http.Link
import Switchboard.Proofs.Bytes
import Switchboard.Proofs.Text.Utf8
import Switchboard.Proofs.Json.Text
import Switchboard.Proofs.Json.Head
import Switchboard.Proofs.Ascending
import Switchboard.Proofs.Datum
import Switchboard.Proofs.Except
import Switchboard.Proofs.Json.Writer
import Switchboard.Proofs.Json.Container
import Switchboard.Proofs.Catalogue
import Switchboard.Proofs.Json.RoundTrip
import Switchboard.Proofs.MessagePack.Container
import Switchboard.Proofs.MessagePack.RoundTrip
import Switchboard.Proofs.Codec
import Switchboard.Proofs.Key
import Switchboard.Proofs.Action
import Switchboard.Proofs.Http.Transport
import Switchboard.Proofs.Http.Agreement
import Switchboard.Proofs.Handlers
import Switchboard.Proofs.Customers.Model
import Switchboard.Proofs.Hop
import Switchboard.Proofs.Customers.Exchange
import Switchboard.Proofs.Customers.Composition
import Switchboard.Proofs.Interpretation
import Switchboard.Proofs.Json.Numeral
import Switchboard.Proofs.Json.Skip
import Switchboard.Proofs.MessagePack.Skip
import Switchboard.Proofs.Codec.Agreement
import Switchboard.Proofs.Codec.Compatibility
import Switchboard.Proofs.Invocation
import Switchboard.Proofs.Soundness
import Switchboard.Proofs.History
import Switchboard.Proofs.Customers.Consistency
import Switchboard.Proofs.Json.Acceptance
import Switchboard.Proofs.Customers.Requests
import Switchboard.Proofs.Http.Dispatch
import Switchboard.Proofs.Customers.Recollection
import Switchboard.Proofs.Codec.Truncation
import Switchboard.Proofs.Customers.Crosswise
import Switchboard.Proofs.Codec.Positional
import Switchboard.Proofs.Codec.Exactness
import Switchboard.Proofs.Domain.Punycode
import Switchboard.Proofs.Domain.Decomposition
import Switchboard.Proofs.Domain.Composition
import Switchboard.Proofs.Domain.Mapping
import Switchboard.Proofs.Domain.Parts
import Switchboard.Proofs.Domain.Name
import Switchboard.Proofs.Domain.Ideograph
import Switchboard.Proofs.Url.Ipv4
import Switchboard.Proofs.Url.Ipv6
import Switchboard.Proofs.Url.Host
import Switchboard.Proofs.Url.Path
import Switchboard.Proofs.Url.Base
import Switchboard.Proofs.Url.Canonical
import Switchboard.Proofs.Http.Preview
import Switchboard.Proofs.CommandLine.Resolution
