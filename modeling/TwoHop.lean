import TwoHop.Agent.Exchange
import TwoHop.Agent.Local
import TwoHop.Agent.Remote
import TwoHop.Agent.Setup
import TwoHop.Bytes
import TwoHop.CommandLine
import TwoHop.Data
import TwoHop.Destination
import TwoHop.Envelope.Message
import TwoHop.Envelope.Tunnel
import TwoHop.Fault
import TwoHop.Fault.Io
import TwoHop.Field
import TwoHop.Flow.Copy
import TwoHop.Flow.Handover
import TwoHop.Flow.Outlet
import TwoHop.Flow.Queue
import TwoHop.Flow.Relay
import TwoHop.Flow.Scan
import TwoHop.Flow.Sink
import TwoHop.Flow.Source
import TwoHop.Flow.Splice
import TwoHop.Frame
import TwoHop.Frame.Scanner
import TwoHop.Gate
import TwoHop.Header.Map
import TwoHop.Header.Name
import TwoHop.Headers
import TwoHop.Ip
import TwoHop.Log.Level
import TwoHop.Log.Line
import TwoHop.Log.Path
import TwoHop.Log.Stamp
import TwoHop.Log.Theme
import TwoHop.Main
import TwoHop.Pem
import TwoHop.Proofs.Agent.Admission
import TwoHop.Proofs.Agent.Calling
import TwoHop.Proofs.Agent.Chain
import TwoHop.Proofs.Agent.Crowding
import TwoHop.Proofs.Agent.Exchange
import TwoHop.Proofs.Agent.InnerLength
import TwoHop.Proofs.Agent.OuterLength
import TwoHop.Proofs.Agent.Posting
import TwoHop.Proofs.Agent.ReplySize
import TwoHop.Proofs.Agent.Replying
import TwoHop.Proofs.Agent.TunnelReply
import TwoHop.Proofs.Agent.Vetting
import TwoHop.Proofs.Bytes
import TwoHop.Proofs.Destination.Absolute
import TwoHop.Proofs.Destination.Addresses
import TwoHop.Proofs.Destination.Hosts
import TwoHop.Proofs.Destination.Rebuilt
import TwoHop.Proofs.Fault.Rendering
import TwoHop.Proofs.Fault.Reporting
import TwoHop.Proofs.Flow.Aborting
import TwoHop.Proofs.Flow.Backpressure
import TwoHop.Proofs.Flow.Conservation
import TwoHop.Proofs.Flow.Content
import TwoHop.Proofs.Flow.Copying
import TwoHop.Proofs.Flow.Delivery
import TwoHop.Proofs.Flow.Demand
import TwoHop.Proofs.Flow.Direction
import TwoHop.Proofs.Flow.Hearing
import TwoHop.Proofs.Flow.Lossless
import TwoHop.Proofs.Flow.Metering
import TwoHop.Proofs.Flow.Reading
import TwoHop.Proofs.Flow.Relaying
import TwoHop.Proofs.Flow.Scanning
import TwoHop.Proofs.Flow.Sharing
import TwoHop.Proofs.Flow.Transport
import TwoHop.Proofs.Flow.Truncation
import TwoHop.Proofs.Flow.Tunnel
import TwoHop.Proofs.Header.Capacity
import TwoHop.Proofs.Header.Decimals
import TwoHop.Proofs.Header.Insertion
import TwoHop.Proofs.Header.Lengths
import TwoHop.Proofs.Header.Maps
import TwoHop.Proofs.Header.Survival
import TwoHop.Proofs.Header.Values
import TwoHop.Proofs.Scanner.Fragmentation
import TwoHop.Proofs.Scanner.Heading
import TwoHop.Proofs.Scanner.Stages
import TwoHop.Proofs.Settings.Starting
import TwoHop.Proofs.Text.Cutting
import TwoHop.Proofs.Text.Letters
import TwoHop.Proofs.Text.Trimming
import TwoHop.Proofs.Token.Binding
import TwoHop.Proofs.Token.Bits
import TwoHop.Proofs.Token.Canonical
import TwoHop.Proofs.Token.Signing
import TwoHop.Proofs.Token.Spelling
import TwoHop.Proofs.Token.Verification
import TwoHop.Proofs.Wire.Acceptance
import TwoHop.Proofs.Wire.Decoders
import TwoHop.Proofs.Wire.Envelopes
import TwoHop.Proofs.Wire.Fields
import TwoHop.Proofs.Wire.Format
import TwoHop.Proofs.Wire.HeaderFields
import TwoHop.Proofs.Wire.Reencoding
import TwoHop.Proofs.Wire.RoundTrip
import TwoHop.Proofs.Wire.Rules
import TwoHop.Proofs.Wire.Splitting
import TwoHop.Proofs.Wire.Values
import TwoHop.Replier
import TwoHop.Reply
import TwoHop.ServerName
import TwoHop.Settings
import TwoHop.Settings.Validity
import TwoHop.Settings.View
import TwoHop.Status
import TwoHop.Target
import TwoHop.Text.Ascii
import TwoHop.Text.Blank
import TwoHop.Text.Quoted
import TwoHop.Text.Split
import TwoHop.Text.Unprintable
import TwoHop.Text.Upper
import TwoHop.Tls
import TwoHop.Token
import TwoHop.Token.Base64
import TwoHop.Token.Digest
import TwoHop.Traffic
import TwoHop.Uri
import TwoHop.Yaml.Cursor
import TwoHop.Yaml.Look
import TwoHop.Yaml.Node
import TwoHop.Yaml.Printer
import TwoHop.Yaml.Scalar
import TwoHop.Yaml.Token
import TwoHop.Yaml.Value
