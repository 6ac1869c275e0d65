import Gateway.Assets.MediaType
import Gateway.Assets.Range
import Gateway.Assets.Serving
import Gateway.Broadcast
import Gateway.Command.Arguments
import Gateway.Command.Journal
import Gateway.Command.Program
import Gateway.Command.Startup
import Gateway.Config.Basic
import Gateway.Config.Form
import Gateway.Config.Loading
import Gateway.Config.Rules
import Gateway.Daemon.Backend
import Gateway.Daemon.Client
import Gateway.Daemon.Connection
import Gateway.Daemon.System
import Gateway.Decimal.Shortest
import Gateway.Directory.Basic
import Gateway.Directory.Resolution
import Gateway.Directory.Table
import Gateway.Files
import Gateway.Gzip.Bits
import Gateway.Gzip.Checksum
import Gateway.Gzip.Code
import Gateway.Gzip.Deflate
import Gateway.Gzip.Inflate
import Gateway.Gzip.Member
import Gateway.Html.Base
import Gateway.Html.Lexer
import Gateway.Html.Markup
import Gateway.Html.NamedCharacters
import Gateway.Html.Node
import Gateway.Html.Page
import Gateway.Html.Reference
import Gateway.Html.Token
import Gateway.Html.Tree.Arena
import Gateway.Html.Tree.Builder
import Gateway.Html.Tree.Foreign
import Gateway.Html.Tree.Formatting
import Gateway.Html.Tree.InBody
import Gateway.Html.Tree.InHead
import Gateway.Html.Tree.InTable
import Gateway.Html.Tree.Rules
import Gateway.Http.Answer
import Gateway.Http.Body
import Gateway.Http.Cause
import Gateway.Http.Coding
import Gateway.Http.ContentType
import Gateway.Http.Date
import Gateway.Http.Destination
import Gateway.Http.Flushing
import Gateway.Http.Forwarding
import Gateway.Http.Headers
import Gateway.Http.HopByHop
import Gateway.Http.Listing
import Gateway.Http.Origin
import Gateway.Http.Request
import Gateway.Http.RequestId
import Gateway.Http.Response
import Gateway.Http.Uri
import Gateway.Http.Wire.Arrival
import Gateway.Http.Wire.Framing
import Gateway.Http.Wire.Head
import Gateway.Http.Wire.Written
import Gateway.Link.Attributes
import Gateway.Link.Document
import Gateway.Link.Reference
import Gateway.Link.Rerooting
import Gateway.Link.Response
import Gateway.Link.Walk
import Gateway.Log.Filter
import Gateway.Log.Record
import Gateway.Main
import Gateway.Metrics
import Gateway.Net.Address
import Gateway.Net.SystemError
import Gateway.Path
import Gateway.Routing.Pattern
import Gateway.Routing.Routes
import Gateway.Routing.Target
import Gateway.Server
import Gateway.Shutdown
import Gateway.Text.Base64
import Gateway.Text.Blank
import Gateway.Text.CharSet
import Gateway.Text.Datum
import Gateway.Text.Numeral
import Gateway.Text.Quoted
import Gateway.Text.Trim
import Gateway.Text.Utf8
import Gateway.Tls.Curve
import Gateway.Tls.Element
import Gateway.Tls.Identity
import Gateway.Tls.Pem
import Gateway.Toml.Document
import Gateway.Toml.Lexeme
import Gateway.Toml.Value
import Gateway.Url.Basic
import Gateway.Url.Domain.Bootstring
import Gateway.Url.Domain.Composition
import Gateway.Url.Domain.Direction
import Gateway.Url.Domain.Joining
import Gateway.Url.Domain.Mapping
import Gateway.Url.Domain.Name
import Gateway.Url.Host
import Gateway.Url.Percent
import Gateway.Url.Reading
import Gateway.Url.Resolution
import Gateway.Proofs.Results
import Gateway.Proofs.Path.Cleaning
import Gateway.Proofs.Path.Joining
import Gateway.Proofs.Path.Names
import Gateway.Proofs.Path.Shortening
import Gateway.Proofs.Path.Collapsing
import Gateway.Proofs.Path.Directories
import Gateway.Proofs.Text.Ascii
import Gateway.Proofs.Text.Cutting
import Gateway.Proofs.Text.Numeral
import Gateway.Proofs.Text.Order
import Gateway.Proofs.Text.Pieces
import Gateway.Proofs.Text.Utf8
import Gateway.Proofs.Net.Address
import Gateway.Proofs.Url.Segments
import Gateway.Proofs.Url.Ordinary
import Gateway.Proofs.Url.Special
import Gateway.Proofs.Url.Resolution
import Gateway.Proofs.Url.Names
import Gateway.Proofs.Url.Web
import Gateway.Proofs.Url.Site
import Gateway.Proofs.Url.Written
import Gateway.Proofs.Url.Address
import Gateway.Proofs.Routing.Grammar
import Gateway.Proofs.Gzip.Limits
import Gateway.Proofs.Gzip.Bits
import Gateway.Proofs.Gzip.Deflated
import Gateway.Proofs.Gzip.Members
import Gateway.Proofs.Gzip.Progress
import Gateway.Proofs.Http.Coding
import Gateway.Proofs.Http.RoundTrip
import Gateway.Proofs.Http.Tokens
import Gateway.Proofs.Http.EndToEnd
import Gateway.Proofs.Directory.Table
import Gateway.Proofs.Directory.Registrations
import Gateway.Proofs.Directory.Resolving
import Gateway.Proofs.Directory.Dialing
import Gateway.Proofs.Link.Reading
import Gateway.Proofs.Link.LeadingBack
import Gateway.Proofs.Link.Following
import Gateway.Proofs.Link.Ordinary
import Gateway.Proofs.Link.Base
import Gateway.Proofs.Link.Beneath
import Gateway.Proofs.Link.Own
import Gateway.Proofs.Link.Spellings
import Gateway.Proofs.Link.Visiting
import Gateway.Proofs.Link.Walk
import Gateway.Proofs.Http.Content
import Gateway.Proofs.Link.Fate
import Gateway.Proofs.Link.Outcome
import Gateway.Proofs.Link.Trailers
import Gateway.Proofs.Http.Polling
import Gateway.Proofs.Http.Destination
import Gateway.Proofs.Http.Flushing.Owed
import Gateway.Proofs.Http.Flushing.Run
import Gateway.Proofs.Http.Flushing.Progress
import Gateway.Proofs.Http.Flushing.Complete
import Gateway.Proofs.Http.Flushing.Taking
import Gateway.Proofs.Http.Flushing.Overtaking
import Gateway.Proofs.Link.Compressed
import Gateway.Proofs.Http.Arrivals
import Gateway.Proofs.Http.Flushing.Timing
import Gateway.Proofs.Http.Flushing.Punctual
import Gateway.Proofs.Http.Outbound
import Gateway.Proofs.Shutdown.Waiting
import Gateway.Proofs.Shutdown.Starting
import Gateway.Proofs.Routing.Building
import Gateway.Proofs.Metrics
import Gateway.Proofs.Server.Accounting
import Gateway.Proofs.Config.Reporting
import Gateway.Proofs.Http.Flushing.Invariant
import Gateway.Proofs.Http.Flushing.Bounds
import Gateway.Proofs.Url.Blanks
import Gateway.Proofs.Url.Continued
import Gateway.Proofs.Link.Twice
import Gateway.Proofs.Http.Cause
