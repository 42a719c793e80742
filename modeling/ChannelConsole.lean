import ChannelConsole.Access
import ChannelConsole.Backend
import ChannelConsole.Binary64.Basic
import ChannelConsole.Binary64.Shortest
import ChannelConsole.Channel.Draft
import ChannelConsole.Channel.Envelope
import ChannelConsole.Channel.Payload
import ChannelConsole.ChannelType.Catalog
import ChannelConsole.ChannelType.Profile
import ChannelConsole.ChannelType.Table
import ChannelConsole.Credential.Keys
import ChannelConsole.Credential.Pool
import ChannelConsole.Editor.Edit
import ChannelConsole.Editor.Form
import ChannelConsole.Editor.Operation
import ChannelConsole.Editor.Sessions
import ChannelConsole.Editor.Submission
import ChannelConsole.Json.Basic
import ChannelConsole.Json.Document
import ChannelConsole.Json.Printer
import ChannelConsole.Json.Reader
import ChannelConsole.JsonField
import ChannelConsole.Model.Name
import ChannelConsole.Model.Resolver
import ChannelConsole.Model.Selector
import ChannelConsole.Names
import ChannelConsole.Network.Host
import ChannelConsole.Network.Host.Letters
import ChannelConsole.Network.Host.Punycode
import ChannelConsole.Network.Link
import ChannelConsole.Network.Message
import ChannelConsole.Network.Url
import ChannelConsole.Password
import ChannelConsole.Proofs.Binary64.Nearest
import ChannelConsole.Proofs.Binary64.Shortest
import ChannelConsole.Proofs.Channel.Draft
import ChannelConsole.Proofs.Channel.Payload
import ChannelConsole.Proofs.Credential.Buffer
import ChannelConsole.Proofs.Credential.Canonical
import ChannelConsole.Proofs.Credential.Collapse
import ChannelConsole.Proofs.Credential.Entries
import ChannelConsole.Proofs.Credential.First
import ChannelConsole.Proofs.Credential.Focus
import ChannelConsole.Proofs.Credential.Keys
import ChannelConsole.Proofs.Credential.Pool
import ChannelConsole.Proofs.Credential.Provenance
import ChannelConsole.Proofs.Credential.Usable
import ChannelConsole.Proofs.Editor.Accepting
import ChannelConsole.Proofs.Editor.Agreement
import ChannelConsole.Proofs.Editor.Closing
import ChannelConsole.Proofs.Editor.Expiry
import ChannelConsole.Proofs.Editor.Fetch
import ChannelConsole.Proofs.Editor.Fields
import ChannelConsole.Proofs.Editor.FirstKey
import ChannelConsole.Proofs.Editor.Keys
import ChannelConsole.Proofs.Editor.Loading
import ChannelConsole.Proofs.Editor.Opening
import ChannelConsole.Proofs.Editor.Resaving
import ChannelConsole.Proofs.Editor.Retention
import ChannelConsole.Proofs.Editor.Run
import ChannelConsole.Proofs.Editor.Saving
import ChannelConsole.Proofs.Editor.Selection
import ChannelConsole.Proofs.Editor.Selector
import ChannelConsole.Proofs.Editor.Submitting
import ChannelConsole.Proofs.Json.Documents
import ChannelConsole.Proofs.Json.Exact
import ChannelConsole.Proofs.Json.Fields
import ChannelConsole.Proofs.Json.Keys
import ChannelConsole.Proofs.Json.Number
import ChannelConsole.Proofs.Json.RoundTrip
import ChannelConsole.Proofs.Json.Scanned
import ChannelConsole.Proofs.Json.Token
import ChannelConsole.Proofs.Json.Whole
import ChannelConsole.Proofs.Json.Words
import ChannelConsole.Proofs.JsonField
import ChannelConsole.Proofs.JsonField.Exact
import ChannelConsole.Proofs.Model.Adding
import ChannelConsole.Proofs.Model.Bulk
import ChannelConsole.Proofs.Model.Picking
import ChannelConsole.Proofs.Model.Provenance
import ChannelConsole.Proofs.Model.Runs
import ChannelConsole.Proofs.Model.Searching
import ChannelConsole.Proofs.Names
import ChannelConsole.Proofs.Network.Url
import ChannelConsole.Proofs.Provider.Canonical
import ChannelConsole.Proofs.Provider.Endpoint
import ChannelConsole.Proofs.Provider.Shape
import ChannelConsole.Proofs.Provider.Tolerance
import ChannelConsole.Proofs.RemoteAdmin
import ChannelConsole.Proofs.RemoteAdmin.Tolerance
import ChannelConsole.Proofs.Server.Admission
import ChannelConsole.Proofs.Server.Editors
import ChannelConsole.Proofs.Server.Outsiders
import ChannelConsole.Proofs.Server.Refusals
import ChannelConsole.Proofs.Server.Run
import ChannelConsole.Proofs.Server.Serving
import ChannelConsole.Proofs.Server.Tokens
import ChannelConsole.Proofs.Steps
import ChannelConsole.Proofs.Store.History
import ChannelConsole.Proofs.Store.Totality
import ChannelConsole.Proofs.Text.Digits
import ChannelConsole.Proofs.Text.Items
import ChannelConsole.Proofs.Text.Lowercase
import ChannelConsole.Proofs.Text.Order
import ChannelConsole.Proofs.Text.Runs
import ChannelConsole.Proofs.Text.Search
import ChannelConsole.Provider.Discovery
import ChannelConsole.RemoteAdmin
import ChannelConsole.Schema
import ChannelConsole.Server
import ChannelConsole.Server.Reading
import ChannelConsole.Server.Route
import ChannelConsole.Settings
import ChannelConsole.Store
import ChannelConsole.Text.Base64
import ChannelConsole.Text.Basic
import ChannelConsole.Text.Blank
import ChannelConsole.Text.Digits
import ChannelConsole.Text.Encoding
import ChannelConsole.Text.Half
import ChannelConsole.Text.Lowercase
import ChannelConsole.Text.Lowercase.Table
import ChannelConsole.Text.Percent
import ChannelConsole.Text.Printable
import ChannelConsole.Text.Quoted
import ChannelConsole.Text.Search
