import Nanotalk.Lib.Base64
import Nanotalk.Lib.Bytes
import Nanotalk.Lib.GList
import Nanotalk.Lib.Parties
import Nanotalk.Lib.Purge
import Nanotalk.Lib.Runs
import Nanotalk.Lib.Sources
import Nanotalk.Lib.Tables
import Nanotalk.Lib.Tally
import Nanotalk.Dht.Common
import Nanotalk.Dht.Text
import Nanotalk.Dht.Table
import Nanotalk.Dht.Buckets
import Nanotalk.Dht.Refinement
import Nanotalk.Dht.Validity
import Nanotalk.Dht.Retention
import Nanotalk.Dht.PeerCount
import Nanotalk.Dht.Bounds
import Nanotalk.Dht.Nearest
import Nanotalk.Dht.Message
import Nanotalk.Dht.Client
import Nanotalk.Dht.Receive
import Nanotalk.Dht.Books
import Nanotalk.Dht.Frames
import Nanotalk.Dht.Ownership
import Nanotalk.Dht.Lookups
import Nanotalk.Dht.Search
import Nanotalk.Dht.Addresses
import Nanotalk.Dht.Refresh
import Nanotalk.Dht.Routing
import Nanotalk.Dht.Directory
import Nanotalk.Dht.Audit
import Nanotalk.Dht.Correspondents
import Nanotalk.Dht.Dissector
import Nanotalk.Dht.Handshake
import Nanotalk.Dht.Sessions
import Nanotalk.Dht.Requests
import Nanotalk.Dht.Results
import Nanotalk.Dht.Target
import Nanotalk.Dht.Quiescence
import Nanotalk.Dht.Traffic
import Nanotalk.Dht.Finalize
import Nanotalk.Dht.Network
import Nanotalk.Dht.Authentication
import Nanotalk.Dht.Agreement
import Nanotalk.Dht.Forgery
import Nanotalk.Dht.Completion
import Nanotalk.Dht.Discovery
import Nanotalk.Dht.Handover
import Nanotalk.Rtp.Src
import Nanotalk.Rtp.Synchrony
import Nanotalk.Rtp.Delivery
import Nanotalk.Rtp.Streams
import Nanotalk.Rtp.Session
import Nanotalk.Rtp.Call
import Nanotalk.App.Application
import Nanotalk.App.OneCall
import Nanotalk.App.Acceptance
import Nanotalk.App.Program
import Nanotalk.App.Aliases
import Nanotalk.App.Control
import Nanotalk.App.Phases
import Nanotalk.App.Editor
import Nanotalk.App.Phone
import Nanotalk.App.Partners
import Nanotalk.App.Release
import Nanotalk.App.Phones
import Nanotalk.App.Conversations
