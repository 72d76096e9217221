import ServiceDiscovery.Discovery.Advertisement
import ServiceDiscovery.Discovery.Agent
import ServiceDiscovery.Discovery.ConnectionUrl
import ServiceDiscovery.Discovery.Directory
import ServiceDiscovery.Discovery.Engine
import ServiceDiscovery.Discovery.Event
import ServiceDiscovery.Discovery.EventLoop
import ServiceDiscovery.Discovery.Notice
import ServiceDiscovery.Discovery.Refusal
import ServiceDiscovery.Discovery.Sighting
import ServiceDiscovery.Discovery.Sweep
import ServiceDiscovery.Dns.Draft
import ServiceDiscovery.Dns.Message
import ServiceDiscovery.Dns.Name
import ServiceDiscovery.Dns.NameText
import ServiceDiscovery.Dns.Reader
import ServiceDiscovery.Multicast.LocalService
import ServiceDiscovery.Multicast.PeerTable
import ServiceDiscovery.Multicast.Responder
import ServiceDiscovery.Multicast.ServiceName
import ServiceDiscovery.Multicast.Setup
import ServiceDiscovery.Multicast.Transport
import ServiceDiscovery.Net.AddressText
import ServiceDiscovery.Net.IpAddress
import ServiceDiscovery.Net.IpScope
import ServiceDiscovery.Net.SocketAddress
import ServiceDiscovery.Segment.Member
import ServiceDiscovery.Segment.Neighbourhood
import ServiceDiscovery.Segment.Segment
import ServiceDiscovery.System.Errno
import ServiceDiscovery.System.IoFault
import ServiceDiscovery.System.Machine
import ServiceDiscovery.Text.CodePoints
import ServiceDiscovery.Text.Composition
import ServiceDiscovery.Text.Direction
import ServiceDiscovery.Text.Hidden
import ServiceDiscovery.Text.Idna
import ServiceDiscovery.Text.PortNumber
import ServiceDiscovery.Text.Punycode
import ServiceDiscovery.Text.Quoted
import ServiceDiscovery.Text.Respelling
import ServiceDiscovery.Text.Utf8
import ServiceDiscovery.Proofs.EventLoop.Run
import ServiceDiscovery.Proofs.EventLoop.Queries
import ServiceDiscovery.Proofs.EventLoop.Waiting
import ServiceDiscovery.Proofs.Sweep.History
import ServiceDiscovery.Proofs.Sweep.Listings
import ServiceDiscovery.Proofs.Sweep.Removal
import ServiceDiscovery.Proofs.EventLoop.Accounts
import ServiceDiscovery.Proofs.Multicast.Reports
import ServiceDiscovery.Proofs.Responder.Operations
import ServiceDiscovery.Proofs.Responder.Sending
import ServiceDiscovery.Proofs.Responder.Turns
import ServiceDiscovery.Proofs.Responder.Keeps
import ServiceDiscovery.Proofs.Responder.Learning
import ServiceDiscovery.Proofs.EventLoop.WakeUp
import ServiceDiscovery.Proofs.Responder.Fates
import ServiceDiscovery.Proofs.Responder.LifeCycle
import ServiceDiscovery.Proofs.Dns.Layout
import ServiceDiscovery.Proofs.Dns.RoundTrip
import ServiceDiscovery.Proofs.Dns.Limits
import ServiceDiscovery.Proofs.Dns.Cut
import ServiceDiscovery.Proofs.Text.Utf8
import ServiceDiscovery.Proofs.Multicast.Announcement
import ServiceDiscovery.Proofs.Responder.Confinement
import ServiceDiscovery.Proofs.Multicast.Hearing
import ServiceDiscovery.Proofs.Segment.History
import ServiceDiscovery.Proofs.Segment.Watching
import ServiceDiscovery.Proofs.Segment.Pursuit
import ServiceDiscovery.Proofs.Segment.Attendance
import ServiceDiscovery.Proofs.Segment.Tracking
import ServiceDiscovery.Proofs.Segment.Visits
import ServiceDiscovery.Proofs.Segment.Chronicle
import ServiceDiscovery.Proofs.Segment.Settling
import ServiceDiscovery.Proofs.Segment.Convergence
import ServiceDiscovery.Proofs.EventLoop.Presence
import ServiceDiscovery.Proofs.EventLoop.Pinned
import ServiceDiscovery.Proofs.EventLoop.Freshness
import ServiceDiscovery.Proofs.EventLoop.Failure
import ServiceDiscovery.Proofs.EventLoop.Aftermath
import ServiceDiscovery.Proofs.Multicast.Services
import ServiceDiscovery.Proofs.Multicast.Attributes
import ServiceDiscovery.Proofs.Multicast.Spellings
import ServiceDiscovery.Proofs.Responder.Appearances
import ServiceDiscovery.Proofs.EventLoop.Pinning
import ServiceDiscovery.Proofs.Multicast.Origins
import ServiceDiscovery.Proofs.Multicast.Questions
import ServiceDiscovery.Proofs.Responder.Asking
import ServiceDiscovery.Proofs.Responder.Waking
import ServiceDiscovery.Proofs.Responder.Expiry
import ServiceDiscovery.Proofs.Responder.Deeds
import ServiceDiscovery.Proofs.Multicast.Aging
import ServiceDiscovery.Proofs.Multicast.Order
import ServiceDiscovery.Proofs.Responder.Silence
import ServiceDiscovery.Proofs.Responder.Bookkeeping
import ServiceDiscovery.Proofs.Multicast.Hosts
import ServiceDiscovery.Proofs.Multicast.Farewells
import ServiceDiscovery.Proofs.Multicast.Rivals
import ServiceDiscovery.Proofs.Multicast.Interfaces
import ServiceDiscovery.Proofs.Multicast.Families
import ServiceDiscovery.Proofs.Multicast.Opening
import ServiceDiscovery.Proofs.EventLoop.Refusals
import ServiceDiscovery.Proofs.EventLoop.Translation
import ServiceDiscovery.Proofs.EventLoop.Scopes
import ServiceDiscovery.Proofs.Sweep.Grouping
import ServiceDiscovery.Proofs.Multicast.Naming
import ServiceDiscovery.Proofs.Net.ConnectionUrl
import ServiceDiscovery.Proofs.Segment.Accounting
import ServiceDiscovery.Proofs.Segment.Losses
