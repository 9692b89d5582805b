import Yakr.Cli.Acceptance
import Yakr.Cli.Addresses
import Yakr.Cli.Control
import Yakr.Cli.CoverTraffic
import Yakr.Cli.DirectServer
import Yakr.Cli.Generations
import Yakr.Cli.Isolation
import Yakr.Cli.Pending
import Yakr.Cli.PinTakeover
import Yakr.Cli.ProfileVersions
import Yakr.Cli.Receipts
import Yakr.Cli.Rekeying
import Yakr.Cli.Restarts
import Yakr.Cli.RustRuns
import Yakr.Languages.Decoding
import Yakr.Languages.Invites
import Yakr.Languages.Messages
import Yakr.Languages.Padding
import Yakr.Languages.Pairing
import Yakr.Languages.Profiles
import Yakr.Languages.Relays
import Yakr.Mailbox.EpochLengths
import Yakr.Pairing.Mobile
import Yakr.Pairing.Names
import Yakr.Pairing.Tampering
import Yakr.Ratchet.Replay
import Yakr.Ratchet.Rollback
import Yakr.Relay.Binding
import Yakr.Relay.Issuing
import Yakr.Relay.Mailbox
import Yakr.Relay.Mediation
import Yakr.Relay.PairingRuns
import Yakr.Relay.Recovery
import Yakr.Relay.Replay
import Yakr.Relay.Revocation
import Yakr.Relay.Sessions
import Yakr.Relay.TwoHops
import Yakr.Session.Failures
import Yakr.Session.Modes
import Yakr.Session.RustFailures
import Yakr.Store.Created
import Yakr.Store.Receiving
import Yakr.Store.Reloading
