import CinderXmpp.RosterFold
import CinderXmpp.RosterMirror
import CinderXmpp.Resources
import CinderXmpp.SignalPairing
import CinderXmpp.CurrentClient
import CinderXmpp.SendGating
import CinderXmpp.ServerAddress
import CinderXmpp.SingleSession
import CinderXmpp.Termination
import CinderXmpp.Delegation
import CinderXmpp.Subscribers
import CinderXmpp.ThreadProtocol
import CinderXmpp.Switchboard
import CinderXmpp.Interleaving
import CinderXmpp.Schedules
