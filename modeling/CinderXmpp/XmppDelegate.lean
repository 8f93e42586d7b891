/-
The virtual member functions of `XmppClient`: what the listener's delegate does
when a callback is passed on to it.
-/
import CinderXmpp.XmppState

namespace CinderXmpp

open Gloox

namespace XmppClient

def onConnect : XmppM Unit := emit .mSignalConnect

def onDisconnect (e : ConnectionError) : XmppM Unit := do
  match e with
  | .connNoError => pure ()
  | .connStreamError | .connStreamClosed | .connIoError =>
      throwExc .xmppStreamExc
  | .connProxyAuthRequired | .connProxyAuthFailed | .connProxyNoSupportedAuth
  | .connTlsFailed | .connTlsNotAvailable | .connNoSupportedAuth
  | .connAuthenticationFailed =>
      throwExc .xmppAuthExc
  | .connParseError | .connStreamVersionError =>
      throwExc .xmppProtocolExc
  | .connUserDisconnected | .connNotConnected | .connDnsError
  | .connConnectionRefused =>
      throwExc .xmppConnectionExc
  | .connOutOfMemory | .connCompressionFailed =>
      throwExc .xmppExc
  emit .mSignalDisconnect

def onTLSConnect : XmppM Unit := emit .mSignalTlsConnect

def handleMessage (msg : Message) (sess : MessageSession) : XmppM Unit := do
  let name := sess.target.username
  let mRoster := (← get).client.mRoster
  let peer : XmppPeer :=
    match mRoster.lookup name with
    | some found => found
    | none => {}
  emit (.mSignalHandleMsg peer msg.subject msg.body)

def handleRoster (roster : Roster) : XmppM Unit := do
  let (mRoster, userlist) := roster.items.foldl
    (fun (acc : UnorderedMap String XmppPeer × List String) item =>
      let username := item.jidJID.username
      (UnorderedMap.insertNew username { mUsername := username } acc.1,
        acc.2 ++ [username]))
    (∅, [])
  modify fun world => { world with client.mRoster := mRoster }
  emit (.mSignalRoster userlist)

def handleRosterPresence (item : RosterItem) (resource : String)
    (presence : PresenceType) (message : String) : XmppM Unit := do
  let name := item.jidJID.username
  if name ∈ (← get).client.mRoster then
    modify fun world =>
      { world with
        client.mRoster := UnorderedMap.adjust name
          (XmppPeer.setStatus (XmppPeer.presenceToStatus presence))
          world.client.mRoster }
  -- The iterator is dereferenced here whether or not the lookup succeeded.
  match (← get).client.mRoster.lookup name with
  | some peer =>
      emit (.mSignalRosterPresence peer resource
        (XmppPeer.presenceToStatus presence) message)
  | none => undefinedBehaviour .derefEnd

end XmppClient

end CinderXmpp
