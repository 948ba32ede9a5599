import Hostapd.Foundation.Checked
import Hostapd.Foundation.Machine

/-!
# The RADIUS client

The retransmit queue of `src/radius/radius_client.c`: requests wait on a list until a response comes
or they are given up, and are sent again by a timer; when a server does not answer, the client goes
on with the next one.

An entry is known by the address of its structure; following the reference of an entry that has been
released is a fault. Of a message the client looks at the identifier, at an Acct-Delay-Time
attribute of four octets and at the secret of its authenticator. What the sockets, the memory and
the clock answer is a `World`.
-/

namespace Hostapd.Radius

open Wire

/-! ## State -/

def clientFirstWait : ℕ := 3

def clientMaxWait : ℕ := 120

def clientMaxRetries : ℕ := 10

def clientMaxEntries : ℕ := 30

def clientNumFailover : ℕ := 4

/-- The types of requests (`RadiusType`). -/
inductive RadiusType
  | auth
  | acct
  | acctInterim
deriving DecidableEq

def RadiusType.isAcct : RadiusType → Bool
  | .auth => false
  | .acct => true
  | .acctInterim => true

/-- What the client looks at in a message. -/
structure Request where
  identifier : UInt8
  acctDelayTime : Option ℕ := none
  finishedWith : Bytes := []

/-- An entry of the retransmit list (`struct radius_msg_list`). -/
structure MsgEntry where
  ref : ℕ
  addr : Octets 6
  msg : Request
  msgType : RadiusType
  firstTry : ℕ
  nextTry : ℕ
  attempts : ℕ
  nextWait : ℕ
  sharedSecret : Bytes

/-- A server (`struct hostapd_radius_server`). -/
structure Server where
  sharedSecret : Option Bytes := some []

/-- The client (`struct radius_client_data`) with its servers. -/
structure Client where
  authServers : List Server := [{}]
  acctServers : List Server := [{}]
  authServer : Option ℕ := some 0
  acctServer : Option ℕ := some 0
  authSock : Bool := true
  acctSock : Bool := true
  msgs : List MsgEntry := []
  numMsgs : ℕ := 0
  nextRadiusIdentifier : UInt8 := 0
  nextRef : ℕ := 0
  asked : ℕ := 0
  /-- How many entries were dropped because their identifier was given out again. -/
  reuses : ℕ := 0
  /-- The identifier that the caller was given by the call before, if it was given one. -/
  granted : Option UInt8 := none

/-- What comes of sending a packet. -/
inductive SendResult
  | sent
  | disconnected
  | failed
deriving DecidableEq

/-- The answers of sockets and memory, question by question. -/
structure World where
  socket : ℕ → Bool
  connect : ℕ → Bool
  send : ℕ → SendResult
  alloc : ℕ → Bool

def World.plenty : World where
  socket _ := true
  connect _ := true
  send _ := .sent
  alloc _ := true

namespace Client

variable (c : Client)

def tick : Client := { c with asked := c.asked + 1 }

def lookup (ref : ℕ) : Option MsgEntry := c.msgs.find? (·.ref == ref)

/-- Write to an entry. -/
def modify (ref : ℕ) (f : MsgEntry → MsgEntry) : Client :=
  { c with msgs := c.msgs.map fun e => if e.ref = ref then f e else e }

/-- Take entries off the list and the count. -/
def drop (p : MsgEntry → Bool) : Client :=
  { c with
    msgs := c.msgs.filter fun e => !p e
    numMsgs := c.numMsgs - c.msgs.countP p }

def next? (ref : ℕ) : Option ℕ :=
  ((c.msgs.dropWhile (·.ref != ref)).drop 1).head?.map (·.ref)

end Client

/-! ## Identifiers and the list -/

/-- An identifier for a new message (`radius_client_get_id`).  Entries with this identifier are
taken off the list, but not off the count. -/
def radiusClientGetId (c : Client) : UInt8 × Client :=
  let id := c.nextRadiusIdentifier
  (id,
    { c with
      nextRadiusIdentifier := id + 1
      msgs := c.msgs.filter fun e => !(e.msg.identifier == id)
      reuses := c.reuses + c.msgs.countP fun e => e.msg.identifier == id })

/-- Drop all messages, or all authentication messages (`radius_client_flush`). -/
def radiusClientFlush (onlyAuth : Bool) (c : Client) : Client :=
  c.drop fun e => !onlyAuth || e.msgType == .auth

/-- Drop the authentication messages of a station (`radius_client_flush_auth`). -/
def radiusClientFlushAuth (addr : Octets 6) (c : Client) : Client :=
  c.drop fun e => e.msgType == .auth && e.addr == addr

variable (world : World)

/-- Queue a message that was sent (`radius_client_list_add`).  At the limit the last entry of the
list goes, unless it is the new one. -/
def radiusClientListAdd (now : ℕ) (msg : Request) (msgType : RadiusType) (sharedSecret : Bytes)
    (addr : Octets 6) (c : Client) : Client :=
  if !world.alloc c.asked then c.tick
  else
    let entry : MsgEntry :=
      { ref := c.nextRef, addr, msg, msgType, firstTry := now, nextTry := now + clientFirstWait
        attempts := 1, nextWait := clientFirstWait * 2, sharedSecret }
    let c := { c.tick with nextRef := c.nextRef + 1 }
    if clientMaxEntries ≤ c.numMsgs then { c with msgs := entry :: c.msgs.dropLast }
    else { c with msgs := entry :: c.msgs, numMsgs := c.numMsgs + 1 }

/-! ## Servers -/

variable (servers : List Server)

def Client.secret (i : ℕ) : Bytes :=
  ((servers.getD i {}).sharedSecret).getD []

/-- Calculate the authenticators of the accounting messages again
(`radius_client_update_acct_msgs`). -/
def radiusClientUpdateAcctMsgs (secret : Bytes) (c : Client) : Client :=
  { c with
    msgs := c.msgs.map fun e =>
      if e.msgType = .acct then
        { e with sharedSecret := secret, msg := { e.msg with finishedWith := secret } }
      else e }

/-- Start the attempts of the messages over for a new server. -/
def resetRetries (msgType : RadiusType) (c : Client) : Client :=
  { c with
    msgs := c.msgs.map fun e =>
      if e.msgType = msgType then
        { e with
          nextTry := e.firstTry + clientFirstWait, attempts := 0, nextWait := clientFirstWait * 2 }
      else e }

/-- What a change of the server does to the queue. Authentication messages do not survive a
reconnection to the same server or another secret. -/
def updateQueue (n : ℕ) (o : Option ℕ) (auth : Bool) (c : Client) : Client :=
  match o with
  | none => c
  | some o =>
    if o = n then if auth then radiusClientFlush true c else c
    else if Client.secret servers n ≠ Client.secret servers o then
      if auth then resetRetries .auth (radiusClientFlush true c)
      else resetRetries .acct (radiusClientUpdateAcctMsgs (Client.secret servers n) c)
    else resetRetries (if auth then .auth else .acct) c

/-- Go over to the server at place `n` from the one at `o` (`radius_change_server`). -/
def radiusChangeServer (n : ℕ) (o : Option ℕ) (auth : Bool) (c : Client) : Bool × Client :=
  let c := updateQueue (if auth then c.authServers else c.acctServers) n o auth c
  if !world.connect c.asked then (false, c.tick)
  else
    let c := c.tick
    (true, if auth then { c with authSock := true } else { c with acctSock := true })

variable (c : Client)

/-- Open the socket for authentication again (`radius_client_init_auth`). -/
def radiusClientInitAuth : Client :=
  let c := { c with authSock := false }
  if !world.socket c.asked then c.tick
  else (radiusChangeServer world (c.authServer.getD 0) none true c.tick).2

/-- Open the socket for accounting again (`radius_client_init_acct`). -/
def radiusClientInitAcct : Client :=
  let c := { c with acctSock := false }
  if !world.socket c.asked then c.tick
  else (radiusChangeServer world (c.acctServer.getD 0) none false c.tick).2

/-- The place behind a server, or the first one. -/
def nextServer (old : ℕ) : ℕ :=
  if servers.length - 1 < old + 1 then 0 else old + 1

/-- Go on with the next authentication server (`radius_client_auth_failover`). -/
def radiusClientAuthFailover : Client :=
  let old := c.authServer.getD 0
  let next := nextServer c.authServers old
  (radiusChangeServer world next (some old) true { c with authServer := some next }).2

/-- Go on with the next accounting server (`radius_client_acct_failover`). -/
def radiusClientAcctFailover : Client :=
  let old := c.acctServer.getD 0
  let next := nextServer c.acctServers old
  (radiusChangeServer world next (some old) false { c with acctServer := some next }).2

/-- Try the first authentication server again.  If that fails, the old server is connected to as if
it were new. -/
def retryPrimaryAuth : Client :=
  match c.authServer with
  | some (old + 1) =>
    if c.authSock then
      match radiusChangeServer world 0 (some (old + 1)) true { c with authServer := some 0 } with
      | (true, c) => c
      | (false, c) =>
        (radiusChangeServer world (old + 1) (some (old + 1)) true
          { c with authServer := some (old + 1) }).2
    else c
  | _ => c

/-- `radius_retry_primary_timer` for accounting. -/
def retryPrimaryAcct : Client :=
  match c.acctServer with
  | some (old + 1) =>
    if c.acctSock then
      match radiusChangeServer world 0 (some (old + 1)) false { c with acctServer := some 0 } with
      | (true, c) => c
      | (false, c) =>
        (radiusChangeServer world (old + 1) (some (old + 1)) false
          { c with acctServer := some (old + 1) }).2
    else c
  | _ => c

/-- Try the first servers again (`radius_retry_primary_timer`). -/
def radiusRetryPrimaryTimer : Client :=
  retryPrimaryAcct world (retryPrimaryAuth world c)

/-! ## Sending again -/

/-- Sending failed: connect again if the interface may have changed
(`radius_client_handle_send_error`). -/
def radiusClientHandleSendError (msgType : RadiusType) (c : Client) : Bool × Client :=
  if msgType.isAcct then (false, radiusClientInitAcct world c)
  else (true, radiusClientInitAuth world c)

def Client.connected (isAcct : Bool) : Bool :=
  if isAcct then c.acctSock else c.authSock

/-- Make sure that there is a socket for a type of messages, if need be with the next server. -/
def ensureSocket (isAcct : Bool) (c : Client) : Client :=
  if isAcct then
    let c := if !c.acctSock then radiusClientInitAcct world c else c
    if !c.acctSock ∧ 1 < c.acctServers.length then radiusClientAcctFailover world c else c
  else
    let c := if !c.authSock then radiusClientInitAuth world c else c
    if !c.authSock ∧ 1 < c.authServers.length then radiusClientAuthFailover world c else c

variable (now : ℕ)

/-- Give an accounting message with an Acct-Delay-Time attribute a new identifier and the time that
it has waited. -/
def refreshDelayTime (entry : MsgEntry) (c : Client) : Checked Client :=
  if entry.msgType = .acct ∧ entry.msg.acctDelayTime.isSome then
    let fetched := radiusClientGetId c
    if (fetched.2.lookup entry.ref).isNone then .error .useAfterFree
    else
      .ok (fetched.2.modify entry.ref fun e =>
        { e with
          msg := { identifier := fetched.1, acctDelayTime := some ((now - e.firstTry) % 2 ^ 32)
                   finishedWith := e.sharedSecret } })
  else .ok c

/-- The time of the next attempt, after one more attempt. -/
def waitLonger (e : MsgEntry) : MsgEntry :=
  { e with nextTry := now + e.nextWait, nextWait := min (e.nextWait * 2) clientMaxWait }

/-- Send the entry at an address.  The result tells whether the entry is given up. -/
def transmit (now ref : ℕ) (c : Client) : Checked (Client × Bool) :=
  match c.lookup ref with
  | none => .error .useAfterFree
  | some entry =>
    let c := c.modify ref fun e => { e with attempts := e.attempts + 1 }
    let sent :=
      if world.send c.asked = .disconnected then
        radiusClientHandleSendError world entry.msgType c.tick
      else (false, c.tick)
    if sent.1 then .ok (sent.2, false)
    else .ok (sent.2.modify ref (waitLonger now), clientMaxRetries ≤ entry.attempts + 1)

/-- Send an entry again.  The result tells whether it is to be removed
(`radius_client_retransmit`). -/
def radiusClientRetransmit (entry : MsgEntry) (c : Client) : Checked (Client × Bool) :=
  let c' := ensureSocket world entry.msgType.isAcct c
  if c'.numMsgs ≠ c.numMsgs then .ok (c', false)
  else if entry.msgType = .acctInterim then .ok (c', true)
  else if !c'.connected entry.msgType.isAcct then .ok (c', true)
  else do
    let c'' ← refreshDelayTime now entry c'
    transmit world now entry.ref c''

/-- The servers that are given up. -/
structure Failovers where
  auth : Bool := false
  acct : Bool := false

/-- An entry that waited for too many attempts asks for another server. -/
def Failovers.note (f : Failovers) (c : Client) (entry : MsgEntry) : Failovers :=
  let sock := if entry.msgType = .auth then c.authSock else c.acctSock
  if clientNumFailover < entry.attempts ∨ (!sock ∧ 0 < entry.attempts) then
    if entry.msgType.isAcct then { f with acct := true } else { f with auth := true }
  else f

/-- Unlink the entry at `ref`, which stands behind the entry at `prev`. -/
def unlink (prev : Option ℕ) (ref : ℕ) (c : Client) : Checked Client :=
  if prev.any fun p => (c.lookup p).isNone then .error .useAfterFree
  else .ok (c.drop (·.ref == ref))

/-- An entry whose time has come is sent again. -/
def retransmitDue (entry : MsgEntry) (c : Client) : Checked (Client × Bool) :=
  if entry.nextTry ≤ now then radiusClientRetransmit world now entry c else .ok (c, false)

/-- The loop of the timer over the list, at most `fuel` rounds of it. -/
def timerLoop (world : World) (now : ℕ) :
    ℕ → Option ℕ → Option ℕ → Failovers → Client → Checked (Failovers × Client)
  | 0, _, _, f, c => .ok (f, c)
  | _ + 1, _, none, f, c => .ok (f, c)
  | fuel + 1, prev, some ref, f, c =>
    match c.lookup ref with
    | none => .error .useAfterFree
    | some entry => do
      let (c', remove) ← retransmitDue world now entry c
      if remove then
        let next := c'.next? ref
        let c'' ← unlink prev ref c'
        timerLoop world now fuel prev next f c''
      else if c'.numMsgs ≠ c.numMsgs then
        timerLoop world now fuel none (c'.msgs.head?.map (·.ref)) f c'
      else
        match c'.lookup ref with
        | none => .error .useAfterFree
        | some entry' => timerLoop world now fuel (some ref) (c'.next? ref) (f.note c' entry') c'

/-- Send the messages again that are due (`radius_client_timer`). -/
def radiusClientTimer (now fuel : ℕ) (c : Client) : Checked Client := do
  let (f, c) ← timerLoop world now fuel none (c.msgs.head?.map (·.ref)) {} c
  let c := if f.auth then radiusClientAuthFailover world c else c
  return if f.acct then radiusClientAcctFailover world c else c

/-! ## Sending and receiving -/

/-- Open the socket for a new message if there is a server but no socket. -/
def openSocket (server : Option ℕ) (isAcct : Bool) (c : Client) : Client :=
  if server.isSome ∧ !c.connected isAcct then
    if isAcct then radiusClientInitAcct world c else radiusClientInitAuth world c
  else c

/-- Send a new message (`radius_client_send`); without a server the caller keeps it. -/
def radiusClientSend (msg : Request) (msgType : RadiusType) (addr : Octets 6) (c : Client) :
    Client :=
  let server := if msgType.isAcct then c.acctServer else c.authServer
  let servers := if msgType.isAcct then c.acctServers else c.authServers
  let c := openSocket world server msgType.isAcct c
  match server.bind fun i => (servers.getD i {}).sharedSecret with
  | none => c
  | some secret =>
    if !c.connected msgType.isAcct then c
    else
      let result := world.send c.asked
      let c := c.tick
      let c := if result = .disconnected then (radiusClientHandleSendError world msgType c).2 else c
      radiusClientListAdd world now { msg with finishedWith := secret } msgType secret addr c

/-- A response comes (`radius_client_receive`): the first matching request leaves the list. -/
def radiusClientReceive (acct : Bool) (identifier : UInt8) (c : Client) : Client :=
  match c.msgs.find? fun e => e.msgType.isAcct == acct && e.msg.identifier == identifier with
  | none => c
  | some req => c.drop (·.ref == req.ref)

/-! ## Runs -/

/-- What happens to the client. -/
inductive ClientEvent
  | getId
  | send (now : ℕ) (msg : Request) (msgType : RadiusType) (addr : Octets 6)
  /-- `radius_client_receive`, on the socket of accounting or of authentication. -/
  | receive (acct : Bool) (identifier : UInt8)
  /-- `radius_client_timer`, with a bound for the rounds of its loop. -/
  | timer (now fuel : ℕ)
  | flush (onlyAuth : Bool)
  | flushAuth (addr : Octets 6)
  | retryPrimary

/-- One event. -/
def Client.call : ClientEvent → Checked Client
  | .getId => .ok (radiusClientGetId c).2
  | .send now msg msgType addr => .ok (radiusClientSend world now msg msgType addr c)
  | .receive acct identifier => .ok (radiusClientReceive acct identifier c)
  | .timer now fuel => radiusClientTimer world now fuel c
  | .flush onlyAuth => .ok (radiusClientFlush onlyAuth c)
  | .flushAuth addr => .ok (radiusClientFlushAuth addr c)
  | .retryPrimary => .ok (radiusRetryPrimaryTimer world c)

/-- The identifier that a call gives out. -/
def ClientEvent.grant : ClientEvent → Option UInt8
  | .getId => some (radiusClientGetId c).1
  | _ => none

/-- One call, and what the caller knows of it. -/
def Client.step (e : ClientEvent) : Checked Client := do
  let c' ← c.call world e
  return { c' with granted := e.grant c }

end Hostapd.Radius
