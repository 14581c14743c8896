import ChannelRelay.ChainCall
import ChannelRelay.HeaderCache

/-!
# A scripted chain

A chain for trying the relayer out, whose replies follow from a script: heights, channel
states, outcomes of transactions, and how often a call fails before it succeeds. Accepted
handshake messages may move its channel, at once or only after some more headers.

`ScriptedChain.respond` is the whole behaviour: a reply, or a breach once a height would
leave its range. `ScriptedChain.describe` is the line that a call leaves in the log.
-/

namespace ChannelRelay.Simulation

/-- What becomes of a transaction. -/
inductive TxOutcome where
  | accepted
  | rejected
  | unreachable
  deriving DecidableEq, Repr

def TxOutcome.text : TxOutcome → String
  | accepted => "ok"
  | rejected => "rejected"
  | unreachable => "error"

structure ScriptedChain where
  id : ChainId
  path : Option PathEnd
  signer : String
  /-- The height of the next latest header. -/
  headerHeight : Height := ⟨0, 10⟩
  latestHeight : Height := ⟨0, 11⟩
  /-- How far both heights move with each latest header. -/
  headerStep : UInt64 := 0
  /-- The height that the client on this chain trusts. -/
  clientHeight : Height := ⟨0, 10⟩
  /-- The heights of the update headers, if they are not just the target. -/
  updateHeaders : Option (List Height) := none
  state : ChannelState := .uninitialized
  /-- The state from the latest height on, if it is another one. -/
  latestState : Option ChannelState := none
  /-- The states that the next queries see, whatever the others say. -/
  stateQueue : List ChannelState := []
  /-- How many of the next calls of a kind fail. -/
  failing : List (String × Nat) := []
  sendOutcomes : List TxOutcome := []
  /-- Whether accepted messages change the chain. -/
  advances : Bool := false
  /-- After how many latest headers a new state is seen below the latest height. -/
  lag : Nat := 0
  /-- A new state, and how many more latest headers it takes. -/
  upcoming : Option (ChannelState × Nat) := none
  /-- How many latest headers are left. -/
  headerBudget : Nat := 40
  /-- Whether subscriptions are closed from the start. -/
  closed : Bool := false

namespace ScriptedChain

/-- The path end of the chain with this number, before anything else is said about it. -/
def defaultPath (id : ChainId) (number : UInt64) (version : Option ChannelVersion) : PathEnd where
  chainId := id
  clientId := ⟨numberedText "07-tendermint" number⟩
  connectionId := .numbered number
  channelId := .numbered number
  portId := .transfer
  version := version

/-- The chain on one side of the default path. -/
def initial (s : Side) (id : ChainId) : ScriptedChain where
  id := id
  path := some <|
    match s with
    | .src => defaultPath id 0 none
    | .dst => defaultPath id 1 (some .ics20)
  signer := id.text ++ "-relayer"

/-- A change to the script. -/
inductive Change where
  | id (id : ChainId)
  | path (path : Option PathEnd)
  | signer (s : String)
  | headerHeight (h : Height)
  | latestHeight (h : Height)
  | headerStep (n : UInt64)
  | clientHeight (h : Height)
  | updateHeaders (hs : Option (List Height))
  | state (s : ChannelState)
  | latestState (s : Option ChannelState)
  | stateQueue (ss : List ChannelState)
  | failing (counts : List (String × Nat))
  | sendOutcomes (os : List TxOutcome)
  | advances (b : Bool)
  | lag (n : Nat)
  | headerBudget (n : Nat)
  | closed (b : Bool)

def change (c : ScriptedChain) : Change → ScriptedChain
  | .id id => { c with id }
  | .path path => { c with path }
  | .signer signer => { c with signer }
  | .headerHeight headerHeight => { c with headerHeight }
  | .latestHeight latestHeight => { c with latestHeight }
  | .headerStep headerStep => { c with headerStep }
  | .clientHeight clientHeight => { c with clientHeight }
  | .updateHeaders updateHeaders => { c with updateHeaders }
  | .state state => { c with state }
  | .latestState latestState => { c with latestState }
  | .stateQueue stateQueue => { c with stateQueue }
  | .failing failing => { c with failing }
  | .sendOutcomes sendOutcomes => { c with sendOutcomes }
  | .advances advances => { c with advances }
  | .lag lag => { c with lag }
  | .headerBudget headerBudget => { c with headerBudget }
  | .closed closed => { c with closed }

def party (c : ScriptedChain) : Party := ⟨c.id, c.path⟩

/-! ## Replies -/

/-- The name under which a call can be made to fail. -/
def failureName : ChainCall → Option String
  | .subscribe => "subscribe"
  | .submit _ => none
  | .signer => "signer"
  | .latestHeight => "latest_height"
  | .latestHeader => "latest_header"
  | .clientHeight _ => "client_height"
  | .headersForUpdate .. => "build_headers"
  | .channel _ => "channel"
  | .openInit .. => "build_init"
  | .openTry .. => "build_try"
  | .openAck .. => "build_ack"
  | .openConfirm .. => "build_confirm"
  | .updateClient .. => "build_update_client"

/-- The error of a call that is made to fail. -/
def scriptedError (c : ScriptedChain) (name : String) : RelayError :=
  if name = "build_headers" then .headerConstruction c.id "scripted failure"
  else .query c.id name "scripted failure"

/-- One failure of this name less to come. -/
def spendFailure (c : ScriptedChain) (name : String) : ScriptedChain :=
  { c with failing := c.failing.map fun e => if e.1 = name then (e.1, e.2 - 1) else e }

/-- Whether the next call of this name fails. -/
def isFailing (c : ScriptedChain) (name : String) : Bool :=
  match c.failing.lookup name with
  | some n => 0 < n
  | none => false

def header (h : Height) : Header := ⟨h, .ofText "/ibc.lightclients.mock.v1.Header" h.text⟩

/-- One more latest header has been asked for: a new state comes closer. -/
def countDown (c : ScriptedChain) : ScriptedChain :=
  match c.upcoming with
  | none => c
  | some (next, n) =>
    if n ≤ 1 then { c with state := next, latestState := none, upcoming := none }
    else { c with upcoming := some (next, n - 1) }

/-- The state that a query at `h` sees, if no other has been queued. -/
def stateAt (c : ScriptedChain) (h : Height) : ChannelState :=
  match c.latestState with
  | some latest => if c.latestHeight ≤ h then latest else c.state
  | none => c.state

/-- What a query at `h` returns for an end in this state. -/
def proven (state : ChannelState) (h : Height) : ProvenChannel where
  channel := { (default : ChannelEnd) with state, version := .ics20 }
  proof := []
  proofHeight := some h

/-- The state that an accepted message brings the channel into. -/
def stateAfter? (typeUrl : String) : Option ChannelState :=
  if typeUrl = HandshakeMessage.openInit.typeUrl then some .init
  else if typeUrl = HandshakeMessage.openTry.typeUrl then some .tryOpen
  else if typeUrl = HandshakeMessage.openAck.typeUrl ∨
    typeUrl = HandshakeMessage.openConfirm.typeUrl then some .opened
  else none

/-- The text that a message carries. -/
def payload (m : Message) : String := (Bytes.text? m.value).getD ""

/-- The client trusts the height that an update carries, if it is a greater one. -/
def updateClient (c : ScriptedChain) (m : Message) : ScriptedChain :=
  match Height.parse (payload m) with
  | .ok h => if c.clientHeight < h then { c with clientHeight := h } else c
  | .error _ => c

/-- An accepted message takes effect. -/
def accept (c : ScriptedChain) (m : Message) : ScriptedChain :=
  if m.typeUrl = Message.updateClientUrl then
    c.updateClient m
  else
    match stateAfter? m.typeUrl with
    | none => c
    | some next =>
      if c.lag = 0 then { c with state := next }
      else { c with latestState := some next, upcoming := some (next, c.lag) }

/-- What becomes of the next transaction. -/
def nextOutcome (c : ScriptedChain) : TxOutcome := c.sendOutcomes.headD .accepted

def submit (c : ScriptedChain) (tx : Transaction) : Except RelayError Unit × ScriptedChain :=
  let rest := { c with sendOutcomes := c.sendOutcomes.tail }
  match c.nextOutcome with
  | .accepted => (.ok (), if c.advances then tx.messages.foldl accept rest else rest)
  | .rejected => (.error (.sendFailed c.id "out of gas"), rest)
  | .unreachable => (.error (.query c.id "tx" "connection refused"), rest)

/-- The next latest header. Both heights move on, one after the other, for which there must
be room. -/
def serveHeader (c : ScriptedChain) : Except Breach Header × ScriptedChain :=
  match c.headerHeight.add c.headerStep with
  | .error b => (.error b, c)
  | .ok headerHeight =>
    match c.latestHeight.add c.headerStep with
    | .error b => (.error b, { c with headerHeight })
    | .ok latestHeight => (.ok (header c.headerHeight), { c with headerHeight, latestHeight })

/-- A message of the handshake, with its parts in order. -/
def handshakeMessage (m : HandshakeMessage) (parts : List String) : Message :=
  .ofText m.typeUrl ("|".intercalate parts)

/-- A channel end as a message refers to it: its state and the height of its proof. -/
def reference (seen : ProvenChannel) : String :=
  seen.state.text ++ "@" ++ (seen.proofHeight.elim "" Height.text)

def signerReply (c : ScriptedChain) : Except RelayError Signer :=
  (Signer.parse c.signer).mapError fun e => .query c.id "signer" (report e)

/-- What a call comes to: a reply or a breach, and the chain after it. -/
abbrev Response (q : ChainCall) := Except Breach (Except RelayError q.Result) × ScriptedChain

/-- The reply to a call that has not been made to fail. -/
def serve (c : ScriptedChain) : (q : ChainCall) → Response q
  | .subscribe => (.ok (.ok ()), c)
  | .submit tx => (.ok (c.submit tx).1, (c.submit tx).2)
  | .signer => (.ok c.signerReply, c)
  | .latestHeight => (.ok (.ok c.latestHeight), c)
  | .latestHeader => (c.serveHeader.1.map .ok, c.serveHeader.2)
  | .clientHeight _ => (.ok (.ok c.clientHeight), c)
  | .headersForUpdate _ target =>
    (.ok (.ok (match c.updateHeaders with
      | some heights => heights.map header
      | none => [target])), c)
  | .channel h =>
    match c.stateQueue with
    | next :: rest => (.ok (.ok (proven next h)), { c with stateQueue := rest })
    | [] => (.ok (.ok (proven (c.stateAt h) h)), c)
  | .openInit order counterparty signer =>
    (.ok (.ok (handshakeMessage .openInit
      [order.text, counterparty.text, signer.address])), c)
  | .openTry order counterparty seen signer =>
    (.ok (.ok (handshakeMessage .openTry
      [order.text, counterparty.text, reference seen, signer.address])), c)
  | .openAck counterparty seen signer =>
    (.ok (.ok (handshakeMessage .openAck
      [counterparty.text, reference seen, signer.address])), c)
  | .openConfirm seen signer =>
    (.ok (.ok (handshakeMessage .openConfirm [reference seen, signer.address])), c)
  | .updateClient headers _ =>
    (.ok (.ok (headers.map fun h => ⟨Message.updateClientUrl, h.raw.value⟩)), c)

/-- The reply to a call, unless it has been made to fail. -/
def serveOrFail (c : ScriptedChain) (q : ChainCall) : Response q :=
  match failureName q with
  | some name =>
    if c.isFailing name then
      (.ok (.error (c.scriptedError name)), c.spendFailure name)
    else c.serve q
  | none => c.serve q

/-- The reply to a call. Asking for a latest header uses up the budget for them, also when
the call is made to fail. -/
def respond (c : ScriptedChain) (q : ChainCall) : Response q :=
  if q = .latestHeader then
    if c.headerBudget = 0 then
      (.ok (.error (.query c.id "latest_header" "budget exhausted")), c)
    else
      { c with headerBudget := c.headerBudget - 1 }.countDown.serveOrFail q
  else
    c.serveOrFail q

/-! ## The log -/

/-- A message on one line: its type and its text, or the length of a text that is long. -/
def messageLine (m : Message) : String :=
  if 200 < m.value.length then
    m.typeUrl ++ "=" ++ (payload m).take 1 ++ "*" ++ m.value.length.repr
  else
    m.typeUrl ++ "=" ++ payload m

def trackingLine : TrackingId → String
  | .fresh _ => "uuid v4 36"
  | .named name => name

/-- The line that a call leaves in the log. -/
def describe (c : ScriptedChain) : ChainCall → String
  | .subscribe => "subscribe"
  | .submit tx =>
    "send [" ++ trackingLine tx.trackingId ++ "] " ++
      "; ".intercalate (tx.messages.map messageLine) ++ " -> " ++ c.nextOutcome.text
  | .signer => "signer"
  | .latestHeight => "latest_height"
  | .latestHeader => "latest_header"
  | .clientHeight h => "client_height@" ++ h.text
  | .headersForUpdate trusted target =>
    "build_headers " ++ trusted.text ++ ".." ++ target.height.text
  | .channel h => "channel@" ++ h.text
  | .openInit .. => "build_init"
  | .openTry .. => "build_try"
  | .openAck .. => "build_ack"
  | .openConfirm .. => "build_confirm"
  | .updateClient headers _ =>
    "build_update_client [" ++ ",".intercalate (headers.map fun h => h.height.text) ++ "]"

end ScriptedChain

end ChannelRelay.Simulation
