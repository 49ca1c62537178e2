import Nanotalk.Dht.Message
import Mathlib.Data.List.Sort

/-!
# The client

Model of `DhtClient` in `src/dht-client.c`: lookups with their queries, connections, and the
callbacks that work on them. A client is one state, `DhtClient`; every function of the sources that
takes a `DhtClient *` is a function from states to states, and what it does to the outside is kept
in `log`, the last action first.

* The main context's timeouts are `sources`: `g_timeout_add` enters a `Timer` under a new id,
  `g_source_remove` takes it out. A `Timer` names what the callback's pointer refers to: a query by
  the id of its lookup and its place there, a connection by its nonce.
* A `DhtLookup *` or `DhtConnection *` is the value together with its place in the table; a change
  through the pointer is written back with `putLookup` or `putConnection`.
* A `GSequenceIter *`, and with it the `DhtQuery *` found there, is a number that the query carries
  (`DhtQuery.iter`); `query_table` has these numbers.
* `g_hash_table_remove` and `g_hash_table_replace` run the destroy callbacks of the sources.
* A `GSimpleAsyncResult` is the number of its call of `dht_client_lookup_async`.
* User callbacks run between the events. Sending never fails.

The clock, failures of `g_socket_new` and the numbers drawn by `g_random_int_range` are part of the
event; the keys drawn by `dht_key_make_random` are a stream, read at `draws`. Entries of the log
beyond what the outside sees, and `DhtConnection.session`, are history that no function reads: what
happens to a lookup in its life are the entries with its id after the last `lookupNew`.

| C | Lean |
| --- | --- |
| `dht_client_lookup_async`, `dht_client_bootstrap` | `lookupAsync`, `bootstrap` |
| `dht_client_refresh_cb`, `dht_client_receive_cb` | `refresh`, `receive` |
| `dht_lookup_update`, `dht_lookup_dispatch` | `lookupUpdate`, `lookupDispatch` |
| `dht_query_timeout_cb`, `dht_connection_timeout_cb` | `queryTimeout`, `connectionTimeout` |
| `dht_query_destroy_cb`, `dht_lookup_destroy_cb` | `queryDestroy`, `lookupDestroy` |
| `dht_connection_destroy_cb`, `dht_result_destroy_cb` | `connectionDestroy`, `resultDestroy` |
-/

namespace Nanotalk
open Glib

/-- C `DHT_CONCURRENCY`: number of concurrent requests per lookup. -/
abbrev DHT_CONCURRENCY : Nat := 3

/-- The codes of `G_IO_ERROR` in use. -/
inductive GIOErrorEnum where
  | invalidArgument
  | hostNotFound
  | cancelled
  | timedOut
  deriving DecidableEq

/-- GLib's `GError` in the domain `G_IO_ERROR`. -/
structure GError where
  code : GIOErrorEnum
  message : String
  deriving DecidableEq

/-- A timeout source: the callback and what its pointer refers to. -/
inductive Timer where
  /-- `dht_query_timeout_cb` -/
  | query (id : DhtId) (iter : Nat)
  /-- `dht_connection_timeout_cb` -/
  | connection (nonce : DhtKey)
  deriving DecidableEq

/-- C `struct _dht_query`, with its place in the sequence of its lookup, which moving a query does
    not change. -/
structure DhtQuery where
  iter : Nat
  metric : DhtId
  addr : DhtAddress
  timeoutSource : Nat
  isFinished : Bool
  isAlive : Bool
  deriving DecidableEq

/-- C `struct _dht_lookup`. -/
structure DhtLookup where
  id : DhtId
  querySequence : List DhtQuery
  queryTable : DhtAddress → Option Nat
  numSources : Nat
  results : List Nat

/-- What the keys of a connection are derived from: the peer's public key, the shared secret, the
    client's own nonce and the peer's. -/
structure Session where
  pubkey : DhtKey
  shared : DhtKey
  nonce : DhtKey
  peerNonce : DhtKey
  deriving DecidableEq

/-- C `struct _dht_connection`. Keys are `none` until they are written. -/
structure DhtConnection where
  id : DhtId
  nonce : DhtKey
  isRemote : Bool
  timeoutSource : Nat
  socket : Option Nat
  sockaddr : Option GSocketAddress
  result : Option Nat
  encKey : Option DhtKey
  decKey : Option DhtKey
  authTag : Option DhtKey
  /-- history: what the three keys were derived from -/
  session : Option Session
  deriving DecidableEq

/-- What a client does. -/
inductive Action where
  /-- `g_socket_send_to` -/
  | sendTo (socket : Nat) (dest : Option GSocketAddress) (msg : Msg)
  /-- `g_socket_connect` -/
  | connect (socket : Option Nat) (dest : GSocketAddress)
  /-- `g_simple_async_result_complete_in_idle` after `g_simple_async_result_set_error` -/
  | completeInIdle (result : Nat) (error : GError)
  /-- `g_simple_async_result_complete`, with the connection as the result -/
  | complete (result : Nat) (connection : DhtConnection)
  /-- the signal `new-connection` -/
  | newConnection (connection : DhtConnection)
  /-- history: a nonce was drawn for a connection request to the node `id` -/
  | attempt (id : DhtId) (nonce : DhtKey)
  /-- history: a connection request was answered, with the keys of this session -/
  | answer (session : Session)
  /-- history: the keys of this session were derived for a connection response -/
  | derive (session : Session)
  /-- history: a lookup was created -/
  | lookupNew (id : DhtId)
  /-- history: `dht_lookup_update` was called with these nodes -/
  | offered (id : DhtId) (nodes : List MsgNode)
  /-- history: the next message is the request to `query`, the sequence being `queries` -/
  | request (id : DhtId) (query : DhtQuery) (queries : List DhtQuery)
  /-- history: a response from `srcid` with these nodes was accepted for `query`, as it was before -/
  | answered (id : DhtId) (query : DhtQuery) (srcid : DhtId) (nodes : List MsgNode)
  /-- history: the request to `query`, as it was before, timed out -/
  | timedOut (id : DhtId) (query : DhtQuery)
  /-- history: a lookup failed, the sequence being `queries` -/
  | lookupFailed (id : DhtId) (queries : List DhtQuery)
  deriving DecidableEq

/-- The sources that C `dht_client_init` attaches, that of the socket and the refresh timeout: their
    numbers, and those that were not removed. -/
structure Attached where
  socketSource : Nat
  timeoutSource : Nat
  sources : List Nat

/-- The state of a client: C `struct _dht_client_private`, what the main context and the operating
    system hold for it, and its log. Socket 0 is `priv->socket`. -/
structure DhtClient where
  id : DhtId
  pubkey : DhtKey
  privkey : DhtKey
  table : DhtTable
  lookupTable : DhtId → Option DhtLookup
  connectionTable : DhtKey → Option DhtConnection
  listen : Bool
  attached : Attached
  sources : Nat → Option Timer
  nextSource : Nat
  nextSocket : Nat
  draws : Nat
  calls : Nat
  log : List Action

namespace DhtLookup

/-- A lookup as it is created. -/
def new (id : DhtId) (results : List Nat) : DhtLookup := ⟨id, [], fun _ => none, 0, results⟩

/-- `g_sequence_get`. -/
def get (lookup : DhtLookup) (iter : Nat) : Option DhtQuery :=
  lookup.querySequence.find? (·.iter = iter)

/-- The query at the place that `query_table` has for an address. -/
def query (lookup : DhtLookup) (addr : DhtAddress) : Option DhtQuery :=
  (lookup.queryTable addr).bind lookup.get

/-- `g_sequence_search` and `g_sequence_insert_before`: before the first query with a greater
    metric. -/
def insertSorted (query : DhtQuery) (queries : List DhtQuery) : List DhtQuery :=
  queries.orderedInsert (fun a b => a.metric < b.metric) query

/-- A query as it is created. No query is ever taken out of the sequence of a lookup. -/
def newQuery (lookup : DhtLookup) (node : MsgNode) : DhtQuery where
  iter := lookup.querySequence.length
  metric := lookup.id.xor node.id
  addr := node.addr
  timeoutSource := 0
  isFinished := false
  isAlive := false

/-- The query for a node, unless its address has one. -/
def insertQuery (lookup : DhtLookup) (node : MsgNode) : DhtLookup :=
  if (lookup.queryTable node.addr).isSome then lookup
  else
    let query := lookup.newQuery node
    { lookup with
      querySequence := insertSorted query lookup.querySequence
      queryTable := Function.update lookup.queryTable query.addr (some query.iter) }

/-- A query is changed in its place. -/
def setQuery (lookup : DhtLookup) (query : DhtQuery) : DhtLookup :=
  { lookup with
    querySequence := lookup.querySequence.map fun q => if q.iter = query.iter then query else q }

/-- The queries before the place of a query. -/
def before (lookup : DhtLookup) (query : DhtQuery) : List DhtQuery :=
  lookup.querySequence.takeWhile fun q => q.iter ≠ query.iter

/-- The queries after the place of a query. -/
def after (lookup : DhtLookup) (query : DhtQuery) : List DhtQuery :=
  (lookup.querySequence.dropWhile fun q => q.iter ≠ query.iter).tail

/-- A query is changed, and `g_sequence_sort_changed` moves it, unless it compares equal to one of its
    neighbours. -/
def sortChanged (lookup : DhtLookup) (query : DhtQuery) : DhtLookup :=
  { lookup with
    querySequence :=
      if (lookup.before query).getLast?.any (·.metric = query.metric) ∨
          (lookup.after query).head?.any (·.metric = query.metric) then
        (lookup.setQuery query).querySequence
      else insertSorted query (lookup.querySequence.filter fun q => q.iter ≠ query.iter) }

end DhtLookup

namespace DhtClient

/-- A client made by `dht_client_new`. -/
def new (S : Sodium) (key : DhtKey) : DhtClient where
  id := DhtId.fromPubkey S (DhtKey.makePublic S key)
  pubkey := DhtKey.makePublic S key
  privkey := key
  table := DhtTable.init
  lookupTable := fun _ => none
  connectionTable := fun _ => none
  listen := false
  attached := ⟨1, 2, [1, 2]⟩
  sources := fun _ => none
  nextSource := 3
  nextSocket := 1
  draws := 0
  calls := 0
  log := []

/-! ## What the client calls -/

section Primitives

variable (c : DhtClient)

/-- An entry in the log. -/
def act (action : Action) : DhtClient := { c with log := action :: c.log }

/-- `g_timeout_add`: the source's id and the state. -/
def timeoutAdd (timer : Timer) : Nat × DhtClient :=
  (c.nextSource,
    { c with
      sources := Function.update c.sources c.nextSource (some timer)
      nextSource := c.nextSource + 1 })

/-- `g_source_remove`. -/
def sourceRemove (source : Nat) : DhtClient :=
  { c with sources := Function.update c.sources source none }

/-- `g_socket_new`. -/
def socketNew : Nat × DhtClient := (c.nextSocket, { c with nextSocket := c.nextSocket + 1 })

/-- `dht_key_make_random`. -/
def makeRandom (random : Nat → DhtKey) : DhtKey × DhtClient :=
  (random c.draws, { c with draws := c.draws + 1 })

/-- The lookup is in the table, as it is now. -/
def putLookup (lookup : DhtLookup) : DhtClient :=
  { c with lookupTable := Function.update c.lookupTable lookup.id (some lookup) }

/-- The connection is in the table, as it is now. -/
def putConnection (connection : DhtConnection) : DhtClient :=
  { c with
    connectionTable := Function.update c.connectionTable connection.nonce (some connection) }

/-- C `dht_client_update`. -/
def update (now : Int) (id : DhtId) (addr : DhtAddress) (isAlive : Bool) : DhtClient :=
  { c with table := c.table.update c.id now id addr isAlive }

/-- C `dht_client_search`. -/
def search (now : Int) (id : DhtId) : List MsgNode × DhtClient :=
  ((c.table.search c.id now id).2, { c with table := (c.table.search c.id now id).1 })

end Primitives

/-! ## Destroy callbacks -/

/-- C `dht_result_destroy_cb`. -/
def resultDestroy (c : DhtClient) (result : Nat) : DhtClient :=
  c.act (.completeInIdle result ⟨.cancelled, "Operation cancelled"⟩)

/-- C `dht_query_destroy_cb`. -/
def queryDestroy (c : DhtClient) (query : DhtQuery) : DhtClient :=
  if query.timeoutSource > 0 then c.sourceRemove query.timeoutSource else c

/-- C `dht_lookup_destroy_cb`. -/
def lookupDestroy (c : DhtClient) (lookup : DhtLookup) : DhtClient :=
  lookup.results.foldl resultDestroy (lookup.querySequence.foldl queryDestroy c)

/-- C `dht_connection_destroy_cb`. -/
def connectionDestroy (c : DhtClient) (connection : DhtConnection) : DhtClient :=
  let c := if connection.timeoutSource > 0 then c.sourceRemove connection.timeoutSource else c
  match connection.result with
  | some result => c.resultDestroy result
  | none => c

/-- `g_hash_table_remove` on `lookup_table`. -/
def lookupRemove (c : DhtClient) (id : DhtId) : DhtClient :=
  match c.lookupTable id with
  | some lookup =>
    lookupDestroy { c with lookupTable := Function.update c.lookupTable id none } lookup
  | none => c

/-- `g_hash_table_replace` on `lookup_table`. -/
def lookupReplace (c : DhtClient) (lookup : DhtLookup) : DhtClient :=
  match c.lookupTable lookup.id with
  | some old => (c.putLookup lookup).lookupDestroy old
  | none => c.putLookup lookup

/-- `g_hash_table_steal` on `connection_table`. -/
def connectionSteal (c : DhtClient) (nonce : DhtKey) : DhtClient :=
  { c with connectionTable := Function.update c.connectionTable nonce none }

/-- `g_hash_table_remove` on `connection_table`. -/
def connectionRemove (c : DhtClient) (nonce : DhtKey) : DhtClient :=
  match c.connectionTable nonce with
  | some connection => (c.connectionSteal nonce).connectionDestroy connection
  | none => c

/-- `g_hash_table_replace` on `connection_table`. -/
def connectionReplace (c : DhtClient) (connection : DhtConnection) : DhtClient :=
  match c.connectionTable connection.nonce with
  | some old => (c.putConnection connection).connectionDestroy old
  | none => c.putConnection connection

/-! ## Lookups -/

/-- The loop of `dht_lookup_dispatch` over the queries. -/
def dispatchLoop : List DhtQuery → DhtClient → DhtLookup → Nat → DhtClient × DhtLookup
  | [], c, lookup, _ => (c, lookup)
  | query :: rest, c, lookup, numAlive =>
    if lookup.numSources < DHT_CONCURRENCY ∧ numAlive < DHT_NODE_COUNT then
      let numAlive' := if query.isAlive then guintInc numAlive else numAlive
      if !query.isFinished ∧ query.timeoutSource = 0 then
        -- Send request
        let c := c.act (.request lookup.id query lookup.querySequence)
        let c := c.act (.sendTo 0 (some query.addr.deserialize) (.lookupReq c.id lookup.id))
        let (source, c) := c.timeoutAdd (.query lookup.id query.iter)
        let lookup :=
          { lookup.setQuery { query with timeoutSource := source } with
            numSources := guintInc lookup.numSources }
        dispatchLoop rest (c.putLookup lookup) lookup numAlive'
      else dispatchLoop rest c lookup numAlive'
    else (c, lookup)

/-- C `dht_lookup_dispatch`. -/
def lookupDispatch (c : DhtClient) (lookup : DhtLookup) : DhtClient :=
  let (c, lookup) := dispatchLoop lookup.querySequence c lookup 0
  if lookup.numSources = 0 then
    -- Lookup failed, report error
    let c := c.act (.lookupFailed lookup.id lookup.querySequence)
    let c := lookup.results.foldl
      (fun c result => c.act (.completeInIdle result ⟨.hostNotFound, "Lookup failed"⟩)) c
    (c.putLookup { lookup with results := [] }).lookupRemove lookup.id
  else c

section Random

variable (random : Nat → DhtKey)

/-- The loop of `dht_lookup_update` over the results of a lookup, for one of them. -/
def requestConnection (c : DhtClient) (id : DhtId) (addr : DhtAddress) (result : Nat) : DhtClient :=
  let (nonce, c) := c.makeRandom random
  let c := c.act (.attempt id nonce)
  -- Create connection
  let (source, c) := c.timeoutAdd (.connection nonce)
  let connection : DhtConnection :=
    { id := id
      nonce := nonce
      isRemote := false
      timeoutSource := source
      socket := none
      sockaddr := some addr.deserialize
      result := some result
      encKey := none
      decKey := none
      authTag := none
      session := none }
  let c := c.connectionReplace connection
  -- Send request
  c.act (.sendTo 0 (some addr.deserialize) (.connectionReq c.pubkey nonce))

/-- The loop of `dht_lookup_update` over the nodes, and what follows it. -/
def updateLoop (c : DhtClient) (lookup : DhtLookup) : List MsgNode → DhtClient
  | [] => c.lookupDispatch lookup
  | node :: nodes =>
    -- Skip own ID
    if node.id = c.id then c.updateLoop lookup nodes
    -- Check if this is the target node
    else if node.id = lookup.id then
      let c := lookup.results.foldl
        (fun c result => c.requestConnection random lookup.id node.addr result) c
      (c.putLookup { lookup with results := [] }).lookupRemove lookup.id
    else
      -- Insert query
      let lookup := lookup.insertQuery node
      (c.putLookup lookup).updateLoop lookup nodes

/-- C `dht_lookup_update`, with the `count` nodes as a list. -/
def lookupUpdate (c : DhtClient) (lookup : DhtLookup) (nodes : List MsgNode) : DhtClient :=
  (c.act (.offered lookup.id nodes)).updateLoop random lookup nodes

/-- C `dht_client_lookup_async`. -/
def lookupAsync (c : DhtClient) (now : Int) (id : DhtId) : DhtClient :=
  let result := c.calls
  let c := { c with calls := c.calls + 1 }
  -- Fail if using own ID
  if id = c.id then c.act (.completeInIdle result ⟨.invalidArgument, "Invalid ID"⟩)
  else
    match c.lookupTable id with
    | some lookup =>
      -- Lookup already exists, insert callback
      c.putLookup { lookup with results := result :: lookup.results }
    | none =>
      -- Create lookup
      let lookup := DhtLookup.new id [result]
      let c := (c.act (.lookupNew id)).putLookup lookup
      -- Dispatch lookup
      let (nodes, c) := c.search now id
      c.lookupUpdate random lookup nodes

/-- C `dht_client_bootstrap`. -/
def bootstrap (c : DhtClient) (address : GSocketAddress) : DhtClient :=
  let node : MsgNode := ⟨⟨fun _ => 0⟩, DhtAddress.serialize address⟩
  match c.lookupTable c.id with
  | some lookup => c.lookupUpdate random lookup [node]
  | none =>
    let lookup := DhtLookup.new c.id []
    ((c.act (.lookupNew c.id)).putLookup lookup).lookupUpdate random lookup [node]

/-- The loop `Generate ID` of `dht_client_refresh_cb`: `nbits` and, for each byte, the number drawn
    by `g_random_int_range`. -/
def refreshId (own : DhtId) (nbits : Nat) (drawn : Nat → UInt8) : DhtId :=
  ⟨fun i =>
    let nbits : Int := nbits - 8 * i
    if nbits ≥ 8 then own.data i
    else if nbits > 0 then
      (own.data i &&& 0xFF <<< UInt8.ofNat (8 - nbits.toNat)) ||| drawn i
    else drawn i⟩

/-- C `dht_client_refresh_cb`. -/
def refresh (c : DhtClient) (now : Int) (nbits : Nat) (drawn : Nat → UInt8) : DhtClient :=
  -- Create lookup
  let lookup := DhtLookup.new (refreshId c.id nbits drawn) []
  let c := (c.act (.lookupNew lookup.id)).lookupReplace lookup
  -- Dispatch lookup
  let (nodes, c) := c.search now lookup.id
  c.lookupUpdate random lookup nodes

end Random

/-! ## Datagrams -/

/-- What an event reads from its environment: the monotonic time of `dht_client_update` and of
    `dht_client_search`, and whether `g_socket_new` fails. -/
structure Env where
  updateTime : Int
  searchTime : Int
  socketError : Bool

section Receive

variable (S : Sodium) (random : Nat → DhtKey) (env : Env)

/-- The case `MSG_LOOKUP_REQ` of `dht_client_receive_cb`. -/
def lookupReq (c : DhtClient) (sockaddr : GSocketAddress) (srcid dstid : DhtId) : DhtClient :=
  -- Ignore own source ID
  if srcid = c.id then c
  else
    let c := c.update env.updateTime srcid (DhtAddress.serialize sockaddr) true
    -- Send response
    let (nodes, c) := c.search env.searchTime dstid
    c.act (.sendTo 0 (some sockaddr) (.lookupRes c.id dstid nodes))

/-- The case `MSG_LOOKUP_RES` of `dht_client_receive_cb`. -/
def lookupRes (c : DhtClient) (sockaddr : GSocketAddress) (srcid dstid : DhtId)
    (nodes : List MsgNode) : DhtClient :=
  -- Ignore own source ID
  if srcid = c.id then c
  else
    let addr := DhtAddress.serialize sockaddr
    let c := c.update env.updateTime srcid addr true
    -- Find lookup
    match c.lookupTable dstid with
    | none => c
    | some lookup =>
      -- Find query
      match lookup.query addr with
      | none => c
      | some query =>
        -- Update query
        let c := c.act (.answered dstid query srcid nodes)
        let (c, numSources) :=
          if query.timeoutSource > 0 then
            (c.sourceRemove query.timeoutSource, guintDec lookup.numSources)
          else (c, lookup.numSources)
        let lookup := { lookup with numSources := numSources }
        let metric := srcid.xor lookup.id
        let lookup :=
          if metric ≠ query.metric then
            lookup.sortChanged
              { query with metric := metric, timeoutSource := 0, isFinished := true, isAlive := true }
          else
            lookup.setQuery
              { query with timeoutSource := 0, isFinished := true, isAlive := true }
        -- Update lookup
        (c.putLookup lookup).lookupUpdate random lookup nodes

/-- The case `MSG_CONNECTION_REQ` of `dht_client_receive_cb`. -/
def connectionReq (c : DhtClient) (sockaddr : GSocketAddress) (pubkey nonce : DhtKey) : DhtClient :=
  let id := DhtId.fromPubkey S pubkey
  if id = c.id then c
  else if c.listen then
    match DhtKey.makeShared S c.privkey pubkey with
    | none => c
    | some shared =>
      if env.socketError then c
      else
        let (socket, c) := c.socketNew
        let (own, c) := c.makeRandom random
        -- Create connection
        let (encKey, responseTag) := DhtKey.derive S shared own nonce
        let (decKey, authTag) := DhtKey.derive S shared nonce own
        let session : Session := ⟨pubkey, shared, own, nonce⟩
        let c := c.act (.answer session)
        let (source, c) := c.timeoutAdd (.connection own)
        let connection : DhtConnection :=
          { id := id
            nonce := own
            isRemote := true
            timeoutSource := source
            socket := some socket
            sockaddr := none
            result := none
            encKey := some encKey
            decKey := some decKey
            authTag := some authTag
            session := some session }
        let c := c.connectionReplace connection
        -- Send response
        c.act (.sendTo socket (some sockaddr) (.connectionRes1 c.pubkey own nonce responseTag))
  else c

/-- The case `MSG_CONNECTION_RES` of `dht_client_receive_cb`, for a `MsgConnection2`. -/
def connectionRes1 (c : DhtClient) (sockaddr : GSocketAddress)
    (pubkey nonce peerNonce authTag : DhtKey) : DhtClient :=
  let id := DhtId.fromPubkey S pubkey
  -- Find connection
  match c.connectionTable peerNonce with
  | none => c
  | some connection =>
    if connection.isRemote ∨ connection.id ≠ id then c
    else
      match DhtKey.makeShared S c.privkey pubkey with
      | none => c
      | some shared =>
        -- Derive keys and verify authentication tag
        let (encKey, responseTag) := DhtKey.derive S shared connection.nonce nonce
        let (decKey, expectedTag) := DhtKey.derive S shared nonce connection.nonce
        let session : Session := ⟨pubkey, shared, connection.nonce, nonce⟩
        let c := c.act (.derive session)
        let connection :=
          { connection with
            encKey := some encKey
            decKey := some decKey
            authTag := some expectedTag
            session := some session }
        let c := c.putConnection connection
        if expectedTag ≠ authTag then c
        else if env.socketError then c
        else
          let (socket, c) := c.socketNew
          -- Send response
          let c := c.act (.sendTo socket connection.sockaddr (.connectionRes2 nonce responseTag))
          let c := c.sourceRemove connection.timeoutSource
          let connection := { connection with socket := some socket, timeoutSource := 0 }
          -- Complete result
          let c := c.act (.connect connection.socket sockaddr)
          let c := c.connectionSteal connection.nonce
          match connection.result with
          | some result => c.act (.complete result connection)
          | none => c

/-- The case `MSG_CONNECTION_RES` of `dht_client_receive_cb`, for a `MsgConnection3`. -/
def connectionRes2 (c : DhtClient) (sockaddr : GSocketAddress) (peerNonce authTag : DhtKey) :
    DhtClient :=
  -- Find connection
  match c.connectionTable peerNonce with
  | none => c
  | some connection =>
    if !connection.isRemote ∨ connection.authTag ≠ some authTag then c
    else
      let c := c.connectionSteal connection.nonce
      let c :=
        if c.listen then
          -- Signal result
          (c.act (.connect connection.socket sockaddr)).act (.newConnection connection)
        else c
      c.connectionDestroy connection

/-- The cases of `dht_client_receive_cb`. -/
def receiveMsg (c : DhtClient) (sockaddr : GSocketAddress) : Msg → DhtClient
  | .lookupReq srcid dstid => c.lookupReq env sockaddr srcid dstid
  | .lookupRes srcid dstid nodes => c.lookupRes random env sockaddr srcid dstid nodes
  | .connectionReq pubkey nonce => c.connectionReq S random env sockaddr pubkey nonce
  | .connectionRes1 pubkey nonce peerNonce authTag =>
    c.connectionRes1 S env sockaddr pubkey nonce peerNonce authTag
  | .connectionRes2 peerNonce authTag => c.connectionRes2 sockaddr peerNonce authTag

/-- C `dht_client_receive_cb`, with `len` bytes received in the memory of `buffer`. -/
def receive (w : WordSize) (c : DhtClient) (memory : Nat → UInt8) (len : Nat)
    (sockaddr : GSocketAddress) : DhtClient :=
  match Msg.read w memory len with
  | some msg => c.receiveMsg S random env sockaddr msg
  | none => c

end Receive

/-! ## Timeouts -/

/-- C `dht_query_timeout_cb`. -/
def queryTimeout (c : DhtClient) (env : Env) (id : DhtId) (iter : Nat) : DhtClient :=
  match c.lookupTable id with
  | none => c
  | some lookup =>
    match lookup.get iter with
    | none => c
    | some query =>
      let c := c.act (.timedOut id query)
      -- Update node
      let c := c.update env.updateTime (query.metric.xor lookup.id) query.addr false
      let lookup := lookup.setQuery { query with isFinished := true, timeoutSource := 0 }
      -- Update source counter
      let lookup := { lookup with numSources := guintDec lookup.numSources }
      -- Dispatch lookup
      (c.putLookup lookup).lookupDispatch lookup

/-- C `dht_connection_timeout_cb`. -/
def connectionTimeout (c : DhtClient) (nonce : DhtKey) : DhtClient :=
  match c.connectionTable nonce with
  | none => c
  | some connection =>
    let c := match connection.result with
      | some result => c.act (.completeInIdle result ⟨.timedOut, "Operation timed out"⟩)
      | none => c
    let connection := { connection with result := none, timeoutSource := 0 }
    (c.putConnection connection).connectionRemove connection.nonce

/-- A timeout source fires. The main context drops it, as the callbacks return
    `G_SOURCE_REMOVE`. -/
def fire (c : DhtClient) (env : Env) (source : Nat) : DhtClient :=
  match c.sources source with
  | some (.query id iter) => (c.sourceRemove source).queryTimeout env id iter
  | some (.connection nonce) => (c.sourceRemove source).connectionTimeout nonce
  | none => c

end DhtClient

/-! ## Runs -/

/-- What happens to a client. -/
inductive Event where
  | lookupAsync (id : DhtId)
  | bootstrap (address : GSocketAddress)
  | setListen (listen : Bool)
  | refresh (nbits : Nat) (drawn : Nat → UInt8)
  | receive (memory : Nat → UInt8) (len : Nat) (sockaddr : GSocketAddress)
  | timeout (source : Nat)

/-- A message arrives, in a buffer of zeros. -/
def Event.message (msg : Msg) (sockaddr : GSocketAddress) : Event :=
  .receive (fun i => msg.bytes.getD i 0) msg.bytes.length sockaddr

namespace DhtClient

variable (S : Sodium) (w : WordSize) (random : Nat → DhtKey)

/-- The client after an event. -/
def step (c : DhtClient) (env : Env) : Event → DhtClient
  | .lookupAsync id => c.lookupAsync random env.searchTime id
  | .bootstrap address => c.bootstrap random address
  | .setListen listen => { c with listen := listen }
  | .refresh nbits drawn => c.refresh random env.searchTime nbits drawn
  | .receive memory len sockaddr => c.receive S random env w memory len sockaddr
  | .timeout source => c.fire env source

/-- The client with the private key `key` after a sequence of events. -/
def run (key : DhtKey) (events : List (Env × Event)) : DhtClient :=
  events.foldl (fun c e => c.step S w random e.1 e.2) (new S key)

lemma run_concat (key : DhtKey) (events : List (Env × Event)) (e : Env × Event) :
    run S w random key (events ++ [e]) =
      (run S w random key events).step S w random e.1 e.2 := by
  rw [run, List.foldl_append]
  rfl

end DhtClient

/-! ## Messages as they were sent -/

/-- The message that an event brings. -/
def Event.msg (w : WordSize) : Event → Option Msg
  | receive memory len _ => Msg.read w memory len
  | _ => none

/-- A message arrives as it was sent. -/
lemma Event.msg_message (w : WordSize) {msg : Msg} (short : msg.bytes.length ≤ MSG_MTU)
    (sockaddr : GSocketAddress) : (Event.message msg sockaddr).msg w = some msg := by
  rw [Event.message, Event.msg]
  refine Msg.read_bytes (fun i h => ?_) short
  rw [Nat.zero_add, List.getD_eq_getElem _ _ h]

/-- What a client does with a message that arrives as it was sent. -/
lemma DhtClient.step_message {c : DhtClient} (S : Sodium) (w : WordSize) (random : Nat → DhtKey)
    (env : DhtClient.Env) {msg : Msg} (short : msg.bytes.length ≤ MSG_MTU) (sockaddr : GSocketAddress) :
    c.step S w random env (.message msg sockaddr) = c.receiveMsg S random env sockaddr msg := by
  have read := Event.msg_message w short sockaddr
  rw [Event.message, step, receive]
  rw [Event.message, Event.msg] at read
  rw [read]

/-- An event, or a message that arrives as it was sent. -/
inductive Input where
  | event (e : Event)
  | message (msg : Msg) (sockaddr : GSocketAddress)

namespace Input

/-- The event that an input is. -/
def toEvent : Input → Event
  | event e => e
  | message msg sockaddr => .message msg sockaddr

/-- The message fits into a datagram. -/
def Short : Input → Prop
  | event _ => True
  | message msg _ => msg.bytes.length ≤ MSG_MTU

/-- The message that an input brings. -/
def msg (w : WordSize) : Input → Option Msg
  | event e => e.msg w
  | message msg _ => some msg

/-- An input that fits into a datagram carries its message. -/
lemma toEvent_msg {input : Input} (short : input.Short) (w : WordSize) :
    input.toEvent.msg w = input.msg w := by
  cases input with
  | event e => rfl
  | message msg sockaddr => exact Event.msg_message w short sockaddr

end Input

namespace DhtClient

variable (S : Sodium) (w : WordSize) (random : Nat → DhtKey)

/-- A client takes an input. -/
def take (c : DhtClient) (e : Env × Input) : DhtClient :=
  match e.2 with
  | .event event => c.step S w random e.1 event
  | .message msg sockaddr => c.receiveMsg S random e.1 sockaddr msg

lemma step_toEvent {e : Env × Input} (short : e.2.Short) (c : DhtClient) :
    c.step S w random e.1 e.2.toEvent = c.take S w random e := by
  obtain ⟨env, input⟩ := e
  cases input with
  | event event => rfl
  | message msg sockaddr => exact step_message S w random env short sockaddr

/-- The events of inputs. -/
def events (inputs : List (Env × Input)) : List (Env × Event) :=
  inputs.map fun e => (e.1, e.2.toEvent)

/-- The client after a sequence of inputs. -/
def runInputs (key : DhtKey) (inputs : List (Env × Input)) : DhtClient :=
  inputs.foldl (take S w random) (new S key)

theorem run_events (key : DhtKey) {inputs : List (Env × Input)} (short : ∀ e ∈ inputs, e.2.Short) :
    run S w random key (events inputs) = runInputs S w random key inputs := by
  rw [run, runInputs, events, List.foldl_map]
  generalize new S key = c
  induction inputs generalizing c with
  | nil => rfl
  | cons e inputs ih =>
    rw [List.foldl_cons, List.foldl_cons, step_toEvent S w random (short e (List.mem_cons_self ..))]
    exact ih (fun e mem => short e (List.mem_cons_of_mem _ mem)) _

end DhtClient

end Nanotalk
