import Nanotalk.Lib.Runs
import Nanotalk.Dht.Handover
import Nanotalk.Dht.Routing
import Nanotalk.Dht.Sessions

/-!
# The program and its files

Model of `src/main.c` and of C `config_apply` in `src/application.c`: what a start reads from
`user.cfg` and `user.key`, the client that it makes, and what the configuration window changes. The
callbacks, and starts of the program one after the other, are the events.

* A `GKeyFile` is the record of what the typed getters find. Of a file that is not one to its end, it has
  what stands before the first bad line.
* `g_file_set_contents` and `g_key_file_save_to_file` replace a file or leave it as it was.
* For port 0 the kernel chooses a port, and so it does when a socket that is not bound sends.
* What becomes of a client that is released is in `DhtClient.finalize`; calls are in `Application`.

`identity_run`: the program keeps its id. `settings_iff`: when a start brings back the settings.
`bound_run`: what the socket of the client is bound to, and what is configured.
-/

namespace Nanotalk
open Glib
open DhtClient (Env)

/-- What is found in a `GKeyFile`. -/
structure KeyFile where
  localPort : Option Int
  bootstrapHost : Option String
  bootstrapPort : Option Int
  /-- `g_key_file_has_group` for `media` -/
  media : Bool
  audioBitrate : Option Int
  videoBitrate : Option Int
  videoEnable : Option Bool
  deriving DecidableEq

/-- C `DEFAULT_PORT`. -/
abbrev DEFAULT_PORT : Int := 5004

/-- C `DEFAULT_AUDIO_BITRATE`. -/
abbrev DEFAULT_AUDIO_BITRATE : Int := 64000

/-- C `DEFAULT_VIDEO_BITRATE`. -/
abbrev DEFAULT_VIDEO_BITRATE : Int := 256000

/-- C `DEFAULT_VIDEO_ENABLE`. -/
abbrev DEFAULT_VIDEO_ENABLE : Bool := false

namespace KeyFile

/-- `g_key_file_new`. -/
def new : KeyFile := ⟨none, none, none, false, none, none, none⟩

/-- `g_key_file_get_integer`, assigned to a `guint16`. -/
def getPort (value : Option Int) : UInt16 := UInt16.ofInt (value.getD 0)

/-- What the part `Load configuration` of C `startup` sets when the file is not loaded. -/
def withNetwork (config : KeyFile) : KeyFile :=
  { config with
    localPort := some DEFAULT_PORT
    bootstrapHost := some ""
    bootstrapPort := some DEFAULT_PORT }

/-- The beginning of C `application_run`. -/
def withMedia (config : KeyFile) : KeyFile :=
  if config.media then config
  else
    { config with
      media := true
      audioBitrate := some DEFAULT_AUDIO_BITRATE
      videoBitrate := some DEFAULT_VIDEO_BITRATE
      videoEnable := some DEFAULT_VIDEO_ENABLE }

end KeyFile

/-- A file, as the parser of `GKeyFile` takes it. -/
structure ConfigFile where
  /-- what stands before the first bad line, or before the end -/
  parsed : KeyFile
  /-- there is no bad line -/
  complete : Bool

/-- `g_key_file_load_from_file`, and whether it succeeds. -/
def ConfigFile.load : Option ConfigFile → KeyFile × Bool
  | some file => (file.parsed, file.complete)
  | none => (.new, false)

/-- The part `Load configuration` of C `startup`, and whether the file is saved. -/
def KeyFile.load (file : Option ConfigFile) : KeyFile × Bool :=
  let (config, loaded) := ConfigFile.load file
  if loaded then (config, false) else (config.withNetwork, true)

/-- What a socket is bound to. -/
inductive BoundTo where
  | none
  | port (port : UInt16)
  /-- a port that the kernel has chosen -/
  | chosen
  deriving DecidableEq

/-- `g_socket_bind` to a port of any address. -/
def BoundTo.bind (port : UInt16) (succeeds : Bool) : BoundTo :=
  if succeeds then if port = 0 then .chosen else .port port else .none

/-- A datagram is sent from the socket of the client. -/
def Action.leaves : Action → Bool
  | sendTo 0 _ _ => true
  | _ => false

/-- The socket of the client has sent something. -/
def DhtClient.hasSent (c : DhtClient) : Bool := c.log.any Action.leaves

/-- The bytes of a file as a key. -/
def DhtKey.ofBytes (bytes : List UInt8) : DhtKey := ⟨fun i => bytes.getD i 0⟩

/-- What a start of the program meets: the key that C `dht_key_make_random` draws, the ones that the
    client draws later, whether the files can be written, whether the port is free (which port 0 is),
    and the first address of the bootstrap host. -/
structure Start where
  drawn : DhtKey
  random : Nat → DhtKey
  keyWritten : Bool
  configWritten : Bool
  free : Bool
  resolved : Option GInetAddress

/-- What the widgets of the configuration window show. -/
structure Settings where
  localPort : UInt16
  bootstrapHost : String
  bootstrapPort : UInt16
  audioBitrate : Int
  videoBitrate : Int
  videoEnable : Bool

/-- The program, with the files that it leaves. -/
structure Program where
  /-- `user.key` -/
  keyFile : Option (List UInt8)
  /-- `user.cfg` -/
  configFile : Option ConfigFile
  config : KeyFile
  client : DhtClient
  /-- the keys that the client draws -/
  random : Nat → DhtKey
  /-- what the socket of the client is bound to -/
  bound : BoundTo
  /-- the names that are to be resolved, for C `resolver_finish_cb` -/
  resolving : List (String × UInt16)

namespace Program

/-- What happens to the program. -/
inductive Event where
  /-- the program has ended, and is started -/
  | start (s : Start)
  /-- the settings are applied; the keys are those that a new client draws -/
  | apply (settings : Settings) (random : Nat → DhtKey) (free written : Bool)
  /-- a name is resolved -/
  | resolved (host : String) (port : UInt16) (address : Option GSocketAddress)
  | client (env : Env) (e : Nanotalk.Event)

variable (S : Sodium) (w : WordSize)

/-- The key that the part `Load private key` of C `startup` ends with, and the file. -/
def loadKey (s : Start) (keyFile : Option (List UInt8)) : DhtKey × Option (List UInt8) :=
  if (keyFile.getD []).length ≠ DHT_KEY_SIZE then
    (s.drawn, if s.keyWritten then some s.drawn.data.toList else keyFile)
  else (DhtKey.ofBytes (keyFile.getD []), keyFile)

/-- The part `Bootstrap` of C `startup`. -/
def bootstrap (s : Start) (config : KeyFile) (client : DhtClient) : DhtClient :=
  let port := KeyFile.getPort config.bootstrapPort
  if config.bootstrapHost.getD "" ≠ "" ∧ port ≠ 0 then
    match s.resolved with
    | some address => client.bootstrap s.random ⟨address, port⟩
    | none => client
  else client

variable (p : Program)

/-- The client is in another state. Its socket is bound when it sends. -/
def withClient (client : DhtClient) : Program :=
  { p with
    client := client
    bound := if p.bound = .none ∧ client.hasSent = true then .chosen else p.bound }

/-- C `startup`, and C `application_run` up to the main loop. -/
def start (s : Start) (keyFile : Option (List UInt8)) (configFile : Option ConfigFile) : Program :=
  let (config, saved) := KeyFile.load configFile
  let configFile := if saved ∧ s.configWritten then some ⟨config, true⟩ else configFile
  let (key, keyFile) := loadKey s keyFile
  let client := DhtClient.new S key
  let p : Program :=
    { keyFile := keyFile
      configFile := configFile
      config := config.withMedia
      client := client
      random := s.random
      bound := .bind (KeyFile.getPort config.localPort) s.free
      resolving := [] }
  let p := p.withClient (bootstrap s config client)
  { p with client := { p.client with listen := true } }

/-- The first part of C `config_apply`: the local port. -/
def applyPort (localPort : UInt16) (random : Nat → DhtKey) (free : Bool) : Program × Bool :=
  if (localPort.toNat : Int) ≠ p.config.localPort.getD 0 ∧ free then
    ({ p with
        client := { DhtClient.new S p.client.privkey with listen := p.client.listen }
        random := random
        bound := .bind localPort true
        config := { p.config with localPort := some localPort.toNat } }, true)
  else (p, false)

/-- The second part: the bootstrap host. -/
def applyBootstrap (needBootstrap : Bool) (host : String) (port : UInt16) : Program :=
  if needBootstrap ∨ some host ≠ p.config.bootstrapHost ∨
      port ≠ KeyFile.getPort p.config.bootstrapPort then
    { p with
      resolving := if host ≠ "" ∧ port ≠ 0 then (host, port) :: p.resolving else p.resolving
      config :=
        { p.config with
          bootstrapHost := some host
          bootstrapPort := some port.toNat } }
  else p

/-- The settings that C `config_apply` sets in any case. -/
def applyMedia (settings : Settings) : Program :=
  { p with
    config :=
      { p.config with
        media := true
        audioBitrate := some settings.audioBitrate
        videoBitrate := some settings.videoBitrate
        videoEnable := some settings.videoEnable } }

/-- C `config_apply`. -/
def configApply (settings : Settings) (random : Nat → DhtKey) (free written : Bool) : Program :=
  let (p, needBootstrap) := p.applyPort S settings.localPort random free
  let p := (p.applyBootstrap needBootstrap settings.bootstrapHost settings.bootstrapPort).applyMedia
    settings
  if written then { p with configFile := some ⟨p.config, true⟩ } else p

/-- C `resolver_finish_cb`, if the name is to be resolved. -/
def resolverFinish (host : String) (port : UInt16) (address : Option GSocketAddress) : Program :=
  if (host, port) ∈ p.resolving then
    let p := { p with resolving := p.resolving.erase (host, port) }
    match address with
    | some address => p.withClient (p.client.bootstrap p.random address)
    | none => p
  else p

/-- The program after an event. -/
def step : Event → Program
  | .start s => start S s p.keyFile p.configFile
  | .apply settings random free written => p.configApply S settings random free written
  | .resolved host port address => p.resolverFinish host port address
  | .client env e => p.withClient (p.client.step S w p.random env e)

/-- The program after its first start and a run. -/
def run (keyFile : Option (List UInt8)) (configFile : Option ConfigFile) (first : Start)
    (events : List Event) : Program :=
  events.foldl (step S w) (start S first keyFile configFile)

/-! ## The identity -/

variable {S w p}

/-- The key in the file. -/
def Keeps (p : Program) (bytes : List UInt8) : Prop :=
  p.keyFile = some bytes ∧ bytes.length = DHT_KEY_SIZE

/-- The client is one that events lead to, with the key in the file if there is one. -/
structure Rooted (S : Sodium) (w : WordSize) (p : Program) : Prop where
  client : ∃ key events, p.client = DhtClient.run S w p.random key events
  key : ∀ bytes, p.Keeps bytes → p.client.privkey = DhtKey.ofBytes bytes

/-- The private key stays. -/
lemma run_privkey (random : Nat → DhtKey) (key : DhtKey) (events : List (Env × Nanotalk.Event)) :
    (DhtClient.run S w random key events).privkey = key :=
  (DhtClient.run_traced S w random key events).before.privkey

/-- The id is that of the key. -/
lemma Rooted.id (R : Rooted S w p) : p.client.id = (DhtClient.new S p.client.privkey).id := by
  obtain ⟨key, events, e⟩ := R.client
  rw [e, run_privkey, DhtClient.run_id]

/-- A client of a run takes an event. -/
lemma Rooted.event (R : Rooted S w p) {client : DhtClient} (env : Env) (e : Nanotalk.Event)
    (took : client = p.client.step S w p.random env e) :
    Rooted S w (p.withClient client) ∧ client.privkey = p.client.privkey := by
  obtain ⟨key, events, here⟩ := R.client
  have next : client = DhtClient.run S w p.random key (events ++ [(env, e)]) := by
    rw [DhtClient.run_concat, ← here, took]
  have same : client.privkey = p.client.privkey := by
    rw [next, here, run_privkey, run_privkey]
  exact ⟨⟨⟨key, _, next⟩, fun bytes kept => same.trans (R.key bytes kept)⟩, same⟩

/-- A key is read back from its bytes. -/
lemma ofBytes_toList (key : DhtKey) : DhtKey.ofBytes key.data.toList = key := by
  rw [DhtKey.ofBytes, DhtKey.mk.injEq]
  funext i
  exact Bytes.toList_getD key.data i

/-- The key of a start is that in the file. -/
lemma loadKey_kept (s : Start) {keyFile : Option (List UInt8)} {bytes : List UInt8}
    (kept : (loadKey s keyFile).2 = some bytes) (length : bytes.length = DHT_KEY_SIZE) :
    (loadKey s keyFile).1 = DhtKey.ofBytes bytes := by
  unfold loadKey at kept ⊢
  split
  · rename_i wrong
    rw [if_pos wrong] at kept
    cases written : s.keyWritten with
    | true =>
      rw [written] at kept
      rw [← Option.some.inj kept, ofBytes_toList]
    | false =>
      rw [written] at kept
      have kept : keyFile = some bytes := kept
      rw [kept] at wrong
      exact absurd length wrong
  · rename_i right
    rw [if_neg right] at kept
    have kept : keyFile = some bytes := kept
    rw [kept]
    rfl

/-- A start leaves a key that it can use alone. -/
lemma loadKey_keeps (s : Start) {bytes : List UInt8} (length : bytes.length = DHT_KEY_SIZE) :
    loadKey s (some bytes) = (DhtKey.ofBytes bytes, some bytes) :=
  if_neg (not_not.mpr length)

/-- The bootstrap is an event of the client. -/
lemma bootstrap_run (s : Start) (config : KeyFile) (key : DhtKey) :
    ∃ events, bootstrap s config (DhtClient.new S key) = DhtClient.run S w s.random key events := by
  unfold bootstrap
  dsimp only
  split
  · split
    · rename_i address _
      exact ⟨[(⟨0, 0, false⟩, .bootstrap ⟨address, KeyFile.getPort config.bootstrapPort⟩)], rfl⟩
    · exact ⟨[], rfl⟩
  · exact ⟨[], rfl⟩

/-- A start makes a client of a run. -/
lemma start_client (s : Start) (keyFile : Option (List UInt8)) (configFile : Option ConfigFile) :
    ∃ events, (start S s keyFile configFile).client =
      DhtClient.run S w s.random (loadKey s keyFile).1 events := by
  obtain ⟨events, e⟩ := bootstrap_run (S := S) (w := w) s (KeyFile.load configFile).1
    (loadKey s keyFile).1
  refine ⟨events ++ [(⟨0, 0, false⟩, .setListen true)], ?_⟩
  rw [DhtClient.run_concat, ← e]
  rfl

/-- A start is rooted. -/
lemma start_rooted (s : Start) (keyFile : Option (List UInt8)) (configFile : Option ConfigFile) :
    Rooted S w (start S s keyFile configFile) := by
  obtain ⟨events, e⟩ := start_client (S := S) (w := w) s keyFile configFile
  refine ⟨⟨_, events, e⟩, fun bytes kept => ?_⟩
  rw [e, run_privkey]
  exact loadKey_kept s kept.1 kept.2

/-- Only the port changes more than the configuration. -/
lemma configApply_same (settings : Settings) (random : Nat → DhtKey) (free written : Bool) :
    (p.configApply S settings random free written).keyFile = p.keyFile ∧
    (p.configApply S settings random free written).client =
      (p.applyPort S settings.localPort random free).1.client ∧
    (p.configApply S settings random free written).random =
      (p.applyPort S settings.localPort random free).1.random := by
  have port : (p.applyPort S settings.localPort random free).1.keyFile = p.keyFile := by
    unfold applyPort
    split <;> rfl
  have bootstrap : ∀ (q : Program) (need : Bool) (host : String) (port : UInt16),
      (q.applyBootstrap need host port).keyFile = q.keyFile ∧
      (q.applyBootstrap need host port).client = q.client ∧
      (q.applyBootstrap need host port).random = q.random := by
    intro q need host port
    unfold applyBootstrap
    split <;> exact ⟨rfl, rfl, rfl⟩
  unfold configApply
  dsimp only
  obtain ⟨file, client, random⟩ := bootstrap (p.applyPort S settings.localPort random free).1
    (p.applyPort S settings.localPort random free).2 settings.bootstrapHost settings.bootstrapPort
  split <;> exact ⟨file.trans port, client, random⟩

/-- A new client has the key of the one before it. -/
lemma Rooted.applyPort (R : Rooted S w p) (localPort : UInt16) (random : Nat → DhtKey)
    (free : Bool) : Rooted S w (p.applyPort S localPort random free).1 ∧
      (p.applyPort S localPort random free).1.client.privkey = p.client.privkey := by
  unfold Program.applyPort
  split
  · exact ⟨⟨⟨p.client.privkey, [(⟨0, 0, false⟩, .setListen p.client.listen)], rfl⟩, R.key⟩, rfl⟩
  · exact ⟨R, rfl⟩

/-- A name that is resolved is an event of the client. -/
lemma Rooted.resolverFinish (R : Rooted S w p) (host : String) (port : UInt16)
    (address : Option GSocketAddress) : Rooted S w (p.resolverFinish host port address) ∧
      (p.resolverFinish host port address).keyFile = p.keyFile ∧
      (p.resolverFinish host port address).client.privkey = p.client.privkey := by
  unfold Program.resolverFinish
  split
  · cases address with
    | some address =>
      obtain ⟨R', same⟩ := R.event ⟨0, 0, false⟩ (.bootstrap address) rfl
      exact ⟨⟨R'.client, R'.key⟩, rfl, same⟩
    | none => exact ⟨⟨R.client, R.key⟩, rfl, rfl⟩
  · exact ⟨R, rfl, rfl⟩

/-- What an event keeps: the client is rooted, and a key in the file is that of the client after it. -/
lemma Rooted.step (R : Rooted S w p) (e : Event) :
    Rooted S w (p.step S w e) ∧
    ∀ bytes, p.Keeps bytes → (p.step S w e).Keeps bytes ∧
      (p.step S w e).client.privkey = p.client.privkey := by
  cases e with
  | start s =>
    refine ⟨start_rooted s p.keyFile p.configFile, fun bytes kept => ?_⟩
    obtain ⟨file, length⟩ := kept
    have same : (loadKey s p.keyFile) = (DhtKey.ofBytes bytes, some bytes) := by
      rw [file, loadKey_keeps s length]
    obtain ⟨events, client⟩ := start_client (S := S) (w := w) s p.keyFile p.configFile
    refine ⟨⟨congrArg Prod.snd same, length⟩, ?_⟩
    show (start S s p.keyFile p.configFile).client.privkey = _
    rw [client, run_privkey, same, R.key bytes ⟨file, length⟩]
  | apply settings random free written =>
    show Rooted S w (p.configApply S settings random free written) ∧ ∀ bytes, p.Keeps bytes →
      (p.configApply S settings random free written).Keeps bytes ∧
      (p.configApply S settings random free written).client.privkey = p.client.privkey
    obtain ⟨file, client, random'⟩ := configApply_same (S := S) (p := p) settings random free written
    obtain ⟨R', same⟩ := R.applyPort settings.localPort random free
    refine ⟨⟨?_, fun bytes kept => ?_⟩, fun bytes kept => ⟨⟨file.trans kept.1, kept.2⟩, ?_⟩⟩
    · rw [client, random']
      exact R'.client
    · rw [client, same]
      exact R.key bytes ⟨file ▸ kept.1, kept.2⟩
    · rw [client, same]
  | resolved host port address =>
    obtain ⟨R', file, same⟩ := R.resolverFinish host port address
    exact ⟨R', fun bytes kept => ⟨⟨file.trans kept.1, kept.2⟩, same⟩⟩
  | client env e =>
    obtain ⟨R', same⟩ := R.event env e rfl
    exact ⟨R', fun bytes kept => ⟨kept, same⟩⟩

/-- Every state of a run is rooted. -/
lemma rooted_run (keyFile : Option (List UInt8)) (configFile : Option ConfigFile) (first : Start)
    (events : List Event) : Rooted S w (run S w keyFile configFile first events) := by
  induction events using List.reverseRecOn with
  | nil => exact start_rooted first keyFile configFile
  | append_singleton events e ih =>
    rw [run, List.foldl_append]
    exact (ih.step e).1

/-- Once a key is in the file, the program keeps the file and its id, in whatever order it is started,
    its settings are applied and its client works, and whatever else cannot be written or bound. -/
theorem identity_run (S : Sodium) (w : WordSize) (keyFile : Option (List UInt8))
    (configFile : Option ConfigFile) (first : Start) (events rest : List Event) (bytes : List UInt8)
    (kept : (run S w keyFile configFile first events).Keeps bytes) :
    (run S w keyFile configFile first (events ++ rest)).Keeps bytes ∧
    (run S w keyFile configFile first (events ++ rest)).client.id =
      (run S w keyFile configFile first events).client.id ∧
    (run S w keyFile configFile first (events ++ rest)).client.id =
      DhtId.fromPubkey S (DhtKey.makePublic S (DhtKey.ofBytes bytes)) := by
  have later : (run S w keyFile configFile first (events ++ rest)).Keeps bytes ∧
      (run S w keyFile configFile first (events ++ rest)).client.privkey =
        (run S w keyFile configFile first events).client.privkey := by
    induction rest using List.reverseRecOn with
    | nil => exact ⟨(List.append_nil events).symm ▸ kept, by rw [List.append_nil]⟩
    | append_singleton rest e ih =>
      rw [← List.append_assoc, run, List.foldl_append]
      obtain ⟨file, same⟩ := ((rooted_run keyFile configFile first (events ++ rest)).step e).2
        bytes ih.1
      exact ⟨file, same.trans ih.2⟩
  have here := rooted_run (S := S) (w := w) keyFile configFile first events
  have there := rooted_run (S := S) (w := w) keyFile configFile first (events ++ rest)
  refine ⟨later.1, ?_, ?_⟩
  · rw [there.id, here.id, later.2]
  · rw [there.id, there.key bytes later.1]
    rfl

/-- A start without files that draws this key and can write and bind. -/
def freshStart (key : DhtKey) : Start := ⟨key, fun _ => key, true, true, true, none⟩

/-- The second start draws another key and does not use it. -/
theorem identity_run_restarted :
    let one : DhtKey := ⟨fun i => if i.val = 0 then 1 else 0⟩
    let two : DhtKey := ⟨fun i => if i.val = 0 then 2 else 0⟩
    (run Sodium.transparent .w64 none none (freshStart one) [.start (freshStart two)]).client.id =
      (run Sodium.transparent .w64 none none (freshStart one) []).client.id := by
  intro one two
  exact (identity_run Sodium.transparent .w64 none none (freshStart one) [] [.start (freshStart two)]
    one.data.toList ⟨rfl, Bytes.toList_length _⟩).2.1

/-! ## The settings -/

/-- A start brings the settings back that the program has. -/
def Restores (p : Program) : Prop := (KeyFile.load p.configFile).1.withMedia = p.config

/-- Other settings are applied, and cannot be written. -/
def Loses (S : Sodium) (p : Program) : Event → Prop
  | .apply settings random free false =>
    (p.configApply S settings random free false).config ≠ p.config
  | _ => False

/-- A start brings back what it has read or written. -/
lemma start_restores (s : Start) (keyFile : Option (List UInt8)) (configFile : Option ConfigFile) :
    (start S s keyFile configFile).Restores := by
  show (KeyFile.load (if (KeyFile.load configFile).2 = true ∧ s.configWritten = true then
    some ⟨(KeyFile.load configFile).1, true⟩ else configFile)).1.withMedia =
      (KeyFile.load configFile).1.withMedia
  split <;> rfl

/-- Settings that are written are brought back. -/
lemma configApply_written (settings : Settings) (random : Nat → DhtKey) (free : Bool) :
    (p.configApply S settings random free true).Restores := if_pos rfl

/-- Settings that are not written leave the file. -/
lemma configApply_unwritten (settings : Settings) (random : Nat → DhtKey) (free : Bool) :
    (p.configApply S settings random free false).configFile = p.configFile := by
  have port : (p.applyPort S settings.localPort random free).1.configFile = p.configFile := by
    unfold applyPort
    split <;> rfl
  show (Program.applyBootstrap _ _ _ _).configFile = _
  unfold applyBootstrap
  split <;> exact port

/-- A name that is resolved leaves the configuration. -/
lemma resolverFinish_config (host : String) (port : UInt16) (address : Option GSocketAddress) :
    (p.resolverFinish host port address).configFile = p.configFile ∧
    (p.resolverFinish host port address).config = p.config := by
  unfold resolverFinish
  split
  · cases address <;> exact ⟨rfl, rfl⟩
  · exact ⟨rfl, rfl⟩

/-- What an event keeps, unless it loses settings. -/
lemma Restores.step (R : p.Restores) (e : Event) (kept : ¬ p.Loses S e) :
    (p.step S w e).Restores := by
  cases e with
  | start s => exact start_restores s p.keyFile p.configFile
  | apply settings random free written =>
    cases written with
    | true => exact configApply_written settings random free
    | false =>
      show (KeyFile.load (p.configApply S settings random free false).configFile).1.withMedia =
        (p.configApply S settings random free false).config
      rw [configApply_unwritten, not_not.mp kept]
      exact R
  | resolved host port address =>
    obtain ⟨file, config⟩ := resolverFinish_config (p := p) host port address
    show (KeyFile.load (p.resolverFinish host port address).configFile).1.withMedia = _
    rw [file, R]
    exact config.symm
  | client env e => exact R

/-- Settings that are lost are not brought back. -/
lemma Restores.kept (R : p.Restores) {e : Event} (R' : (p.step S w e).Restores) : ¬ p.Loses S e := by
  intro loses
  cases e with
  | apply settings random free written =>
    cases written with
    | true => exact loses
    | false =>
      have restored : (KeyFile.load (p.configApply S settings random free false).configFile).1.withMedia =
          (p.configApply S settings random free false).config := R'
      rw [configApply_unwritten] at restored
      exact loses (restored.symm.trans R)
  | start s => exact loses
  | resolved host port address => exact loses
  | client env e => exact loses

/-- In every state of a run, a start of the program would bring back the settings that it has, if and
    only if no other settings are applied that cannot be written. -/
theorem settings_iff (S : Sodium) (w : WordSize) (keyFile : Option (List UInt8))
    (configFile : Option ConfigFile) (first : Start) (events : List Event) :
    (∀ earlier, earlier <+: events → (run S w keyFile configFile first earlier).Restores) ↔
      Runs.Throughout (step S w) (fun p e => ¬ p.Loses S e) (start S first keyFile configFile)
        events :=
  Runs.invariant_iff (R := fun _ _ => True) (fun _ R => R) (fun _ e R _ kept => R.step e kept)
    (fun _ _ R R' => R.kept R') (start_restores first keyFile configFile)
    (Runs.Throughout.of_forall events fun _ _ => trivial)

/-! ## The port -/

/-- What the socket is bound to. -/
structure Bound (p : Program) : Prop where
  /-- a port that was asked for is the one that is configured -/
  port : ∀ port, p.bound = .port port → port ≠ 0 ∧ KeyFile.getPort p.config.localPort = port
  /-- the kernel chooses a port for port 0, and for a socket that was not bound when it sent -/
  chosen : p.bound = .chosen → KeyFile.getPort p.config.localPort = 0 ∨ p.client.hasSent = true
  /-- a socket that is not bound has sent nothing -/
  silent : p.bound = .none → p.client.hasSent = false

/-- A port is read back. -/
lemma getPort_toNat (port : UInt16) : KeyFile.getPort (some port.toNat) = port := by
  have lt := port.toNat_lt
  have small : ((port.toNat : Int) % 2 ^ 16).toNat = port.toNat := by omega
  show UInt16.ofNat ((port.toNat : Int) % 2 ^ 16).toNat = port
  rw [small]
  exact UInt16.ofNat_toNat

/-- The media settings leave the port as it is. -/
lemma withMedia_port (config : KeyFile) : config.withMedia.localPort = config.localPort := by
  unfold KeyFile.withMedia
  split <;> rfl

/-- A socket is bound to the port that is configured, or could not be. -/
lemma bound_bind {port : UInt16} {succeeds : Bool} (bound : p.bound = .bind port succeeds)
    (configured : KeyFile.getPort p.config.localPort = port) (silent : p.client.hasSent = false) :
    p.Bound := by
  refine ⟨fun port' here => ?_, fun here => ?_, fun _ => silent⟩
  · rw [bound, BoundTo.bind] at here
    split at here
    · split at here
      · cases here
      · rename_i ne
        obtain rfl := BoundTo.port.inj here
        exact ⟨ne, configured⟩
    · cases here
  · rw [bound, BoundTo.bind] at here
    split at here
    · split at here
      · rename_i zero
        exact .inl (configured.trans zero)
      · cases here
    · cases here

/-- The client does something, and has sent what it had sent before. -/
lemma Bound.withClient (B : p.Bound) {client : DhtClient}
    (later : p.client.hasSent = true → client.hasSent = true) : (p.withClient client).Bound := by
  unfold Program.withClient
  split
  · rename_i sends
    exact ⟨nofun, fun _ => .inr sends.2, nofun⟩
  · rename_i still
    refine ⟨B.port, fun here => (B.chosen here).imp_right later, fun here => ?_⟩
    exact Bool.eq_false_iff.mpr fun sent => still ⟨here, sent⟩

/-- What a client has sent stays sent. -/
lemma hasSent_frame {α : Type} {view : DhtClient → α} {kind : Action → Bool} {c c' : DhtClient}
    (F : DhtClient.Frame view kind c c') (sent : c.hasSent = true) : c'.hasSent = true := by
  obtain ⟨added, log, -⟩ := F.log
  rw [DhtClient.hasSent, log, List.any_append, ← DhtClient.hasSent, sent, Bool.or_true]

/-- A start binds the socket to the port that it reads, before it sends anything. -/
lemma start_bound (s : Start) (keyFile : Option (List UInt8)) (configFile : Option ConfigFile) :
    (start S s keyFile configFile).Bound := by
  have first : Program.Bound
      { keyFile := (loadKey s keyFile).2
        configFile := if (KeyFile.load configFile).2 ∧ s.configWritten then
            some ⟨(KeyFile.load configFile).1, true⟩ else configFile
        config := (KeyFile.load configFile).1.withMedia
        client := DhtClient.new S (loadKey s keyFile).1
        random := s.random
        bound := .bind (KeyFile.getPort (KeyFile.load configFile).1.localPort) s.free
        resolving := [] } :=
    bound_bind rfl (congrArg KeyFile.getPort (withMedia_port _)) rfl
  have later : Program.Bound _ := first.withClient
    (fun sent => (Bool.false_ne_true sent).elim :
      _ → (bootstrap s (KeyFile.load configFile).1 (DhtClient.new S (loadKey s keyFile).1)).hasSent = true)
  obtain ⟨port, chosen, silent⟩ := later
  exact ⟨port, chosen, silent⟩

/-- What the rest of `config_apply` leaves of the port. -/
lemma configApply_port (settings : Settings) (random : Nat → DhtKey) (free written : Bool) :
    (p.configApply S settings random free written).bound =
      (p.applyPort S settings.localPort random free).1.bound ∧
    (p.configApply S settings random free written).config.localPort =
      (p.applyPort S settings.localPort random free).1.config.localPort := by
  have bootstrap : ∀ (q : Program) (need : Bool) (host : String) (port : UInt16),
      (q.applyBootstrap need host port).bound = q.bound ∧
      (q.applyBootstrap need host port).config.localPort = q.config.localPort := by
    intro q need host port
    unfold applyBootstrap
    split <;> exact ⟨rfl, rfl⟩
  unfold configApply
  dsimp only
  split <;> exact bootstrap _ _ _ _

/-- A port that is applied is the one of a new client. -/
lemma Bound.applyPort (B : p.Bound) (localPort : UInt16) (random : Nat → DhtKey) (free : Bool) :
    (p.applyPort S localPort random free).1.Bound := by
  unfold Program.applyPort
  split
  · exact bound_bind (rfl : BoundTo.bind localPort true = _) (getPort_toNat localPort) rfl
  · exact B

/-- A program with the binding, the port and the client of another one. -/
lemma Bound.same {q : Program} (B : p.Bound) (bound : q.bound = p.bound)
    (port : q.config.localPort = p.config.localPort) (client : q.client = p.client) : q.Bound := by
  refine ⟨fun port' here => ?_, fun here => ?_, fun here => ?_⟩
  · rw [port]
    exact B.port port' (bound ▸ here)
  · rw [port, client]
    exact B.chosen (bound ▸ here)
  · rw [client]
    exact B.silent (bound ▸ here)

/-- What a name leads to is sent from the socket. -/
lemma Bound.resolverFinish (B : p.Bound) (host : String) (port : UInt16)
    (address : Option GSocketAddress) : (p.resolverFinish host port address).Bound := by
  unfold Program.resolverFinish
  split
  · have B' : ({ p with resolving := p.resolving.erase (host, port) } : Program).Bound :=
      B.same rfl rfl rfl
    cases address with
    | some address =>
      exact B'.withClient (hasSent_frame (DhtClient.bootstrap_mute p.random address))
    | none => exact B'
  · exact B

/-- What an event keeps. -/
lemma Bound.step (B : p.Bound) (e : Event) : (p.step S w e).Bound := by
  cases e with
  | start s => exact start_bound s p.keyFile p.configFile
  | apply settings random free written =>
    obtain ⟨-, client, -⟩ := configApply_same (S := S) (p := p) settings random free written
    obtain ⟨bound, port⟩ := configApply_port (S := S) (p := p) settings random free written
    exact (B.applyPort settings.localPort random free).same bound port client
  | resolved host port address => exact B.resolverFinish host port address
  | client env e => exact B.withClient (hasSent_frame (DhtClient.step_frame S w p.random env e))

/-- In every state of a run, the socket is bound to the port that is configured, or to one that the
    kernel has chosen, for port 0 or for what was sent. A port that is not free changes neither the
    client nor the port; one that is free is configured, and is that of a new client unless it was. -/
theorem bound_run (S : Sodium) (w : WordSize) (keyFile : Option (List UInt8))
    (configFile : Option ConfigFile) (first : Start) (events : List Event) :
    let p := run S w keyFile configFile first events
    p.Bound ∧
    (∀ settings random written,
      (p.configApply S settings random false written).client = p.client ∧
      (p.configApply S settings random false written).bound = p.bound ∧
      (p.configApply S settings random false written).config.localPort = p.config.localPort) ∧
    ∀ settings random written,
      KeyFile.getPort (p.configApply S settings random true written).config.localPort =
        settings.localPort ∧
      ((p.configApply S settings random true written).bound = .bind settings.localPort true ∧
        (p.configApply S settings random true written).client.hasSent = false ∨
        (p.configApply S settings random true written).client = p.client ∧
        (p.configApply S settings random true written).bound = p.bound ∧
        p.config.localPort.getD 0 = settings.localPort.toNat) := by
  intro p
  have bound : p.Bound := by
    show (run S w keyFile configFile first events).Bound
    induction events using List.reverseRecOn with
    | nil => exact start_bound first keyFile configFile
    | append_singleton events e ih =>
      rw [run, List.foldl_append]
      exact ih.step e
  refine ⟨bound, fun settings random written => ?_, fun settings random written => ?_⟩
  · have same : p.applyPort S settings.localPort random false = (p, false) :=
      if_neg fun changes => Bool.false_ne_true changes.2
    obtain ⟨-, client, -⟩ := configApply_same (S := S) (p := p) settings random false written
    obtain ⟨port, config⟩ := configApply_port (S := S) (p := p) settings random false written
    rw [same] at client port config
    exact ⟨client, port, config⟩
  · obtain ⟨-, client, -⟩ := configApply_same (S := S) (p := p) settings random true written
    obtain ⟨port, config⟩ := configApply_port (S := S) (p := p) settings random true written
    rw [client, port, config]
    unfold applyPort
    split
    · exact ⟨getPort_toNat settings.localPort, .inl ⟨rfl, rfl⟩⟩
    · rename_i same
      have shown : p.config.localPort.getD 0 = settings.localPort.toNat := by
        by_contra differ
        exact same ⟨Ne.symm differ, rfl⟩
      refine ⟨?_, .inr ⟨rfl, rfl, shown⟩⟩
      show UInt16.ofInt (p.config.localPort.getD 0) = settings.localPort
      rw [shown]
      exact getPort_toNat settings.localPort

/-- The port is taken when the program starts. When it bootstraps, the kernel chooses another one. -/
example :
    let key : DhtKey := ⟨fun i => if i.val = 0 then 1 else 0⟩
    let file : ConfigFile := ⟨{ KeyFile.new.withNetwork with bootstrapHost := some "host" }, true⟩
    (start Sodium.transparent { freshStart key with free := false } none (some file)).bound = .none ∧
    (start Sodium.transparent { freshStart key with free := false, resolved := some (.ipv4 fun _ => 7) }
      none (some file)).bound = .chosen := by
  decide +kernel

end Program

end Nanotalk
