import X0xCompute.Daemon
import X0xCompute.Mesh.Announce

/-!
# Starting a daemon

`build_agent`, `ComputeDaemon::from_config` and `ComputeDaemon::run`, as `Command::Start` calls
them. Everything they ask of the system and of the x0x agent is kept, in the order it is asked;
what is answered is a parameter.
-/

namespace X0xCompute

open Lib

/-- `x0x::AgentBuilder`: the paths it was given. -/
structure AgentBuilder where
  machineKey : Option PathBuf
  agentKeyPath : Option PathBuf
  userKeyPath : Option PathBuf
  contactStorePath : Option PathBuf
  deriving DecidableEq

namespace AgentBuilder

/-- `x0x::Agent::builder`. -/
def new : AgentBuilder := ⟨none, none, none, none⟩

def withMachineKey (self : AgentBuilder) (path : PathBuf) : AgentBuilder :=
  { self with machineKey := some path }

def withAgentKeyPath (self : AgentBuilder) (path : PathBuf) : AgentBuilder :=
  { self with agentKeyPath := some path }

def withUserKeyPath (self : AgentBuilder) (path : PathBuf) : AgentBuilder :=
  { self with userKeyPath := some path }

def withContactStorePath (self : AgentBuilder) (path : PathBuf) : AgentBuilder :=
  { self with contactStorePath := some path }

/-- The builder of `build_agent`, before it builds. -/
def ofConfig (config : ComputeConfig) : AgentBuilder := Id.run do
  let mut builder := new
  if let some path := config.x0x.machineKeyPath then
    builder := builder.withMachineKey path
  if let some path := config.x0x.agentKeyPath then
    builder := builder.withAgentKeyPath path
  if let some path := config.x0x.userKeyPath then
    builder := builder.withUserKeyPath path
  if let some path := config.x0x.contactStorePath then
    builder := builder.withContactStorePath path
  return builder

/-- Every path of the configuration reaches the builder, each under its own name. -/
theorem ofConfig_eq (config : ComputeConfig) :
    ofConfig config =
      { machineKey := config.x0x.machineKeyPath
        agentKeyPath := config.x0x.agentKeyPath
        userKeyPath := config.x0x.userKeyPath
        contactStorePath := config.x0x.contactStorePath } := by
  unfold ofConfig
  cases config.x0x.machineKeyPath <;> cases config.x0x.agentKeyPath <;>
    cases config.x0x.userKeyPath <;> cases config.x0x.contactStorePath <;> rfl

end AgentBuilder

/-- What a starting daemon asks of the system and of its agent. -/
inductive StartupEffect where
  | createDirAll (path : PathBuf)
  | buildAgent (builder : AgentBuilder)
  | joinNetwork
  | subscribe (topic : String)
  | publish (publication : Publication)
  | bind (addr : SocketAddr)
  | serve (state : AppState)

/-- What is answered, with the texts of the errors, and what the hardware and the clock say
when the daemon is built and when it announces itself. -/
structure Surroundings where
  createDirAll : PathBuf → Except String Unit
  buildAgent : AgentBuilder → Except String Agent
  joinNetwork : Except String Unit
  subscribe : String → Except String Unit
  publish : Publication → Except String Unit
  bind : SocketAddr → Except String Unit
  serve : AppState → Except String Unit
  system : SystemReport
  startedAt : U64
  announcedSystem : SystemReport
  announcedAt : U64

/-- A part of the start: it keeps what was asked, and an error ends it. -/
abbrev Startup := EStateM ComputeError (List StartupEffect)

/-- Something is asked, and an error of the answer becomes one of the crate. -/
def Startup.ask {α : Type} (effect : StartupEffect) (toError : String → ComputeError)
    (answer : Except String α) : Startup α := do
  modify (· ++ [effect])
  match answer with
  | .ok value => return value
  | .error text => throw (toError text)

section

open Startup

variable (around : Surroundings)

/-- `build_agent`. -/
def buildAgent (config : ComputeConfig) : Startup Agent := do
  let builder := AgentBuilder.ofConfig config
  let agent ← ask (.buildAgent builder) .x0xIdentity (around.buildAgent builder)
  if config.requireUserId && agent.userId.isNone then
    throw .userIdentityRequired
  return agent

/-- Running x0x-compute daemon. -/
structure ComputeDaemon where
  config : ComputeConfig
  agent : Agent
  identity : AgentIdentitySnapshot
  capability : CapabilityAnnouncement
  peers : TrustedPeerRegistry
  runtime : SkeletonRuntimeAdapter

namespace ComputeDaemon

/-- The daemon of an agent. -/
def ofAgent (hex : HexCrate) (config : ComputeConfig) (agent : Agent) : ComputeDaemon where
  config := config
  agent := agent
  identity := .fromAgent hex agent
  capability := .local config (.fromAgent hex agent) around.system around.startedAt
  peers := .new
  runtime := buildRuntime config

/-- `ComputeDaemon::from_config`. -/
def fromConfig (hex : HexCrate) (config : ComputeConfig) : Startup ComputeDaemon := do
  ask (.createDirAll config.dataDir) .io (around.createDirAll config.dataDir)
  let agent ← buildAgent around config
  return ofAgent around hex config agent

/-- `announce_local_capability`, called by the daemon. -/
def announce (json : SerdeJson CapabilityAnnouncement) (self : ComputeDaemon) :
    Startup CapabilityAnnouncement := do
  let answer := announceLocalCapability json around.publish self.config self.identity
    around.announcedSystem around.announcedAt
  modify (· ++ answer.1.toList.map .publish)
  match answer.2 with
  | .ok capability => return capability
  | .error error => throw error

/-- `start_capability_subscription_loop`, up to the loop that it spawns. -/
def startCapabilitySubscriptionLoop (self : ComputeDaemon) : Startup Unit :=
  ask (.subscribe self.config.capabilityTopic) .x0xIdentity
    (around.subscribe self.config.capabilityTopic)

/-- What `ComputeDaemon::run` does for its subscription. -/
def openSubscription (json : SerdeJson CapabilityAnnouncement) (self : ComputeDaemon) :
    Startup Unit := do
  if self.config.joinNetworkOnStart then
    ask .joinNetwork .x0xIdentity around.joinNetwork
    self.startCapabilitySubscriptionLoop around
    if self.config.announceOnStart then
      let _ ← self.announce around json

/-- What the handlers of a daemon share at first. -/
def state (self : ComputeDaemon) : AppState where
  config := self.config
  identity := self.identity
  capability := self.capability
  peers := self.peers
  runtime := self.runtime
  runtimeState := .new

/-- `ComputeDaemon::run`. -/
def run (json : SerdeJson CapabilityAnnouncement) (self : ComputeDaemon) : Startup Unit := do
  self.openSubscription around json
  ask (.bind self.config.apiBind) .io (around.bind self.config.apiBind)
  ask (.serve self.state) .io (around.serve self.state)

/-- `Command::Start`, once the configuration is loaded. -/
def start (hex : HexCrate) (json : SerdeJson CapabilityAnnouncement) (config : ComputeConfig) :
    Startup Unit := do
  let daemon ← fromConfig around hex config
  daemon.run around json

end ComputeDaemon

end

/-- What has been asked when a part of the start is over. -/
@[simp] def Startup.effectsOf {α : Type} :
    EStateM.Result ComputeError (List StartupEffect) α → List StartupEffect
  | .ok _ effects | .error _ effects => effects

/-- The error that ended it. -/
@[simp] def Startup.failureOf {α : Type} :
    EStateM.Result ComputeError (List StartupEffect) α → Option ComputeError
  | .ok _ _ => none
  | .error e _ => some e

def Startup.effects {α : Type} (program : Startup α) : List StartupEffect :=
  effectsOf (program.run [])

def Startup.failure {α : Type} (program : Startup α) : Option ComputeError :=
  failureOf (program.run [])

/-! ## What a start can do -/

variable {around : Surroundings} {hex : HexCrate} {json : SerdeJson CapabilityAnnouncement}

theorem Startup.run_ask_ok {α : Type} (effect : StartupEffect)
    (toError : String → ComputeError) (value : α) (done : List StartupEffect) :
    (ask effect toError (.ok value)).run done = .ok value (done ++ [effect]) := rfl

theorem Startup.run_ask_error {α : Type} (effect : StartupEffect)
    (toError : String → ComputeError) (text : String) (done : List StartupEffect) :
    (ask effect toError (.error text : Except String α)).run done =
      .error (toError text) (done ++ [effect]) := rfl

/-- Everything that building an agent can come to. -/
inductive BuildOutcome (around : Surroundings) (config : ComputeConfig)
    (done : List StartupEffect) :
    EStateM.Result ComputeError (List StartupEffect) Agent → Prop where
  | notBuilt {text : String}
      (h : around.buildAgent (.ofConfig config) = .error text) :
      BuildOutcome around config done
        (.error (.x0xIdentity text) (done ++ [.buildAgent (.ofConfig config)]))
  | noUser {agent : Agent} (h : around.buildAgent (.ofConfig config) = .ok agent)
      (hrequired : config.requireUserId = true) (huser : agent.userId = none) :
      BuildOutcome around config done
        (.error .userIdentityRequired (done ++ [.buildAgent (.ofConfig config)]))
  | built {agent : Agent} (h : around.buildAgent (.ofConfig config) = .ok agent)
      (huser : config.requireUserId = true → agent.userId ≠ none) :
      BuildOutcome around config done (.ok agent (done ++ [.buildAgent (.ofConfig config)]))

theorem buildAgent_outcome (around : Surroundings) (config : ComputeConfig)
    (done : List StartupEffect) :
    BuildOutcome around config done ((buildAgent around config).run done) := by
  unfold buildAgent
  simp only [EStateM.run_bind]
  cases h : around.buildAgent (.ofConfig config) with
  | error text =>
    rw [Startup.run_ask_error]
    exact .notBuilt h
  | ok agent =>
    rw [Startup.run_ask_ok]
    by_cases hfails : config.requireUserId = true ∧ agent.userId = none
    · have hguard : (config.requireUserId && agent.userId.isNone) = true := by simp [hfails]
      simp only [hguard, if_true]
      exact .noUser h hfails.1 hfails.2
    · have hguard : (config.requireUserId && agent.userId.isNone) = false := by
        cases hrequired : config.requireUserId with
        | false => rfl
        | true =>
          cases huser : agent.userId with
          | none => exact absurd ⟨hrequired, huser⟩ hfails
          | some userId => rfl
      simp only [hguard]
      exact .built h (fun hrequired huser => hfails ⟨hrequired, huser⟩)

namespace ComputeDaemon

/-- What has been asked once the daemon has subscribed. -/
def subscribing (config : ComputeConfig) : List StartupEffect :=
  [.joinNetwork, .subscribe config.capabilityTopic]

/-- Everything that opening the subscription can come to. -/
inductive SubscriptionOutcome (around : Surroundings) (json : SerdeJson CapabilityAnnouncement)
    (self : ComputeDaemon) (done : List StartupEffect) :
    EStateM.Result ComputeError (List StartupEffect) Unit → Prop where
  | apart (hjoin : self.config.joinNetworkOnStart = false) :
      SubscriptionOutcome around json self done (.ok () done)
  | notJoined (hjoin : self.config.joinNetworkOnStart = true) {text : String}
      (h : around.joinNetwork = .error text) :
      SubscriptionOutcome around json self done
        (.error (.x0xIdentity text) (done ++ [.joinNetwork]))
  | notSubscribed (hjoin : self.config.joinNetworkOnStart = true)
      (hjoined : around.joinNetwork = .ok ()) {text : String}
      (h : around.subscribe self.config.capabilityTopic = .error text) :
      SubscriptionOutcome around json self done
        (.error (.x0xIdentity text) (done ++ subscribing self.config))
  | quiet (hjoin : self.config.joinNetworkOnStart = true)
      (hjoined : around.joinNetwork = .ok ())
      (hsubscribed : around.subscribe self.config.capabilityTopic = .ok ())
      (h : self.config.announceOnStart = false) :
      SubscriptionOutcome around json self done (.ok () (done ++ subscribing self.config))
  | notAnnounced (hjoin : self.config.joinNetworkOnStart = true)
      (hjoined : around.joinNetwork = .ok ())
      (hsubscribed : around.subscribe self.config.capabilityTopic = .ok ())
      (hannounce : self.config.announceOnStart = true) {published : Option Publication}
      {e : ComputeError}
      (h : announceLocalCapability json around.publish self.config self.identity
        around.announcedSystem around.announcedAt = (published, .error e)) :
      SubscriptionOutcome around json self done
        (.error e (done ++ subscribing self.config ++ published.toList.map .publish))
  | announced (hjoin : self.config.joinNetworkOnStart = true)
      (hjoined : around.joinNetwork = .ok ())
      (hsubscribed : around.subscribe self.config.capabilityTopic = .ok ())
      (hannounce : self.config.announceOnStart = true) {published : Option Publication}
      {capability : CapabilityAnnouncement}
      (h : announceLocalCapability json around.publish self.config self.identity
        around.announcedSystem around.announcedAt = (published, .ok capability)) :
      SubscriptionOutcome around json self done
        (.ok () (done ++ subscribing self.config ++ published.toList.map .publish))

theorem openSubscription_outcome (around : Surroundings)
    (json : SerdeJson CapabilityAnnouncement) (self : ComputeDaemon)
    (done : List StartupEffect) :
    SubscriptionOutcome around json self done ((self.openSubscription around json).run done) := by
  unfold openSubscription startCapabilitySubscriptionLoop
  cases hjoin : self.config.joinNetworkOnStart with
  | false => exact .apart hjoin
  | true =>
    simp only [if_true, EStateM.run_bind]
    cases hjoined : around.joinNetwork with
    | error text =>
      rw [Startup.run_ask_error]
      exact .notJoined hjoin hjoined
    | ok u =>
      rw [Startup.run_ask_ok]
      cases hsubscribed : around.subscribe self.config.capabilityTopic with
      | error text =>
        simp only [Startup.run_ask_error, List.append_assoc]
        exact .notSubscribed hjoin hjoined hsubscribed
      | ok u =>
        simp only [Startup.run_ask_ok, List.append_assoc]
        cases hannounce : self.config.announceOnStart with
        | false => exact .quiet hjoin hjoined hsubscribed hannounce
        | true =>
          simp only [if_true, EStateM.run_bind, announce]
          obtain ⟨⟨published, result⟩, hresult⟩ : ∃ answer,
              announceLocalCapability json around.publish self.config self.identity
                around.announcedSystem around.announcedAt = answer := ⟨_, rfl⟩
          rw [hresult]
          cases result with
          | ok capability => exact .announced hjoin hjoined hsubscribed hannounce hresult
          | error e => exact .notAnnounced hjoin hjoined hsubscribed hannounce hresult

/-- Nothing is served before the subscription is open. -/
theorem SubscriptionOutcome.serve_mem_iff {self : ComputeDaemon} {done : List StartupEffect}
    {result : EStateM.Result ComputeError (List StartupEffect) Unit}
    (h : SubscriptionOutcome around json self done result) (state : AppState) :
    .serve state ∈ Startup.effectsOf result ↔ .serve state ∈ done := by
  cases h <;> simp [subscribing]

theorem state_ofAgent (around : Surroundings) (hex : HexCrate) (config : ComputeConfig)
    (agent : Agent) :
    (ofAgent around hex config agent).state =
      .new hex config agent around.system around.startedAt := rfl

/-- The agent that a daemon is built with. -/
structure Built (around : Surroundings) (config : ComputeConfig) (agent : Agent) : Prop where
  directory : around.createDirAll config.dataDir = .ok ()
  answered : around.buildAgent (.ofConfig config) = .ok agent
  user : config.requireUserId = true → agent.userId ≠ none

/-- What has been asked once the daemon is built. -/
def building (config : ComputeConfig) : List StartupEffect :=
  [.createDirAll config.dataDir, .buildAgent (.ofConfig config)]

/-- Everything that building a daemon can come to. -/
inductive FromConfigOutcome (around : Surroundings) (hex : HexCrate) (config : ComputeConfig) :
    EStateM.Result ComputeError (List StartupEffect) ComputeDaemon → Prop where
  | noDirectory {text : String} (h : around.createDirAll config.dataDir = .error text) :
      FromConfigOutcome around hex config
        (.error (.io text) [.createDirAll config.dataDir])
  | noAgent (hdir : around.createDirAll config.dataDir = .ok ()) {e : ComputeError}
      (h : BuildOutcome around config [.createDirAll config.dataDir]
        (.error e (building config))) :
      FromConfigOutcome around hex config (.error e (building config))
  | built {agent : Agent} (h : Built around config agent) :
      FromConfigOutcome around hex config
        (.ok (ofAgent around hex config agent) (building config))

theorem fromConfig_outcome (around : Surroundings) (hex : HexCrate) (config : ComputeConfig) :
    FromConfigOutcome around hex config ((fromConfig around hex config).run []) := by
  unfold fromConfig
  simp only [EStateM.run_bind]
  cases hdir : around.createDirAll config.dataDir with
  | error text =>
    rw [Startup.run_ask_error]
    exact .noDirectory hdir
  | ok u =>
    rw [Startup.run_ask_ok]
    simp only [List.nil_append]
    have hbuild := buildAgent_outcome around config [.createDirAll config.dataDir]
    generalize (buildAgent around config).run [.createDirAll config.dataDir] = built at hbuild
    cases hbuild with
    | notBuilt h => exact .noAgent hdir (.notBuilt h)
    | noUser h hrequired huser => exact .noAgent hdir (.noUser h hrequired huser)
    | built h huser => exact .built ⟨hdir, h, huser⟩

/-- Everything that a start can come to. -/
inductive StartOutcome (around : Surroundings) (hex : HexCrate)
    (json : SerdeJson CapabilityAnnouncement) (config : ComputeConfig) :
    EStateM.Result ComputeError (List StartupEffect) Unit → Prop where
  | notBuilt {e : ComputeError} {effects : List StartupEffect}
      (h : FromConfigOutcome around hex config (.error e effects)) :
      StartOutcome around hex json config (.error e effects)
  | notOpen {agent : Agent} (hbuilt : Built around config agent) {e : ComputeError}
      {effects : List StartupEffect}
      (h : SubscriptionOutcome around json (ofAgent around hex config agent) (building config)
        (.error e effects)) :
      StartOutcome around hex json config (.error e effects)
  | notBound {agent : Agent} (hbuilt : Built around config agent) {opened : List StartupEffect}
      (hopen : SubscriptionOutcome around json (ofAgent around hex config agent)
        (building config) (.ok () opened)) {text : String}
      (h : around.bind config.apiBind = .error text) :
      StartOutcome around hex json config
        (.error (.io text) (opened ++ [.bind config.apiBind]))
  | failed {agent : Agent} (hbuilt : Built around config agent) {opened : List StartupEffect}
      (hopen : SubscriptionOutcome around json (ofAgent around hex config agent)
        (building config) (.ok () opened)) (hbound : around.bind config.apiBind = .ok ())
      {text : String}
      (h : around.serve (.new hex config agent around.system around.startedAt) = .error text) :
      StartOutcome around hex json config
        (.error (.io text) (opened ++ [.bind config.apiBind,
          .serve (.new hex config agent around.system around.startedAt)]))
  | shutDown {agent : Agent} (hbuilt : Built around config agent) {opened : List StartupEffect}
      (hopen : SubscriptionOutcome around json (ofAgent around hex config agent)
        (building config) (.ok () opened)) (hbound : around.bind config.apiBind = .ok ())
      (h : around.serve (.new hex config agent around.system around.startedAt) = .ok ()) :
      StartOutcome around hex json config
        (.ok () (opened ++ [.bind config.apiBind,
          .serve (.new hex config agent around.system around.startedAt)]))

theorem start_outcome (around : Surroundings) (hex : HexCrate)
    (json : SerdeJson CapabilityAnnouncement) (config : ComputeConfig) :
    StartOutcome around hex json config ((start around hex json config).run []) := by
  unfold start
  rw [EStateM.run_bind]
  have hbuild := fromConfig_outcome around hex config
  generalize hfrom : (fromConfig around hex config).run [] = result at hbuild
  cases hbuild with
  | noDirectory h => exact .notBuilt (.noDirectory h)
  | noAgent hdir h => exact .notBuilt (.noAgent hdir h)
  | @built agent h =>
    simp only [run, EStateM.run_bind]
    have hopen := openSubscription_outcome around json (ofAgent around hex config agent)
      (building config)
    cases hopened : ((ofAgent around hex config agent).openSubscription around json).run
        (building config) with
    | error e effects =>
      rw [hopened] at hopen
      exact .notOpen h hopen
    | ok u opened =>
      rw [hopened] at hopen
      have hconfig : (ofAgent around hex config agent).config = config := rfl
      simp only [hconfig, state_ofAgent]
      cases hbound : around.bind config.apiBind with
      | error text =>
        rw [Startup.run_ask_error]
        exact .notBound h hopen hbound
      | ok u =>
        rw [Startup.run_ask_ok]
        cases hserve : around.serve (.new hex config agent around.system around.startedAt) with
        | error text =>
          simp only [Startup.run_ask_error, List.append_assoc]
          exact .failed h hopen hbound hserve
        | ok u =>
          simp only [Startup.run_ask_ok, List.append_assoc]
          exact .shutDown h hopen hbound hserve

theorem serve_not_mem_building (config : ComputeConfig) (state : AppState) :
    .serve state ∉ building config := by
  simp [building]

theorem FromConfigOutcome.serve_not_mem {config : ComputeConfig}
    {result : EStateM.Result ComputeError (List StartupEffect) ComputeDaemon}
    (h : FromConfigOutcome around hex config result) (state : AppState) :
    .serve state ∉ Startup.effectsOf result := by
  cases h <;> simp [building]

/-- The state that a start hands to its server is the one of the agent that was built. -/
theorem StartOutcome.state_of_served {config : ComputeConfig}
    {result : EStateM.Result ComputeError (List StartupEffect) Unit}
    (houtcome : StartOutcome around hex json config result) {state : AppState}
    (h : .serve state ∈ Startup.effectsOf result) :
    ∃ agent, Built around config agent ∧
      state = .new hex config agent around.system around.startedAt := by
  have hnone := serve_not_mem_building config state
  cases houtcome with
  | notBuilt hfrom => exact absurd h (hfrom.serve_not_mem state)
  | notOpen hbuilt hopen => exact absurd ((hopen.serve_mem_iff state).mp h) hnone
  | notBound hbuilt hopen hbound =>
    rcases List.mem_append.mp h with hopened | hlast
    · exact absurd ((hopen.serve_mem_iff state).mp hopened) hnone
    · simp at hlast
  | failed hbuilt hopen hbound hserve =>
    rcases List.mem_append.mp h with hopened | hlast
    · exact absurd ((hopen.serve_mem_iff state).mp hopened) hnone
    · exact ⟨_, hbuilt, by simpa using hlast⟩
  | shutDown hbuilt hopen hbound hserve =>
    rcases List.mem_append.mp h with hopened | hlast
    · exact absurd ((hopen.serve_mem_iff state).mp hopened) hnone
    · exact ⟨_, hbuilt, by simpa using hlast⟩

end ComputeDaemon

end X0xCompute
