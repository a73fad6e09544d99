import X0xCompute.Daemon.Reservations
import X0xCompute.Startup

/-!
# The commands beside the daemon

The commands of `x0x-compute.rs` that build the agent of a configuration and print what it is.
Somebody who asks them wants to know what the daemon will say, so they are held against it.
-/

namespace X0xCompute

open Lib

section

variable (around : Surroundings) (hex : HexCrate) (config : ComputeConfig)

/-- `Command::Check`: the lines that are printed. -/
def Command.check : Startup (List String) := do
  let agent ← buildAgent around config
  let identity := AgentIdentitySnapshot.fromAgent hex agent
  return [
    "configuration: ok",
    "agent_id: " ++ identity.agentId,
    "machine_id: " ++ identity.machineId,
    "user_id: " ++ identity.userId.getD "<none>"]

/-- `Command::Identity`: what is printed as JSON. -/
def Command.identity : Startup AgentIdentitySnapshot := do
  let agent ← buildAgent around config
  return .fromAgent hex agent

/-- `Command::Capability`: what is printed as JSON. -/
def Command.capability : Startup CapabilityAnnouncement := do
  let agent ← buildAgent around config
  return .local config (.fromAgent hex agent) around.system around.startedAt

end

variable {around around' : Surroundings} {hex : HexCrate} {json : SerdeJson CapabilityAnnouncement}
  {config : ComputeConfig}

/-- A command that builds the agent and prints something of it. -/
def Startup.ofAgent {α : Type} (around : Surroundings) (config : ComputeConfig)
    (f : Agent → α) : Startup α := do
  let agent ← buildAgent around config
  return f agent

theorem Startup.ofAgent_run {α : Type} (f : Agent → α) (done : List StartupEffect) :
    (ofAgent around config f).run done =
      match (buildAgent around config).run done with
      | .ok agent effects => .ok (f agent) effects
      | .error e effects => .error e effects := by
  unfold ofAgent
  rw [EStateM.run_bind]
  cases (buildAgent around config).run done <;> rfl

/-- It asks for the agent and for nothing else. -/
theorem Startup.effects_ofAgent {α : Type} (f : Agent → α) :
    (ofAgent around config f).effects = [.buildAgent (.ofConfig config)] := by
  have h := buildAgent_outcome around config []
  unfold effects
  rw [ofAgent_run]
  generalize (buildAgent around config).run [] = result at h
  cases h <;> rfl

/-- Building fails or not whatever was asked before. -/
theorem failure_buildAgent
    (hagent : around'.buildAgent (.ofConfig config) = around.buildAgent (.ofConfig config))
    (done done' : List StartupEffect) :
    Startup.failureOf ((buildAgent around' config).run done') =
      Startup.failureOf ((buildAgent around config).run done) := by
  unfold buildAgent
  simp only [EStateM.run_bind, hagent]
  cases around.buildAgent (.ofConfig config) with
  | error text => rfl
  | ok agent =>
    simp only [Startup.run_ask_ok]
    cases config.requireUserId && agent.userId.isNone <;> rfl

/-- It fails as the daemon does, once that has its directory. -/
theorem Startup.failure_ofAgent {α : Type} (f : Agent → α)
    (hagent : around'.buildAgent (.ofConfig config) = around.buildAgent (.ofConfig config))
    (hdir : around'.createDirAll config.dataDir = .ok ()) :
    (ComputeDaemon.fromConfig around' hex config).failure =
      (ofAgent around config f).failure := by
  have h := failure_buildAgent hagent [] [.createDirAll config.dataDir]
  unfold failure ComputeDaemon.fromConfig
  rw [ofAgent_run]
  simp only [EStateM.run_bind, hdir, run_ask_ok, List.nil_append]
  cases hrun : (buildAgent around' config).run [.createDirAll config.dataDir] <;>
    cases hrun' : (buildAgent around config).run [] <;> rw [hrun, hrun'] at h <;> exact h

theorem ofAgent_run_of_built {α : Type} (f : Agent → α) {agent : Agent}
    (hagent : around'.buildAgent (.ofConfig config) = around.buildAgent (.ofConfig config))
    (hbuilt : ComputeDaemon.Built around' config agent) :
    (Startup.ofAgent around config f).run [] = .ok (f agent) [.buildAgent (.ofConfig config)] := by
  have h := buildAgent_outcome around config []
  rw [Startup.ofAgent_run]
  generalize (buildAgent around config).run [] = result at h
  have hanswered := hagent.symm.trans hbuilt.answered
  cases h with
  | notBuilt h => cases hanswered.symm.trans h
  | noUser h hrequired huser =>
    cases hanswered.symm.trans h
    exact absurd huser (hbuilt.user hrequired)
  | built h huser =>
    cases hanswered.symm.trans h
    rfl

/-- What the commands print is what the daemon says. A command asks for the agent and for
nothing else; it fails exactly as a daemon of the same configuration and agent does, once that
has its data directory; and whatever the daemon has taken since it serves, it answers
`GET /v1/identity` with the identity that was printed, and `GET /v1/capabilities/local` with
the capability that was printed but for the hardware and the time. -/
theorem commands_agree {ContactStore : Type} (http : HttpCrates) (mesh : MeshCrates ContactStore)
    (hagent : around'.buildAgent (.ofConfig config) = around.buildAgent (.ofConfig config)) :
    ((Command.check around mesh.hex config).effects = [.buildAgent (.ofConfig config)] ∧
      (Command.identity around mesh.hex config).effects = [.buildAgent (.ofConfig config)] ∧
      (Command.capability around mesh.hex config).effects = [.buildAgent (.ofConfig config)]) ∧
    (around'.createDirAll config.dataDir = .ok () → ∀ failure,
      (ComputeDaemon.fromConfig around' mesh.hex config).failure = failure →
      (Command.check around mesh.hex config).failure = failure ∧
      (Command.identity around mesh.hex config).failure = failure ∧
      (Command.capability around mesh.hex config).failure = failure) ∧
    ∀ state, .serve state ∈ (ComputeDaemon.start around' mesh.hex mesh.json config).effects →
      ∃ identity capability effects,
        (Command.check around mesh.hex config).run [] = .ok [
          "configuration: ok",
          "agent_id: " ++ identity.agentId,
          "machine_id: " ++ identity.machineId,
          "user_id: " ++ identity.userId.getD "<none>"] effects ∧
        (Command.identity around mesh.hex config).run [] = .ok identity effects ∧
        (Command.capability around mesh.hex config).run [] = .ok capability effects ∧
        ∀ (inputs : List (DaemonInput ContactStore)) request now, request.method = .get →
          (request.path = "/v1/identity" →
            (((daemonMachine http mesh).exec state inputs).serve http request now).1 =
              ⟨.ok, .identity identity⟩) ∧
          (request.path = "/v1/capabilities/local" → ∃ own,
            (((daemonMachine http mesh).exec state inputs).serve http request now).1 =
              ⟨.ok, .capability own⟩ ∧
            capability =
              { own with
                hardware := capability.hardware
                observedAtUnixSecs := capability.observedAtUnixSecs }) := by
  refine ⟨⟨Startup.effects_ofAgent _, Startup.effects_ofAgent _, Startup.effects_ofAgent _⟩,
    ?_, ?_⟩
  · intro hdir failure hfailure
    rw [← hfailure]
    exact ⟨(Startup.failure_ofAgent _ hagent hdir).symm,
      (Startup.failure_ofAgent _ hagent hdir).symm,
      (Startup.failure_ofAgent _ hagent hdir).symm⟩
  · intro state hstate
    obtain ⟨agent, hbuilt, rfl⟩ :=
      (ComputeDaemon.start_outcome around' mesh.hex mesh.json config).state_of_served hstate
    refine ⟨_, _, _, ofAgent_run_of_built _ hagent hbuilt, ofAgent_run_of_built _ hagent hbuilt,
      ofAgent_run_of_built _ hagent hbuilt, ?_⟩
    intro inputs request now hmethod
    have hserves := serves_exec http mesh
      (.new mesh.hex config agent around'.system around'.startedAt) inputs
    obtain ⟨-, hidentity, hcapability, -⟩ := hserves
    refine ⟨?_, ?_⟩
    · intro hpath
      rw [AppState.serve_get _ .identityHandler now hmethod hpath trivial rfl]
      simp only [AppState.handle, hidentity]
      rfl
    · intro hpath
      refine ⟨.local config (.fromAgent mesh.hex agent) around'.system around'.startedAt, ?_, rfl⟩
      rw [AppState.serve_get _ .localCapability now hmethod hpath trivial rfl]
      simp only [AppState.handle, hcapability]
      rfl

/-- Surroundings of a friend in which everything is granted. -/
def grantingSurroundings : Surroundings where
  createDirAll _ := .ok ()
  buildAgent _ := .ok (uniformAgent 0xaa)
  joinNetwork := .ok ()
  subscribe _ := .ok ()
  publish _ := .ok ()
  bind _ := .ok ()
  serve _ := .ok ()
  system := friendsSystem
  startedAt := 1
  announcedSystem := friendsSystem
  announcedAt := 2

theorem commands_agree_friend :
    ∃ identity effects,
      (Command.identity grantingSurroundings .usual twoModelConfig).run [] =
        .ok identity effects ∧
      (friendDaemon.serve plainHttp ⟨.get, "/v1/identity", none, []⟩ 7).1 =
        ⟨.ok, .identity identity⟩ := by
  have heffects : (ComputeDaemon.start grantingSurroundings friendsCrates.hex friendsCrates.json
      twoModelConfig).effects =
        ComputeDaemon.building twoModelConfig ++
          [.bind twoModelConfig.apiBind, .serve friendDaemon] := rfl
  obtain ⟨-, -, hserved⟩ := @commands_agree grantingSurroundings grantingSurroundings
    twoModelConfig _ plainHttp friendsCrates rfl
  obtain ⟨identity, capability, effects, -, hidentity, -, hdaemon⟩ :=
    hserved friendDaemon (by simp [heffects])
  exact ⟨identity, effects, hidentity,
    (hdaemon [] ⟨.get, "/v1/identity", none, []⟩ 7 rfl).1 rfl⟩

end X0xCompute
