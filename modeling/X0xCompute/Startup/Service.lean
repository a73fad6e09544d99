import X0xCompute.Config.Commands
import X0xCompute.Daemon.Endpoints
import X0xCompute.Startup.Commands

/-!
# From the configuration file to the answers

`main` of `x0x-computed.rs` loads a configuration and starts a daemon with it. What the file
is checked for when it is read is enough for everything that is served later.
-/

namespace X0xCompute

open Lib ComputeConfig

variable {Disk ContactStore : Type} {platform : Platform Disk} {config : ComputeConfig}

/-- A storable configuration is answered as it is. -/
theorem configResponse_of_storable (h : config.Storable) :
    configResponse config = ⟨.ok, .config config⟩ := by
  unfold configResponse
  cases hpaths : config.paths.mapM PathBuf.text with
  | ok texts => rfl
  | error text =>
    have hnone := (mapM_text_eq_error_iff config.paths).mp ⟨text, hpaths⟩
    exact absurd h (not_storable_iff.mpr (Or.inl hnone))

theorem status_ne_of_storable {state : AppState} (h : state.config.Storable) (http : HttpCrates)
    (request : HttpRequest) (now : U64) :
    (state.serve http request now).1.status ≠ .internalServerError := by
  intro hstatus
  obtain ⟨-, hnone⟩ := (status_serve_iff http state request now).mp hstatus
  exact not_storable_iff.mpr (Or.inl hnone) h

/-- A daemon that was started with the configuration in a file. Whatever requests and messages
it has taken, it answers no request with an internal error, and `GET /v1/config` with the
configuration that was loaded, equal in every field. -/
theorem loaded_config_is_served (hsockets : platform.sockets.RoundTrips)
    {source : Option PathBuf} {disk : Disk}
    (hexists : platform.files.pathExists (source.getD (defaultPath platform))
      disk = true)
    (hload : loadOrDefault platform source disk = .ok config)
    (http : HttpCrates) (mesh : MeshCrates ContactStore) {around : Surroundings}
    {state : AppState}
    (hstate : .serve state ∈ (ComputeDaemon.start around mesh.hex mesh.json config).effects)
    (inputs : List (DaemonInput ContactStore)) (request : HttpRequest) (now : U64) :
    (((daemonMachine http mesh).exec state inputs).serve http request now).1.status ≠
        .internalServerError ∧
      (request.method = .get → request.path = "/v1/config" →
        (((daemonMachine http mesh).exec state inputs).serve http request now).1 =
          ⟨.ok, .config config⟩) := by
  have hkeeps := keeps_of_loadOrDefault hsockets hexists hload
  have hstorable := codec_encodes_iff.mp hkeeps.encodes
  obtain ⟨agent, -, rfl⟩ :=
    (ComputeDaemon.start_outcome around mesh.hex mesh.json config).state_of_served hstate
  have hconfig : ((daemonMachine http mesh).exec
      (.new mesh.hex config agent around.system around.startedAt) inputs).config = config :=
    (serves_exec http mesh (.new mesh.hex config agent around.system around.startedAt) inputs).1
  refine ⟨status_ne_of_storable (by rwa [hconfig]) http request now, ?_⟩
  intro hmethod hpath
  rw [AppState.serve_get _ .configView now hmethod hpath trivial rfl]
  simp only [AppState.handle, hconfig]
  exact configResponse_of_storable hstorable

theorem loaded_config_is_served_resetLaptop :
    ∃ state config, .serve state ∈ (ComputeDaemon.start grantingSurroundings friendsCrates.hex
        friendsCrates.json config).effects ∧
      (state.serve plainHttp ⟨.get, "/v1/config", none, []⟩ 7).1 = ⟨.ok, .config config⟩ := by
  have hload : loadOrDefault resetLaptop (some (.ofText "/etc/x0x-compute.toml"))
      [(.ofText "/etc/x0x-compute.toml", defaultText)] =
        .ok (.default (defaultDataDir resetLaptop)) :=
    resetLaptop_loads resetToml_parse_defaultText rfl _
  have hstate : .serve (.new friendsCrates.hex
      (.default (defaultDataDir resetLaptop)) (uniformAgent 0xaa)
      friendsSystem 1) ∈ (ComputeDaemon.start grantingSurroundings friendsCrates.hex
        friendsCrates.json
        (.default (defaultDataDir resetLaptop))).effects :=
    List.mem_of_getLast? rfl
  have hserved := @loaded_config_is_served _ _ resetLaptop _
    laptop_sockets_roundTrips _ _ (resetLaptop_pathExists _ _) hload plainHttp friendsCrates _ _
    hstate [] ⟨.get, "/v1/config", none, []⟩ 7
  exact ⟨_, _, hstate, hserved.2 rfl rfl⟩

end X0xCompute
