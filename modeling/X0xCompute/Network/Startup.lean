import X0xCompute.Network.Listing
import X0xCompute.Startup

/-!
# Starting on the network

What `ComputeDaemon::from_config` and `ComputeDaemon::run` do, one answer of the system after
the other, is a path of the network's steps: nothing a start does is left out there, and it
leaves behind what the network says.
-/

namespace X0xCompute.Network

open Lib Relation ComputeDaemon

variable {N ContactStore : Type} (mesh : MeshCrates ContactStore) (nodes : N → Node)

/-- What a daemon's agent publishes among the effects of its start. -/
def sent (n : N) (effects : List StartupEffect) : List Envelope :=
  effects.filterMap fun effect =>
    match effect with
    | .publish publication =>
      some ⟨publication.topic, ⟨publication.payload, some (nodes n).agent.agentId, true⟩⟩
    | _ => none

variable {nodes} in
theorem sent_append (n : N) (effects effects' : List StartupEffect) :
    sent nodes n (effects ++ effects') = sent nodes n effects ++ sent nodes n effects' :=
  List.filterMap_append

variable [DecidableEq N]

/-- A path on which only one daemon moves, and publishes what its effects are. -/
structure Path (net net' : Network N ContactStore) (n : N)
    (next : Option (Running ContactStore)) (effects : List StartupEffect) : Prop where
  steps : ReflTransGen (Step mesh nodes) net net'
  running : net'.running = Function.update net.running n next
  envelopes : net'.envelopes = net.envelopes ++ sent nodes n effects
  others : ∀ m, m ≠ n → net'.announced m = net.announced m

variable {mesh nodes} {net net' net'' : Network N ContactStore} {n : N}
  {r : Running ContactStore} {next next' : Option (Running ContactStore)}
  {effects effects' : List StartupEffect}

theorem Path.trans (h : Path mesh nodes net net' n next effects)
    (h' : Path mesh nodes net' net'' n next' effects') :
    Path mesh nodes net net'' n next' (effects ++ effects') where
  steps := h.steps.trans h'.steps
  running := by rw [h'.running, h.running, Function.update_idem]
  envelopes := by rw [h'.envelopes, h.envelopes, sent_append, List.append_assoc]
  others m hm := (h'.others m hm).trans (h.others m hm)

theorem Path.running_self (h : Path mesh nodes net net' n next effects) :
    net'.running n = next := by
  rw [h.running, Function.update_self]

/-- What is asked beside without publishing anything. -/
theorem Path.asks (h : Path mesh nodes net net' n next effects)
    (hsent : sent nodes n effects' = []) :
    Path mesh nodes net net' n next (effects ++ effects') where
  steps := h.steps
  running := h.running
  envelopes := by rw [h.envelopes, sent_append, hsent, List.append_nil]
  others := h.others

/-- A step that publishes nothing. -/
theorem Path.of_move (h : Step mesh nodes net (net.move n next))
    (hsent : sent nodes n effects = []) :
    Path mesh nodes net (net.move n next) n next effects where
  steps := .single h
  running := rfl
  envelopes := by simp [hsent, move]
  others _ _ := rfl

/-- The step of an announcement. -/
theorem Path.of_announce (hrunning : net.running n = some r) (hsubscribed : r.subscribed = true)
    (hserving : r.serving = false) (hannounce : (nodes n).config.announceOnStart = true)
    {publish : Publication → Except String Unit} {system : SystemReport} {now : U64}
    {publication : Publication} {result : Except ComputeError CapabilityAnnouncement}
    (hpublish : announceLocalCapability mesh.json publish (nodes n).config
      ((nodes n).identity mesh.hex) system now = (some publication, result)) :
    ∃ net', Path mesh nodes net net' n
      (if result.isOk then some { r with serving := true } else none) [.publish publication] := by
  refine ⟨_, .single (.announce hrunning hsubscribed hserving hannounce hpublish), rfl, rfl, ?_⟩
  intro m hm
  exact Function.update_of_ne hm _ _

variable {around : Surroundings}

/-- How far a daemon has come when it is built, and when it serves. -/
def built (around : Surroundings) : Running ContactStore :=
  ⟨around.system, around.startedAt, false, false, []⟩

def served (around : Surroundings) (config : ComputeConfig) : Running ContactStore :=
  ⟨around.system, around.startedAt, config.joinNetworkOnStart, true, []⟩

theorem served_of_not_joined {config : ComputeConfig} (h : config.joinNetworkOnStart = false) :
    served around config = ({ built around with serving := true } : Running ContactStore) := by
  rw [served, h, built]

theorem served_of_joined {config : ComputeConfig} (h : config.joinNetworkOnStart = true) :
    served around config =
      ({ built around with subscribed := true, serving := true } : Running ContactStore) := by
  rw [served, h, built]

theorem path_stop (net : Network N ContactStore) (n : N)
    (hsent : sent nodes n effects = []) :
    Path mesh nodes net (net.move n none) n none effects :=
  .of_move (.stop net n) hsent

theorem path_subscribe (hrunning : net.running n = some (built around))
    (hjoin : (nodes n).config.joinNetworkOnStart = true) :
    Path mesh nodes net (net.move n (some { built around with subscribed := true })) n
      (some { built around with subscribed := true }) (subscribing (nodes n).config) :=
  .of_move (.subscribe hrunning hjoin rfl) rfl

/-- The subscription of a daemon that was built, and its announcement. -/
theorem path_opened {opened done : List StartupEffect}
    (hopen : SubscriptionOutcome around mesh.json
      (ofAgent around mesh.hex (nodes n).config (nodes n).agent) done (.ok () opened))
    (hrunning : net.running n = some (built around)) :
    ∃ net' asked, opened = done ++ asked ∧
      Path mesh nodes net net' n (some (served around (nodes n).config)) asked := by
  generalize hresult : (.ok () opened : EStateM.Result ComputeError _ Unit) = result at hopen
  cases hopen with
  | apart hjoin =>
    cases hresult
    have hserved : served around (nodes n).config =
        ({ built around with serving := true } : Running ContactStore) :=
      served_of_not_joined hjoin
    rw [hserved]
    exact ⟨_, [], by simp, .of_move (.serve hrunning (Or.inl hjoin)) rfl⟩
  | quiet hjoin hjoined hsubscribed hannounce =>
    cases hresult
    have hserved : served around (nodes n).config =
        ({ built around with subscribed := true, serving := true } : Running ContactStore) :=
      served_of_joined hjoin
    rw [hserved]
    have hpath : Path mesh nodes net _ n _ _ := path_subscribe hrunning hjoin
    have hserve : Path mesh nodes _ _ n _ [] :=
      .of_move (.serve hpath.running_self (Or.inr ⟨rfl, hannounce⟩)) rfl
    have hasked : subscribing (nodes n).config ++ [] = subscribing (nodes n).config :=
      List.append_nil _
    exact ⟨_, _, congrArg (done ++ ·) hasked.symm, hpath.trans hserve⟩
  | announced hjoin hjoined hsubscribed hannounce h =>
    cases hresult
    have hserved : served around (nodes n).config =
        ({ built around with subscribed := true, serving := true } : Running ContactStore) :=
      served_of_joined hjoin
    rw [hserved]
    have hpath : Path mesh nodes net _ n _ _ := path_subscribe hrunning hjoin
    rcases announceLocalCapability_cases h with ⟨text, -, hfail⟩ | ⟨payload, -, rfl, hsent⟩
    · cases hfail
    · obtain ⟨net', hannounced⟩ := Path.of_announce hpath.running_self rfl rfl hannounce h
      exact ⟨net', _, List.append_assoc .., hpath.trans hannounced⟩
  | notJoined | notSubscribed | notAnnounced => cases hresult

theorem path_refused {e : ComputeError} {effects done : List StartupEffect}
    (hopen : SubscriptionOutcome around mesh.json
      (ofAgent around mesh.hex (nodes n).config (nodes n).agent) done (.error e effects))
    (hrunning : net.running n = some (built around)) :
    ∃ net' asked, effects = done ++ asked ∧
      Path mesh nodes net net' n none asked := by
  generalize hresult : (.error e effects : EStateM.Result ComputeError _ Unit) = result at hopen
  cases hopen with
  | notJoined hjoin h =>
    cases hresult
    exact ⟨_, _, rfl, path_stop net n rfl⟩
  | notSubscribed hjoin hjoined h =>
    cases hresult
    exact ⟨_, _, rfl, path_stop net n rfl⟩
  | notAnnounced hjoin hjoined hsubscribed hannounce h =>
    cases hresult
    have hpath : Path mesh nodes net _ n _ _ := path_subscribe hrunning hjoin
    rcases announceLocalCapability_cases h with ⟨text, rfl, -⟩ | ⟨payload, -, rfl, hsent⟩
    · exact ⟨_, subscribing (nodes n).config, List.append_nil _, path_stop net n rfl⟩
    · obtain ⟨net', hannounced⟩ := Path.of_announce hpath.running_self rfl rfl hannounce h
      exact ⟨net', _, List.append_assoc .., hpath.trans hannounced⟩
  | apart | quiet | announced => cases hresult

theorem path_built (net : Network N ContactStore) (n : N) (around : Surroundings) :
    Path mesh nodes net (net.move n (some (built around))) n (some (built around))
      (building (nodes n).config) :=
  .of_move (.start net n around.system around.startedAt) rfl

/-- What a start comes to. -/
theorem path_start (http : HttpCrates) (net : Network N ContactStore)
    (hagent : ∀ agent, around.buildAgent (.ofConfig (nodes n).config) = .ok agent →
      agent = (nodes n).agent)
    {result : EStateM.Result ComputeError (List StartupEffect) Unit}
    (houtcome : StartOutcome around mesh.hex mesh.json (nodes n).config result) :
    ∃ net' next, Path mesh nodes net net' n next (Startup.effectsOf result) ∧
      ((∃ r, next = some r ∧ r.serving = true ∧
          r.subscribed = (nodes n).config.joinNetworkOnStart ∧
          StartupEffect.serve (stateOf http mesh nodes n r) ∈ Startup.effectsOf result) ∨
        (∀ state, StartupEffect.serve state ∉ Startup.effectsOf result) ∧ next = none) := by
  have hpath : Path mesh nodes net _ n _ _ := path_built net n around
  -- the server is handed the state of the daemon that has come that far
  have hserves {net' : Network N ContactStore} {asked : List StartupEffect}
      (hopened : Path mesh nodes (net.move n (some (built around))) net' n
        (some (served around (nodes n).config)) asked) :=
    @Path.asks _ _ _ _ _ _ _ _ _ _ [.bind (nodes n).config.apiBind,
      .serve (stateOf http mesh nodes n (served around (nodes n).config))]
      (hpath.trans hopened) rfl
  cases houtcome with
  | notBuilt h =>
    refine ⟨_, none, path_stop net n ?_, Or.inr ⟨h.serve_not_mem, rfl⟩⟩
    cases h <;> rfl
  | @notOpen agent hbuilt e effects h =>
    obtain rfl := hagent agent hbuilt.answered
    have hnone := fun state => mt (h.serve_mem_iff state).mp (serve_not_mem_building _ state)
    obtain ⟨net', asked, rfl, hrefused⟩ := path_refused h hpath.running_self
    exact ⟨net', none, hpath.trans hrefused, Or.inr ⟨hnone, rfl⟩⟩
  | @notBound agent hbuilt opened hopen text h =>
    obtain rfl := hagent agent hbuilt.answered
    have hnone := fun state => mt (hopen.serve_mem_iff state).mp (serve_not_mem_building _ state)
    obtain ⟨net', asked, rfl, hopened⟩ := path_opened hopen hpath.running_self
    refine ⟨_, none, (hpath.trans hopened).trans (path_stop net' n rfl), Or.inr ⟨?_, rfl⟩⟩
    intro state
    simpa using hnone state
  | @failed agent hbuilt opened hopen hbound text h =>
    obtain rfl := hagent agent hbuilt.answered
    obtain ⟨net', asked, rfl, hopened⟩ := path_opened hopen hpath.running_self
    exact ⟨net', _, hserves hopened, Or.inl ⟨_, rfl, rfl, rfl, by simp [stateOf, served]⟩⟩
  | @shutDown agent hbuilt opened hopen hbound h =>
    obtain rfl := hagent agent hbuilt.answered
    obtain ⟨net', asked, rfl, hopened⟩ := path_opened hopen hpath.running_self
    exact ⟨net', _, hserves hopened, Or.inl ⟨_, rfl, rfl, rfl, by simp [stateOf, served]⟩⟩

/-- Starting a daemon, from any state of the network. Whatever the system and the agent
answer, there is a path of the network's steps that publishes exactly what the start hands to
the agent, moves no other daemon, and ends with the daemon serving the very state that the
start hands to its server, or not running if the start failed before. -/
theorem start_is_a_path (http : HttpCrates) (net : Network N ContactStore) (n : N)
    (around : Surroundings)
    (hagent : ∀ agent, around.buildAgent (.ofConfig (nodes n).config) = .ok agent →
      agent = (nodes n).agent) :
    ∃ net', ReflTransGen (Step mesh nodes) net net' ∧
      net'.envelopes = net.envelopes ++
        sent nodes n (start around mesh.hex mesh.json (nodes n).config).effects ∧
      (∀ m, m ≠ n → net'.running m = net.running m ∧ net'.announced m = net.announced m) ∧
      ((∃ r, net'.running n = some r ∧ r.serving = true ∧
          r.subscribed = (nodes n).config.joinNetworkOnStart ∧
          StartupEffect.serve (stateOf http mesh nodes n r) ∈
            (start around mesh.hex mesh.json (nodes n).config).effects) ∨
        (∀ state, StartupEffect.serve state ∉
            (start around mesh.hex mesh.json (nodes n).config).effects) ∧
          net'.running n = none) := by
  obtain ⟨net', next, hpath, hend⟩ := path_start http net hagent
    (start_outcome around mesh.hex mesh.json (nodes n).config)
  refine ⟨net', hpath.steps, hpath.envelopes, ?_, ?_⟩
  · intro m hm
    exact ⟨by rw [hpath.running, Function.update_of_ne hm], hpath.others m hm⟩
  · rw [hpath.running_self]
    exact hend

/-- Surroundings of the first friend in which everything is granted but the port. -/
def friendSurroundings : Surroundings where
  createDirAll _ := .ok ()
  buildAgent _ := .ok (friendNodes 0).agent
  joinNetwork := .ok ()
  subscribe _ := .ok ()
  publish _ := .ok ()
  bind _ := .error "Address already in use (os error 98)"
  serve _ := .ok ()
  system := friendsSystem
  startedAt := 1
  announcedSystem := friendsSystem
  announcedAt := 1

/-- What the first friend asks. -/
theorem friend_effects :
    (start friendSurroundings friendsCrates.hex friendsCrates.json
      (friendNodes 0).config).effects =
        building (friendNodes 0).config ++ subscribing (friendNodes 0).config ++
          [.publish ⟨capabilityTopic, (friendCapability 0xaa 1).jsonBytes⟩,
            .bind (friendNodes 0).config.apiBind] := by
  have hfrom : (fromConfig friendSurroundings friendsCrates.hex (friendNodes 0).config).run [] =
      .ok (ofAgent friendSurroundings friendsCrates.hex (friendNodes 0).config
        (friendNodes 0).agent) (building (friendNodes 0).config) := rfl
  have hopen : ((ofAgent friendSurroundings friendsCrates.hex (friendNodes 0).config
      (friendNodes 0).agent).openSubscription friendSurroundings friendsCrates.json).run
        (building (friendNodes 0).config) =
          .ok () (building (friendNodes 0).config ++ subscribing (friendNodes 0).config ++
            [.publish ⟨capabilityTopic, (friendCapability 0xaa 1).jsonBytes⟩]) := by
    have houtcome := openSubscription_outcome friendSurroundings friendsCrates.json
      (ofAgent friendSurroundings friendsCrates.hex (friendNodes 0).config (friendNodes 0).agent)
      (building (friendNodes 0).config)
    generalize ((ofAgent friendSurroundings friendsCrates.hex (friendNodes 0).config
      (friendNodes 0).agent).openSubscription friendSurroundings friendsCrates.json).run
        (building (friendNodes 0).config) = result at houtcome
    cases houtcome with
    | apart hjoin => cases hjoin
    | notJoined hjoin h => cases h
    | notSubscribed hjoin hjoined h => cases h
    | quiet hjoin hjoined hsubscribed h => cases h
    | notAnnounced hjoin hjoined hsubscribed hannounce h => cases friend_announces.symm.trans h
    | announced hjoin hjoined hsubscribed hannounce h =>
      cases friend_announces.symm.trans h
      rfl
  unfold Startup.effects start run
  rw [EStateM.run_bind, hfrom]
  simp only [EStateM.run_bind, hopen]
  rfl

/-- The first friend has announced itself, but does not run. -/
theorem start_is_a_path_friend :
    ∃ net', Reachable friendsCrates friendNodes net' ∧ net'.running 0 = none ∧
      net'.envelopes.length = 1 := by
  obtain ⟨net', hsteps, henvelopes, -, hend⟩ := @start_is_a_path _ _ friendsCrates friendNodes _
    plainHttp new 0 friendSurroundings (fun agent h => (Except.ok.inj h).symm)
  rw [friend_effects] at henvelopes hend
  refine ⟨net', hsteps, ?_, by rw [henvelopes]; rfl⟩
  rcases hend with ⟨r, -, -, -, hserve⟩ | ⟨-, hnone⟩
  · simp [building, subscribing] at hserve
  · exact hnone

end X0xCompute.Network
