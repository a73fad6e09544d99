import X0xCompute.Daemon.Reservations
import X0xCompute.Network.Authentic

/-!
# What the daemons know of each other

A daemon's list of peers, as `GET /v1/capabilities/peers` gives it, against what the peers
announced and what they answer themselves.
-/

namespace X0xCompute.Network

open Lib

variable {N ContactStore : Type} {http : HttpCrates} {mesh : MeshCrates ContactStore}
  {nodes : N → Node} {net : Network N ContactStore} {n m : N} {r : Running ContactStore}

/-- The id under which a daemon's records are kept. -/
def agentIdOf (mesh : MeshCrates ContactStore) (nodes : N → Node) (n : N) : String :=
  ((nodes n).identity mesh.hex).agentId

/-- The registry of a running daemon has taken the messages it was handed. -/
theorem peers_stateOf (http : HttpCrates) (n : N) (r : Running ContactStore) :
    (stateOf http mesh nodes n r).peers =
      (registryMachine mesh (nodes n).config (agentIdOf mesh nodes n)).exec .new
        (r.inputs.filterMap DaemonInput.step?) :=
  peers_exec_daemon http mesh _ r.inputs

theorem mem_steps_iff {inputs : List (DaemonInput ContactStore)} {s : MeshStep ContactStore} :
    s ∈ inputs.filterMap DaemonInput.step? ↔ DaemonInput.message s ∈ inputs := by
  rw [List.mem_filterMap]
  refine ⟨?_, fun h => ⟨_, h, rfl⟩⟩
  rintro ⟨input, hinput, hstep⟩
  cases input with
  | request request now => cases hstep
  | message s' =>
    cases hstep
    exact hinput

theorem mem_snapshot_iff {record : PeerCapabilityRecord} {registry : TrustedPeerRegistry} :
    record ∈ registry.snapshot ↔ ∃ key : String, registry.peers[key]? = some record :=
  mem_values_iff

/-- A message of another daemon that a daemon was handed is an announcement of that daemon,
and passes every check of the handler but those of the mesh and of trust. -/
theorem Authentic.decoded (h : Authentic mesh nodes net) (hjson : mesh.json.RoundTrips)
    (hrunning : net.running n = some r) {s : MeshStep ContactStore}
    (hs : DaemonInput.message s ∈ r.inputs) (hverified : s.message.verified = true)
    (hsender : s.message.sender = some (nodes m).agent.agentId) :
    (nodes m).config.capabilityTopic = (nodes n).config.capabilityTopic ∧
      ∃ capability ∈ net.announced m,
        mesh.json.fromSlice s.message.payload = .ok capability := by
  obtain ⟨-, envelope, hmem, htopic, hmessage⟩ := (h.listens n r hrunning).delivered s hs
  rw [← hmessage] at hverified hsender ⊢
  obtain ⟨hown, capability, hcapability, hencoded⟩ := h.signed envelope hmem hverified m hsender
  exact ⟨hown.symm.trans htopic, capability, hcapability, hjson _ _ hencoded⟩

theorem Authentic.vetted (h : Authentic mesh nodes net) (hhex : mesh.hex.DecodesEncoded)
    (hne : (nodes n).agent.agentId ≠ (nodes m).agent.agentId)
    (hmesh : (nodes m).config.mesh.name = (nodes n).config.mesh.name)
    {s : MeshStep ContactStore} (hverified : s.message.verified = true)
    (hsender : s.message.sender = some (nodes m).agent.agentId)
    {capability : CapabilityAnnouncement} (hcapability : capability ∈ net.announced m)
    (hdecoded : mesh.json.fromSlice s.message.payload = .ok capability) :
    Vetted mesh (nodes n).config (agentIdOf mesh nodes n) s
      { sender := (nodes m).agent.agentId
        capability := capability
        machineId := (nodes m).agent.machineId } := by
  obtain ⟨-, -, system, now, rfl⟩ := h.announced m capability hcapability
  exact vetted_of_local hhex hmesh hne hsender hverified hdecoded

/-- Where a record of a daemon comes from: a message of it that was handed over, whose
announcement is the record's and which the policy allowed. -/
theorem Authentic.listed (h : Authentic mesh nodes net) (hhex : mesh.hex.DecodesEncoded)
    (hjson : mesh.json.RoundTrips) (hrunning : net.running n = some r)
    {record : PeerCapabilityRecord}
    (hrecord : record ∈ (stateOf http mesh nodes n r).peers.snapshot)
    (hagent : record.capability.identity.agentId = agentIdOf mesh nodes m) :
    ∃ s, DaemonInput.message s ∈ r.inputs ∧ s.message.verified = true ∧
      s.message.sender = some (nodes m).agent.agentId ∧
      Admissible mesh (nodes n).config (agentIdOf mesh nodes n) s
        { sender := (nodes m).agent.agentId
          capability := record.capability
          machineId := (nodes m).agent.machineId } ∧
      (nodes m).config.capabilityTopic = (nodes n).config.capabilityTopic ∧
      record.capability ∈ net.announced m := by
  obtain ⟨key, hkey⟩ := mem_snapshot_iff.mp hrecord
  rw [peers_stateOf] at hkey
  obtain ⟨s, hs, v, hadm, rfl, hcapability, -⟩ := exists_admitted_of_record hkey
  have hid : encodeAgentId mesh.hex v.sender =
      encodeAgentId mesh.hex (nodes m).agent.agentId := by
    rw [← hadm.agentId, ← hcapability, hagent]
    rfl
  have hsame := encodeAgentId_injective hhex.encode_injective hid
  have hsender : s.message.sender = some (nodes m).agent.agentId := by
    rw [hadm.sender, hsame]
  obtain ⟨htopic, capability, hannounced, hdecoded⟩ :=
    h.decoded hjson hrunning (mem_steps_iff.mp hs) hadm.verified hsender
  have hne : (nodes n).agent.agentId ≠ (nodes m).agent.agentId := by
    intro heq
    apply hadm.notSelf
    rw [hsame, ← heq]
    rfl
  have hmesh : (nodes m).config.mesh.name = (nodes n).config.mesh.name := by
    have hcap := Except.ok.inj (hadm.decoded.symm.trans hdecoded)
    rw [← hadm.meshName, hcap]
    obtain ⟨-, -, system, now, rfl⟩ := h.announced m capability hannounced
    rfl
  have hvetted := h.vetted hhex hne hmesh hadm.verified hsender hannounced hdecoded
  obtain rfl := hadm.toVetted.unique hvetted
  rw [hcapability]
  exact ⟨s, mem_steps_iff.mp hs, hadm.verified, hsender, hadm, htopic, hannounced⟩

/-- All announcements of a daemon are alike but for the hardware and the time. -/
theorem Authentic.announced_alike (h : Authentic mesh nodes net)
    {capability capability' : CapabilityAnnouncement} (hmem : capability ∈ net.announced m)
    (hmem' : capability' ∈ net.announced m) :
    capability =
      { capability' with
        hardware := capability.hardware
        observedAtUnixSecs := capability.observedAtUnixSecs } := by
  obtain ⟨-, -, system, now, rfl⟩ := h.announced m capability hmem
  obtain ⟨-, -, system', now', rfl⟩ := h.announced m capability' hmem'
  rfl

/-- A daemon that does not join the network knows of nobody. -/
theorem Authentic.snapshot_of_not_joined (h : Authentic mesh nodes net)
    (hrunning : net.running n = some r)
    (hjoin : (nodes n).config.joinNetworkOnStart = false) :
    (stateOf http mesh nodes n r).peers.snapshot = [] := by
  rw [List.eq_nil_iff_forall_not_mem]
  intro record hrecord
  obtain ⟨key, hkey⟩ := mem_snapshot_iff.mp hrecord
  rw [peers_stateOf] at hkey
  obtain ⟨s, hs, -⟩ := exists_admitted_of_record hkey
  have hlistens := h.listens n r hrunning
  have hjoined := hlistens.joined (hlistens.delivered s (mem_steps_iff.mp hs)).1
  rw [hjoin] at hjoined
  cases hjoined

/-- A daemon lists another one of its mesh once it was handed a message of it that was
allowed. -/
theorem Authentic.lists (h : Authentic mesh nodes net) (http : HttpCrates)
    (hhex : mesh.hex.DecodesEncoded) (hjson : mesh.json.RoundTrips)
    (hrunning : net.running n = some r)
    (hne : (nodes n).agent.agentId ≠ (nodes m).agent.agentId)
    (hmesh : (nodes m).config.mesh.name = (nodes n).config.mesh.name)
    {s : MeshStep ContactStore} (hs : DaemonInput.message s ∈ r.inputs)
    (hverified : s.message.verified = true)
    (hsender : s.message.sender = some (nodes m).agent.agentId)
    (hallowed : allowsPeer (nodes n).config (mesh.trust.evaluate s.contacts
      ⟨(nodes m).agent.agentId, (nodes m).agent.machineId⟩) = true) :
    ∃ record ∈ (stateOf http mesh nodes n r).peers.snapshot,
      record.capability.identity.agentId = agentIdOf mesh nodes m := by
  obtain ⟨-, capability, hannounced, hdecoded⟩ :=
    h.decoded hjson hrunning hs hverified hsender
  have hadm : Admissible mesh (nodes n).config (agentIdOf mesh nodes n) s _ :=
    { toVetted := h.vetted hhex hne hmesh hverified hsender hannounced hdecoded
      allowed := hallowed }
  have hadmitted := mem_admittedAt_iff.mpr ⟨mem_steps_iff.mpr hs, hadm, rfl⟩
  cases hheld : ((registryMachine mesh (nodes n).config (agentIdOf mesh nodes n)).exec .new
      (r.inputs.filterMap DaemonInput.step?)).peers[agentIdOf mesh nodes m]? with
  | none =>
    rw [getElem?_peers_exec_new, recordOf_eq_none_iff] at hheld
    exact absurd (hheld ▸ hadmitted) List.not_mem_nil
  | some record =>
    refine ⟨record, ?_, (registry_record_key hheld).symm⟩
    rw [mem_snapshot_iff, peers_stateOf]
    exact ⟨_, hheld⟩

/-- What comes before the check of the mesh holds of every announcement of a daemon. -/
theorem Authentic.vet_of_other_mesh (h : Authentic mesh nodes net)
    (hhex : mesh.hex.DecodesEncoded)
    (hne : (nodes n).agent.agentId ≠ (nodes m).agent.agentId)
    (hmesh : (nodes m).config.mesh.name ≠ (nodes n).config.mesh.name)
    {s : MeshStep ContactStore} (hverified : s.message.verified = true)
    (hsender : s.message.sender = some (nodes m).agent.agentId)
    {capability : CapabilityAnnouncement} (hcapability : capability ∈ net.announced m)
    (hdecoded : mesh.json.fromSlice s.message.payload = .ok capability) :
    vet mesh (nodes n).config (agentIdOf mesh nodes n) s = .error .rejectedWrongMesh := by
  obtain ⟨-, -, system, now, rfl⟩ := h.announced m capability hcapability
  have hself : encodeAgentId mesh.hex (nodes m).agent.agentId ≠ agentIdOf mesh nodes n :=
    fun heq => hne (encodeAgentId_injective hhex.encode_injective heq).symm
  simp [vet, hsender, hverified, hself, hdecoded, CapabilityAnnouncement.local, hmesh]

/-! ## Three friends -/

/-- Three daemons of one configuration, which join and announce. -/
def friendNodes (i : Fin 3) : Node where
  config := { friendsConfig with joinNetworkOnStart := true, announceOnStart := true }
  agent := uniformAgent (#v[0xaa, 0xbb, 0xcc].get i)

theorem friendNodes_agent_injective :
    Function.Injective fun i => (friendNodes i).agent.agentId := by
  decide

/-- The announcement of the first daemon, as the others take it. -/
def friendMessage : MeshStep (List (AgentId × TrustDecision)) :=
  friendStep (friendCapability 0xaa 1).jsonBytes 0xaa 10 .accept

/-- A daemon that joined and was handed the announcement. -/
def friendRunning : Running (List (AgentId × TrustDecision)) where
  system := friendsSystem
  startedAt := 3
  subscribed := true
  serving := false
  inputs := [.message friendMessage]

/-- The first daemon announces itself. -/
theorem friend_announces :
    announceLocalCapability friendsCrates.json (fun _ => .ok ())
      (friendNodes 0).config ((friendNodes 0).identity friendsCrates.hex) friendsSystem 1 =
        (some ⟨capabilityTopic, (friendCapability 0xaa 1).jsonBytes⟩,
          .ok (friendCapability 0xaa 1)) := by
  have hencode : friendsCrates.json.toVec (friendCapability 0xaa 1) =
      .ok (friendCapability 0xaa 1).jsonBytes := by
    rw [friendsCrates_toVec_eq_ok_iff]
    exact ⟨List.mem_map.mpr ⟨(0xaa, 1), by decide, rfl⟩, rfl⟩
  have hlocal : CapabilityAnnouncement.local (friendNodes 0).config
      ((friendNodes 0).identity friendsCrates.hex) friendsSystem 1 =
        friendCapability 0xaa 1 := rfl
  simp only [announceLocalCapability, hlocal, hencode]
  rfl

/-- The first daemon announces itself, and the others are handed the announcement. -/
theorem exists_friends_network : ∃ net, Reachable friendsCrates friendNodes net ∧
    net.running 1 = some friendRunning ∧ net.running 2 = some friendRunning ∧
    ∃ r, net.running 0 = some r ∧ r.serving = true := by
  have hrunning : ∀ (net : Network (Fin 3) (List (AgentId × TrustDecision))) n next,
      (net.move n next).running n = next := fun net n next => by rw [running_move, if_pos rfl]
  have hannounced : Reachable friendsCrates friendNodes _ :=
    ((Relation.ReflTransGen.single (.start new 0 friendsSystem 1)).tail
      (.subscribe (hrunning ..) rfl rfl)).tail
        (.announce (hrunning ..) rfl rfl rfl friend_announces)
  have hfirst : Reachable friendsCrates friendNodes _ :=
    ((hannounced.tail (.start _ 1 friendsSystem 3)).tail
      (.subscribe (hrunning ..) rfl rfl)).tail
        (.deliver (hrunning ..) rfl (List.mem_singleton.mpr rfl) rfl friendMessage.contacts 10)
  have hsecond : Reachable friendsCrates friendNodes _ :=
    ((hfirst.tail (.start _ 2 friendsSystem 3)).tail
      (.subscribe (hrunning ..) rfl rfl)).tail
        (.deliver (hrunning ..) rfl (List.mem_singleton.mpr rfl) rfl friendMessage.contacts 10)
  refine ⟨_, hsecond, ?_, hrunning .., ?_⟩
  · iterate 3 rw [running_move, if_neg (by decide)]
    exact hrunning ..
  · iterate 6 rw [running_move, if_neg (by decide)]
    exact ⟨_, hrunning .., rfl⟩

theorem friends_allowed : allowsPeer friendsConfig (friendsCrates.trust.evaluate
    friendMessage.contacts ⟨(uniformAgent 0xaa).agentId, (uniformAgent 0xaa).machineId⟩) =
      true := by
  have h := friendVetting_decision (friendCapability 0xaa 1).jsonBytes 0xaa 1 10 .accept
  exact congrArg (allowsPeer friendsConfig) h

/-- Both list the first. -/
theorem friends_listed {net : Network (Fin 3) (List (AgentId × TrustDecision))} {i : Fin 3}
    (h : Reachable friendsCrates friendNodes net) (hrunning : net.running i = some friendRunning)
    (hi : i ≠ 0) :
    ∃ record ∈ (stateOf plainHttp friendsCrates friendNodes i friendRunning).peers.snapshot,
      record.capability.identity.agentId = agentIdOf friendsCrates friendNodes 0 :=
  (h.authentic friendNodes_agent_injective).lists plainHttp HexCrate.usual_decodesEncoded
    friendsCrates_roundTrips hrunning (fun heq => hi (friendNodes_agent_injective heq)) rfl
    List.mem_cons_self rfl rfl friends_allowed

/-! ## Main results -/

/-- What a daemon lists is what its peers announced and still say of themselves. In every
network that comes about, `GET /v1/capabilities/peers` of a running daemon answers with its
records; one that does not join lists nobody; and a record for the id of a daemon is for
another one, on the same topic and mesh, holds a capability which that daemon announced, and
differs from what that daemon, if it runs, answers to `GET /v1/capabilities/local` in
nothing but the hardware and the time. -/
theorem listed_is_announced [DecidableEq N] (http : HttpCrates)
    (hhex : mesh.hex.DecodesEncoded) (hjson : mesh.json.RoundTrips)
    (hagents : Function.Injective fun n => (nodes n).agent.agentId)
    (hnet : Reachable mesh nodes net) (hrunning : net.running n = some r) :
    let state := stateOf http mesh nodes n r
    (∀ request now, request.method = .get → request.path = "/v1/capabilities/peers" →
      state.serve http request now = (⟨.ok, .peers state.peers.snapshot⟩, state)) ∧
    ((nodes n).config.joinNetworkOnStart = false → state.peers.snapshot = []) ∧
    ∀ record ∈ state.peers.snapshot, ∀ m,
      record.capability.identity.agentId = agentIdOf mesh nodes m →
        m ≠ n ∧ record.capability ∈ net.announced m ∧
        (nodes m).config.capabilityTopic = (nodes n).config.capabilityTopic ∧
        (nodes m).config.mesh.name = (nodes n).config.mesh.name ∧
        ∀ r', net.running m = some r' → ∀ request now, request.method = .get →
          request.path = "/v1/capabilities/local" →
          ∃ own, ((stateOf http mesh nodes m r').serve http request now).1 =
              ⟨.ok, .capability own⟩ ∧
            record.capability =
              { own with
                hardware := record.capability.hardware
                observedAtUnixSecs := record.capability.observedAtUnixSecs } := by
  intro state
  have hauthentic := hnet.authentic hagents
  refine ⟨fun request now hmethod hpath => state.serve_get .peerCapabilities now hmethod hpath
    trivial rfl, hauthentic.snapshot_of_not_joined hrunning, ?_⟩
  intro record hrecord m hagent
  obtain ⟨s, -, -, -, hadm, htopic, hannounced⟩ :=
    hauthentic.listed hhex hjson hrunning hrecord hagent
  obtain ⟨-, -, system, now, hlocal⟩ := hauthentic.announced m record.capability hannounced
  have hmesh := hadm.meshName
  dsimp only at hmesh
  refine ⟨?_, hannounced, htopic, ?_, ?_⟩
  · rintro rfl
    exact hadm.notSelf rfl
  · rw [← hmesh, hlocal]
    rfl
  · intro r' _ request now hmethod hpath
    refine ⟨(stateOf http mesh nodes m r').capability,
      congrArg Prod.fst (AppState.serve_get _ .localCapability now hmethod hpath trivial rfl), ?_⟩
    have hown := (serves_exec http mesh (.new mesh.hex (nodes m).config (nodes m).agent
      r'.system r'.startedAt) r'.inputs).2.2.1
    rw [stateOf, hown, hlocal]
    rfl

theorem listed_is_announced_friends :
    ∃ net, Reachable friendsCrates friendNodes net ∧
      ∃ record ∈ (stateOf plainHttp friendsCrates friendNodes 1 friendRunning).peers.snapshot,
        record.capability ∈ net.announced 0 := by
  obtain ⟨net, hnet, hrunning, -⟩ := exists_friends_network
  obtain ⟨record, hrecord, hagent⟩ := friends_listed hnet hrunning (by decide)
  obtain ⟨-, -, hlisted⟩ := listed_is_announced plainHttp HexCrate.usual_decodesEncoded
    friendsCrates_roundTrips friendNodes_agent_injective hnet hrunning
  obtain ⟨-, hannounced, -⟩ := hlisted record hrecord 0 hagent
  exact ⟨net, hnet, record, hrecord, hannounced⟩

/-- Daemons agree on a daemon that they list: their records of it hold capabilities which
differ in nothing but the hardware and the time, and if it has announced itself no more than
once, the capabilities are the same. -/
theorem listings_agree [DecidableEq N] (http : HttpCrates) (hhex : mesh.hex.DecodesEncoded)
    (hjson : mesh.json.RoundTrips)
    (hagents : Function.Injective fun n => (nodes n).agent.agentId)
    (hnet : Reachable mesh nodes net) {n' : N} {r' : Running ContactStore}
    (hrunning : net.running n = some r) (hrunning' : net.running n' = some r')
    {record record' : PeerCapabilityRecord}
    (hrecord : record ∈ (stateOf http mesh nodes n r).peers.snapshot)
    (hrecord' : record' ∈ (stateOf http mesh nodes n' r').peers.snapshot)
    (hagent : record.capability.identity.agentId = agentIdOf mesh nodes m)
    (hagent' : record'.capability.identity.agentId = agentIdOf mesh nodes m) :
    record.capability =
      { record'.capability with
        hardware := record.capability.hardware
        observedAtUnixSecs := record.capability.observedAtUnixSecs } ∧
    ((net.announced m).length ≤ 1 → record.capability = record'.capability) := by
  have hauthentic := hnet.authentic hagents
  obtain ⟨-, -, -, -, -, -, hmem⟩ := hauthentic.listed hhex hjson hrunning hrecord hagent
  obtain ⟨-, -, -, -, -, -, hmem'⟩ := hauthentic.listed hhex hjson hrunning' hrecord' hagent'
  refine ⟨hauthentic.announced_alike hmem hmem', ?_⟩
  intro honce
  generalize net.announced m = announced at hmem hmem' honce
  match announced with
  | [] => cases hmem
  | [capability] => rw [List.mem_singleton.mp hmem, List.mem_singleton.mp hmem']
  | _ :: _ :: _ => simp at honce

theorem listings_agree_friends :
    ∃ record ∈ (stateOf plainHttp friendsCrates friendNodes 1 friendRunning).peers.snapshot,
      ∃ record' ∈ (stateOf plainHttp friendsCrates friendNodes 2 friendRunning).peers.snapshot,
        record.capability.availableModels = record'.capability.availableModels := by
  obtain ⟨net, hnet, hrunning, hrunning', -⟩ := exists_friends_network
  obtain ⟨record, hrecord, hagent⟩ := friends_listed hnet hrunning (by decide)
  obtain ⟨record', hrecord', hagent'⟩ := friends_listed hnet hrunning' (by decide)
  obtain ⟨hagree, -⟩ := listings_agree plainHttp HexCrate.usual_decodesEncoded
    friendsCrates_roundTrips friendNodes_agent_injective hnet hrunning hrunning' hrecord
    hrecord' hagent hagent'
  refine ⟨record, hrecord, record', hrecord', ?_⟩
  rw [hagree]

/-- Between daemons of one mesh only trust decides. In every network that comes about, a
message of another daemon that a daemon was handed is, whatever its registry holds, rejected
for its mesh if the other names another one, rejected for its trust if the policy does not
allow what the evaluator says of the other's agent and machine, and accepted otherwise; so
the daemon lists the other exactly when it was handed a message of it that was allowed. -/
theorem listed_iff_allowed [DecidableEq N] (http : HttpCrates)
    (hhex : mesh.hex.DecodesEncoded) (hjson : mesh.json.RoundTrips)
    (hagents : Function.Injective fun n => (nodes n).agent.agentId)
    (hnet : Reachable mesh nodes net) (hrunning : net.running n = some r) (hne : m ≠ n) :
    let decision := fun s : MeshStep ContactStore => mesh.trust.evaluate s.contacts
      ⟨(nodes m).agent.agentId, (nodes m).agent.machineId⟩
    let sameMesh := (nodes m).config.mesh.name = (nodes n).config.mesh.name
    let handed := fun s : MeshStep ContactStore => DaemonInput.message s ∈ r.inputs ∧
      s.message.verified = true ∧ s.message.sender = some (nodes m).agent.agentId
    (∀ s, handed s → ∀ registry : TrustedPeerRegistry,
      let disposition := (registry.applyMessage mesh (nodes n).config
        (agentIdOf mesh nodes n) s.contacts s.now s.message).1
      (¬ sameMesh → disposition = .rejectedWrongMesh) ∧
      (sameMesh → allowsPeer (nodes n).config (decision s) = false →
        disposition = .rejectedTrust (decision s)) ∧
      (sameMesh → allowsPeer (nodes n).config (decision s) = true → disposition.accepted)) ∧
    ((∃ record ∈ (stateOf http mesh nodes n r).peers.snapshot,
        record.capability.identity.agentId = agentIdOf mesh nodes m) ↔
      sameMesh ∧ ∃ s, handed s ∧ allowsPeer (nodes n).config (decision s) = true) := by
  intro decision sameMesh handed
  have hauthentic := hnet.authentic hagents
  have hagent : (nodes n).agent.agentId ≠ (nodes m).agent.agentId :=
    fun heq => hne (hagents heq).symm
  refine ⟨?dispositions, ?listed, ?lists⟩
  case dispositions =>
    rintro s ⟨hs, hverified, hsender⟩ registry
    obtain ⟨-, capability, hannounced, hdecoded⟩ :=
      hauthentic.decoded hjson hrunning hs hverified hsender
    refine ⟨?_, ?_, ?_⟩
    · intro hmesh
      have hvet := hauthentic.vet_of_other_mesh hhex hagent hmesh hverified hsender hannounced
        hdecoded
      refine (step_fst registry s).trans ?_
      simp only [stepDisposition, hvet]
    · intro hmesh hdenied
      have hvetted := hauthentic.vetted hhex hagent hmesh hverified hsender hannounced hdecoded
      exact (step_eq_rejectedTrust_iff registry s _).mpr ⟨_, hvetted, rfl, hdenied⟩
    · intro hmesh hallowed
      have hvetted := hauthentic.vetted hhex hagent hmesh hverified hsender hannounced hdecoded
      exact (accepted_step_iff registry s).mpr
        ⟨_, { toVetted := hvetted, allowed := hallowed }⟩
  case listed =>
    rintro ⟨record, hrecord, hid⟩
    obtain ⟨s, hs, hverified, hsender, hadm, -, hannounced⟩ :=
      hauthentic.listed hhex hjson hrunning hrecord hid
    have hmesh := hadm.meshName
    obtain ⟨-, -, system, now, hlocal⟩ := hauthentic.announced m record.capability hannounced
    dsimp only at hmesh
    rw [hlocal] at hmesh
    exact ⟨hmesh, s, ⟨hs, hverified, hsender⟩, hadm.allowed⟩
  case lists =>
    rintro ⟨hmesh, s, ⟨hs, hverified, hsender⟩, hallowed⟩
    exact hauthentic.lists http hhex hjson hrunning hagent hmesh hs hverified hsender hallowed

theorem listed_iff_allowed_friends :
    ∃ record ∈ (stateOf plainHttp friendsCrates friendNodes 1 friendRunning).peers.snapshot,
      record.capability.identity.agentId = agentIdOf friendsCrates friendNodes 0 := by
  obtain ⟨net, hnet, hrunning, -⟩ := exists_friends_network
  have hne : (0 : Fin 3) ≠ 1 := by decide
  obtain ⟨-, hlisted⟩ := listed_iff_allowed plainHttp HexCrate.usual_decodesEncoded
    friendsCrates_roundTrips friendNodes_agent_injective hnet hrunning hne
  exact hlisted.mpr ⟨rfl, friendMessage, ⟨List.mem_cons_self, rfl, rfl⟩, friends_allowed⟩

end X0xCompute.Network
