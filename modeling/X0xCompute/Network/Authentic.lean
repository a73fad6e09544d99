import X0xCompute.Network

/-!
# What is on the network

Whatever happens, a verified message of a daemon's agent is an announcement of that daemon,
on its topic; and what a daemon has taken from its subscription was published to its topic.
-/

namespace X0xCompute.Network

open Lib

variable {N ContactStore : Type} (mesh : MeshCrates ContactStore) (nodes : N → Node)

/-- A running daemon subscribes only where its configuration says so, and everything it was
handed was published to its topic. -/
structure Listens (net : Network N ContactStore) (n : N) (r : Running ContactStore) :
    Prop where
  joined : r.subscribed = true → (nodes n).config.joinNetworkOnStart = true
  delivered : ∀ s, DaemonInput.message s ∈ r.inputs → r.subscribed = true ∧
    ∃ envelope ∈ net.envelopes,
      envelope.topic = (nodes n).config.capabilityTopic ∧ envelope.message = s.message

/-- What can be said of every network that comes about. -/
structure Authentic (net : Network N ContactStore) : Prop where
  listens : ∀ n r, net.running n = some r → Listens nodes net n r
  announced : ∀ m, ∀ capability ∈ net.announced m,
    (nodes m).config.joinNetworkOnStart = true ∧ (nodes m).config.announceOnStart = true ∧
      ∃ system now, capability =
        .local (nodes m).config ((nodes m).identity mesh.hex) system now
  signed : ∀ envelope ∈ net.envelopes, envelope.message.verified = true →
    ∀ m, envelope.message.sender = some (nodes m).agent.agentId →
      envelope.topic = (nodes m).config.capabilityTopic ∧
        ∃ capability ∈ net.announced m,
          mesh.json.toVec capability = .ok envelope.message.payload

variable {mesh nodes} {net net' : Network N ContactStore} {n : N} {r : Running ContactStore}

theorem Listens.mono (h : Listens nodes net n r) (hmore : net.envelopes ⊆ net'.envelopes) :
    Listens nodes net' n r where
  joined := h.joined
  delivered s hs := by
    obtain ⟨hsubscribed, envelope, hmem, hfrom⟩ := h.delivered s hs
    exact ⟨hsubscribed, envelope, hmore hmem, hfrom⟩

/-- An input that is no message, or one of the topic. -/
theorem Listens.input (h : Listens nodes net n r) {input : DaemonInput ContactStore}
    (hinput : ∀ s, input = .message s → r.subscribed = true ∧ ∃ envelope ∈ net.envelopes,
      envelope.topic = (nodes n).config.capabilityTopic ∧ envelope.message = s.message) :
    Listens nodes net n { r with inputs := r.inputs ++ [input] } where
  joined := h.joined
  delivered s hs := by
    rcases List.mem_append.mp hs with hold | hnew
    · exact h.delivered s hold
    · exact hinput s (List.mem_singleton.mp hnew).symm

theorem authentic_new : Authentic mesh nodes (new : Network N ContactStore) where
  listens _ _ h := by cases h
  announced _ _ h := by cases h
  signed _ h := by cases h

/-- A message that does not speak for a daemon. -/
theorem Authentic.forge (h : Authentic mesh nodes net) {envelope : Envelope}
    (hforged : envelope.message.verified = true →
      ∀ n, envelope.message.sender ≠ some (nodes n).agent.agentId) :
    Authentic mesh nodes { net with envelopes := net.envelopes ++ [envelope] } where
  listens m r hrunning := (h.listens m r hrunning).mono (List.subset_append_left _ _)
  announced := h.announced
  signed e he hverified m hsender := by
    rcases List.mem_append.mp he with hold | hnew
    · exact h.signed e hold hverified m hsender
    · rw [List.mem_singleton] at hnew
      subst hnew
      exact absurd hsender (hforged hverified m)

variable [DecidableEq N]

theorem running_move (next : Option (Running ContactStore)) (m : N) :
    (net.move n next).running m = if m = n then next else net.running m :=
  Function.update_apply ..

theorem announced_publish (agentId : AgentId) (publication : Publication)
    (capability : CapabilityAnnouncement) (m : N) :
    (net.publish n agentId publication capability).announced m =
      if m = n then net.announced n ++ [capability] else net.announced m :=
  Function.update_apply ..

theorem announced_subset_publish (agentId : AgentId) (publication : Publication)
    (capability : CapabilityAnnouncement) (m : N) :
    net.announced m ⊆ (net.publish n agentId publication capability).announced m := by
  rw [announced_publish]
  split
  · rename_i hm
    rw [hm]
    exact List.subset_append_left _ _
  · exact List.Subset.refl _

/-- Where a daemon comes to in its run, nothing is published. -/
theorem Authentic.move (h : Authentic mesh nodes net) {next : Option (Running ContactStore)}
    (hnext : ∀ r, next = some r → Listens nodes net n r) :
    Authentic mesh nodes (net.move n next) where
  listens m r hrunning := by
    rw [running_move] at hrunning
    split at hrunning
    · rename_i hm
      rw [hm]
      exact (hnext r hrunning).mono (List.Subset.refl _)
    · exact (h.listens m r hrunning).mono (List.Subset.refl _)
  announced := h.announced
  signed := h.signed

/-- An announcement of a daemon. -/
theorem Authentic.publish (h : Authentic mesh nodes net)
    (hagents : Function.Injective fun n => (nodes n).agent.agentId)
    (hjoin : (nodes n).config.joinNetworkOnStart = true)
    (hannounce : (nodes n).config.announceOnStart = true) {system : SystemReport} {now : U64}
    {publication : Publication} (htopic : publication.topic = (nodes n).config.capabilityTopic)
    (hpayload : mesh.json.toVec
      (.local (nodes n).config ((nodes n).identity mesh.hex) system now) =
        .ok publication.payload) :
    Authentic mesh nodes (net.publish n (nodes n).agent.agentId publication
      (.local (nodes n).config ((nodes n).identity mesh.hex) system now)) where
  listens m r hrunning := (h.listens m r hrunning).mono (List.subset_append_left _ _)
  announced m capability hcapability := by
    rw [announced_publish] at hcapability
    split at hcapability
    · rename_i hm
      subst hm
      rcases List.mem_append.mp hcapability with hold | hnew
      · exact h.announced m capability hold
      · exact ⟨hjoin, hannounce, system, now, List.mem_singleton.mp hnew⟩
    · exact h.announced m capability hcapability
  signed e he hverified m hsender := by
    rcases List.mem_append.mp he with hold | hnew
    · obtain ⟨hsame, capability, hcapability, hencoded⟩ := h.signed e hold hverified m hsender
      exact ⟨hsame, capability, announced_subset_publish _ _ _ _ hcapability, hencoded⟩
    · rw [List.mem_singleton] at hnew
      subst hnew
      have hm : n = m := hagents (Option.some.inj hsender)
      subst hm
      refine ⟨htopic, _, ?_, hpayload⟩
      rw [announced_publish, if_pos rfl]
      exact List.mem_append_right _ List.mem_cons_self

/-- What is handed to the agent is the encoding of the local capability. -/
theorem announceLocalCapability_publishes {json : SerdeJson CapabilityAnnouncement}
    {publish : Publication → Except String Unit} {config : ComputeConfig}
    {identity : AgentIdentitySnapshot} {system : SystemReport} {now : U64}
    {publication : Publication} {result : Except ComputeError CapabilityAnnouncement}
    (h : announceLocalCapability json publish config identity system now =
      (some publication, result)) :
    publication.topic = config.capabilityTopic ∧
      json.toVec (.local config identity system now) = .ok publication.payload := by
  rcases announceLocalCapability_cases h with ⟨text, hnone, -⟩ | ⟨payload, hencode, hsome, -⟩
  · cases hnone
  · cases hsome
    exact ⟨rfl, hencode⟩

theorem Authentic.step (h : Authentic mesh nodes net)
    (hagents : Function.Injective fun n => (nodes n).agent.agentId)
    (hstep : Step mesh nodes net net') : Authentic mesh nodes net' := by
  cases hstep with
  | start n system now =>
    apply h.move
    rintro r ⟨rfl⟩
    exact ⟨nofun, nofun⟩
  | stop n => exact h.move nofun
  | @subscribe n r hrunning hjoin hserving =>
    have hlistens := h.listens n r hrunning
    apply h.move
    rintro r' ⟨rfl⟩
    exact ⟨fun _ => hjoin, fun s hs => ⟨rfl, (hlistens.delivered s hs).2⟩⟩
  | @announce n r hrunning hsubscribed hserving hannounce publish system now publication result
      hpublish =>
    have hlistens := h.listens n r hrunning
    obtain ⟨htopic, hpayload⟩ := announceLocalCapability_publishes hpublish
    have hpublished := h.publish hagents (hlistens.joined hsubscribed) hannounce htopic hpayload
    apply hpublished.move
    intro r' hr'
    split at hr'
    · cases hr'
      exact ⟨hlistens.joined, (hlistens.mono (List.subset_append_left _ _)).delivered⟩
    · cases hr'
  | @serve n r hrunning hready =>
    have hlistens := h.listens n r hrunning
    apply h.move
    rintro r' ⟨rfl⟩
    exact ⟨hlistens.joined, hlistens.delivered⟩
  | @request n r hrunning hserving request now =>
    apply h.move
    rintro r' ⟨rfl⟩
    exact (h.listens n r hrunning).input nofun
  | @deliver n r hrunning hsubscribed envelope hpublished htopic contacts now =>
    apply h.move
    rintro r' ⟨rfl⟩
    refine (h.listens n r hrunning).input ?_
    rintro s ⟨rfl⟩
    exact ⟨hsubscribed, envelope, hpublished, htopic, rfl⟩
  | forge envelope hforged => exact h.forge hforged

theorem Reachable.authentic (h : Reachable mesh nodes net)
    (hagents : Function.Injective fun n => (nodes n).agent.agentId) :
    Authentic mesh nodes net := by
  induction h with
  | refl => exact authentic_new
  | tail _ hstep ih => exact ih.step hagents hstep

end X0xCompute.Network
