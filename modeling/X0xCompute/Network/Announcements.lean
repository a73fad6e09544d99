import X0xCompute.Network.Listing

/-!
# When a daemon speaks

The source has a daemon announce itself while it starts and at no other time: the interval in
its configuration is read by nothing. So what is known of a daemon on the network is as old as
its last start.
-/

namespace X0xCompute.Network

open Lib Relation

variable {N ContactStore : Type} {mesh : MeshCrates ContactStore} {nodes : N → Node}
  {net net' : Network N ContactStore} {n : N}

/-- The verified messages of a daemon's agent. -/
def spoken (nodes : N → Node) (n : N) (net : Network N ContactStore) : List Envelope :=
  net.envelopes.filter fun e =>
    e.message.verified ∧ e.message.sender = some (nodes n).agent.agentId

/-- How many announcements a daemon may still make before it serves. -/
def awaited : Option (Running ContactStore) → ℕ
  | some r => if r.serving then 0 else 1
  | none => 0

theorem spoken_concat (n : N) (net : Network N ContactStore) (envelope : Envelope) :
    spoken nodes n { net with envelopes := net.envelopes ++ [envelope] } =
      spoken nodes n net ++ spoken nodes n { net with envelopes := [envelope] } :=
  List.filter_append ..

variable [DecidableEq N]

/-- A start of the daemon. -/
def Starts (n : N) (net net' : Network N ContactStore) : Prop :=
  ∃ system now, net' = net.move n (some ⟨system, now, false, false, []⟩)

/-- A daemon that comes to another point of its run without speaking. -/
theorem spoken_move {m : N} {next : Option (Running ContactStore)}
    (h : awaited next ≤ awaited (net.running m)) :
    (spoken nodes n (net.move m next)).length + awaited ((net.move m next).running n) ≤
      (spoken nodes n net).length + awaited (net.running n) := by
  have hsame : spoken nodes n (net.move m next) = spoken nodes n net := rfl
  rw [hsame, running_move]
  by_cases hm : n = m
  · subst hm
    simpa using h
  · simp [hm]

/-- A message of another agent is none of the daemon's. -/
theorem spoken_publish_of_ne {m : N} (hne : (nodes m).agent.agentId ≠ (nodes n).agent.agentId)
    (publication : Publication) (capability : CapabilityAnnouncement) :
    spoken nodes n (net.publish m (nodes m).agent.agentId publication capability) =
      spoken nodes n net := by
  simp [spoken, publish, hne]

/-- Without another start, a message takes the place of an announcement that was awaited. -/
theorem spoken_step (hagents : Function.Injective fun n => (nodes n).agent.agentId)
    (hstep : Step mesh nodes net net') (hstart : ¬ Starts n net net') :
    (spoken nodes n net').length + awaited (net'.running n) ≤
      (spoken nodes n net).length + awaited (net.running n) := by
  cases hstep with
  | start m system now =>
    by_cases hm : n = m
    · subst hm
      exact absurd ⟨system, now, rfl⟩ hstart
    · rw [running_move, if_neg hm]
      exact Nat.le_refl _
  | stop m => exact spoken_move (Nat.zero_le _)
  | subscribe hrunning hjoin hserving =>
    apply spoken_move
    simp [awaited, hrunning]
  | @announce m r hrunning hsubscribed hserving hannounce publish system now publication result
      hpublish =>
    rw [running_move]
    by_cases hm : n = m
    · -- the announcement that was awaited, and no other
      subst hm
      have hdone : awaited (if result.isOk then some { r with serving := true } else none) = 0 := by
        split <;> rfl
      have hwaited : awaited (some r) = 1 := by simp [awaited, hserving]
      rw [if_pos rfl, hdone, hrunning, hwaited]
      simp [spoken, Network.publish, move]
    · have hne : (nodes m).agent.agentId ≠ (nodes n).agent.agentId := fun h => hm (hagents h).symm
      have hsame := @spoken_publish_of_ne _ _ _ net _ _ _ hne publication
        (.local (nodes m).config ((nodes m).identity mesh.hex) system now)
      rw [if_neg hm]
      exact Nat.add_le_add_right (congrArg List.length hsame).le _
  | serve hrunning hready =>
    apply spoken_move
    simp [awaited]
  | request hrunning hserving request now =>
    apply spoken_move
    simp [awaited, hrunning]
  | deliver hrunning hsubscribed hpublished htopic contacts now =>
    apply spoken_move
    simp [awaited, hrunning]
  | forge envelope hforged =>
    have hnone : spoken nodes n { net with envelopes := [envelope] } = [] := by
      by_cases hverified : envelope.message.verified = true
      · simp [spoken, hforged hverified n]
      · simp [spoken, hverified]
    rw [spoken_concat, hnone, List.append_nil]

/-- What was published stays. -/
theorem envelopes_step (hstep : Step mesh nodes net net') : net.envelopes <+: net'.envelopes := by
  cases hstep with
  | announce | forge => exact List.prefix_append _ _
  | start | stop | subscribe | serve | request | deliver => exact List.prefix_refl _

/-- A path on which the daemon is not started again. -/
def Unstarted (mesh : MeshCrates ContactStore) (nodes : N → Node) (n : N) :
    Network N ContactStore → Network N ContactStore → Prop :=
  ReflTransGen fun a b => Step mesh nodes a b ∧ ¬ Starts n a b

theorem Unstarted.reachable (hpath : Unstarted mesh nodes n net net')
    (hnet : Reachable mesh nodes net) : Reachable mesh nodes net' := by
  induction hpath with
  | refl => exact hnet
  | tail _ hstep ih => exact ih.tail hstep.1

theorem Unstarted.spoken_le (hagents : Function.Injective fun n => (nodes n).agent.agentId)
    (hpath : Unstarted mesh nodes n net net') :
    (spoken nodes n net').length + awaited (net'.running n) ≤
      (spoken nodes n net).length + awaited (net.running n) := by
  induction hpath with
  | refl => exact Nat.le_refl _
  | tail _ hstep ih => exact (spoken_step hagents hstep.1 hstep.2).trans ih

theorem Unstarted.spoken_prefix (hpath : Unstarted mesh nodes n net net') :
    spoken nodes n net <+: spoken nodes n net' := by
  induction hpath with
  | refl => exact List.prefix_refl _
  | tail _ hstep ih => exact ih.trans ((envelopes_step hstep.1).filter _)

/-- A daemon that serves, or does not run, is silent. -/
theorem Unstarted.spoken_eq (hagents : Function.Injective fun n => (nodes n).agent.agentId)
    (hpath : Unstarted mesh nodes n net net') (hdone : awaited (net.running n) = 0) :
    spoken nodes n net' = spoken nodes n net := by
  have hle := hpath.spoken_le hagents
  rw [hdone] at hle
  exact (hpath.spoken_prefix.eq_of_length (by have := hpath.spoken_prefix.length_le; omega)).symm

/-- A daemon speaks once a start. From any network that comes about, and whatever happens until
the daemon is started again, there is at most one further verified message of its agent;
there is none if the daemon serves or does not run; and then whatever any daemon lists of it
later is decoded from a message that was published before. -/
theorem speaks_once_a_start (http : HttpCrates) (hhex : mesh.hex.DecodesEncoded)
    (hjson : mesh.json.RoundTrips)
    (hagents : Function.Injective fun n => (nodes n).agent.agentId)
    (hnet : Reachable mesh nodes net) (hpath : Unstarted mesh nodes n net net') :
    (∃ later, spoken nodes n net' = spoken nodes n net ++ later ∧ later.length ≤ 1) ∧
    ((∀ r, net.running n = some r → r.serving = true) →
      spoken nodes n net' = spoken nodes n net ∧
      ∀ m r, net'.running m = some r →
        ∀ record ∈ (stateOf http mesh nodes m r).peers.snapshot,
          record.capability.identity.agentId = agentIdOf mesh nodes n →
            ∃ envelope ∈ spoken nodes n net,
              mesh.json.fromSlice envelope.message.payload = .ok record.capability) := by
  refine ⟨?_, ?_⟩
  · obtain ⟨later, hlater⟩ := hpath.spoken_prefix
    refine ⟨later, hlater.symm, ?_⟩
    have hle := hpath.spoken_le hagents
    have hone : awaited (net.running n) ≤ 1 := by
      unfold awaited
      split
      · split <;> omega
      · omega
    rw [← hlater, List.length_append] at hle
    omega
  · intro hserving
    have hdone : awaited (net.running n) = 0 := by
      cases hrunning : net.running n with
      | none => rfl
      | some r => simp [awaited, hserving r hrunning]
    have hsame := hpath.spoken_eq hagents hdone
    refine ⟨hsame, ?_⟩
    intro m r hrunning record hrecord hagent
    have hauthentic := (hpath.reachable hnet).authentic hagents
    obtain ⟨s, hs, hverified, hsender, hadm, -, -⟩ :=
      hauthentic.listed hhex hjson hrunning hrecord hagent
    obtain ⟨-, envelope, hmem, -, hmessage⟩ := (hauthentic.listens m r hrunning).delivered s hs
    refine ⟨envelope, ?_, ?_⟩
    · rw [← hsame]
      refine List.mem_filter.mpr ⟨hmem, ?_⟩
      simp [hmessage, hverified, hsender]
    · rw [hmessage]
      exact hadm.decoded

/-- What the second friend lists of the first was published before. -/
theorem speaks_once_a_start_friends :
    ∃ net, Reachable friendsCrates friendNodes net ∧
      ∃ envelope ∈ spoken friendNodes 0 net, ∃ capability,
        friendsCrates.json.fromSlice envelope.message.payload = .ok capability := by
  obtain ⟨net, hnet, hrunning, -, first, hfirst, hserving⟩ := exists_friends_network
  obtain ⟨record, hrecord, hagent⟩ := friends_listed hnet hrunning (by decide)
  obtain ⟨-, hsilent⟩ := speaks_once_a_start plainHttp HexCrate.usual_decodesEncoded
    friendsCrates_roundTrips friendNodes_agent_injective hnet (.refl : Unstarted _ _ 0 net net)
  have hserves : ∀ r, net.running 0 = some r → r.serving = true := by
    intro r hr
    rw [hfirst] at hr
    cases hr
    exact hserving
  obtain ⟨envelope, hmem, hdecoded⟩ :=
    (hsilent hserves).2 1 friendRunning hrunning record hrecord hagent
  exact ⟨net, hnet, envelope, hmem, _, hdecoded⟩

end X0xCompute.Network
