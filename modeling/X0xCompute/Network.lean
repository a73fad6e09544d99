import X0xCompute.Daemon.Runs
import X0xCompute.Mesh.Announce

/-!
# A network of daemons

Daemons on one gossip network. Each starts, joins and announces as `ComputeDaemon::run` does,
and may be stopped and started again. The network delivers any message that was ever
published, to any subscriber of its topic, in any order and any number of times. Agents that
are no daemon's may publish anything in their own name, and anyone may send messages that do
not pass the verification of their sender.
-/

namespace X0xCompute

open Lib

/-- A message on the network, and the topic it was published to. -/
structure Envelope where
  topic : String
  message : PubSubMessage

/-- A daemon: its configuration and its agent. -/
structure Node where
  config : ComputeConfig
  agent : Agent

def Node.identity (hex : HexCrate) (node : Node) : AgentIdentitySnapshot :=
  .fromAgent hex node.agent

/-- A daemon that was started: what its hardware and clock said then, how far it has come in
`ComputeDaemon::run`, and what it has taken since. -/
structure Running (ContactStore : Type) where
  system : SystemReport
  startedAt : U64
  subscribed : Bool
  serving : Bool
  inputs : List (DaemonInput ContactStore)

/-- The network: everything published, the daemons that run, and what each has announced. -/
structure Network (N ContactStore : Type) where
  envelopes : List Envelope
  running : N → Option (Running ContactStore)
  announced : N → List CapabilityAnnouncement

namespace Network

variable {N ContactStore : Type}

/-- Nothing published, no daemon running. -/
def new : Network N ContactStore where
  envelopes := []
  running _ := none
  announced _ := []

variable [DecidableEq N]

/-- A daemon comes to another point of its run, or stops. -/
def move (net : Network N ContactStore) (n : N) (next : Option (Running ContactStore)) :
    Network N ContactStore :=
  { net with running := Function.update net.running n next }

/-- A daemon's agent publishes the payload of a capability, in its own name. -/
def publish (net : Network N ContactStore) (n : N) (agentId : AgentId)
    (publication : Publication) (capability : CapabilityAnnouncement) :
    Network N ContactStore :=
  { net with
    envelopes := net.envelopes ++
      [⟨publication.topic, ⟨publication.payload, some agentId, true⟩⟩]
    announced := Function.update net.announced n (net.announced n ++ [capability]) }

variable (http : HttpCrates) (mesh : MeshCrates ContactStore) (nodes : N → Node)

/-- The state of a running daemon. -/
def stateOf (n : N) (r : Running ContactStore) : AppState :=
  (daemonMachine http mesh).exec
    (.new mesh.hex (nodes n).config (nodes n).agent r.system r.startedAt) r.inputs

/-- What can happen on the network. -/
inductive Step : Network N ContactStore → Network N ContactStore → Prop where
  | start (net : Network N ContactStore) (n : N) (system : SystemReport) (now : U64) :
      Step net (net.move n (some ⟨system, now, false, false, []⟩))
  | stop (net : Network N ContactStore) (n : N) : Step net (net.move n none)
  | subscribe {net : Network N ContactStore} {n : N} {r : Running ContactStore}
      (hrunning : net.running n = some r)
      (hjoin : (nodes n).config.joinNetworkOnStart = true) (hserving : r.serving = false) :
      Step net (net.move n (some { r with subscribed := true }))
  | announce {net : Network N ContactStore} {n : N} {r : Running ContactStore}
      (hrunning : net.running n = some r) (hsubscribed : r.subscribed = true)
      (hserving : r.serving = false) (hannounce : (nodes n).config.announceOnStart = true)
      {publish : Publication → Except String Unit} {system : SystemReport} {now : U64}
      {publication : Publication} {result : Except ComputeError CapabilityAnnouncement}
      (hpublish : announceLocalCapability mesh.json publish (nodes n).config
        ((nodes n).identity mesh.hex) system now = (some publication, result)) :
      -- a failed announcement ends the run, whether or not the message got out
      Step net ((net.publish n (nodes n).agent.agentId publication
          (.local (nodes n).config ((nodes n).identity mesh.hex) system now)).move n
        (if result.isOk then some { r with serving := true } else none))
  | serve {net : Network N ContactStore} {n : N} {r : Running ContactStore}
      (hrunning : net.running n = some r)
      (hready : (nodes n).config.joinNetworkOnStart = false ∨
        r.subscribed = true ∧ (nodes n).config.announceOnStart = false) :
      Step net (net.move n (some { r with serving := true }))
  | request {net : Network N ContactStore} {n : N} {r : Running ContactStore}
      (hrunning : net.running n = some r) (hserving : r.serving = true)
      (request : HttpRequest) (now : U64) :
      Step net (net.move n (some { r with inputs := r.inputs ++ [.request request now] }))
  | deliver {net : Network N ContactStore} {n : N} {r : Running ContactStore}
      (hrunning : net.running n = some r) (hsubscribed : r.subscribed = true)
      {envelope : Envelope} (hpublished : envelope ∈ net.envelopes)
      (htopic : envelope.topic = (nodes n).config.capabilityTopic)
      (contacts : ContactStore) (now : U64) :
      Step net (net.move n
        (some { r with inputs := r.inputs ++ [.message ⟨envelope.message, contacts, now⟩] }))
  | forge (net : Network N ContactStore) (envelope : Envelope)
      (hforged : envelope.message.verified = true →
        ∀ n, envelope.message.sender ≠ some (nodes n).agent.agentId) :
      Step net { net with envelopes := net.envelopes ++ [envelope] }

/-- A network that can come about. -/
def Reachable (net : Network N ContactStore) : Prop :=
  Relation.ReflTransGen (Step mesh nodes) new net

end Network

end X0xCompute
