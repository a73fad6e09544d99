import X0xCompute.Config
import X0xCompute.Lib.Toml
import X0xCompute.Lib.Utf8

/-!
# The configuration as a TOML document

The codecs that the serde derives of `config.rs` build, each field under its name and its
attributes, and that none of them loses what it has read.
-/

namespace X0xCompute

open Lib Lib.Codec Lib.Fields

/-- How socket addresses are displayed and parsed. -/
structure SocketAddrText where
  display : SocketAddr → String
  parse : String → Option SocketAddr

/-- A parsed address is displayed as a text that is parsed to it again. -/
def SocketAddrText.RoundTrips (sockets : SocketAddrText) : Prop :=
  ∀ addr text, sockets.parse text = some addr → sockets.parse (sockets.display addr) = some addr

def SocketAddrText.codec (sockets : SocketAddrText) : Codec SocketAddr :=
  .parsed (fun addr => .ok (sockets.display addr)) sockets.parse

/-- The text of a path, which a path that is not UTF-8 does not have. -/
def PathBuf.text (path : PathBuf) : Except String String :=
  match utf8Text? path.bytes with
  | some text => .ok text
  | none => .error "path contains invalid UTF-8 characters"

/-- The path with the bytes of the text. -/
def PathBuf.ofText (text : String) : PathBuf := ⟨utf8 text⟩

def PathBuf.codec : Codec PathBuf := .parsed PathBuf.text fun text => some (.ofText text)

/-! ## The records -/

/-- The fields of the record, in the order of the source. -/
def MeshConfig.unpack : MeshConfig ≃ String × Bool × Bool × Bool where
  toFun mesh :=
    (mesh.name, mesh.trustedFriendsOnly, mesh.requireTrustedContacts, mesh.preferUserIdentity)
  invFun
    | (name, trustedFriendsOnly, requireTrustedContacts, preferUserIdentity) =>
      { name, trustedFriendsOnly, requireTrustedContacts, preferUserIdentity }

def MeshConfig.codec : Codec MeshConfig :=
  .record
    ((field "name" string).and <|
      (field "trusted_friends_only" boolean).and <|
      (field "require_trusted_contacts" boolean).and <|
      field "prefer_user_identity" boolean)
    unpack

/-- The name of a variant in snake case. -/
def RuntimeBackend.snakeCase : RuntimeBackend → String
  | .skeleton => "skeleton"

def RuntimeBackend.codec : Codec RuntimeBackend := .variant [.skeleton] snakeCase

def RuntimeConfig.unpack : RuntimeConfig ≃ RuntimeBackend × String where
  toFun runtime := (runtime.backend, runtime.skeletonResponsePrefix)
  invFun
    | (backend, skeletonResponsePrefix) => { backend, skeletonResponsePrefix }

def RuntimeConfig.codec : Codec RuntimeConfig :=
  .record
    ((field "backend" RuntimeBackend.codec).and <|
      field "skeleton_response_prefix" string)
    unpack

def ModelConfig.unpack : ModelConfig ≃ String × String × U32 × U32 × U16 × List String where
  toFun model :=
    (model.id, model.family, model.contextWindowTokens, model.maxOutputTokens,
      model.maxParallelReservations, model.tags)
  invFun
    | (id, family, contextWindowTokens, maxOutputTokens, maxParallelReservations, tags) =>
      { id, family, contextWindowTokens, maxOutputTokens, maxParallelReservations, tags }

def ModelConfig.codec : Codec ModelConfig :=
  .record
    ((field "id" string).and <|
      (field "family" string).and <|
      (field "context_window_tokens" (unsigned 32)).and <|
      (field "max_output_tokens" (unsigned 32)).and <|
      (field "max_parallel_reservations" (unsigned 16)).and <|
      fieldOrDefault [] "tags" (list string))
    unpack

def X0xConfig.unpack :
    X0xConfig ≃ Option PathBuf × Option PathBuf × Option PathBuf × Option PathBuf where
  toFun x0x := (x0x.machineKeyPath, x0x.agentKeyPath, x0x.userKeyPath, x0x.contactStorePath)
  invFun
    | (machineKeyPath, agentKeyPath, userKeyPath, contactStorePath) =>
      { machineKeyPath, agentKeyPath, userKeyPath, contactStorePath }

def X0xConfig.codec : Codec X0xConfig :=
  .record
    ((optionalField "machine_key_path" PathBuf.codec).and <|
      (optionalField "agent_key_path" PathBuf.codec).and <|
      (optionalField "user_key_path" PathBuf.codec).and <|
      optionalField "contact_store_path" PathBuf.codec)
    unpack

def ComputeConfig.unpack :
    ComputeConfig ≃ SocketAddr × PathBuf × String × Bool × Bool × Bool × U64 × MeshConfig ×
      RuntimeConfig × List ModelConfig × X0xConfig where
  toFun config :=
    (config.apiBind, config.dataDir, config.capabilityTopic, config.joinNetworkOnStart,
      config.announceOnStart, config.requireUserId, config.resourceAnnounceIntervalSecs,
      config.mesh, config.runtime, config.models, config.x0x)
  invFun
    | (apiBind, dataDir, capabilityTopic, joinNetworkOnStart, announceOnStart, requireUserId,
        resourceAnnounceIntervalSecs, mesh, runtime, models, x0x) =>
      { apiBind, dataDir, capabilityTopic, joinNetworkOnStart, announceOnStart, requireUserId,
        resourceAnnounceIntervalSecs, mesh, runtime, models, x0x }

def ComputeConfig.codec (sockets : SocketAddrText) : Codec ComputeConfig :=
  .record
    ((field "api_bind" sockets.codec).and <|
      (field "data_dir" PathBuf.codec).and <|
      (field "capability_topic" string).and <|
      (field "join_network_on_start" boolean).and <|
      (field "announce_on_start" boolean).and <|
      (field "require_user_id" boolean).and <|
      (field "resource_announce_interval_secs" (unsigned 64)).and <|
      (field "mesh" MeshConfig.codec).and <|
      (field "runtime" RuntimeConfig.codec).and <|
      (fieldOrDefault [] "models" (list ModelConfig.codec)).and <|
      field "x0x" X0xConfig.codec)
    unpack

/-! ## Faithfulness -/

theorem SocketAddrText.codec_faithful {sockets : SocketAddrText} (h : sockets.RoundTrips) :
    sockets.codec.Faithful := by
  apply parsed_faithful
  intro addr text hparse
  exact ⟨sockets.display addr, rfl, h addr text hparse⟩

/-- Exactly the paths that are UTF-8 can be written. -/
theorem PathBuf.text_eq_ok_iff {path : PathBuf} {text : String} :
    path.text = .ok text ↔ path = .ofText text := by
  cases path with
  | mk bytes =>
    rw [PathBuf.ofText, PathBuf.mk.injEq, @eq_comm _ bytes, ← utf8Text?_eq_some_iff,
      PathBuf.text]
    cases utf8Text? bytes with
    | none => simp
    | some text' => simp

theorem PathBuf.codec_keeps (text : String) : PathBuf.codec.Keeps (.ofText text) :=
  parsed_keeps (PathBuf.text_eq_ok_iff.mpr rfl) rfl

theorem PathBuf.codec_faithful : PathBuf.codec.Faithful := by
  intro v path hdecode
  cases v with
  | string text =>
    cases hdecode
    exact PathBuf.codec_keeps text
  | _ => cases hdecode

theorem MeshConfig.codec_faithful : MeshConfig.codec.Faithful := by
  apply record_faithful
  apply and_faithful (by simp) (field_faithful string_faithful _)
  apply and_faithful (by simp) (field_faithful boolean_faithful _)
  apply and_faithful (by simp) (field_faithful boolean_faithful _)
  exact field_faithful boolean_faithful _

theorem RuntimeBackend.codec_faithful : RuntimeBackend.codec.Faithful := by
  intro v backend _
  apply variant_keeps
  cases backend
  rfl

theorem RuntimeConfig.codec_faithful : RuntimeConfig.codec.Faithful := by
  apply record_faithful
  apply and_faithful (by simp) (field_faithful RuntimeBackend.codec_faithful _)
  exact field_faithful string_faithful _

theorem ModelConfig.codec_faithful : ModelConfig.codec.Faithful := by
  apply record_faithful
  apply and_faithful (by simp) (field_faithful string_faithful _)
  apply and_faithful (by simp) (field_faithful string_faithful _)
  apply and_faithful (by simp) (field_faithful (unsigned_faithful 32) _)
  apply and_faithful (by simp) (field_faithful (unsigned_faithful 32) _)
  apply and_faithful (by simp) (field_faithful (unsigned_faithful 16) _)
  exact fieldOrDefault_faithful (list_faithful string_faithful) (list_keeps (by simp)) _

theorem X0xConfig.codec_faithful : X0xConfig.codec.Faithful := by
  apply record_faithful
  apply and_faithful (by simp) (optionalField_faithful PathBuf.codec_faithful _)
  apply and_faithful (by simp) (optionalField_faithful PathBuf.codec_faithful _)
  apply and_faithful (by simp) (optionalField_faithful PathBuf.codec_faithful _)
  exact optionalField_faithful PathBuf.codec_faithful _

/-- A configuration that was read can be written and is read back from what is written. -/
theorem ComputeConfig.codec_faithful {sockets : SocketAddrText} (h : sockets.RoundTrips) :
    (ComputeConfig.codec sockets).Faithful := by
  apply record_faithful
  apply and_faithful (by simp) (field_faithful (SocketAddrText.codec_faithful h) _)
  apply and_faithful (by simp) (field_faithful PathBuf.codec_faithful _)
  apply and_faithful (by simp) (field_faithful string_faithful _)
  apply and_faithful (by simp) (field_faithful boolean_faithful _)
  apply and_faithful (by simp) (field_faithful boolean_faithful _)
  apply and_faithful (by simp) (field_faithful boolean_faithful _)
  apply and_faithful (by simp) (field_faithful (unsigned_faithful 64) _)
  apply and_faithful (by simp) (field_faithful MeshConfig.codec_faithful _)
  apply and_faithful (by simp) (field_faithful RuntimeConfig.codec_faithful _)
  apply and_faithful (by simp)
    (fieldOrDefault_faithful (list_faithful ModelConfig.codec_faithful) (list_keeps (by simp)) _)
  exact field_faithful X0xConfig.codec_faithful _

/-! ## What can be stored -/

/-- The paths in a configuration. -/
def ComputeConfig.paths (config : ComputeConfig) : List PathBuf :=
  config.dataDir :: [config.x0x.machineKeyPath, config.x0x.agentKeyPath,
    config.x0x.userKeyPath, config.x0x.contactStorePath].filterMap id

/-- The paths of the configuration are UTF-8, and its interval is within the integers of
TOML. -/
structure ComputeConfig.Storable (config : ComputeConfig) : Prop where
  paths : ∀ path ∈ config.paths, ∃ text, path.text = .ok text
  interval : config.resourceAnnounceIntervalSecs.toNat < 2 ^ 63

/-- Exactly the storable configurations can be written. -/
theorem ComputeConfig.codec_encodes_iff {sockets : SocketAddrText} {config : ComputeConfig} :
    (ComputeConfig.codec sockets).Encodes config ↔ config.Storable := by
  have hsockets : sockets.codec.Encodes config.apiBind := ⟨_, rfl⟩
  have hpath : ∀ path, PathBuf.codec.Encodes path ↔ ∃ text, path.text = .ok text :=
    fun _ => parsed_encodes_iff
  have hmodel : ∀ model, ModelConfig.codec.Encodes model := by
    intro model
    have hcontext := model.contextWindowTokens.isLt
    have houtput := model.maxOutputTokens.isLt
    have hslots := model.maxParallelReservations.isLt
    simp only [ModelConfig.codec, record_encodes_iff, and_encodes_iff, field_encodes_iff,
      fieldOrDefault_encodes_iff, string_encodes, unsigned_encodes_iff, list_encodes_iff,
      ModelConfig.unpack, Equiv.coe_fn_mk]
    refine ⟨trivial, trivial, ?_, ?_, ?_, fun _ _ => trivial⟩ <;> omega
  have hmesh : MeshConfig.codec.Encodes config.mesh := by simp [MeshConfig.codec]
  have hruntime : RuntimeConfig.codec.Encodes config.runtime := by
    simp [RuntimeConfig.codec, RuntimeBackend.codec]
  simp only [ComputeConfig.codec, record_encodes_iff, and_encodes_iff, field_encodes_iff,
    fieldOrDefault_encodes_iff, string_encodes, boolean_encodes, unsigned_encodes_iff,
    list_encodes_iff, unpack, Equiv.coe_fn_mk]
  have hstorable : config.Storable ↔ (∀ path ∈ config.paths, ∃ text, path.text = .ok text) ∧
      config.resourceAnnounceIntervalSecs.toNat < 2 ^ 63 :=
    ⟨fun h => ⟨h.paths, h.interval⟩, fun h => ⟨h.1, h.2⟩⟩
  rw [hstorable]
  simp [hsockets, hpath, hmodel, hmesh, hruntime, X0xConfig.codec, X0xConfig.unpack,
    ComputeConfig.paths, or_imp, forall_and, @eq_comm _ (some _)]
  tauto

theorem PathBuf.codec_keeps_of_text {path : PathBuf} (h : ∃ text, path.text = .ok text) :
    PathBuf.codec.Keeps path := by
  obtain ⟨text, htext⟩ := h
  rw [PathBuf.text_eq_ok_iff.mp htext]
  exact PathBuf.codec_keeps text

theorem ModelConfig.codec_keeps (model : ModelConfig) : ModelConfig.codec.Keeps model := by
  have hlt {w : ℕ} (n : BitVec w) (hw : w ≤ 63) : n.toNat < 2 ^ 63 :=
    lt_of_lt_of_le n.isLt (Nat.pow_le_pow_right (by decide) hw)
  apply record_keeps
  apply and_keeps (by simp) (field_keeps _ (string_keeps _))
  apply and_keeps (by simp) (field_keeps _ (string_keeps _))
  apply and_keeps (by simp) (field_keeps _ (unsigned_keeps (hlt _ (by decide))))
  apply and_keeps (by simp) (field_keeps _ (unsigned_keeps (hlt _ (by decide))))
  apply and_keeps (by simp) (field_keeps _ (unsigned_keeps (hlt _ (by decide))))
  exact fieldOrDefault_keeps _ _ (list_keeps fun tag _ => string_keeps tag)

theorem MeshConfig.codec_keeps (mesh : MeshConfig) : MeshConfig.codec.Keeps mesh := by
  apply record_keeps
  apply and_keeps (by simp) (field_keeps _ (string_keeps _))
  apply and_keeps (by simp) (field_keeps _ (boolean_keeps _))
  apply and_keeps (by simp) (field_keeps _ (boolean_keeps _))
  exact field_keeps _ (boolean_keeps _)

theorem RuntimeConfig.codec_keeps (runtime : RuntimeConfig) :
    RuntimeConfig.codec.Keeps runtime := by
  apply record_keeps
  apply and_keeps (by simp) (field_keeps _ ?_)
  · exact field_keeps _ (string_keeps _)
  · apply variant_keeps
    cases runtime.backend
    rfl

theorem X0xConfig.codec_keeps {x0x : X0xConfig}
    (h : ∀ path ∈ [x0x.machineKeyPath, x0x.agentKeyPath, x0x.userKeyPath,
      x0x.contactStorePath].filterMap id, ∃ text, path.text = .ok text) :
    X0xConfig.codec.Keeps x0x := by
  have hoptional : ∀ name, ∀ o ∈ [x0x.machineKeyPath, x0x.agentKeyPath, x0x.userKeyPath,
      x0x.contactStorePath], (optionalField name PathBuf.codec).Keeps o := by
    intro name o ho
    cases o with
    | none => exact optionalField_keeps_none name PathBuf.codec
    | some path =>
      have htext := h path (List.mem_filterMap.mpr ⟨some path, ho, rfl⟩)
      exact optionalField_keeps_some name (PathBuf.codec_keeps_of_text htext)
  apply record_keeps
  apply and_keeps (by simp) (hoptional _ _ (by simp))
  apply and_keeps (by simp) (hoptional _ _ (by simp))
  apply and_keeps (by simp) (hoptional _ _ (by simp))
  exact hoptional _ _ (by simp)

/-- A storable configuration is read back from what is written, if its address is. -/
theorem ComputeConfig.codec_keeps {sockets : SocketAddrText} {config : ComputeConfig}
    (h : config.Storable)
    (hsocket : sockets.parse (sockets.display config.apiBind) = some config.apiBind) :
    (ComputeConfig.codec sockets).Keeps config := by
  have hpaths := List.forall_mem_cons.mp h.paths
  have haddr : sockets.codec.Keeps config.apiBind := parsed_keeps rfl hsocket
  apply record_keeps
  apply and_keeps (by simp) (field_keeps _ haddr)
  apply and_keeps (by simp) (field_keeps _ (PathBuf.codec_keeps_of_text hpaths.1))
  apply and_keeps (by simp) (field_keeps _ (string_keeps _))
  apply and_keeps (by simp) (field_keeps _ (boolean_keeps _))
  apply and_keeps (by simp) (field_keeps _ (boolean_keeps _))
  apply and_keeps (by simp) (field_keeps _ (boolean_keeps _))
  apply and_keeps (by simp) (field_keeps _ (unsigned_keeps h.interval))
  apply and_keeps (by simp) (field_keeps _ (MeshConfig.codec_keeps _))
  apply and_keeps (by simp) (field_keeps _ (RuntimeConfig.codec_keeps _))
  apply and_keeps (by simp)
    (fieldOrDefault_keeps _ _ (list_keeps fun model _ => ModelConfig.codec_keeps model))
  exact field_keeps _ (X0xConfig.codec_keeps hpaths.2)

end X0xCompute
