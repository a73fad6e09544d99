import X0xCompute.Capability
import X0xCompute.Runtime.Refinement

/-!
# The announced models and the served inventory

An announcement lists the id of every configured entry; the adapter collects the entries
into a map keyed by id. The two lists agree exactly when the configured ids are distinct.
-/

namespace X0xCompute

open Lib

/-- What a node announces agrees with what its runtime serves: the same ids as often, and
one inventory entry for each configured one, with its number of slots. -/
structure InventoryAgrees (config : ComputeConfig) (announced : CapabilityAnnouncement)
    (state : SkeletonRuntimeState) : Prop where
  local_ids :
    (((buildRuntime config).localModels state).map LocalModelInventory.id).Perm
      announced.availableModels
  openai_ids :
    (((buildRuntime config).openaiModels state).data.map OpenAiModelCard.id).Perm
      announced.availableModels
  slots :
    (((buildRuntime config).localModels state).map fun entry => (entry.id, entry.totalSlots)).Perm
      (config.models.map fun model => (model.id, model.maxParallelReservations))
  represented :
    ∀ model ∈ config.models,
      (((buildRuntime config).localModels state).filter (·.id = model.id)).map
        LocalModelInventory.totalSlots = [model.maxParallelReservations]

namespace SkeletonRuntimeAdapter

variable (self : SkeletonRuntimeAdapter) (state : SkeletonRuntimeState)

theorem map_id_localModels :
    (self.localModels state).map LocalModelInventory.id =
      (values self.models).map ModelConfig.id := by
  simp [localModels, inventoryForModel, Function.comp_def]

theorem map_id_openaiModels :
    (self.openaiModels state).data.map OpenAiModelCard.id =
      (self.localModels state).map LocalModelInventory.id := by
  simp [openaiModels, Function.comp_def]

theorem map_slots_localModels :
    ((self.localModels state).map fun entry => (entry.id, entry.totalSlots)) =
      (values self.models).map fun model => (model.id, model.maxParallelReservations) := by
  simp [localModels, inventoryForModel, Function.comp_def]

/-- No id is served twice. -/
theorem nodup_map_id_localModels :
    ((self.localModels state).map LocalModelInventory.id).Nodup := by
  have hkeys : (values self.models).map ModelConfig.id = self.models.toList.map Prod.fst := by
    rw [values, List.map_map]
    apply List.map_congr_left
    intro p hp
    exact self.keyed _ _ (Std.ExtTreeMap.mem_toList_iff_getElem?_eq_some.mp hp)
  rw [map_id_localModels, hkeys]
  exact nodup_map_fst_toList self.models

end SkeletonRuntimeAdapter

/-- The adapter serves entries with distinct ids, each as it is configured. -/
theorem values_models_perm {config : ComputeConfig}
    (hnodup : (config.models.map ModelConfig.id).Nodup) :
    (values (buildRuntime config).models).Perm config.models := by
  have hkeys : ((config.models.map fun model => (model.id, model)).map Prod.fst).Nodup := by
    simpa [Function.comp_def] using hnodup
  have hvalues : (values (buildRuntime config).models).Perm _ := values_ofList_perm hkeys
  rwa [List.map_map, Function.comp_def, List.map_id'] at hvalues

/-- The announced models agree with the inventory, in every state of the runtime, exactly
when the configured ids are distinct. -/
theorem inventory_agrees_iff (config : ComputeConfig) (identity : AgentIdentitySnapshot)
    (system : SystemReport) (now : U64) (state : SkeletonRuntimeState) :
    InventoryAgrees config (.local config identity system now) state ↔
      (config.models.map ModelConfig.id).Nodup := by
  refine ⟨?_, ?_⟩
  · intro h
    exact h.local_ids.nodup_iff.mp (SkeletonRuntimeAdapter.nodup_map_id_localModels _ state)
  · intro hnodup
    have hvalues := values_models_perm hnodup
    have hids : (((buildRuntime config).localModels state).map LocalModelInventory.id).Perm
        (config.models.map ModelConfig.id) := by
      rw [SkeletonRuntimeAdapter.map_id_localModels]
      exact hvalues.map _
    have hslots : (((buildRuntime config).localModels state).map
        fun entry => (entry.id, entry.totalSlots)).Perm
          (config.models.map fun model => (model.id, model.maxParallelReservations)) := by
      rw [SkeletonRuntimeAdapter.map_slots_localModels]
      exact hvalues.map _
    refine ⟨hids, ?_, hslots, ?_⟩
    · rw [SkeletonRuntimeAdapter.map_id_openaiModels]
      exact hids
    · intro model hmodel
      have hfilter := (hslots.filter (fun p => p.1 = model.id)).map Prod.snd
      rw [List.filter_map, List.filter_map, List.map_map, List.map_map] at hfilter
      have hone := filter_key_of_nodup hnodup hmodel
      simp only [Function.comp_def, hone] at hfilter
      exact List.perm_singleton.mp hfilter

/-! ## Two entries under one id -/

/-- The id is configured twice, with one slot and with two. -/
def twinConfig : ComputeConfig :=
  { ComputeConfig.default ⟨[]⟩ with
    models :=
      [{ twoSlotModel "gemma" with maxParallelReservations := 1 }, twoSlotModel "gemma"] }

def twinAnnouncement : CapabilityAnnouncement :=
  .local twinConfig
    (.fromAgent .usual
      { machineId := ⟨Vector.replicate 32 0xaa⟩
        agentId := ⟨Vector.replicate 32 0xaa⟩
        userId := none })
    { cpuBrands := []
      hostName := none
      totalMemory := 0
      availableMemory := 0 }
    0

/-- The id is announced twice and served once, and the slot of the first entry is dropped. -/
theorem inventory_of_twins :
    twinAnnouncement.availableModels = ["gemma", "gemma"] ∧
      (((buildRuntime twinConfig).localModels .new).map
        fun entry => (entry.id, entry.totalSlots)) = [("gemma", 2)] ∧
      ¬ InventoryAgrees twinConfig twinAnnouncement .new := by
  have hserved : (((buildRuntime twinConfig).localModels .new).map
      fun entry => (entry.id, entry.totalSlots)) = [("gemma", 2)] := by rfl
  refine ⟨rfl, hserved, ?_⟩
  intro h
  have hlength := h.slots.length_eq
  rw [hserved] at hlength
  cases hlength

end X0xCompute
