import X0xCompute.Mesh.Admission

/-!
# The registry as the history of its admissible messages

A run of the message handler is a sequence of keyed writes, so the record at a key is the
replay of the admissible messages whose authenticated sender has that key. The record holds
the capability and decision of the last of them, and the clock readings of the first and
the last.
-/

namespace X0xCompute

open Lib

variable {ContactStore : Type} {crates : MeshCrates ContactStore} {config : ComputeConfig}
  {localAgentId : String}

/-- A message is vetted in one way at most. -/
theorem Vetted.unique {s : MeshStep ContactStore} {v v' : Vetting}
    (h : Vetted crates config localAgentId s v) (h' : Vetted crates config localAgentId s v') :
    v = v' := by
  have hsame := (vet_eq_ok_iff.mpr h).symm.trans (vet_eq_ok_iff.mpr h')
  exact Except.ok.inj hsame

theorem admission_eq_some_iff {s : MeshStep ContactStore} {v : Vetting} :
    admission crates config localAgentId s = some v ↔
      Admissible crates config localAgentId s v := by
  unfold admission
  refine ⟨?_, ?_⟩
  · intro h
    split at h
    · cases h
    · rename_i v' hvet
      split at h
      · rename_i hallow
        cases h
        exact { toVetted := vet_eq_ok_iff.mp hvet, allowed := hallow }
      · cases h
  · intro h
    rw [vet_eq_ok_iff.mpr h.toVetted]
    simp only [h.allowed, if_true]

theorem admission_eq_none_iff {s : MeshStep ContactStore} :
    admission crates config localAgentId s = none ↔
      ∀ v, ¬ Admissible crates config localAgentId s v := by
  rw [Option.eq_none_iff_forall_ne_some]
  exact forall_congr' fun v => not_congr admission_eq_some_iff

/-! ## Dispositions -/

/-- The disposition of an admissible message says whether its sender had a record. -/
theorem stepDisposition_of_admissible {s : MeshStep ContactStore} {v : Vetting}
    (h : Admissible crates config localAgentId s v)
    (heldAt : String → Option PeerCapabilityRecord) :
    stepDisposition crates config localAgentId s heldAt =
      if (heldAt (encodeAgentId crates.hex v.sender)).isSome then .updatedPeer
      else .acceptedNewPeer := by
  unfold stepDisposition
  rw [vet_eq_ok_iff.mpr h.toVetted]
  simp only [h.allowed, if_true]
  cases heldAt (encodeAgentId crates.hex v.sender) <;> rfl

/-- A message vetted but not allowed is rejected with its decision. -/
theorem stepDisposition_of_vetted {s : MeshStep ContactStore} {v : Vetting}
    (h : Vetted crates config localAgentId s v)
    (hdeny : allowsPeer config (v.decision crates s) = false)
    (heldAt : String → Option PeerCapabilityRecord) :
    stepDisposition crates config localAgentId s heldAt =
      .rejectedTrust (v.decision crates s) := by
  unfold stepDisposition
  rw [vet_eq_ok_iff.mpr h]
  simp [hdeny]

/-- A check that fails before the trust evaluation gives no trust rejection and no
acceptance. -/
theorem vet_error_ne {s : MeshStep ContactStore} {d : CapabilityDisposition}
    (h : vet crates config localAgentId s = .error d) :
    d ≠ .acceptedNewPeer ∧ d ≠ .updatedPeer ∧ ∀ decision, d ≠ .rejectedTrust decision := by
  unfold vet at h
  split at h
  · cases h; simp
  split at h
  · cases h; simp
  split at h
  · cases h; simp
  split at h
  · cases h; simp
  split at h
  · cases h; simp
  split at h
  · cases h; simp
  split at h
  · cases h; simp
  split at h
  · cases h; simp
  · cases h

/-- Only an admissible message is accepted, whatever the registry holds. -/
theorem stepDisposition_of_not_admissible {s : MeshStep ContactStore}
    (h : ∀ v, ¬ Admissible crates config localAgentId s v)
    (heldAt : String → Option PeerCapabilityRecord) :
    stepDisposition crates config localAgentId s heldAt ≠ .acceptedNewPeer ∧
      stepDisposition crates config localAgentId s heldAt ≠ .updatedPeer := by
  cases hvet : vet crates config localAgentId s with
  | error d =>
    obtain ⟨hnew, hupd, -⟩ := vet_error_ne hvet
    simpa [stepDisposition, hvet] using And.intro hnew hupd
  | ok v =>
    have hvetted := vet_eq_ok_iff.mp hvet
    have hdeny : allowsPeer config (v.decision crates s) = false := by
      by_contra hallow
      exact h v { toVetted := hvetted, allowed := by simpa using hallow }
    rw [stepDisposition_of_vetted hvetted hdeny]
    simp

/-! ## Runs -/

/-- The message with its vetting, if it is admissible and its sender's id is `key`. -/
def admitAt (crates : MeshCrates ContactStore) (config : ComputeConfig)
    (localAgentId key : String) (s : MeshStep ContactStore) :
    Option (MeshStep ContactStore × Vetting) :=
  (admission crates config localAgentId s).bind fun v =>
    if encodeAgentId crates.hex v.sender = key then some (s, v) else none

/-- The admissible messages of a run whose sender's id is `key`, in order. -/
def admittedAt (crates : MeshCrates ContactStore) (config : ComputeConfig)
    (localAgentId key : String) (steps : List (MeshStep ContactStore)) :
    List (MeshStep ContactStore × Vetting) :=
  steps.filterMap (admitAt crates config localAgentId key)

theorem admitAt_eq_some_iff {key : String} {s s' : MeshStep ContactStore} {v : Vetting} :
    admitAt crates config localAgentId key s = some (s', v) ↔
      s' = s ∧ Admissible crates config localAgentId s v ∧
        encodeAgentId crates.hex v.sender = key := by
  rw [admitAt, Option.bind_eq_some_iff]
  refine ⟨?_, ?_⟩
  · rintro ⟨v', hadmission, hkey⟩
    split at hkey
    · rename_i heq
      cases hkey
      exact ⟨rfl, admission_eq_some_iff.mp hadmission, heq⟩
    · cases hkey
  · rintro ⟨rfl, hadm, hkey⟩
    exact ⟨v, admission_eq_some_iff.mpr hadm, if_pos hkey⟩

theorem admittedAt_append (key : String) (steps steps' : List (MeshStep ContactStore)) :
    admittedAt crates config localAgentId key (steps ++ steps') =
      admittedAt crates config localAgentId key steps ++
        admittedAt crates config localAgentId key steps' :=
  List.filterMap_append

theorem admittedAt_cons_of_admissible {s : MeshStep ContactStore} {v : Vetting}
    (h : Admissible crates config localAgentId s v) (steps : List (MeshStep ContactStore)) :
    admittedAt crates config localAgentId (encodeAgentId crates.hex v.sender) (s :: steps) =
      (s, v) :: admittedAt crates config localAgentId (encodeAgentId crates.hex v.sender)
        steps :=
  List.filterMap_cons_some (admitAt_eq_some_iff.mpr ⟨rfl, h, rfl⟩)

theorem mem_admittedAt_iff {key : String} {steps : List (MeshStep ContactStore)}
    {s : MeshStep ContactStore} {v : Vetting} :
    (s, v) ∈ admittedAt crates config localAgentId key steps ↔
      s ∈ steps ∧ Admissible crates config localAgentId s v ∧
        encodeAgentId crates.hex v.sender = key := by
  rw [admittedAt, List.mem_filterMap]
  refine ⟨?_, ?_⟩
  · rintro ⟨s', hmem, hs'⟩
    rcases admitAt_eq_some_iff.mp hs' with ⟨rfl, hadm, hkey⟩
    exact ⟨hmem, hadm, hkey⟩
  · rintro ⟨hmem, hadm, hkey⟩
    exact ⟨s, hmem, admitAt_eq_some_iff.mpr ⟨rfl, hadm, hkey⟩⟩

/-- No message of the run is admissible with `key` as its sender's id. -/
def NoneAdmitted (crates : MeshCrates ContactStore) (config : ComputeConfig)
    (localAgentId key : String) (steps : List (MeshStep ContactStore)) : Prop :=
  ∀ s ∈ steps, ∀ v, Admissible crates config localAgentId s v →
    encodeAgentId crates.hex v.sender ≠ key

theorem admittedAt_eq_nil_iff {key : String} {steps : List (MeshStep ContactStore)} :
    admittedAt crates config localAgentId key steps = [] ↔
      NoneAdmitted crates config localAgentId key steps := by
  rw [List.eq_nil_iff_forall_not_mem]
  refine ⟨?_, ?_⟩
  · intro h s hmem v hadm hkey
    exact h (s, v) (mem_admittedAt_iff.mpr ⟨hmem, hadm, hkey⟩)
  · rintro h ⟨s, v⟩ hmem
    rcases mem_admittedAt_iff.mp hmem with ⟨hs, hadm, hkey⟩
    exact h s hs v hadm hkey

theorem updatesAt_stepWrite (key : String) (steps : List (MeshStep ContactStore)) :
    KeyedWrite.updatesAt key (steps.map (stepWrite crates config localAgentId)) =
      (admittedAt crates config localAgentId key steps).map fun p => p.2.record crates p.1 := by
  rw [KeyedWrite.updatesAt, List.filterMap_map, admittedAt, List.map_filterMap]
  apply List.filterMap_congr
  intro s _
  cases hadmission : admission crates config localAgentId s with
  | none => simp [stepWrite, admitAt, hadmission]
  | some v =>
    by_cases hkey : encodeAgentId crates.hex v.sender = key
    · simp [stepWrite, admitAt, hadmission, hkey, Vetting.write]
    · simp [stepWrite, admitAt, hadmission, hkey, Vetting.write]

/-- A run folds the writes of its messages into the registry. -/
theorem peers_exec (self : TrustedPeerRegistry) (steps : List (MeshStep ContactStore)) :
    ((registryMachine crates config localAgentId).exec self steps).peers =
      (steps.map (stepWrite crates config localAgentId)).foldl KeyedWrite.apply self.peers := by
  induction steps generalizing self with
  | nil => rfl
  | cons s steps ih =>
    rw [Machine.exec_cons, ih, applyMessage_eq]
    rfl

/-- The record at a key is the replay of the admissible messages with that key. -/
theorem getElem?_peers_exec (self : TrustedPeerRegistry) (steps : List (MeshStep ContactStore))
    (key : String) :
    ((registryMachine crates config localAgentId).exec self steps).peers[key]? =
      KeyedWrite.replay self.peers[key]?
        ((admittedAt crates config localAgentId key steps).map
          fun p => p.2.record crates p.1) := by
  rw [peers_exec, KeyedWrite.getElem?_foldl_apply, updatesAt_stepWrite]

/-- The record that the admissible messages `l` of one sender leave: the capability, the
decision and the clock reading of the last, and the clock reading of the first. -/
def recordOf (crates : MeshCrates ContactStore) (l : List (MeshStep ContactStore × Vetting)) :
    Option PeerCapabilityRecord :=
  match l.head?, l.getLast? with
  | some first, some last =>
    some
      { capability := last.2.capability
        trustDecision := last.2.decision crates last.1
        firstSeenUnixSecs := first.1.now
        lastSeenUnixSecs := last.1.now }
  | _, _ => none

@[simp] theorem recordOf_nil : recordOf crates [] = none := rfl

theorem recordOf_concat (l : List (MeshStep ContactStore × Vetting))
    (p : MeshStep ContactStore × Vetting) :
    recordOf crates (l ++ [p]) = some (p.2.record crates p.1 (recordOf crates l)) := by
  cases l with
  | nil => rfl
  | cons q l =>
    simp only [recordOf, List.cons_append, List.head?_cons, Vetting.record,
      List.getLast?_eq_some_getLast (List.cons_ne_nil _ _)]
    simp

theorem recordOf_eq_none_iff {l : List (MeshStep ContactStore × Vetting)} :
    recordOf crates l = none ↔ l = [] := by
  induction l using List.reverseRecOn with
  | nil => simp
  | append_singleton l p _ => simp [recordOf_concat]

/-- After a run from the empty registry the record at a key is that of the admissible
messages with that key. -/
theorem getElem?_peers_exec_new (steps : List (MeshStep ContactStore)) (key : String) :
    ((registryMachine crates config localAgentId).exec .new steps).peers[key]? =
      recordOf crates (admittedAt crates config localAgentId key steps) := by
  rw [getElem?_peers_exec]
  induction admittedAt crates config localAgentId key steps using List.reverseRecOn with
  | nil => exact Std.ExtTreeMap.getElem?_empty
  | append_singleton l p ih =>
    rw [List.map_append, List.map_singleton, KeyedWrite.replay_concat, ih, recordOf_concat]

/-! ## The first and the last admissible message -/

/-- `s`, vetted as `v`, is the first admissible message of the run with the key. -/
def FirstAdmitted (crates : MeshCrates ContactStore) (config : ComputeConfig)
    (localAgentId key : String) (steps : List (MeshStep ContactStore))
    (s : MeshStep ContactStore) (v : Vetting) : Prop :=
  ∃ pre post, steps = pre ++ s :: post ∧ NoneAdmitted crates config localAgentId key pre ∧
    Admissible crates config localAgentId s v ∧ encodeAgentId crates.hex v.sender = key

/-- `s`, vetted as `v`, is the last admissible message of the run with the key. -/
def LastAdmitted (crates : MeshCrates ContactStore) (config : ComputeConfig)
    (localAgentId key : String) (steps : List (MeshStep ContactStore))
    (s : MeshStep ContactStore) (v : Vetting) : Prop :=
  ∃ pre post, steps = pre ++ s :: post ∧ NoneAdmitted crates config localAgentId key post ∧
    Admissible crates config localAgentId s v ∧ encodeAgentId crates.hex v.sender = key

theorem firstAdmitted_iff {key : String} {steps : List (MeshStep ContactStore)}
    {s : MeshStep ContactStore} {v : Vetting} :
    FirstAdmitted crates config localAgentId key steps s v ↔
      (admittedAt crates config localAgentId key steps).head? = some (s, v) := by
  refine ⟨?_, ?_⟩
  · rintro ⟨pre, post, rfl, hpre, hadm, rfl⟩
    rw [admittedAt_append, admittedAt_eq_nil_iff.mpr hpre, List.nil_append,
      admittedAt_cons_of_admissible hadm, List.head?_cons]
  · intro h
    rcases List.head?_eq_some_iff.mp h with ⟨l, hl⟩
    rcases List.filterMap_eq_cons_iff.mp hl with ⟨pre, a, post, rfl, hpre, ha, -⟩
    rcases admitAt_eq_some_iff.mp ha with ⟨rfl, hadm, hkey⟩
    refine ⟨pre, post, rfl, ?_, hadm, hkey⟩
    exact admittedAt_eq_nil_iff.mp (List.filterMap_eq_nil_iff.mpr hpre)

theorem lastAdmitted_iff {key : String} {steps : List (MeshStep ContactStore)}
    {s : MeshStep ContactStore} {v : Vetting} :
    LastAdmitted crates config localAgentId key steps s v ↔
      (admittedAt crates config localAgentId key steps).getLast? = some (s, v) := by
  refine ⟨?_, ?_⟩
  · rintro ⟨pre, post, rfl, hpost, hadm, rfl⟩
    rw [admittedAt_append, admittedAt_cons_of_admissible hadm,
      admittedAt_eq_nil_iff.mpr hpost, List.getLast?_concat]
  · intro h
    rcases List.getLast?_eq_some_iff.mp h with ⟨l, hl⟩
    rcases List.filterMap_eq_append_iff.mp hl with ⟨pre, tail, rfl, -, htail⟩
    rcases List.filterMap_eq_cons_iff.mp htail with ⟨mid, a, post, rfl, -, ha, hpost⟩
    rcases admitAt_eq_some_iff.mp ha with ⟨rfl, hadm, hkey⟩
    refine ⟨pre ++ mid, post, by simp, ?_, hadm, hkey⟩
    exact admittedAt_eq_nil_iff.mp hpost

/-- The registry is the history of the admissible messages: a record is held exactly when
one came, and it has the clock reading of the first, and the capability, the decision and
the clock reading of the last. -/
theorem getElem?_peers_eq_some_iff {steps : List (MeshStep ContactStore)} {key : String}
    {record : PeerCapabilityRecord} :
    ((registryMachine crates config localAgentId).exec .new steps).peers[key]? = some record ↔
      ∃ s v s' v', FirstAdmitted crates config localAgentId key steps s v ∧
        LastAdmitted crates config localAgentId key steps s' v' ∧
        record.capability = v'.capability ∧ record.trustDecision = v'.decision crates s' ∧
        record.firstSeenUnixSecs = s.now ∧ record.lastSeenUnixSecs = s'.now := by
  simp only [getElem?_peers_exec_new, firstAdmitted_iff, lastAdmitted_iff]
  unfold recordOf
  refine ⟨?_, ?_⟩
  · intro h
    split at h
    · rename_i first last hfirst hlast
      cases h
      exact ⟨first.1, first.2, last.1, last.2, hfirst, hlast, rfl, rfl, rfl, rfl⟩
    · cases h
  · obtain ⟨capability, decision, firstSeen, lastSeen⟩ := record
    rintro ⟨s, v, s', v', hfirst, hlast, rfl, rfl, rfl, rfl⟩
    simp only [hfirst, hlast]

/-- A run of one admissible message leaves the record of that message. -/
theorem getElem?_peers_exec_new_singleton {s : MeshStep ContactStore} {v : Vetting}
    (h : Admissible crates config localAgentId s v) :
    ((registryMachine crates config localAgentId).exec .new [s]).peers[
      encodeAgentId crates.hex v.sender]? = some (v.record crates s none) := by
  rw [getElem?_peers_exec_new, admittedAt_cons_of_admissible h]
  rfl

end X0xCompute
