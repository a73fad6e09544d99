import X0xCompute.Startup

/-!
# The order of a start

What a start asks of the system and of its agent, against the plan that its configuration
makes.
-/

namespace X0xCompute

open Lib

variable {around : Surroundings} {hex : HexCrate} {json : SerdeJson CapabilityAnnouncement}

namespace ComputeDaemon

/-- What is asked for the subscription if nothing fails. -/
def subscriptionPlan (config : ComputeConfig) (publication : Publication) :
    List StartupEffect :=
  if config.joinNetworkOnStart then
    subscribing config ++ (if config.announceOnStart then [.publish publication] else [])
  else []

/-- What is asked in a start in which nothing fails. -/
def startPlan (config : ComputeConfig) (publication : Publication) (state : AppState) :
    List StartupEffect :=
  building config ++ subscriptionPlan config publication ++
    [.bind config.apiBind, .serve state]

end ComputeDaemon

/-- The error that an answer becomes, if it is one. -/
@[simp] def Startup.refusalOf {α : Type} (toError : String → ComputeError) :
    Except String α → Option ComputeError
  | .ok _ => none
  | .error text => some (toError text)

@[simp] def Surroundings.refusal (around : Surroundings) : StartupEffect → Option ComputeError
  | .createDirAll path => Startup.refusalOf .io (around.createDirAll path)
  | .buildAgent builder => Startup.refusalOf .x0xIdentity (around.buildAgent builder)
  | .joinNetwork => Startup.refusalOf .x0xIdentity around.joinNetwork
  | .subscribe topic => Startup.refusalOf .x0xIdentity (around.subscribe topic)
  | .publish publication => Startup.refusalOf .x0xIdentity (around.publish publication)
  | .bind addr => Startup.refusalOf .io (around.bind addr)
  | .serve state => Startup.refusalOf .io (around.serve state)

namespace ComputeDaemon

/-- The publication of a daemon's own capability. -/
structure Announces (around : Surroundings) (json : SerdeJson CapabilityAnnouncement)
    (self : ComputeDaemon) (publication : Publication) : Prop where
  topic : publication.topic = self.config.capabilityTopic
  payload : json.toVec (.local self.config self.identity around.announcedSystem
    around.announcedAt) = .ok publication.payload

theorem SubscriptionOutcome.opened {self : ComputeDaemon} {done opened : List StartupEffect}
    (h : SubscriptionOutcome around json self done (.ok () opened)) :
    ∃ publication, opened = done ++ subscriptionPlan self.config publication ∧
      (∀ effect ∈ subscriptionPlan self.config publication, around.refusal effect = none) ∧
      (.publish publication ∈ subscriptionPlan self.config publication →
        self.Announces around json publication) := by
  generalize hresult : (.ok () opened : EStateM.Result ComputeError _ Unit) = result at h
  cases h with
  | apart hjoin =>
    cases hresult
    exact ⟨⟨"", []⟩, by simp [subscriptionPlan, hjoin]⟩
  | quiet hjoin hjoined hsubscribed hannounce =>
    cases hresult
    refine ⟨⟨"", []⟩, ?_⟩
    simp [subscriptionPlan, hjoin, hannounce, subscribing, hjoined, hsubscribed]
  | announced hjoin hjoined hsubscribed hannounce hresult' =>
    cases hresult
    rcases announceLocalCapability_cases hresult' with
      ⟨text, -, hfail⟩ | ⟨payload, hencode, rfl, hsent⟩
    · cases hfail
    · rcases hsent with ⟨text, -, hfail⟩ | ⟨hpublish, -⟩
      · cases hfail
      · have hannounces : self.Announces around json ⟨self.config.capabilityTopic, payload⟩ :=
          ⟨rfl, hencode⟩
        refine ⟨⟨self.config.capabilityTopic, payload⟩, ?_⟩
        simp [hannounces, subscriptionPlan, hjoin, hannounce, subscribing, hjoined, hsubscribed,
          hpublish]
  | notJoined | notSubscribed | notAnnounced => cases hresult

theorem SubscriptionOutcome.refused {self : ComputeDaemon} {done effects : List StartupEffect}
    {e : ComputeError} (h : SubscriptionOutcome around json self done (.error e effects)) :
    ∃ publication asked, effects = done ++ asked ∧ asked ≠ [] ∧
      asked <+: subscriptionPlan self.config publication ∧
      (∀ effect ∈ asked.dropLast, around.refusal effect = none) ∧
      (.publish publication ∈ asked → self.Announces around json publication) ∧
      (asked.getLast?.bind around.refusal = some e ∨
        (∃ text, e = .json text) ∧ asked = subscribing self.config) := by
  generalize hresult : (.error e effects : EStateM.Result ComputeError _ Unit) = result at h
  cases h with
  | notJoined hjoin h =>
    cases hresult
    refine ⟨⟨"", []⟩, [.joinNetwork], rfl, ?_⟩
    simp [subscriptionPlan, hjoin, subscribing, h]
  | notSubscribed hjoin hjoined h =>
    cases hresult
    refine ⟨⟨"", []⟩, subscribing self.config, rfl, ?_⟩
    simp [subscriptionPlan, hjoin, subscribing, hjoined, h]
  | notAnnounced hjoin hjoined hsubscribed hannounce hresult' =>
    cases hresult
    rcases announceLocalCapability_cases hresult' with
      ⟨text, rfl, hfail⟩ | ⟨payload, hencode, rfl, hsent⟩
    · cases hfail
      refine ⟨⟨"", []⟩, subscribing self.config, by simp, ?_⟩
      simp [subscriptionPlan, hjoin, subscribing, hjoined]
    · rcases hsent with ⟨text, hpublish, hfail⟩ | ⟨-, hfail⟩
      · cases hfail
        refine ⟨⟨self.config.capabilityTopic, payload⟩,
          subscribing self.config ++ [.publish ⟨self.config.capabilityTopic, payload⟩],
          by simp, ?_⟩
        have hannounces : self.Announces around json ⟨self.config.capabilityTopic, payload⟩ :=
          ⟨rfl, hencode⟩
        simp [hannounces, subscriptionPlan, hjoin, hannounce, subscribing, hjoined, hsubscribed,
          hpublish]
      · cases hfail
  | apart | quiet | announced => cases hresult

theorem Built.granted {config : ComputeConfig} {agent : Agent} (h : Built around config agent) :
    ∀ effect ∈ building config, around.refusal effect = none := by
  simp [building, h.directory, h.answered]

/-- What a start asks keeps to its plan. It is an initial part of the plan for the agent that is
built, if one is; everything before the last was granted; an error is the answer to the last,
or one of two checks; and an agent that is not the user's that the configuration requires gets
no further. -/
structure InOrder (around : Surroundings) (hex : HexCrate)
    (json : SerdeJson CapabilityAnnouncement) (config : ComputeConfig)
    (effects : List StartupEffect) (failure : Option ComputeError) : Prop where
  planned : ∀ agent,
    (∀ agent', around.buildAgent (.ofConfig config) = .ok agent' → agent' = agent) →
    ∃ publication,
      effects <+: startPlan config publication
        (.new hex config agent around.system around.startedAt) ∧
      (failure = none → effects = startPlan config publication
        (.new hex config agent around.system around.startedAt)) ∧
      (.publish publication ∈ effects →
        (ofAgent around hex config agent).Announces around json publication)
  granted : ∀ effect ∈ effects.dropLast, around.refusal effect = none
  failed : ∀ e, failure = some e → effects.getLast?.bind around.refusal = some e ∨
    e = .userIdentityRequired ∧ effects = building config ∨
    (∃ text, e = .json text) ∧ effects = building config ++ subscribing config
  identified : ∀ agent, around.buildAgent (.ofConfig config) = .ok agent →
    config.requireUserId = true → agent.userId = none → effects <+: building config

/-- Once the daemon is built, what is asked further follows the rest of the plan. -/
theorem Built.inOrder {config : ComputeConfig} {agent : Agent} (h : Built around config agent)
    {publication : Publication} {asked : List StartupEffect} {failure : Option ComputeError}
    (hasked : asked ≠ [])
    (hplan : asked <+: subscriptionPlan config publication ++
      [.bind config.apiBind, .serve (.new hex config agent around.system around.startedAt)])
    (hcomplete : failure = none → asked = subscriptionPlan config publication ++
      [.bind config.apiBind, .serve (.new hex config agent around.system around.startedAt)])
    (hannounces : .publish publication ∈ asked →
      (ofAgent around hex config agent).Announces around json publication)
    (hgranted : ∀ effect ∈ asked.dropLast, around.refusal effect = none)
    (hfailed : ∀ e, failure = some e → asked.getLast?.bind around.refusal = some e ∨
      (∃ text, e = .json text) ∧ asked = subscribing config) :
    InOrder around hex json config (building config ++ asked) failure where
  planned := by
    intro agent' hagent'
    obtain rfl := hagent' agent h.answered
    refine ⟨publication, ?_, ?_, ?_⟩
    · rw [startPlan, List.append_assoc]
      exact (List.prefix_append_right_inj _).mpr hplan
    · intro hnone
      rw [startPlan, List.append_assoc, hcomplete hnone]
    · intro hmem
      apply hannounces
      simpa [building] using hmem
  granted := by
    intro effect heffect
    rw [List.dropLast_append_of_ne_nil hasked, List.mem_append] at heffect
    rcases heffect with hbuilding | hrest
    · exact h.granted effect hbuilding
    · exact hgranted effect hrest
  failed := by
    intro e he
    rw [List.getLast?_append_of_ne_nil _ hasked]
    rcases hfailed e he with hlast | ⟨hjson, rfl⟩
    · exact Or.inl hlast
    · exact Or.inr (Or.inr ⟨hjson, rfl⟩)
  identified := by
    intro agent' hagent' hrequired huser
    obtain rfl := Except.ok.inj (hagent'.symm.trans h.answered)
    exact absurd huser (h.user hrequired)

/-- The last two steps of the plan. -/
theorem SubscriptionOutcome.inOrder {config : ComputeConfig} {agent : Agent}
    (hbuilt : Built around config agent) {opened : List StartupEffect}
    (hopen : SubscriptionOutcome around json (ofAgent around hex config agent)
      (building config) (.ok () opened)) {rest : List StartupEffect}
    {failure : Option ComputeError} (hrest : rest ≠ [])
    (hplan : rest <+: [.bind config.apiBind,
      .serve (.new hex config agent around.system around.startedAt)])
    (hcomplete : failure = none → rest = [.bind config.apiBind,
      .serve (.new hex config agent around.system around.startedAt)])
    (hgranted : ∀ effect ∈ rest.dropLast, around.refusal effect = none)
    (hfailed : ∀ e, failure = some e → rest.getLast?.bind around.refusal = some e) :
    InOrder around hex json config (opened ++ rest) failure := by
  obtain ⟨publication, rfl, hsubscribed, hannounces⟩ := hopen.opened
  rw [List.append_assoc]
  refine hbuilt.inOrder (by simp [hrest]) ((List.prefix_append_right_inj _).mpr hplan) ?_ ?_ ?_ ?_
  · intro hnone
    rw [hcomplete hnone]
    rfl
  · intro hmem
    apply hannounces
    rcases List.mem_append.mp hmem with h | h
    · exact h
    · simpa using hplan.subset h
  · intro effect heffect
    rw [List.dropLast_append_of_ne_nil hrest, List.mem_append] at heffect
    rcases heffect with h | h
    · exact hsubscribed effect h
    · exact hgranted effect h
  · intro e he
    rw [List.getLast?_append_of_ne_nil _ hrest]
    exact Or.inl (hfailed e he)

theorem FromConfigOutcome.inOrder {config : ComputeConfig} {e : ComputeError}
    {effects : List StartupEffect}
    (h : FromConfigOutcome around hex config (.error e effects)) :
    InOrder around hex json config effects (some e) := by
  have hparts : effects <+: building config ∧
      (∀ effect ∈ effects.dropLast, around.refusal effect = none) ∧
      (effects.getLast?.bind around.refusal = some e ∨
        e = .userIdentityRequired ∧ effects = building config) := by
    generalize hresult : (.error e effects : EStateM.Result ComputeError _ ComputeDaemon) =
      result at h
    cases h with
    | noDirectory h =>
      cases hresult
      simp [building, h]
    | noAgent hdir h =>
      cases hresult
      cases h with
      | notBuilt h =>
        simp [building, h, hdir]
      | noUser h hrequired huser =>
        simp [building, hdir]
    | built h => cases hresult
  obtain ⟨hinitial, hgranted, hfailed⟩ := hparts
  refine ⟨?_, hgranted, ?_, fun _ _ _ _ => hinitial⟩
  · intro agent hagent
    refine ⟨⟨"", []⟩, ?_, by simp, ?_⟩
    · exact (hinitial.trans (List.prefix_append ..)).trans (List.prefix_append ..)
    · intro hmem
      have := hinitial.subset hmem
      simp [building] at this
  · intro e' he'
    cases he'
    exact hfailed.imp_right Or.inl

/-- A start asks, in this order, for the data directory, the agent, the network, the topic,
the announcement and the port, leaves out what its configuration leaves out, and asks for
nothing after an answer that is an error. -/
theorem start_in_order (around : Surroundings) (hex : HexCrate)
    (json : SerdeJson CapabilityAnnouncement) (config : ComputeConfig) :
    InOrder around hex json config (start around hex json config).effects
      (start around hex json config).failure := by
  have h := start_outcome around hex json config
  unfold Startup.effects Startup.failure
  generalize (start around hex json config).run [] = result at h
  cases h with
  | notBuilt h => exact h.inOrder
  | notOpen hbuilt h =>
    obtain ⟨publication, asked, rfl, hasked, hplan, hgranted, hannounces, hlast⟩ := h.refused
    refine hbuilt.inOrder hasked (hplan.trans (List.prefix_append ..)) (by simp) hannounces
      hgranted ?_
    intro e he
    cases he
    exact hlast
  | notBound hbuilt hopen h =>
    refine hopen.inOrder hbuilt (by simp) (by simp) (by simp) (by simp) ?_
    simp [h]
  | failed hbuilt hopen hbound h =>
    refine hopen.inOrder hbuilt (by simp) (by simp) (by simp) ?_ ?_
    · simp [hbound]
    · simp [h]
  | shutDown hbuilt hopen hbound h =>
    refine hopen.inOrder hbuilt (by simp) (by simp) (by simp) ?_ (by simp)
    simp [hbound]

end ComputeDaemon

end X0xCompute
