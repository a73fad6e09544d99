import X0xCompute.Runtime.Refinement

/-!
# What a chat is answered with

The message a chat answers, the text of the reply around it, and the words that are counted
as usage.
-/

namespace X0xCompute

open Lib

/-! ## The selected message -/

/-- The message a chat answers: the last one of the user, or the last one of all if the user
sent none. -/
inductive Selected (messages : List OpenAiChatMessage) (selected : OpenAiChatMessage) : Prop where
  | user (pre post : List OpenAiChatMessage) (split : messages = pre ++ [selected] ++ post)
      (role : selected.role = "user") (rest : ∀ message ∈ post, message.role ≠ "user")
  | last (none : ∀ message ∈ messages, message.role ≠ "user")
      (last : messages.getLast? = some selected)

theorem Selected.ne_nil {messages : List OpenAiChatMessage} {selected : OpenAiChatMessage}
    (h : Selected messages selected) : messages ≠ [] := by
  cases h with
  | user pre post split role rest => simp [split]
  | last none last =>
    rintro rfl
    cases last

/-- The prompt is the content of the selected message. -/
theorem Selected.chatPrompt {messages : List OpenAiChatMessage}
    {selected : OpenAiChatMessage} (h : Selected messages selected) :
    SkeletonRuntimeAdapter.chatPrompt messages = selected.content := by
  cases h with
  | user pre post split role rest =>
    have hpost : post.reverse.find? (·.role = "user") = none := by
      rw [List.find?_eq_none]
      intro message hmem
      simpa using rest message (List.mem_reverse.mp hmem)
    have hfind : messages.reverse.find? (·.role = "user") = some selected := by
      rw [split, List.reverse_append, List.find?_append, hpost, List.reverse_append]
      simp [role]
    unfold SkeletonRuntimeAdapter.chatPrompt
    rw [hfind]
  | last none last =>
    have hfind : messages.reverse.find? (·.role = "user") = Option.none := by
      rw [List.find?_eq_none]
      intro message hmem
      simpa using none message (List.mem_reverse.mp hmem)
    unfold SkeletonRuntimeAdapter.chatPrompt
    rw [hfind, last]
    rfl

theorem selected_singleton (message : OpenAiChatMessage) : Selected [message] message := by
  by_cases hrole : message.role = "user"
  · exact .user [] [] rfl hrole nofun
  · exact .last (by simpa using hrole) rfl

/-- Every chat with messages has a selected one. -/
theorem exists_selected {messages : List OpenAiChatMessage} (h : messages ≠ []) :
    ∃ selected, Selected messages selected := by
  cases hfind : messages.reverse.find? (·.role = "user") with
  | some selected =>
    obtain ⟨hrole, later, earlier, hsplit, hlater⟩ := List.find?_eq_some_iff_append.mp hfind
    refine ⟨selected, .user earlier.reverse later.reverse ?_ (of_decide_eq_true hrole) ?_⟩
    · simpa using congrArg List.reverse hsplit
    · intro message hmem
      simpa using hlater message (List.mem_reverse.mp hmem)
  | none =>
    refine ⟨messages.getLast h, .last ?_ (List.getLast?_eq_some_getLast h)⟩
    intro message hmem
    simpa using List.find?_eq_none.mp hfind message (List.mem_reverse.mpr hmem)

/-! ## The reply -/

theorem rdropWhile_space_trim (prompt : String) :
    (' ' :: (trim prompt).toList).rdropWhile isWhitespace =
      (if trim prompt = "" then "" else " ").toList ++ (trim prompt).toList := by
  rcases List.eq_nil_or_concat (trim prompt).toList with hnil | ⟨init, last, hlast⟩
  · have hempty : trim prompt = "" := String.toList_eq_nil_iff.mp hnil
    rw [hempty]
    rfl
  · have hempty : trim prompt ≠ "" := by
      intro h
      simp [h] at hlast
    have hchar : isWhitespace last = false :=
      (trimmed_trim prompt).last last (by simp [hlast])
    have hkeep := rdropWhile_append_cons_of_not hchar (' ' :: init) []
    rw [if_neg hempty, hlast]
    simpa using hkeep

/-- The text of a reply: the prefix without leading whitespace, the tag of the model, and the
trimmed prompt if the prompt is not blank. -/
theorem trim_reply (responsePrefix model prompt : String) :
    trim (responsePrefix ++ " [" ++ model ++ "] " ++ trim prompt) =
      trimStart (responsePrefix ++ " ") ++ "[" ++ model ++ "]" ++
        (if trim prompt = "" then "" else " ") ++ trim prompt := by
  have hopen : isWhitespace '[' = false := by decide
  have hclose : isWhitespace ']' = false := by decide
  have hchars : (responsePrefix ++ " [" ++ model ++ "] " ++ trim prompt).toList =
      (responsePrefix ++ " ").toList ++ '[' ::
        (model.toList ++ ']' :: (' ' :: (trim prompt).toList)) := by
    simp
  have hsplit (cs : List Char) :
      cs ++ '[' :: (model.toList ++ ']' :: (' ' :: (trim prompt).toList)) =
        (cs ++ '[' :: model.toList) ++ ']' :: (' ' :: (trim prompt).toList) := by
    simp
  rw [← String.toList_inj, trim, String.toList_ofList, hchars,
    dropWhile_append_cons_of_not hopen, hsplit, rdropWhile_append_cons_of_not hclose,
    rdropWhile_space_trim]
  simp [trimStart]

theorem lookup_buildRuntime_eq_none_iff {config : ComputeConfig} {id : String} :
    (buildRuntime config).models[id]? = none ↔ ∀ model ∈ config.models, model.id ≠ id := by
  rw [buildRuntime, getElem?_models_new, ComputeConfig.configuredModel_eq_none_iff]

theorem exists_lookup_buildRuntime {config : ComputeConfig} {id : String}
    (h : ∃ model ∈ config.models, model.id = id) :
    ∃ model, (buildRuntime config).models[id]? = some model := by
  rw [← Option.ne_none_iff_exists', ne_eq, lookup_buildRuntime_eq_none_iff]
  obtain ⟨model, hmem, hid⟩ := h
  exact fun hnone => hnone model hmem hid

/-- A chat about a configured model that does not stream and has messages is accepted. -/
theorem chatRefusal_eq_none {config : ComputeConfig} {request : OpenAiChatCompletionRequest}
    (hmodel : ∃ model ∈ config.models, model.id = request.model)
    (hstream : request.stream = false) (hmessages : request.messages ≠ []) :
    (buildRuntime config).chatRefusal request = none := by
  obtain ⟨model, hlookup⟩ := exists_lookup_buildRuntime hmodel
  unfold SkeletonRuntimeAdapter.chatRefusal
  simp [hlookup, hstream, hmessages]

/-- The text of a reply depends on the selected message alone. -/
theorem chatReply_of_selected (self : SkeletonRuntimeAdapter)
    {request : OpenAiChatCompletionRequest} {selected : OpenAiChatMessage}
    (h : Selected request.messages selected) :
    self.chatReply request =
      trim (self.responsePrefix ++ " [" ++ request.model ++ "] " ++ trim selected.content) := by
  rw [SkeletonRuntimeAdapter.chatReply, h.chatPrompt]

theorem chatCompletion_of_accepted {self : SkeletonRuntimeAdapter}
    {request : OpenAiChatCompletionRequest} (h : self.chatRefusal request = none)
    (state : SkeletonRuntimeState) (now : U64) :
    (self.chatCompletion request now).result state =
        .ok (self.chatResponse state request now) ∧
      (self.chatCompletion request now).final state = state.chatted := by
  simp [Guarded.result, Guarded.final, Guarded.writes,
    self.chatCompletion_run_of_accepted h state now]

theorem chatCompletion_of_refusal {self : SkeletonRuntimeAdapter}
    {request : OpenAiChatCompletionRequest} {error : ComputeError}
    (h : self.chatRefusal request = some error) (state : SkeletonRuntimeState) (now : U64) :
    (self.chatCompletion request now).result state = .error error ∧
      (self.chatCompletion request now).final state = state := by
  simp [Guarded.result, Guarded.final, Guarded.writes,
    self.chatCompletion_run_of_refusal h state now]

/-- A successful chat was accepted and has the answer of an accepted one. -/
theorem eq_chatResponse_of_ok {self : SkeletonRuntimeAdapter} {state : SkeletonRuntimeState}
    {request : OpenAiChatCompletionRequest} {now : U64} {response : OpenAiChatCompletionResponse}
    (h : (self.chatCompletion request now).result state = .ok response) :
    self.chatRefusal request = none ∧ response = self.chatResponse state request now := by
  cases hrefusal : self.chatRefusal request with
  | some error =>
    rw [(chatCompletion_of_refusal hrefusal state now).1] at h
    cases h
  | none =>
    rw [(chatCompletion_of_accepted hrefusal state now).1, Except.ok.injEq] at h
    exact ⟨rfl, h.symm⟩

/-- The text of the reply to an accepted chat, which is about its selected message. -/
theorem exists_response_of_selected {config : ComputeConfig}
    {request : OpenAiChatCompletionRequest} {selected : OpenAiChatMessage}
    (hmodel : ∃ model ∈ config.models, model.id = request.model)
    (hstream : request.stream = false) (hselected : Selected request.messages selected)
    (state : SkeletonRuntimeState) (now : U64) :
    ∃ response, ((buildRuntime config).chatCompletion request now).result state = .ok response ∧
      response.choices.map (fun choice => choice.message.content) =
        [trim ((buildRuntime config).responsePrefix ++ " [" ++ request.model ++ "] " ++
          trim selected.content)] := by
  have haccepted := chatRefusal_eq_none hmodel hstream hselected.ne_nil
  refine ⟨_, (chatCompletion_of_accepted haccepted state now).1, ?_⟩
  rw [← chatReply_of_selected _ hselected]
  rfl

theorem chatRefusal_of_unknown {config : ComputeConfig} {request : OpenAiChatCompletionRequest}
    (hmodel : ∀ model ∈ config.models, model.id ≠ request.model) :
    (buildRuntime config).chatRefusal request = some (.modelNotFound request.model) := by
  have hlookup := lookup_buildRuntime_eq_none_iff.mpr hmodel
  simp [SkeletonRuntimeAdapter.chatRefusal, hlookup]

theorem chatRefusal_of_stream {config : ComputeConfig} {request : OpenAiChatCompletionRequest}
    (hmodel : ∃ model ∈ config.models, model.id = request.model)
    (hstream : request.stream = true) :
    (buildRuntime config).chatRefusal request =
      some (.unsupportedFeature "streaming chat completions are not implemented yet") := by
  obtain ⟨model, hlookup⟩ := exists_lookup_buildRuntime hmodel
  simp [SkeletonRuntimeAdapter.chatRefusal, hlookup, hstream]

theorem chatRefusal_of_empty {config : ComputeConfig} {request : OpenAiChatCompletionRequest}
    (hmodel : ∃ model ∈ config.models, model.id = request.model)
    (hstream : request.stream = false) (hempty : request.messages = []) :
    (buildRuntime config).chatRefusal request =
      some (.invalidChatRequest "messages must not be empty") := by
  obtain ⟨model, hlookup⟩ := exists_lookup_buildRuntime hmodel
  simp [SkeletonRuntimeAdapter.chatRefusal, hlookup, hstream, hempty]

/-- A chat about a configured model is answered on its selected message: the reply is the one
to that message alone, neither starts nor ends with whitespace, and ends with the trimmed
message after the tag of the model. The first check that fails decides the error, in the
order of the source, and leaves the state as it was; a success only advances the completion
counter. -/
theorem chat_answers_selected (config : ComputeConfig) (state : SkeletonRuntimeState)
    (request : OpenAiChatCompletionRequest) (now : U64) :
    let code := (buildRuntime config).chatCompletion request now
    ((∃ model ∈ config.models, model.id = request.model) → request.stream = false →
      ∀ selected, Selected request.messages selected →
        ∃ response content,
          code.result state = .ok response ∧
          response.choices.map (fun choice => choice.message.content) = [content] ∧
          (∀ (state' : SkeletonRuntimeState) (now' : U64), ∃ alone,
            ((buildRuntime config).chatCompletion { request with messages := [selected] }
              now').result state' = .ok alone ∧
            alone.choices.map (fun choice => choice.message.content) = [content]) ∧
          Trimmed content ∧
          ∃ lead gap,
            content = lead ++ "[" ++ request.model ++ "]" ++ gap ++ trim selected.content) ∧
    ((∀ model ∈ config.models, model.id ≠ request.model) →
      code.result state = .error (.modelNotFound request.model) ∧ code.final state = state) ∧
    ((∃ model ∈ config.models, model.id = request.model) → request.stream = true →
      code.result state = .error
        (.unsupportedFeature "streaming chat completions are not implemented yet") ∧
      code.final state = state) ∧
    ((∃ model ∈ config.models, model.id = request.model) → request.stream = false →
      request.messages = [] →
      code.result state = .error (.invalidChatRequest "messages must not be empty") ∧
      code.final state = state) ∧
    ∀ response, code.result state = .ok response →
      code.final state =
        { state with nextCompletionId := satAdd state.nextCompletionId 1 } := by
  intro code
  refine ⟨?answered, ?unknown, ?streaming, ?empty, ?counter⟩
  case answered =>
    intro hmodel hstream selected hselected
    obtain ⟨response, hresult, hcontent⟩ :=
      exists_response_of_selected hmodel hstream hselected state now
    refine ⟨response, _, hresult, hcontent, ?_, trimmed_trim _, ?_⟩
    · intro state' now'
      have hmodel' : ∃ model ∈ config.models,
          model.id = { request with messages := [selected] }.model := hmodel
      exact exists_response_of_selected hmodel' hstream (selected_singleton selected) state' now'
    · rw [trim_reply]
      exact ⟨_, _, rfl⟩
  case unknown =>
    intro hmodel
    exact chatCompletion_of_refusal (chatRefusal_of_unknown hmodel) state now
  case streaming =>
    intro hmodel hstream
    exact chatCompletion_of_refusal (chatRefusal_of_stream hmodel hstream) state now
  case empty =>
    intro hmodel hstream hempty
    exact chatCompletion_of_refusal (chatRefusal_of_empty hmodel hstream hempty) state now
  case counter =>
    intro response hresponse
    obtain ⟨haccepted, -⟩ := eq_chatResponse_of_ok hresponse
    exact (chatCompletion_of_accepted haccepted state now).2

theorem messages_ne_nil_of_accepted {self : SkeletonRuntimeAdapter}
    {request : OpenAiChatCompletionRequest} (h : self.chatRefusal request = none) :
    request.messages ≠ [] := by
  intro hempty
  unfold SkeletonRuntimeAdapter.chatRefusal at h
  split at h
  · cases h
  · simp only [hempty, if_true] at h
    split at h <;> cases h

/-! ## Usage -/

theorem toNat_estimatedTokens (text : String) :
    (estimatedTokens text).toNat = min (2 ^ 32 - 1) (max 1 (wordCount text)) := by
  rw [estimatedTokens, length_words, BitVec.toNat_ofNat]
  omega

/-- A reply has the words of the prefix, of the tag and of the prompt. -/
theorem wordCount_reply (responsePrefix model prompt : String) :
    wordCount (trim (responsePrefix ++ " [" ++ model ++ "] " ++ trim prompt)) =
      wordCount responsePrefix + wordCount ("[" ++ model ++ "]") + wordCount prompt := by
  have hjoin : responsePrefix ++ " [" ++ model ++ "] " ++ trim prompt =
      responsePrefix ++ " " ++ ("[" ++ model ++ "]") ++ " " ++ trim prompt := by
    simp [← String.toList_inj]
  rw [wordCount_trim, hjoin, wordCount_append_space, wordCount_append_space, wordCount_trim]

/-- The tag of a model has a word. -/
theorem wordCount_tag_pos (model : String) : 1 ≤ wordCount ("[" ++ model ++ "]") := by
  have hopen : isWhitespace '[' = false := by decide
  rw [wordCount, String.append_assoc, String.toList_append]
  show 1 ≤ runsFrom false ('[' :: (model ++ "]").toList)
  simp [runsFrom, hopen]

theorem responsePrefix_buildRuntime (config : ComputeConfig) :
    (buildRuntime config).responsePrefix = config.runtime.skeletonResponsePrefix := rfl

theorem toNat_promptTokens (self : SkeletonRuntimeAdapter)
    (request : OpenAiChatCompletionRequest) :
    (self.chatUsage request).promptTokens.toNat = min (2 ^ 32 - 1)
      (max 1 (request.messages.map fun message => wordCount message.content).sum) := by
  show (estimatedTokens _).toNat = _
  rw [toNat_estimatedTokens, wordCount_intercalate_space, List.map_map]
  rfl

/-- The usage of a successful chat counts the words exactly, within the range of the counters:
those of all messages, at least one; those of the prefix, of the tag and of the selected
message; and the two together. The prompt is counted alike for every order of the messages
and whatever their roles. -/
theorem chat_usage_exact (config : ComputeConfig) {state : SkeletonRuntimeState}
    {request : OpenAiChatCompletionRequest} {now : U64} {response : OpenAiChatCompletionResponse}
    (h : ((buildRuntime config).chatCompletion request now).result state = .ok response) :
    response.usage.promptTokens.toNat = min (2 ^ 32 - 1)
        (max 1 (request.messages.map fun message => wordCount message.content).sum) ∧
      (∀ (state' : SkeletonRuntimeState) (request' : OpenAiChatCompletionRequest) (now' : U64)
          (response' : OpenAiChatCompletionResponse),
        ((buildRuntime config).chatCompletion request' now').result state' = .ok response' →
        (request'.messages.map OpenAiChatMessage.content).Perm
          (request.messages.map OpenAiChatMessage.content) →
        response'.usage.promptTokens = response.usage.promptTokens) ∧
      (∃ selected, Selected request.messages selected) ∧
      (∀ selected, Selected request.messages selected →
        response.usage.completionTokens.toNat = min (2 ^ 32 - 1)
          (wordCount config.runtime.skeletonResponsePrefix +
            wordCount ("[" ++ request.model ++ "]") + wordCount selected.content)) ∧
      response.usage.totalTokens.toNat = min (2 ^ 32 - 1)
        (response.usage.promptTokens.toNat + response.usage.completionTokens.toNat) ∧
      response.usage.promptTokens ≤ response.usage.totalTokens ∧
      response.usage.completionTokens ≤ response.usage.totalTokens := by
  obtain ⟨haccepted, rfl⟩ := eq_chatResponse_of_ok h
  have hmessages := messages_ne_nil_of_accepted haccepted
  rw [SkeletonRuntimeAdapter.chatResponse_usage, SkeletonRuntimeAdapter.chatUsage_totalTokens]
  refine ⟨?prompt, ?alike, exists_selected hmessages, ?completion, ?total, ?_, ?_⟩
  case prompt => exact toNat_promptTokens _ request
  case alike =>
    intro state' request' now' response' h' hperm
    obtain ⟨-, rfl⟩ := eq_chatResponse_of_ok h'
    have hsum := (hperm.map wordCount).sum_eq
    rw [List.map_map, List.map_map] at hsum
    apply BitVec.eq_of_toNat_eq
    rw [SkeletonRuntimeAdapter.chatResponse_usage, toNat_promptTokens, toNat_promptTokens]
    exact congrArg (fun n => min (2 ^ 32 - 1) (max 1 n)) hsum
  case completion =>
    intro selected hselected
    have htag := wordCount_tag_pos request.model
    rw [SkeletonRuntimeAdapter.chatUsage_completionTokens, toNat_estimatedTokens,
      chatReply_of_selected _ hselected, wordCount_reply, responsePrefix_buildRuntime,
      max_eq_right (by omega)]
  case total => rw [toNat_satAdd, Nat.min_comm]
  · exact le_satAdd_left _ _
  · exact le_satAdd_right _ _

/-- A system message and a question of two words. -/
def briefRequest : OpenAiChatCompletionRequest where
  model := "gemma"
  messages := [⟨"system", "be brief"⟩, ⟨"user", " what\tnow "⟩]
  stream := false

theorem chat_usage_brief :
    ∃ response, ((buildRuntime twoModelConfig).chatCompletion briefRequest 0).result .new =
        .ok response ∧
      response.usage.promptTokens.toNat = 4 ∧ response.usage.completionTokens.toNat = 6 ∧
      response.usage.totalTokens.toNat = 10 := by
  have haccepted : (buildRuntime twoModelConfig).chatRefusal briefRequest = none :=
    chatRefusal_eq_none ⟨twoSlotModel "gemma", by simp [twoModelConfig], rfl⟩ rfl
      (List.cons_ne_nil _ _)
  have hresult := (chatCompletion_of_accepted haccepted .new 0).1
  have hselected : Selected briefRequest.messages ⟨"user", " what\tnow "⟩ :=
    .user [⟨"system", "be brief"⟩] [] rfl rfl nofun
  obtain ⟨hprompt, -, -, hcompletion, htotal, -⟩ := chat_usage_exact twoModelConfig hresult
  have hprompt' := hprompt.trans (by decide : _ = 4)
  have hcompletion' := (hcompletion _ hselected).trans (by decide : _ = 6)
  rw [hprompt', hcompletion'] at htotal
  exact ⟨_, hresult, hprompt', hcompletion', htotal⟩

end X0xCompute
