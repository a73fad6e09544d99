import X0xCompute.Daemon

/-!
# Which requests reach which handler

Each handler has one path and one method. A request reaches it exactly when it is on the
path with the method, or with `HEAD` where the method is `GET`; so the route table can be
read backwards.
-/

namespace X0xCompute

/-- The handler that a request reaches. -/
def HttpRequest.handler? (request : HttpRequest) : Option Handler :=
  (matchRoute request.path).bind fun methods => matchMethod methods request.method

namespace Handler

/-- The method of a handler. -/
def method : Handler → Method
  | createReservation | openaiChatCompletions => .post
  | deleteReservation _ => .delete
  | health | identityHandler | localCapability | peerCapabilities | configView | localModels
  | listReservations | openaiModels => .get

/-- The path of a handler. -/
def path : Handler → String
  | health => "/health"
  | identityHandler => "/v1/identity"
  | localCapability => "/v1/capabilities/local"
  | peerCapabilities => "/v1/capabilities/peers"
  | configView => "/v1/config"
  | localModels => "/v1/models/local"
  | listReservations | createReservation => "/v1/reservations"
  | deleteReservation segment => reservationPrefix ++ segment
  | openaiModels => "/v1/openai/models"
  | openaiChatCompletions => "/v1/openai/chat/completions"

/-- The segment that a handler takes is one segment, not empty. -/
def Proper : Handler → Prop
  | deleteReservation segment => segment ≠ "" ∧ '/' ∉ segment.toList
  | _ => True

instance : DecidablePred Proper
  | deleteReservation segment => inferInstanceAs (Decidable (segment ≠ "" ∧ _))
  | health | identityHandler | localCapability | peerCapabilities | configView | localModels
  | listReservations | createReservation | openaiModels | openaiChatCompletions =>
    inferInstanceAs (Decidable True)

end Handler

/-- What the table says of each handler. -/
theorem staticRoutes_handler : ∀ route ∈ staticRoutes, ∀ entry ∈ route.2,
    entry.1 = entry.2.method ∧ route.1 = entry.2.path ∧ entry.2.Proper := by
  decide

theorem staticRoutes_path : ∀ route ∈ staticRoutes,
    ¬ reservationPrefix.toList <+: route.1.toList := by
  decide

theorem mem_of_lookup {α β : Type} [BEq α] [LawfulBEq α] {l : List (α × β)} {a : α} {b : β}
    (h : l.lookup a = some b) : (a, b) ∈ l := by
  rcases List.lookup_eq_some_iff.mp h with ⟨pre, post, rfl, -⟩
  exact List.mem_append_right _ List.mem_cons_self

theorem reservationSegment?_eq_some_iff {path segment : String} :
    reservationSegment? path = some segment ↔
      path = reservationPrefix ++ segment ∧ segment ≠ "" ∧ '/' ∉ segment.toList := by
  unfold reservationSegment?
  refine ⟨?_, ?_⟩
  · intro h
    split at h
    · rename_i hinitial
      rcases hinitial with ⟨rest, hrest⟩
      rw [← hrest, List.drop_left] at h
      dsimp only at h
      split at h
      · rename_i hproper
        cases h
        refine ⟨?_, ?_, ?_⟩
        · apply String.toList_injective
          rw [String.toList_append, String.toList_ofList, hrest]
        · intro hempty
          apply hproper.1
          simpa using congrArg String.toList hempty
        · rw [String.toList_ofList]
          exact hproper.2
      · cases h
    · cases h
  · rintro ⟨rfl, hempty, hslash⟩
    have hsegment : segment.toList ≠ [] := by
      intro hnil
      apply hempty
      exact String.toList_injective hnil
    rw [String.toList_append, if_pos (List.prefix_append _ _), List.drop_left]
    simp only [hsegment, hslash, ne_eq, not_false_eq_true, and_self, if_true, String.ofList_toList]

/-- What a matched route offers. -/
theorem matchRoute_mem {path : String} {methods : List (Method × Handler)}
    (h : matchRoute path = some methods) : ∀ entry ∈ methods,
      entry.1 = entry.2.method ∧ path = entry.2.path ∧ entry.2.Proper := by
  unfold matchRoute at h
  split at h
  · rename_i found hlookup
    cases h
    exact staticRoutes_handler _ (mem_of_lookup hlookup)
  · rcases Option.map_eq_some_iff.mp h with ⟨segment, hsegment, rfl⟩
    obtain ⟨hpath, hproper⟩ := reservationSegment?_eq_some_iff.mp hsegment
    intro entry hentry
    rw [List.mem_singleton] at hentry
    subst hentry
    exact ⟨rfl, hpath, hproper⟩

/-- The methods of a handler's own path include its own. -/
theorem matchRoute_path {handler : Handler} (h : handler.Proper) :
    ∃ methods, matchRoute handler.path = some methods ∧
      methods.lookup handler.method = some handler := by
  cases handler with
  | deleteReservation segment =>
    have hsegment : reservationSegment? (reservationPrefix ++ segment) = some segment :=
      reservationSegment?_eq_some_iff.mpr ⟨rfl, h⟩
    have hstatic : staticRoutes.lookup (reservationPrefix ++ segment) = none := by
      cases hlookup : staticRoutes.lookup (reservationPrefix ++ segment) with
      | none => rfl
      | some methods =>
        have hpath := staticRoutes_path _ (mem_of_lookup hlookup)
        rw [String.toList_append] at hpath
        exact absurd (List.prefix_append _ _) hpath
    refine ⟨[(.delete, .deleteReservation segment)], ?_, by simp [Handler.method]⟩
    simp only [matchRoute, Handler.path, hstatic, hsegment, Option.map_some]
  | _ => exact ⟨_, rfl, rfl⟩

theorem matchMethod_of_ne {methods : List (Method × Handler)} {method : Method}
    (h : method ≠ .head) : matchMethod methods method = methods.lookup method := by
  cases method with
  | head => exact absurd rfl h
  | get | post | delete | other => rfl

/-- A request reaches a handler exactly when it is on the handler's path with its method, or
with `HEAD` in place of `GET`. -/
theorem HttpRequest.handler?_eq_some_iff {request : HttpRequest} {handler : Handler} :
    request.handler? = some handler ↔
      request.path = handler.path ∧ handler.Proper ∧
        (request.method = handler.method ∨ request.method = .head ∧ handler.method = .get) := by
  unfold HttpRequest.handler?
  rw [Option.bind_eq_some_iff]
  refine ⟨?_, ?_⟩
  · rintro ⟨methods, hroute, hmethod⟩
    by_cases hhead : request.method = .head
    · rw [hhead] at hmethod
      obtain ⟨hget, hpath, hproper⟩ := matchRoute_mem hroute _ (mem_of_lookup hmethod)
      exact ⟨hpath, hproper, Or.inr ⟨hhead, hget.symm⟩⟩
    · rw [matchMethod_of_ne hhead] at hmethod
      obtain ⟨hown, hpath, hproper⟩ := matchRoute_mem hroute _ (mem_of_lookup hmethod)
      exact ⟨hpath, hproper, Or.inl hown⟩
  · rintro ⟨hpath, hproper, hmethod⟩
    rcases matchRoute_path hproper with ⟨methods, hroute, hlookup⟩
    rw [hpath]
    refine ⟨methods, hroute, ?_⟩
    rcases hmethod with hmethod | ⟨hhead, hget⟩
    · have hne : request.method ≠ .head := by
        rw [hmethod]
        cases handler <;> exact nofun
      rw [matchMethod_of_ne hne, hmethod, hlookup]
    · rw [hhead, ← hlookup, hget]
      rfl

end X0xCompute
