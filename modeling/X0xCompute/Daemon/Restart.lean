import X0xCompute.Daemon.Endpoints

/-!
# A daemon that is started again

The reservations and their counter are in memory only. After another start the ids begin anew,
so an id that a client kept from before names a reservation of somebody else.
-/

namespace X0xCompute

open Lib

variable {ContactStore : Type} (http : HttpCrates) (mesh : MeshCrates ContactStore)
  (hex : HexCrate) (config : ComputeConfig) (agent : Agent) (system : SystemReport)
  (startedAt : U64) (inputs : List (DaemonInput ContactStore))

/-- The ids of a run of a daemon are those numbered from one. -/
theorem ids_httpGrants :
    (httpGrants ((daemonMachine http mesh).events (.new hex config agent system startedAt)
        inputs)).map ModelReservation.reservationId =
      numbered counterMax resvId (httpGrants ((daemonMachine http mesh).events
        (.new hex config agent system startedAt) inputs)).length := by
  rw [httpGrants_events]
  exact (numbered_exec _ _).reservationIds

/-- A deletion that was answered `204` takes the reservations of its id. -/
theorem notMem_outstanding_of_deleted {start : AppState} {request : HttpRequest} {now : U64}
    {reservation : ModelReservation}
    (hdeletes : request.deletes? http = some reservation.reservationId)
    (hanswer : (((daemonMachine http mesh).exec start inputs).serve http request now).1.status =
      .noContent) :
    reservation ∉ outstanding http
      ((daemonMachine http mesh).events start (inputs ++ [.request request now])) := by
  intro hmem
  have hkept := (List.mem_filter.mp hmem).2
  rw [decide_eq_true_iff] at hkept
  apply hkept
  rw [Machine.events_snoc, httpReleases, List.filterMap_append, List.mem_append]
  refine Or.inr (List.mem_filterMap.mpr ⟨_, List.mem_singleton.mpr rfl, ?_⟩)
  exact (if_pos hanswer).trans hdeletes

/-- Ids do not survive another start. The ids that two runs have given out, each from a start
of its own and whatever configurations the daemons had, are an initial part one of the other;
so a `DELETE` of the `i`-th reservation that was created before, handled after as many were
created since, is answered `204` and takes the `i`-th reservation created since, if that is
still outstanding. -/
theorem ids_start_anew (hplain : http.KeepsPlain) (config' : ComputeConfig) (agent' : Agent)
    (system' : SystemReport) (startedAt' : U64) (inputs' : List (DaemonInput ContactStore))
    (hbound : (httpGrants ((daemonMachine http mesh).events
      (.new hex config' agent' system' startedAt') inputs')).length ≤ counterMax) :
    let before := (daemonMachine http mesh).events (.new hex config agent system startedAt) inputs
    let start := AppState.new hex config' agent' system' startedAt'
    let since := (daemonMachine http mesh).events start inputs'
    let idsBefore := (httpGrants before).map ModelReservation.reservationId
    let idsSince := (httpGrants since).map ModelReservation.reservationId
    (idsBefore <+: idsSince ∨ idsSince <+: idsBefore) ∧
    ∀ (i : ℕ) (old new : ModelReservation), (httpGrants before)[i]? = some old →
      (httpGrants since)[i]? = some new → new ∈ outstanding http since →
        ∀ (request : HttpRequest) (now : U64), request.method = .delete →
          request.path = "/v1/reservations/" ++ old.reservationId →
            (((daemonMachine http mesh).exec start inputs').serve http request now).1 =
                ⟨.noContent, .empty⟩ ∧
              new ∉ outstanding http
                ((daemonMachine http mesh).events start (inputs' ++ [.request request now])) := by
  intro before start since idsBefore idsSince
  have hbefore : idsBefore = numbered counterMax resvId (httpGrants before).length :=
    ids_httpGrants http mesh hex config agent system startedAt inputs
  have hsince : idsSince = numbered counterMax resvId (httpGrants since).length :=
    ids_httpGrants http mesh hex config' agent' system' startedAt' inputs'
  refine ⟨?_, ?_⟩
  · rw [hbefore, hsince]
    rcases Nat.le_total (httpGrants before).length (httpGrants since).length with hle | hle
    · exact Or.inl (numbered_prefix_of_le _ _ hle)
    · exact Or.inr (numbered_prefix_of_le _ _ hle)
  · intro i old new hold hnew hout request now hmethod hpath
    have hsame : old.reservationId = new.reservationId := by
      have hidOld : idsBefore[i]? = some old.reservationId := by
        rw [List.getElem?_map, hold, Option.map_some]
      have hidNew : idsSince[i]? = some new.reservationId := by
        rw [List.getElem?_map, hnew, Option.map_some]
      rw [hbefore] at hidOld
      rw [hsince] at hidNew
      rw [eq_of_getElem?_numbered hidOld, eq_of_getElem?_numbered hidNew]
    rw [hsame] at hpath
    have hdeletes := deletes?_of_created http mesh hex config' agent' system' startedAt' inputs'
      hplain (List.mem_of_getElem? hnew) hmethod hpath
    have hlive := (live_iff_outstanding http mesh hex config' agent' system' startedAt' inputs'
      hbound new.reservationId).mpr (List.mem_map_of_mem hout)
    have hanswer := (@serve_delete http _ now _ hdeletes _).1 hlive
    exact ⟨hanswer, notMem_outstanding_of_deleted http mesh inputs' hdeletes
      (congrArg HttpResponse.status hanswer)⟩

/-- Alice's deletion, sent once more after the daemon was started again and she got a slot
again, takes the new slot. -/
theorem ids_start_anew_alice :
    (((daemonMachine plainHttp friendsCrates).exec
        (.new .usual twoModelConfig (uniformAgent 0xaa) friendsSystem 4)
        [.request alicePost 5]).serve plainHttp
          ⟨.delete, "/v1/reservations/resv-000001", none, []⟩ 6).1 = ⟨.noContent, .empty⟩ := by
  have hbefore : (httpGrants ((daemonMachine plainHttp friendsCrates).events friendDaemon
      aliceAsks))[0]? = some ⟨"resv-000001", "gemma", "alice", 1, 2⟩ := by
    decide +kernel
  have hsince : (httpGrants ((daemonMachine plainHttp friendsCrates).events
      (.new .usual twoModelConfig (uniformAgent 0xaa) friendsSystem 4)
      [.request alicePost 5]))[0]? = some ⟨"resv-000001", "gemma", "alice", 1, 5⟩ := by
    decide +kernel
  have hout : (⟨"resv-000001", "gemma", "alice", 1, 5⟩ : ModelReservation) ∈
      outstanding plainHttp ((daemonMachine plainHttp friendsCrates).events
        (.new .usual twoModelConfig (uniformAgent 0xaa) friendsSystem 4)
        [.request alicePost 5]) := by
    decide +kernel
  have hbound := length_httpGrants_le plainHttp friendsCrates
    (.new .usual twoModelConfig (uniformAgent 0xaa) friendsSystem 4) [.request alicePost 5]
  obtain ⟨-, hdeleted⟩ := ids_start_anew plainHttp friendsCrates .usual twoModelConfig
    (uniformAgent 0xaa) friendsSystem 1 aliceAsks plainHttp_keepsPlain twoModelConfig
    (uniformAgent 0xaa) friendsSystem 4 [.request alicePost 5] (le_trans hbound (by decide))
  exact (hdeleted 0 _ _ hbefore hsince hout
    ⟨.delete, "/v1/reservations/resv-000001", none, []⟩ 6 rfl rfl).1

end X0xCompute
