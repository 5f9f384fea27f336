import DnsSd.Avahi.Session
import DnsSd.Avahi.Group

/-!
# Avahi — Projection

`[dns_sd_avahi.c]`.  The two-thread session (`Session.lean`) seen from the daemon: the callbacks
`avahi_client_new` runs on the caller's thread and those the worker's loop dispatches, and what
they do.  No other step runs a callback; `dns_sd_term` only sets the quit flag, which no callback
reads, and `cleanup` only forgets the group.  So the callbacks of a session are a run of the
callback machine (`Avahi.run`) from the batch `dns_sd_announce` built, and every result about
those runs holds of the session's callbacks.

* `session_callbacks_are_a_run`: in every interleaving that starts with `dns_sd_announce` for a
  configuration `mc`, the callbacks run so far are a run of `Avahi.run` from the batch
  `dns_sd_create_context` built for `mc`, whose calls are those in the session's log.
* `session_group_holds_current_entries`: at every point of every session the daemon's group
  holds only entries of active slots, in order, each under the slot's current name.
* `session_adds_ask_configured_slots`: every add the daemon gets is for an active slot of that
  batch, with the slot's type and port, under its configured name renamed by
  `avahi_alternative_service_name`.
-/

namespace DnsSd.Avahi

variable {alt : Bytes → Bytes}

/-! ### The callbacks never read the quit flag -/

/-- The quit flag also raised when `c` is: by a `dns_sd_term` the callbacks did not make. -/
def St.orQuit (c : Bool) (s : St) : St := { s with quit := s.quit || c }

@[simp] theorem St.orQuit_group (c : Bool) (s : St) : (s.orQuit c).group = s.group := rfl

theorem fillGroup_orQuit (c : Bool) (r : Replies) (s : St) (obs : List Obs) :
    fillGroup alt r (s.orQuit c) obs = (fillGroup alt r s obs).map (Prod.map (St.orQuit c) id) := by
  unfold fillGroup
  by_cases he : s.entries = []
  · simp only [St.orQuit, he, if_true, Option.map_map]
    congr 1
    funext l
    simp only [Function.comp, dnsSdTerm]
    split_ifs <;> simp [Prod.map, St.orQuit]
  · simp [St.orQuit, he, Prod.map]

theorem createServices_orQuit (c : Bool) (r : Replies) (s : St) :
    createServices alt r (s.orQuit c) =
      (createServices alt r s).map (Prod.map (St.orQuit c) id) := by
  unfold createServices
  cases hg : s.group with
  | none =>
    simp only [St.orQuit_group, hg]
    split_ifs
    · exact fillGroup_orQuit c r
        { s with group := some s.nextGroup, nextGroup := s.nextGroup + 1, entries := [] } _
    · simp [St.orQuit, dnsSdTerm, Prod.map]
  | some g =>
    simp only [St.orQuit_group, hg]
    exact fillGroup_orQuit c r { s with group := some g, entries := [] } _

/-- **A callback runs alike whatever the quit flag**, and keeps a raised one raised. -/
theorem step_orQuit (c : Bool) (s : St) (e : Event) :
    step alt (s.orQuit c) e = (step alt s e).map (Prod.map (St.orQuit c) id) := by
  cases e with
  | client state r =>
    simp only [step, Option.map_map]
    cases state <;>
      simp only [clientCallback, createServices_orQuit, St.orQuit_group, Option.map_map] <;>
      try split_ifs
    all_goals simp [Function.comp_def, Prod.map, St.orQuit, dnsSdTerm]
  | group g state r =>
    simp only [step, Option.map_map, entryGroupCallback, St.orQuit_group]
    split_ifs
    · cases state with
      | collision =>
        show Option.map _ (createServices alt r
          (St.orQuit c { s with group := some g, ctx := renameAllServices alt s.ctx })) = _
        rw [createServices_orQuit, Option.map_map]
        rfl
      | _ => simp [Prod.map, St.orQuit, dnsSdTerm]
    · rfl

namespace Session

/-! ### The callbacks read off a session -/

/-- The calls a note records the callbacks making. -/
def Note.calls : Note → List Obs
  | .callback obs => obs
  | _ => []

/-- Everything the callbacks did, in order, read off the log. -/
def World.calls (w : World) : List Obs := w.log.flatMap Note.calls

/-- The notification a step delivers to a callback, if it is one. -/
def Ev.event? : Ev → Option Event
  | .connectCallback state r => some (.client state r)
  | .callback e => some e
  | _ => none

/-- The callbacks' state `s` as the session holds it: the same batch, group entries and groups
made; a quit flag `s` has set is set in the session too (where `dns_sd_term` may also set it);
and, until `cleanup` forgets it, the same group. -/
structure Tracks (w : World) (s : St) : Prop where
  ctx : s.ctx = w.st.ctx
  entries : s.entries = w.st.entries
  nextGroup : s.nextGroup = w.st.nextGroup
  quit : s.quit = true → w.st.quit = true
  group : w.caller = .connecting ∨ w.client = true → s.group = w.st.group

/-- While a callback can run, the session holds the callbacks' state, its quit flag raised
where the caller's `dns_sd_term` raised it. -/
theorem Tracks.live {w : World} {s : St} (ht : Tracks w s)
    (hl : w.caller = .connecting ∨ w.client = true) : w.st = s.orQuit w.st.quit := by
  obtain ⟨hc, he, hn, hq, hg⟩ := ht
  have hq' : (s.quit || w.st.quit) = w.st.quit := by cases h : s.quit <;> simp [h, hq]
  show w.st = ⟨s.group, s.nextGroup, s.entries, s.ctx, s.quit || w.st.quit⟩
  rw [hg hl, hn, he, hc, hq']

/-- A step that keeps the callbacks' state, and lets a callback run only where one could
before, keeps the tracking. -/
theorem Tracks.of_st {w w' : World} {s : St} (ht : Tracks w s) (hst : w'.st = w.st)
    (hg : w'.caller = .connecting ∨ w'.client = true → w.caller = .connecting ∨ w.client = true) :
    Tracks w' s := by
  refine ⟨?_, ?_, ?_, fun h => ?_, fun h => ?_⟩ <;> rw [hst]
  exacts [ht.ctx, ht.entries, ht.nextGroup, ht.quit h, ht.group (hg h)]

theorem flatMap_calls_nameNotes (mk : Nat → Note) (hmk : ∀ k, (mk k).calls = []) (ctx : Batch) :
    (nameNotes mk ctx).flatMap Note.calls = [] :=
  List.flatMap_eq_nil_iff.mpr fun _ hn => by
    obtain ⟨k, -, rfl⟩ := mem_slotObs hn
    exact hmk k

/-- The daemon objects' frees record no call. -/
theorem freePoll_cleanupGroupClient_calls (w : World) :
    (freePoll (cleanupGroupClient w)).calls = w.calls := by
  rw [World.calls, freePoll_cleanupGroupClient_log]
  split_ifs <;> simp [World.calls, Note.calls]

/-- `cleanup` records no call. -/
theorem cleanup_calls (w : World) : (cleanup w).calls = w.calls := by
  rw [World.calls, cleanup_log]
  split_ifs <;> simp [World.calls, Note.calls,
    flatMap_calls_nameNotes (fun i => .free (.name i)) fun _ => rfl]

/-- `avahi_simple_poll_quit`: the quit flag raised if `simple_poll` is set. -/
theorem dnsSdTermQuit_eq (w : World) : dnsSdTermQuit w =
    { w with caller := .done, st := w.st.orQuit w.poll, log := w.log ++ [.quit w.poll] } := by
  unfold dnsSdTermQuit
  split <;> simp_all [St.orQuit, dnsSdTerm]

/-- A callback is a step of the callback machine from the tracked state, and adds its calls to
the log. -/
theorem dispatch_tracks {w w' : World} {ev : Event} {s : St} (h : dispatch alt ev w = some w')
    (ht : Tracks w s) (hl : w.caller = .connecting ∨ w.client = true) :
    ∃ s' obs, Avahi.step alt s ev = some (s', obs) ∧ w'.calls = w.calls ++ obs ∧
      w'.caller = w.caller ∧ Tracks w' s' := by
  obtain ⟨s₁, obs, hs, rfl⟩ := dispatch_eq h
  rw [ht.live hl, step_orQuit] at hs
  obtain ⟨⟨s', o⟩, hs', hp⟩ := Option.map_eq_some'.mp hs
  obtain ⟨rfl, rfl⟩ := Prod.mk.inj hp
  refine ⟨s', o, hs', ?_, rfl, ⟨rfl, rfl, rfl, fun hq => by simp [St.orQuit, hq], fun _ => rfl⟩⟩
  simp only [World.calls, List.flatMap_append, List.flatMap_cons, Note.calls]
  split <;> simp [Note.calls]

/-- Every other step away from the start adds no call and keeps the tracking: the caller's
steps touch at most the quit flag, `cleanup` only the group, and the loop's moves nothing. -/
theorem step_tracks_other {w w' : World} {e : Ev} {s : St} (h : step alt w e = some w')
    (he : e.event? = none) (hi : Inv w) (hc : w.caller ≠ .idle) (ht : Tracks w s) :
    w'.caller ≠ .idle ∧ w'.calls = w.calls ∧ Tracks w' s := by
  cases e with
  | announce => exact absurd (Option.ite_none_right_eq_some.mp h).1 hc
  | connectCallback | callback => cases he
  | connected c t =>
    obtain ⟨hcc, ⟨⟩⟩ := Option.ite_none_right_eq_some.mp h
    cases c
    · show _ ∧ (cleanup w).calls = _ ∧ Tracks { cleanup w with caller := .announced } s
      exact ⟨nofun, cleanup_calls w, ⟨ht.ctx, ht.entries, ht.nextGroup, ht.quit, fun h => by
        simp at h⟩⟩
    · exact ⟨nofun, by simp [World.calls, dnsSdAnnounceEnd, Note.calls],
        ht.of_st rfl fun _ => .inl hcc⟩
  | termTest =>
    obtain ⟨-, ⟨⟩⟩ := Option.ite_none_right_eq_some.mp h
    refine ⟨by simp only [dnsSdTermTest]; split <;> simp, rfl, ht.of_st rfl fun h' => .inr ?_⟩
    rcases h' with h' | h'
    · simp only [dnsSdTermTest] at h'; split at h' <;> cases h'
    · exact h'
  | termQuit =>
    obtain ⟨-, ⟨⟩⟩ := Option.ite_none_right_eq_some.mp h
    rw [dnsSdTermQuit_eq]
    exact ⟨nofun, by simp [World.calls, Note.calls], ⟨ht.ctx, ht.entries, ht.nextGroup,
      fun h => by simp [St.orQuit, ht.quit h], fun h' => ht.group (.inr (h'.resolve_left nofun))⟩⟩
  | prepare | wakeup | failLoop | resetPoll =>
    obtain ⟨-, ⟨⟩⟩ := Option.ite_none_right_eq_some.mp h
    exact ⟨hc, rfl, ht.of_st rfl id⟩
  | freeHandles =>
    obtain ⟨hw, ⟨⟩⟩ := Option.ite_none_right_eq_some.mp h
    exact ⟨hc, freePoll_cleanupGroupClient_calls w, ⟨ht.ctx, ht.entries, ht.nextGroup, ht.quit,
      fun h' => absurd (h'.resolve_right (by simp [freePoll, cleanupGroupClient]))
        (hi.not_connecting (by simp [hw]))⟩⟩
  | releaseCtx =>
    obtain ⟨-, ⟨⟩⟩ := Option.ite_none_right_eq_some.mp h
    refine ⟨hc, ?_, ht.of_st rfl id⟩
    simp [cleanupCtx, World.calls, flatMap_calls_nameNotes (fun i => .free (.name i)) fun _ => rfl,
      Note.calls]

/-- A callback step, from `avahi_client_new` or from the loop, is a step of the callback
machine from the tracked state. -/
theorem step_tracks_callback {w w' : World} {e : Ev} {ev : Event} {s : St}
    (h : step alt w e = some w') (he : e.event? = some ev) (hi : Inv w) (ht : Tracks w s) :
    ∃ s' obs, Avahi.step alt s ev = some (s', obs) ∧ w'.calls = w.calls ++ obs ∧
      w'.caller = w.caller ∧ Tracks w' s' := by
  cases e with
  | connectCallback state r =>
    obtain rfl : Event.client state r = ev := Option.some.inj he
    obtain ⟨hc, hd⟩ := Option.ite_none_right_eq_some.mp h
    exact dispatch_tracks hd ht (.inl hc)
  | callback e =>
    obtain rfl : e = ev := Option.some.inj he
    obtain ⟨hw, hd⟩ := Option.ite_none_right_eq_some.mp h
    obtain ⟨s', obs, hs, hcalls, hc, ht'⟩ :=
      dispatch_tracks hd (ht.of_st rfl id) (.inr (hi.poll_of_running (.inr (.inl hw))).2.1)
    exact ⟨s', obs, hs, hcalls, hc, ht'⟩
  | _ => cases he

/-- Away from the start, a run of the session runs its callbacks as a run of the callback
machine from the tracked state. -/
theorem run_tracks :
    ∀ {w w' : World} {evs : List Ev} {s : St}, run alt w evs = some w' → Inv w →
      w.caller ≠ .idle → Tracks w s → ∃ s' obs,
        Avahi.run alt s (evs.filterMap Ev.event?) = some (s', obs) ∧ w'.calls = w.calls ++ obs ∧
          Tracks w' s'
  | _, _, [], s, h, _, _, ht => by cases h; exact ⟨s, [], rfl, by simp, ht⟩
  | w, _, e :: evs, s, h, hi, hc, ht => by
    obtain ⟨w₁, h₁, h'⟩ := run_cons h
    have hi₁ := step_inv h₁ hi
    cases he : e.event? with
    | none =>
      obtain ⟨hc₁, hcalls, ht₁⟩ := step_tracks_other h₁ he hi hc ht
      obtain ⟨s', obs, hr, hw', ht'⟩ := run_tracks h' hi₁ hc₁ ht₁
      exact ⟨s', obs, by simpa [he] using hr, by rw [hw', hcalls], ht'⟩
    | some ev =>
      obtain ⟨s₁, o₁, hs₁, hcalls, hc₁, ht₁⟩ := step_tracks_callback h₁ he hi ht
      obtain ⟨s', obs, hr, hw', ht'⟩ := run_tracks h' hi₁ (hc₁ ▸ hc) ht₁
      refine ⟨s', o₁ ++ obs, ?_, by rw [hw', hcalls, List.append_assoc], ht'⟩
      simp [he, Avahi.run_cons, hs₁, hr]

/-- `dns_sd_announce` up to `avahi_client_new` runs no callback; when it builds a batch, the
callbacks' state is the initial one on that batch. -/
theorem announce_tracks {mc : MiscConfig} {g : Option Bytes} {p : Bool} {ctx₀ : Batch}
    {w₁ : World} (h : dnsSdAnnounceStep mc g p World.init = some w₁)
    (hz : dnsSdServiceCount mc ≠ 0) (hctx : dnsSdCreateContext mc g = some ctx₀) :
    w₁.calls = [] ∧ Tracks w₁ (initial ctx₀) ∧ w₁.caller ≠ .idle := by
  rw [dnsSdAnnounceStep, if_neg hz, hctx, Option.map_some', Option.some.injEq] at h
  subst h
  have hcalls : (allocBatch ctx₀ World.init).calls = [] := by
    simp [allocBatch, World.calls, World.init,
      flatMap_calls_nameNotes (fun i => .alloc (.name i)) fun _ => rfl, Note.calls]
  cases p
  · refine ⟨?_, ⟨rfl, rfl, rfl, id, fun _ => rfl⟩, nofun⟩
    show (cleanup (allocBatch ctx₀ World.init)).calls = []
    rw [cleanup_calls, hcalls]
  · exact ⟨by simpa [World.calls, Note.calls] using hcalls, ⟨rfl, rfl, rfl, id, fun _ => rfl⟩, nofun⟩

/-- The callbacks of a session that starts with `dns_sd_announce` for `mc` are a run from the
batch built for `mc`. -/
theorem run_tracks_of_announce {mc : MiscConfig} {g : Option Bytes} {p : Bool} {ctx₀ : Batch}
    {evs : List Ev} {w : World} (h : run alt World.init (.announce mc g p :: evs) = some w)
    (hz : dnsSdServiceCount mc ≠ 0) (hctx : dnsSdCreateContext mc g = some ctx₀) :
    ∃ s, Avahi.run alt (initial ctx₀) (evs.filterMap Ev.event?) = some (s, w.calls) ∧
      Tracks w s := by
  obtain ⟨w₁, h₁, h'⟩ := run_cons h
  obtain ⟨hcalls, ht₁, hc₁⟩ := announce_tracks (show dnsSdAnnounceStep mc g p World.init = some w₁
    from h₁) hz hctx
  obtain ⟨s, obs, hr, hw, ht⟩ := run_tracks h' (step_inv h₁ Inv.init) hc₁ ht₁
  exact ⟨s, by rwa [hw, hcalls, List.nil_append], ht⟩

/-- **A session's callbacks are a run of the callback machine.**  In every interleaving that
starts with `dns_sd_announce` for a configuration `mc` with a service, whatever the results of
the setup calls and the answers of the daemon: the callbacks run so far, inside
`avahi_client_new` on the caller's thread and in the worker's loop, are in order a run of
`Avahi.run` from the batch `dns_sd_create_context` built for `mc`, and the calls of that run are
the calls in the session's log.  The run ends on the session's batch, group entries and groups
made; its quit flag is set only if the session's is; and until `cleanup` forgets the group, it
has the session's group. -/
theorem session_callbacks_are_a_run {mc : MiscConfig} {g : Option Bytes} {p : Bool}
    {ctx₀ : Batch} {evs : List Ev} {w : World}
    (h : run alt World.init (.announce mc g p :: evs) = some w)
    (hz : dnsSdServiceCount mc ≠ 0) (hctx : dnsSdCreateContext mc g = some ctx₀) :
    ∃ s, Avahi.run alt (initial ctx₀) (evs.filterMap Ev.event?) = some (s, w.calls) ∧
      Tracks w s :=
  run_tracks_of_announce h hz hctx

/-- AGWPE alone: the server runs inside `avahi_client_new`, and the group is established once
the loop runs; then the caller's `dns_sd_term` ends the loop and the worker frees the daemon
objects. -/
theorem session_running_then_term_is_a_run :
    ∃ w ctx₀, run (· ++ [50]) World.init (.announce agwpeOnly none true ::
        [.connectCallback .sRunning ⟨true, [0], 0, 0⟩, .connected true true, .prepare,
          .callback (.group 0 .established ⟨false, [], 0, 0⟩), .termTest, .termQuit, .prepare,
          .freeHandles]) = some w ∧
      dnsSdServiceCount agwpeOnly ≠ 0 ∧ dnsSdCreateContext agwpeOnly none = some ctx₀ ∧
      ∃ s, Avahi.run (· ++ [50]) (initial ctx₀)
          ([Ev.connectCallback .sRunning ⟨true, [0], 0, 0⟩, .connected true true, .prepare,
            .callback (.group 0 .established ⟨false, [], 0, 0⟩), .termTest, .termQuit, .prepare,
            .freeHandles].filterMap Ev.event?) = some (s, w.calls) ∧ Tracks w s :=
  ⟨_, _, rfl, by decide, rfl, @session_callbacks_are_a_run (· ++ [50]) agwpeOnly none true _
    [.connectCallback .sRunning ⟨true, [0], 0, 0⟩, .connected true true, .prepare,
      .callback (.group 0 .established ⟨false, [], 0, 0⟩), .termTest, .termQuit, .prepare,
      .freeHandles] _ rfl (by decide) rfl⟩

/-- From the start only `dns_sd_announce` or `dns_sd_term`'s test can step; neither runs a
callback, and the callbacks' state is then an initial one. -/
theorem first_step_tracks {e : Ev} {w₁ : World} (h₁ : step alt World.init e = some w₁) :
    ∃ s₀, s₀.entries = [] ∧ Tracks w₁ s₀ ∧ w₁.caller ≠ .idle ∧ e.event? = none := by
  cases e with
  | announce mc g p =>
    have ha : dnsSdAnnounceStep mc g p World.init = some w₁ := h₁
    by_cases hz : dnsSdServiceCount mc = 0
    · rw [dnsSdAnnounceStep, if_pos hz, Option.some.injEq] at ha
      subst ha
      exact ⟨initial [], rfl, ⟨rfl, rfl, rfl, id, fun _ => rfl⟩, nofun, rfl⟩
    · obtain ⟨-, ht₁, hc₁⟩ := announce_tracks ha hz (dnsSdCreateContext_eq mc g)
      exact ⟨_, rfl, ht₁, hc₁, rfl⟩
  | termTest =>
    obtain rfl : dnsSdTermTest World.init = w₁ := Option.some.inj h₁
    exact ⟨initial [], rfl, ⟨rfl, rfl, rfl, id, fun _ => rfl⟩,
      by simp [dnsSdTermTest, World.init], rfl⟩
  | _ => simp [step, World.init] at h₁

/-- **In every session the group holds only current entries.**  In every interleaving of the
caller and the worker, at every point, the daemon's entry group holds requests of active slots
only, in slot order, none twice, each under the name its slot has at that point: a reset or a new
group always comes before the adds, and no rename leaves an entry under an old name behind. -/
theorem session_group_holds_current_entries {evs : List Ev} {w : World}
    (h : run alt World.init evs = some w) : w.st.entries <+: slotEntries 0 w.st.ctx := by
  cases evs with
  | nil => cases h; exact List.nil_prefix
  | cons e evs =>
    obtain ⟨w₁, h₁, h'⟩ := run_cons h
    obtain ⟨s₀, hs₀, ht₁, hc₁, -⟩ := first_step_tracks h₁
    obtain ⟨s, obs, hr, -, ht⟩ := run_tracks h' (step_inv h₁ Inv.init) hc₁ ht₁
    rw [← ht.entries, ← ht.ctx]
    exact run_entries_current hr (hs₀ ▸ List.nil_prefix)

/-- AGWPE and one KISS port: on `S_RUNNING` the KISS add collides once and the round commits;
then a group `COLLISION` renames both and the KISS add fails. -/
theorem session_collisions_keep_entries_current :
    ∃ w, run (· ++ [50]) World.init [.announce agwpeAndKiss none true, .connected true true,
        .prepare, .callback (.client .sRunning ⟨true, [0, -8, 0], 0, 0⟩), .prepare,
        .callback (.group 0 .collision ⟨false, [0, 1], 0, 0⟩)] = some w ∧
      w.st.entries <+: slotEntries 0 w.st.ctx := by
  obtain ⟨w, h⟩ := Option.isSome_iff_exists.mp (show (run (· ++ [50]) World.init
    [.announce agwpeAndKiss none true, .connected true true, .prepare,
      .callback (.client .sRunning ⟨true, [0, -8, 0], 0, 0⟩), .prepare,
      .callback (.group 0 .collision ⟨false, [0, 1], 0, 0⟩)]).isSome from by decide)
  exact ⟨w, h, session_group_holds_current_entries h⟩

/-- **The daemon is asked only for the batch's services.**  In every interleaving that starts
with `dns_sd_announce` for a configuration `mc` with a service, every
`avahi_entry_group_add_service` the callbacks made asks, for an active slot `i` of the batch
`dns_sd_create_context` built for `mc`, for slot `i`'s type and configured port under its
configured name renamed some number of times by `avahi_alternative_service_name`; and each slot
of the session's batch is its configured slot so renamed, its port and channel unchanged. -/
theorem session_adds_ask_configured_slots {mc : MiscConfig} {g : Option Bytes} {p : Bool}
    {ctx₀ : Batch} {evs : List Ev} {w : World}
    (h : run alt World.init (.announce mc g p :: evs) = some w)
    (hz : dnsSdServiceCount mc ≠ 0) (hctx : dnsSdCreateContext mc g = some ctx₀) :
    List.Forall₂ (Renamed alt) ctx₀ w.st.ctx ∧
      ∀ req x, Obs.addService req x ∈ w.calls →
        ∃ i svc n, ctx₀[i]? = some svc ∧ svc.port ≠ 0 ∧ req = request i (svc.rename alt n) := by
  obtain ⟨s, hr, ht⟩ := run_tracks_of_announce h hz hctx
  have hr₀ := run_renamed hr
  simp only [initial, avahiStrdupPass_eq] at hr₀
  exact ⟨ht.ctx ▸ hr₀, fun req x hm => by
    simpa only [initial, avahiStrdupPass_eq] using run_asks hr hm⟩

/-- AGWPE and one KISS port: the KISS add collides once, then a group `COLLISION` renames both;
each add asks for its slot under its name renamed zero, one or two times. -/
theorem session_collisions_ask_configured_slots :
    ∃ w ctx₀, run (· ++ [50]) World.init (.announce agwpeAndKiss none true ::
        [.connected true true, .prepare, .callback (.client .sRunning ⟨true, [0, -8, 0], 0, 0⟩),
          .prepare, .callback (.group 0 .collision ⟨false, [0, 1], 0, 0⟩)]) = some w ∧
      dnsSdServiceCount agwpeAndKiss ≠ 0 ∧ dnsSdCreateContext agwpeAndKiss none = some ctx₀ ∧
      List.Forall₂ (Renamed (· ++ [50])) ctx₀ w.st.ctx ∧
        ∀ req x, Obs.addService req x ∈ w.calls →
          ∃ i svc n, ctx₀[i]? = some svc ∧ svc.port ≠ 0 ∧
            req = request i (svc.rename (· ++ [50]) n) := by
  obtain ⟨w, h⟩ := Option.isSome_iff_exists.mp (show (run (· ++ [50]) World.init
    [.announce agwpeAndKiss none true, .connected true true, .prepare,
      .callback (.client .sRunning ⟨true, [0, -8, 0], 0, 0⟩), .prepare,
      .callback (.group 0 .collision ⟨false, [0, 1], 0, 0⟩)]).isSome from by decide)
  exact ⟨w, _, h, by decide, dnsSdCreateContext_eq _ _,
    session_adds_ask_configured_slots h (by decide) (dnsSdCreateContext_eq _ _)⟩

end Session

end DnsSd.Avahi
