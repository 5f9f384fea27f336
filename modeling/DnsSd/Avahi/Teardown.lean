import DnsSd.Avahi.Session

/-!
# Avahi — Teardown

`[dns_sd_avahi.c]`.  `dns_sd_term` against the worker's `cleanup`.  `dns_sd_term` tests
`simple_poll` and then reads it again for `avahi_simple_poll_quit`; `cleanup` frees the poll with
`avahi_simple_poll_free` and only then sets `simple_poll` to `NULL`.  Nothing orders the two
threads, so the caller's call can reach the live poll, the freed one, or `NULL`.

* `session_term_noop`: before `dns_sd_announce`, after a setup that failed or configured nothing,
  and after the teardown, `simple_poll` is `NULL` and `dns_sd_term` does nothing.
* `null_quit_needs_teardown`: a call on `NULL` is made only once the worker has reset
  `simple_poll`, between `dns_sd_term`'s test and its call, and such runs exist.
* `poll_dangles_iff_freed`: `simple_poll` holds a freed poll exactly while the worker is between
  `avahi_simple_poll_free` and `simple_poll = NULL`, and a `dns_sd_term` can call
  `avahi_simple_poll_quit` there.
-/

namespace DnsSd.Avahi.Session

variable {alt : Bytes → Bytes}

/-! ### `dns_sd_term` with nothing to stop -/

/-- With no thread and no batch, or once the worker has reset `simple_poll`, it is `NULL`. -/
theorem Inv.poll_false {w : World} (hi : Inv w)
    (hs : (w.worker = .absent ∧ w.batch = false) ∨ w.worker = .released ∨ w.worker = .done) :
    w.poll = false := by
  have hph := hi.phase
  rcases hs with ⟨hw, hb⟩ | hw | hw
  · have hnc : w.caller ≠ .connecting := fun hc => by simp [(hi.connecting hc).2.2.2.1] at hb
    simp only [World.Phase, hw, hnc, false_or, hb] at hph
    exact hph.1
  all_goals simp only [World.Phase, hw] at hph; exact hph.1

/-- **`dns_sd_term` with nothing to stop does nothing on Avahi.**  Before `dns_sd_announce`,
after it configured nothing or its setup failed, and after the teardown, `simple_poll` is
`NULL`, and `dns_sd_term` moves the caller past it and touches nothing else. -/
theorem session_term_noop {evs : List Ev} {w w' : World} (h : run alt World.init evs = some w)
    (hs : w.caller = .idle ∨ (w.worker = .absent ∧ w.batch = false) ∨ w.worker = .released ∨
      w.worker = .done)
    (ht : step alt w .termTest = some w') :
    w'.caller = .done ∧ w'.log = w.log ∧ w'.st = w.st := by
  have hi := run_inv h Inv.init
  have hp : w.poll = false := by
    rcases hs with hc | hs
    · obtain ⟨hw, hb, -⟩ := hi.idle hc
      exact hi.poll_false (.inl ⟨hw, hb⟩)
    · exact hi.poll_false hs
  obtain ⟨-, ⟨⟩⟩ := Option.ite_none_right_eq_some.mp ht
  simp [dnsSdTermTest, hp]

/-- AGWPE alone: `poll` fails, the worker tears down, and the caller's `dns_sd_term` comes
after: it finds `simple_poll` `NULL`. -/
theorem term_after_teardown_is_noop :
    ∃ w w', run (· ++ [50]) World.init [.announce agwpeOnly none true, .connected true true,
        .prepare, .failLoop, .freeHandles, .resetPoll, .releaseCtx] = some w ∧
      step (· ++ [50]) w .termTest = some w' ∧
      w'.caller = .done ∧ w'.log = w.log ∧ w'.st = w.st :=
  ⟨_, _, rfl, rfl, @session_term_noop (· ++ [50]) [.announce agwpeOnly none true,
    .connected true true, .prepare, .failLoop, .freeHandles, .resetPoll, .releaseCtx] _ _ rfl
    (.inr (.inr (.inr rfl))) rfl⟩

/-! ### `dns_sd_term`'s second read of `simple_poll` -/

/-- The worker has reset `simple_poll`: it stays `NULL` from there on. -/
def Worker.pastHandles : Worker → Bool
  | .released | .done => true
  | _ => false

/-- Between its test and its call, the caller finds `simple_poll` set unless the worker has reset
it; and a call on `NULL` was made only once it has. -/
structure Race (w : World) : Prop where
  quitting : w.caller = .quitting → w.poll = true ∨ w.worker.pastHandles
  nullQuit : Note.quit false ∈ w.log → w.worker.pastHandles

theorem Race.init : Race World.init := ⟨nofun, fun h => absurd h (List.not_mem_nil _)⟩

/-- A step that leaves `simple_poll` alone while the caller is between its test and its call,
calls no `avahi_simple_poll_quit`, and never moves the worker back before the reset. -/
theorem Race.of_frame {w w' : World} (hr : Race w)
    (hc : w'.caller = .quitting → w.caller = .quitting ∧ w'.poll = w.poll)
    (hq : Note.quit false ∈ w'.log → Note.quit false ∈ w.log)
    (hw : w.worker.pastHandles = true → w'.worker.pastHandles = true) : Race w' where
  quitting h := by
    obtain ⟨hc, hp⟩ := hc h
    rw [hp]
    exact (hr.quitting hc).imp id hw
  nullQuit h := hw (hr.nullQuit (hq h))

theorem quit_not_mem_nameNotes {mk : Nat → Note} {b : Bool} (hmk : ∀ k, mk k ≠ .quit b)
    (ctx : Batch) : Note.quit b ∉ nameNotes mk ctx := fun h => by
  obtain ⟨k, -, hk⟩ := mem_slotObs h
  exact hmk k hk.symm

/-- `cleanup` calls no `avahi_simple_poll_quit`. -/
theorem quit_mem_cleanup {w : World} {b : Bool} (h : Note.quit b ∈ (cleanup w).log) :
    Note.quit b ∈ w.log := by
  rw [cleanup_log, List.mem_append] at h
  refine h.resolve_right fun h => ?_
  simp only [List.mem_append, List.mem_singleton] at h
  rcases h with ((h | h) | h) | h | h
  all_goals first | (split at h <;> simp at h) | simp at h |
    exact quit_not_mem_nameNotes (fun _ => by simp) _ h

/-- **Every step keeps the window.**  Only the worker's reset sets `simple_poll` to `NULL` while
the caller may be between its test and its call, and only that call is
`avahi_simple_poll_quit`. -/
theorem step_race {w w' : World} {e : Ev} (h : step alt w e = some w') (hi : Inv w)
    (hr : Race w) : Race w' := by
  have hn : ∀ {l : List Note}, (∀ n ∈ l, n ≠ .quit false) → Note.quit false ∈ w.log ++ l →
      Note.quit false ∈ w.log := fun hl hm =>
    (List.mem_append.mp hm).resolve_right fun h => hl _ h rfl
  rcases step_cases h with ⟨hc, mc, g, p, ha⟩ | ⟨hc, _, _, hd⟩ | ⟨hc, c, t, rfl⟩ | ⟨-, rfl⟩ |
      ⟨hc, rfl⟩ | ⟨hw, rfl⟩ | ⟨hw, _, hd⟩ | ⟨hw, rfl | rfl⟩ | ⟨hw, rfl⟩ | ⟨-, rfl⟩ | ⟨-, rfl⟩
  · have hl := (hi.idle hc).2.2
    unfold dnsSdAnnounceStep at ha
    by_cases hz : dnsSdServiceCount mc = 0
    · rw [if_pos hz] at ha
      cases ha
      exact hr.of_frame (fun h => by simp at h) id id
    · rw [if_neg hz] at ha
      obtain ⟨ctx, -, rfl⟩ := Option.map_eq_some'.mp ha
      have hq : Note.quit false ∉ (allocBatch ctx w).log := by
        simp [allocBatch, hl, quit_not_mem_nameNotes]
      cases p
      · show Race { cleanup (allocBatch ctx w) with caller := .announced }
        exact hr.of_frame (fun h => by simp at h) (fun h => absurd (quit_mem_cleanup h) hq) id
      · show Race { allocBatch ctx w with
          caller := .connecting, poll := true, log := (allocBatch ctx w).log ++ [.alloc .poll] }
        exact hr.of_frame (fun h => by simp at h)
          (fun h => absurd ((List.mem_append.mp h).resolve_right (by simp)) hq) id
  · obtain ⟨s', obs, -, rfl⟩ := dispatch_eq hd
    exact hr.of_frame (fun h => ⟨h, rfl⟩) (hn fun n hn => by split at hn <;> simp at hn <;>
      rcases hn with rfl | rfl <;> simp) id
  · cases c
    · show Race { cleanup w with caller := .announced }
      exact hr.of_frame (fun h => by simp at h) quit_mem_cleanup
        fun h => by simp [(hi.connecting hc).1, Worker.pastHandles] at h
    · exact hr.of_frame (fun h => by simp [dnsSdAnnounceEnd] at h)
        (hn fun n hn => by simp at hn; simp [hn])
        fun h => by simp [(hi.connecting hc).1, Worker.pastHandles] at h
  · refine ⟨fun h => .inl ?_, hr.nullQuit⟩
    simp only [dnsSdTermTest] at h
    split_ifs at h with hp
    exact hp
  · have hw : (dnsSdTermQuit w).worker = w.worker := by unfold dnsSdTermQuit; split <;> rfl
    have hl : (dnsSdTermQuit w).log = w.log ++ [Note.quit w.poll] := by
      unfold dnsSdTermQuit; split <;> rfl
    have hcq : (dnsSdTermQuit w).caller = .done := by unfold dnsSdTermQuit; split <;> rfl
    refine ⟨fun h => by simp [hcq] at h, fun h => ?_⟩
    rw [hw]
    rw [hl, List.mem_append, List.mem_singleton, Note.quit.injEq] at h
    rcases h with h | hp
    · exact hr.nullQuit h
    · exact (hr.quitting hc).resolve_left (by rw [← hp]; decide)
  · exact hr.of_frame (fun h => ⟨h, rfl⟩) id fun h => by simp [hw, Worker.pastHandles] at h
  · obtain ⟨s', obs, -, rfl⟩ := dispatch_eq hd
    exact hr.of_frame (fun h => ⟨h, rfl⟩) (hn fun n hn => by split at hn <;> simp at hn <;>
      rcases hn with rfl | rfl <;> simp) fun h => by simp [hw, Worker.pastHandles] at h
  · exact hr.of_frame (fun h => ⟨h, rfl⟩) id fun h => by simp [hw, Worker.pastHandles] at h
  · exact hr.of_frame (fun h => ⟨h, rfl⟩) id fun h => by simp [hw, Worker.pastHandles] at h
  · exact hr.of_frame (fun h => ⟨h, rfl⟩)
      (fun h => by
        rw [freePoll_cleanupGroupClient_log] at h
        exact hn (fun n hn => by
          simp only [List.mem_append] at hn
          rcases hn with (hn | hn) | hn <;> split at hn <;> simp at hn <;> simp [hn]) h)
      fun h => by simp [hw, Worker.pastHandles] at h
  · exact ⟨fun _ => .inr rfl, fun _ => rfl⟩
  · exact ⟨fun _ => .inr rfl, fun _ => rfl⟩

theorem run_race :
    ∀ {w w' : World} {evs : List Ev}, run alt w evs = some w' → Inv w → Race w → Race w'
  | _, _, [], h, _, hr => by cases h; exact hr
  | _, _, _ :: _, h, hi, hr => by
    obtain ⟨w₁, h₁, h'⟩ := run_cons h
    exact run_race h' (step_inv h₁ hi) (step_race h₁ hi hr)

/-- **`avahi_simple_poll_quit(NULL)` only after the teardown.**  In every run, a call of
`avahi_simple_poll_quit` on `NULL` is made only once the worker has freed the poll and reset
`simple_poll`, between `dns_sd_term`'s test and its call. -/
theorem null_quit_needs_teardown {evs : List Ev} {w : World}
    (h : run alt World.init evs = some w) (hq : Note.quit false ∈ w.log) :
    w.worker = .released ∨ w.worker = .done := by
  have hp := (run_race h Inv.init Race.init).nullQuit hq
  revert hp
  cases w.worker <;> simp [Worker.pastHandles]

/-- The window is reached: AGWPE alone, the loop failing just after `dns_sd_term`'s test, and the
teardown's reset of `simple_poll` coming before the call. -/
theorem null_quit_after_failed_loop :
    ∃ w, run (· ++ [50]) World.init [.announce agwpeOnly none true, .connected true true, .prepare,
        .termTest, .failLoop, .freeHandles, .resetPoll, .termQuit] = some w ∧
      Note.quit false ∈ w.log ∧ (w.worker = .released ∨ w.worker = .done) :=
  ⟨_, rfl, by decide, @null_quit_needs_teardown (· ++ [50]) [.announce agwpeOnly none true,
    .connected true true, .prepare, .termTest, .failLoop, .freeHandles, .resetPoll, .termQuit] _
    rfl (by decide)⟩

/-! ### The freed poll -/

/-- **`simple_poll` dangles exactly in the window.**  In every run, `simple_poll` is set and the
poll it points to has been freed exactly when the worker is between `avahi_simple_poll_free` and
`simple_poll = NULL`.  A `dns_sd_term` whose test comes before that reset and whose call comes
in the window then calls `avahi_simple_poll_quit` on freed memory. -/
theorem poll_dangles_iff_freed {evs : List Ev} {w : World} (h : run alt World.init evs = some w) :
    (w.poll = true ∧ Note.free .poll ∈ w.log) ↔ w.worker = .pollFreed := by
  have hi := run_inv h Inv.init
  have hb := hi.bal .poll
  constructor
  · rintro ⟨hp, hm⟩
    have hf := List.count_pos_iff.mpr hm
    have ho := hi.once .poll
    by_contra hw
    simp only [World.held, hp, ne_eq, hw, not_false_eq_true, and_self, if_true] at hb
    omega
  · intro hw
    have hph := hi.phase
    simp only [World.Phase, hw] at hph
    exact ⟨hph.1, List.count_pos_iff.mp (by rw [hi.pollFreed hw]; omega)⟩

/-- AGWPE alone: the loop fails, the caller's `dns_sd_term` tests `simple_poll`, the worker frees
the poll, and the caller's `avahi_simple_poll_quit` then runs on the freed poll. -/
theorem term_quits_freed_poll :
    ∃ w, run (· ++ [50]) World.init [.announce agwpeOnly none true, .connected true true, .prepare,
        .failLoop, .termTest, .freeHandles, .termQuit] = some w ∧
      w.log.getLast? = some (.quit true) ∧ w.poll = true ∧ Note.free .poll ∈ w.log :=
  ⟨_, rfl, rfl, (@poll_dangles_iff_freed (· ++ [50]) [.announce agwpeOnly none true,
    .connected true true, .prepare, .failLoop, .termTest, .freeHandles, .termQuit] _ rfl).mpr rfl⟩

end DnsSd.Avahi.Session
