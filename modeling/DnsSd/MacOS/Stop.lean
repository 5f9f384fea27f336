import DnsSd.MacOS.Lifecycle

/-!
# MacOS — Stop

`[dns_sd_macos.c]`.  What becomes of the bytes `dns_sd_term` writes into the stop pipe.
`process_events` never reads the pipe, so a byte that reached its open write end stays unread
(`pending`); `select` is handed `stop_fd[0]` in every pass, with `nfds = stop_fd[1] + 1`, so it
watches the read end as long as `pipe` numbered it no higher than the write end, as the kernel
does.

**A delivered stop ends the loop** (`delivered_stop_ends_loop`).  Once a byte of `dns_sd_term`
is unread in the stop pipe, in every later state of every interleaving the worker is past its
`pipe`, and if it is in its loop its next `select` returns and sends it to the teardown, whatever
the kernel and the daemon report.  So a stop is lost only when no byte reaches the pipe: when
`dns_sd_term` runs before `pipe` (`term_before_pipe_is_lost`), or `pipe` failed.

The proof is one invariant, `PipeSet`: once `pipe` succeeded, `stop_fd` and `last_fd` are what
it returned and, while the worker loops, the read end is open; a byte is unread only in a pipe
that exists.  Every step keeps it and never lowers the count (`step_pipeSet`).
-/

namespace DnsSd.MacOS

/-- What `pipe` set up.  Once it returned `{r, wr}`: the worker is past `pipe`, `stop_fd` and
`last_fd` are the pipe and its write end, the ends are numbered `0 ≤ r ≤ wr`, and the read end is
open while the worker loops.  Bytes are unread only in a pipe that exists. -/
structure PipeSet (w : World) : Prop where
  ends : ∀ {r wr}, w.pipeEnds = some (r, wr) →
    w.worker.beforePipe = false ∧ w.stopFd = (r, wr) ∧ w.lastFd = some wr ∧ 0 ≤ r ∧ r ≤ wr ∧
      (w.worker = .loop → r ∈ w.openFds)
  unread : 0 < w.pending → w.pipeEnds.isSome

theorem PipeSet.init : PipeSet World.init := ⟨nofun, nofun⟩

/-- Before `pipe` there is no pipe, and nothing unread. -/
theorem PipeSet.before {w : World} (hs : PipeSet w) (hb : w.worker.beforePipe) :
    w.pipeEnds = none ∧ w.pending = 0 := by
  have hn : w.pipeEnds = none := by
    cases he : w.pipeEnds with
    | none => rfl
    | some p => simpa [hb] using (hs.ends he).1
  exact ⟨hn, Nat.eq_zero_of_not_pos fun hp => by simpa [hn] using hs.unread hp⟩

/-- A step that leaves the pipe, `stop_fd`, `last_fd` and the unread bytes alone, keeps the worker
on its side of `pipe`, and closes nothing while the worker loops. -/
theorem PipeSet.of_frame {w w' : World} (hs : PipeSet w) (he : w'.pipeEnds = w.pipeEnds)
    (hp : w'.pending = w.pending) (hf : w'.stopFd = w.stopFd) (hl : w'.lastFd = w.lastFd)
    (hb : w'.worker.beforePipe = w.worker.beforePipe)
    (hw : w'.worker = .loop → w.worker = .loop ∧ w'.openFds = w.openFds) : PipeSet w' := by
  refine ⟨fun h => ?_, fun h => he ▸ hs.unread (hp ▸ h)⟩
  obtain ⟨h₁, h₂, h₃, h₄, h₅, h₆⟩ := hs.ends (he ▸ h)
  exact ⟨hb ▸ h₁, hf ▸ h₂, hl ▸ h₃, h₄, h₅, fun h => (hw h).2 ▸ h₆ (hw h).1⟩

/-- `dns_sd_announce` touches neither the pipe nor the unread bytes. -/
theorem dnsSdAnnounceStep_pipe {mc : MiscConfig} {g : Option Bytes} {err : Nat → Int}
    {started : Bool} {w w' : World} (h : dnsSdAnnounceStep mc g err started w = some w') :
    w'.pipeEnds = w.pipeEnds ∧ w'.pending = w.pending := by
  unfold dnsSdAnnounceStep at h
  split at h
  · cases h; exact ⟨rfl, rfl⟩
  · obtain ⟨_, -, rfl⟩ := Option.map_eq_some'.mp h
    exact ⟨rfl, rfl⟩

/-- **Every step keeps the pipe as `pipe` set it and never lowers the unread count**, provided a
`pipe` it makes numbers its read end below its write end. -/
theorem step_pipeSet {past : List Ev} {w w' : World} {e : Ev} (h : step w e = some w')
    (hp : Passes past w)
    (hs : PipeSet w) (hk : ∀ r wr, e = .pipe (some (r, wr)) → 0 ≤ r ∧ r ≤ wr) :
    PipeSet w' ∧ w.pending ≤ w'.pending := by
  cases e with
  | announce mc g err started =>
    obtain ⟨hc, h⟩ := Option.ite_none_right_eq_some.mp h
    obtain ⟨hn, h0⟩ := hs.before (by simp [hp.idle hc, Worker.beforePipe])
    obtain ⟨he, hpe⟩ := dnsSdAnnounceStep_pipe h
    exact ⟨⟨fun h => by simp [he, hn] at h, fun h => by simp [hpe, h0] at h⟩, hpe.ge⟩
  | termTest =>
    obtain ⟨-, ⟨⟩⟩ := Option.ite_none_right_eq_some.mp h
    exact ⟨hs.of_frame rfl rfl rfl rfl rfl fun h => ⟨h, rfl⟩, le_rfl⟩
  | termWrite =>
    obtain ⟨-, ⟨⟩⟩ := Option.ite_none_right_eq_some.mp h
    have hun : 0 < (dnsSdTermWrite w).pending → (dnsSdTermWrite w).pipeEnds.isSome := fun h' => by
      simp only [dnsSdTermWrite] at h' ⊢
      split_ifs at h' with hw
      · simp only [World.writeEnd, Bool.and_eq_true, beq_iff_eq] at hw
        simpa using congrArg Option.isSome hw.1
      · exact hs.unread h'
    refine ⟨⟨fun h' => hs.ends h', hun⟩, ?_⟩
    simp only [dnsSdTermWrite]
    split_ifs <;> omega
  | populate sockFd =>
    obtain ⟨hw, ⟨⟩⟩ := Option.ite_none_right_eq_some.mp h
    obtain ⟨hn, h0⟩ := hs.before (by simp [hw, Worker.beforePipe])
    exact ⟨⟨fun h => by simp [populateStep, hn] at h, fun h => by simp [populateStep, h0] at h⟩,
      le_rfl⟩
  | pipe res =>
    obtain ⟨hw, ⟨⟩⟩ := Option.ite_none_right_eq_some.mp h
    obtain ⟨hn, h0⟩ := hs.before (by simp [hw, Worker.beforePipe])
    cases res with
    | none =>
      exact ⟨⟨fun h => by simp [pipeStep, hn] at h, fun h => by simp [pipeStep, h0] at h⟩,
        by simp [pipeStep]⟩
    | some p =>
      obtain ⟨r, wr⟩ := p
      obtain ⟨h₁, h₂⟩ := hk r wr rfl
      refine ⟨⟨fun h => ?_, fun _ => rfl⟩, by simp [h0]⟩
      simp only [pipeStep, Option.some.injEq, Prod.mk.injEq] at h
      obtain ⟨rfl, rfl⟩ := h
      simp [pipeStep, pipeFds, h₁, h₂, Worker.beforePipe]
  | select wake =>
    obtain ⟨hw, h⟩ := Option.ite_none_right_eq_some.mp h
    obtain ⟨wk, hwk, rfl⟩ := selectStep_eq h
    exact ⟨hs.of_frame rfl rfl rfl rfl (by rcases hwk with rfl | rfl <;> simp [hw,
      Worker.beforePipe]) fun _ => ⟨hw, rfl⟩, le_rfl⟩
  | cleanup | closeRead | closeWrite =>
    obtain ⟨hw, ⟨⟩⟩ := Option.ite_none_right_eq_some.mp h
    exact ⟨hs.of_frame rfl rfl rfl rfl (by simp [cleanupStep, closeFd, hw, Worker.beforePipe])
      fun h => by simp [cleanupStep, closeFd] at h, le_rfl⟩

theorem run_pipeSet :
    ∀ {past : List Ev} {w w' : World} {evs : List Ev}, run w evs = some w' → Passes past w →
      PipeSet w →
      (∀ r wr, Ev.pipe (some (r, wr)) ∈ evs → 0 ≤ r ∧ r ≤ wr) →
      PipeSet w' ∧ w.pending ≤ w'.pending
  | _, _, _, [], h, _, hs, _ => by cases h; exact ⟨hs, le_rfl⟩
  | _, _, _, _ :: _, h, hp, hs, hk => by
    obtain ⟨w₁, h₁, h'⟩ := run_cons h
    obtain ⟨hs₁, hle₁⟩ := step_pipeSet h₁ hp hs fun r wr he => hk r wr (he ▸ List.mem_cons_self _ _)
    obtain ⟨hs', hle'⟩ := run_pipeSet h' (step_passes h₁ hp) hs₁ fun r wr hm =>
      hk r wr (List.mem_cons_of_mem _ hm)
    exact ⟨hs', hle₁.trans hle'⟩

/-- With a byte unread, a worker in its loop has a stop `select` sees: the read end is open,
in `readfds`, non-negative and below `nfds`. -/
theorem PipeSet.stopReadable {w : World} (hs : PipeSet w) (hp : 0 < w.pending)
    (hw : w.worker = .loop) : w.stopReadable = true := by
  obtain ⟨⟨r, wr⟩, he⟩ := Option.isSome_iff_exists.mp (hs.unread hp)
  obtain ⟨-, hf, hl, h₁, h₂, ho⟩ := hs.ends he
  simp [World.stopReadable, World.watched, he, hf, hl, readFds, nfds, ho hw, hp, h₁,
    Int.lt_add_one_iff.mpr h₂]

/-- **A delivered stop ends the loop.**  In every interleaving, once a byte `dns_sd_term` wrote
is unread in the stop pipe, in every later state the worker is past its `pipe`, and when it is in
its loop its next `select` returns and sends it to the teardown, whatever the kernel and the
daemon report.  The one assumption is how the kernel numbers a pipe: its read end non-negative
and not above its write end. -/
theorem delivered_stop_ends_loop {evs evs' : List Ev} {w w' : World}
    (h : run World.init evs = some w) (hp : 0 < w.pending) (h' : run w evs' = some w')
    (hk : ∀ r wr, Ev.pipe (some (r, wr)) ∈ evs ++ evs' → 0 ≤ r ∧ r ≤ wr) :
    w'.worker.beforePipe = false ∧
      (w'.worker = .loop → ∀ wake, ∃ w'', step w' (.select wake) = some w'' ∧
        w''.worker = .cleanup) := by
  obtain ⟨hs, -⟩ := run_pipeSet h Passes.init PipeSet.init fun r wr hm =>
    hk r wr (List.mem_append_left _ hm)
  obtain ⟨hs', hle⟩ := run_pipeSet h' (run_passes h Passes.init) hs fun r wr hm =>
    hk r wr (List.mem_append_right _ hm)
  have hp' : 0 < w'.pending := by omega
  refine ⟨?_, fun hw wake => by simp [step, hw, selectStep, hs'.stopReadable hp' hw]⟩
  obtain ⟨⟨r, wr⟩, he⟩ := Option.isSome_iff_exists.mp (hs'.unread hp')
  exact (hs'.ends he).1

/-- AGWPE alone on socket `3`, the pipe at `{4, 5}`: `dns_sd_term` runs once the worker loops,
and the worker's next `select` leaves the loop. -/
theorem term_after_pipe_ends_loop :
    ∃ w, run World.init [.announce agwpeOnly none (fun _ => 0) true, .populate (fun _ => 3),
        .pipe (some (4, 5)), .termTest, .termWrite] = some w ∧ 0 < w.pending ∧
      w.worker.beforePipe = false ∧
      (w.worker = .loop → ∀ wake, ∃ w'', step w (.select wake) = some w'' ∧
        w''.worker = .cleanup) :=
  ⟨_, rfl, by decide, @delivered_stop_ends_loop [.announce agwpeOnly none (fun _ => 0) true,
    .populate (fun _ => 3), .pipe (some (4, 5)), .termTest, .termWrite] [] _ _ rfl (by decide) rfl
    (by simp)⟩

end DnsSd.MacOS
