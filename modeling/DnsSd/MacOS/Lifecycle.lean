import DnsSd.MacOS.Events
import DnsSd.Common.Slots

/-!
# MacOS — Lifecycle

`[dns_sd_macos.c]`.  A session on macOS as two threads sharing `stop_fd`.  The caller runs
`dns_sd_announce`, whose `pthread_create` starts the worker, and later `dns_sd_term`; the worker
runs `process_events`.  Each label of `Ev` is one atomic step of one thread, so a list of labels
is an interleaving and `run` follows any of them.  `dns_sd_term` is two steps, its test of
`stop_fd[1]` and its `write`; the teardown closes the two ends of the pipe in two steps.  The
daemon's answers and the kernel's (`DNSServiceRefSockFD`, `pipe`, how `select` returns) come
with the labels.

* `step_cases`: a step is one of the caller's three, or a worker step (`WorkerFrame`) that
  leaves the caller's state alone, never adds to the pipe, and frees nothing outside the
  teardown.
* `every_pass_selects_alike`: in every run each `select` gets the arguments `selectArgs`
  computes from the sockets of the run's fd loop and the result of its `pipe`, so what
  `selectArgs_unsound` shows holds in every pass.
* `term_before_pipe_is_lost`: a `dns_sd_term` that runs before the worker's `pipe` sees
  `stop_fd[1] == -1` and writes nothing; the worker then waits in `select` with no stop ever
  pending.
* `term_after_teardown_writes_closed_fd`: `process_events` closes `stop_fd` without resetting
  it, so a `dns_sd_term` after the teardown writes to a closed descriptor.
* `failed_thread_leaks_session`: `dns_sd_announce` ignores `pthread_create`'s result; when it
  fails, nothing the session allocated is ever freed.
-/

namespace DnsSd.MacOS

/-- What a session allocates: the batch, the name of slot `i`, the extended context, and the
reference `sd_ref[i]`. -/
inductive Res
  | batch
  | name (i : Nat)
  | svcs
  | ref (i : Nat)
  deriving DecidableEq, Repr

/-- What a run records of the threads: each allocation and release, each `select` with the
`readfds` and `nfds` it was handed, each `write` and each `close` with its descriptor. -/
inductive Obs
  | alloc (r : Res)
  | free (r : Res)
  | select (readfds : List Int) (nfds : Option Int)
  | write (fd : Int)
  | close (fd : Int)
  deriving DecidableEq, Repr

/-- Where the caller is: before `dns_sd_announce`, after it, between `dns_sd_term`'s test and
its `write`, or past `dns_sd_term`. -/
inductive Caller
  | idle
  | announced
  | writing
  | done
  deriving DecidableEq, Repr

/-- What the worker does next: `absent` while no thread was created. -/
inductive Worker
  | absent
  | start
  | populated
  | loop
  | cleanup
  | closeRead
  | closeWrite
  | done
  deriving DecidableEq, Repr

/-- The two threads and what they share: `stop_fd`, the extended context (`ctx`, whether each
`sd_ref[i]` is set, `sd_fd`), the worker's `last_fd`, the descriptors the pipe holds open, the
stop pipe and the bytes unread in it, and what happened so far. -/
structure World where
  caller : Caller
  worker : Worker
  stopFd : Int × Int
  ctx : Batch
  refs : List Bool
  sdFd : List Int
  lastFd : Option Int
  openFds : List Int
  pipeEnds : Option (Int × Int)
  pending : Nat
  log : List Obs
  deriving DecidableEq, Repr

/-- Before anything: `stop_fd` is `{-1, -1}`. -/
def World.init : World := ⟨.idle, .absent, (-1, -1), [], [], [], none, [], none, 0, []⟩

/-- What `dns_sd_announce` allocates: the batch and its names (`dns_sd_create_context`), the
extended context, and a reference for each `DNSServiceRegister` that succeeded. -/
def announceObs (ctx : Batch) (refs : List Bool) : List Obs :=
  .alloc .batch :: slotObs (·.name.isSome) (fun i => .alloc (.name i)) 0 ctx ++
    .alloc .svcs :: slotObs id (fun i => .alloc (.ref i)) 0 refs

/-- What the teardown of `process_events` frees, in its order: the references, the names, the
batch, the extended context. -/
def cleanupObs (ctx : Batch) (refs : List Bool) : List Obs :=
  slotObs id (fun i => .free (.ref i)) 0 refs ++
    slotObs (·.name.isSome) (fun i => .free (.name i)) 0 ctx ++ [.free .batch, .free .svcs]

/-! ### The caller -/

/-- `dns_sd_announce`, from its count test to `pthread_create`; `started` is whether the thread
was created.  The daemon's answer to `DNSServiceRegister` for slot `i` is `err i`. -/
def dnsSdAnnounceStep (mc : MiscConfig) (g : Option Bytes) (err : Nat → Int) (started : Bool)
    (w : World) : Option World :=
  if dnsSdServiceCount mc = 0 then some { w with caller := .announced }
  else (dnsSdCreateContext mc g).map fun ctx =>
    let refs := (registerLoop err 0 ctx).2
    let w' := { w with caller := .announced, ctx := ctx, refs := refs }
    let w' := { w' with worker := if started then .start else .absent }
    { w' with sdFd := List.replicate ctx.length 0, log := w.log ++ announceObs ctx refs }

/-- `dns_sd_term`'s test `stop_fd[1] != -1`. -/
def dnsSdTermTest (w : World) : World :=
  { w with caller := if w.stopFd.2 = -1 then .done else .writing }

/-- `fd` is the write end of the stop pipe, and open. -/
def World.writeEnd (w : World) (fd : Int) : Bool :=
  w.pipeEnds.map Prod.snd == some fd && w.openFds.contains fd

/-- `dns_sd_term`'s `write(stop_fd[1], &val, sizeof(val))`, `stop_fd[1]` read again: four bytes
into the stop pipe if that is its open write end. -/
def dnsSdTermWrite (w : World) : World :=
  let fd := w.stopFd.2
  let w' := { w with caller := .done, log := w.log ++ [Obs.write fd] }
  { w' with pending := if w.writeEnd fd then w.pending + 4 else w.pending }

/-! ### The worker -/

/-- The fd loop of `process_events`. -/
def populateStep (sockFd : Nat → Int) (w : World) : World :=
  let fds := populateFds sockFd 0 w.refs none
  { w with worker := .populated, sdFd := fds.1, lastFd := fds.2 }

/-- `pipe(stop_fd)`: on success the kernel opens both ends, empty. -/
def pipeStep (res : Option (Int × Int)) (w : World) : World :=
  let p := pipeFds res w.stopFd w.lastFd
  let w' := { w with worker := .loop, stopFd := p.1, lastFd := p.2 }
  match res with
  | some (r, wr) =>
    { w' with openFds := r :: wr :: w.openFds, pipeEnds := some (r, wr), pending := 0 }
  | none => w'

/-- `select` watches `fd`: it is in `readfds`, non-negative and below `nfds`. -/
def World.watched (w : World) (fd : Int) : Bool :=
  decide (fd ∈ readFds w.stopFd w.sdFd) && decide (0 ≤ fd) &&
    (nfds w.lastFd).any fun n => decide (fd < n)

/-- A stop is pending that `select` sees: bytes unread in the stop pipe, whose read end is open
and watched. -/
def World.stopReadable (w : World) : Bool :=
  match w.pipeEnds with
  | some (r, _) => w.openFds.contains r && decide (0 < w.pending) && w.watched r
  | none => false

/-- `select` watches a service socket. -/
def World.serviceWatched (w : World) : Bool := (w.sdFd.filter (· > 0)).any w.watched

/-- How a `select` of the loop returns, as the kernel and the daemon decide: the stop pipe is
readable; service sockets are, and `ok` is whether every `DNSServiceProcessResult` returned no
error; or it failed, and `eintr` is whether `errno` was `EINTR`. -/
inductive Wake
  | stop
  | service (ok : Bool)
  | failed (eintr : Bool)

/-- One pass of the loop.  A pending stop wins, as `FD_ISSET(stop_fd[0], …)` is tested first;
with nothing readable `select` waits (`none`: the worker cannot step). -/
def selectStep (wake : Wake) (w : World) : Option World :=
  let w' := { w with log := w.log ++ [Obs.select (readFds w.stopFd w.sdFd) (nfds w.lastFd)] }
  if w.stopReadable then some { w' with worker := .cleanup }
  else match wake with
    | .stop => none
    | .service ok =>
      if w.serviceWatched then some { w' with worker := if ok then .loop else .cleanup } else none
    | .failed eintr => some { w' with worker := if eintr then .loop else .cleanup }

/-- The teardown's frees. -/
def cleanupStep (w : World) : World :=
  { w with worker := .closeRead, log := w.log ++ cleanupObs w.ctx w.refs }

/-- `close(fd)`. -/
def closeFd (fd : Int) (w : World) : World :=
  { w with openFds := w.openFds.erase fd, log := w.log ++ [Obs.close fd] }

/-! ### Interleavings -/

/-- One atomic step of one thread, with the answers it gets. -/
inductive Ev
  | announce (mc : MiscConfig) (g : Option Bytes) (err : Nat → Int) (started : Bool)
  | termTest
  | termWrite
  | populate (sockFd : Nat → Int)
  | pipe (res : Option (Int × Int))
  | select (wake : Wake)
  | cleanup
  | closeRead
  | closeWrite

/-- A step; `none` when the thread is not at that point of its code. -/
def step (w : World) : Ev → Option World
  | .announce mc g err started =>
    if w.caller = .idle then dnsSdAnnounceStep mc g err started w else none
  | .termTest => if w.caller = .idle ∨ w.caller = .announced then some (dnsSdTermTest w) else none
  | .termWrite => if w.caller = .writing then some (dnsSdTermWrite w) else none
  | .populate sockFd => if w.worker = .start then some (populateStep sockFd w) else none
  | .pipe res => if w.worker = .populated then some (pipeStep res w) else none
  | .select wake => if w.worker = .loop then selectStep wake w else none
  | .cleanup => if w.worker = .cleanup then some (cleanupStep w) else none
  | .closeRead =>
    if w.worker = .closeRead then some { closeFd w.stopFd.1 w with worker := .closeWrite } else none
  | .closeWrite =>
    if w.worker = .closeWrite then some { closeFd w.stopFd.2 w with worker := .done } else none

/-- An interleaving. -/
def run : World → List Ev → Option World
  | w, [] => some w
  | w, e :: es => (step w e).bind (run · es)

/-! ### What a step can do -/

/-- An allocation or a release. -/
def Obs.isMem : Obs → Bool
  | .alloc _ | .free _ => true
  | _ => false

/-- The worker is past the teardown's frees. -/
def Worker.tornDown : Worker → Bool
  | .closeRead | .closeWrite | .done => true
  | _ => false

/-- What a step of the worker keeps: it needs a thread, leaves the caller and the extended
context alone, and never adds to the stop pipe.  It is the teardown's frees, or it allocates
and frees nothing and stays on its side of them. -/
structure WorkerFrame (w w' : World) : Prop where
  present : w.worker ≠ .absent
  caller : w'.caller = w.caller
  pending : w'.pending ≤ w.pending
  ctx : w'.ctx = w.ctx
  refs : w'.refs = w.refs
  mem : (w.worker = .cleanup ∧ w' = cleanupStep w) ∨
    (w'.worker ≠ .absent ∧ w'.worker.tornDown = w.worker.tornDown ∧
      w'.log.filter Obs.isMem = w.log.filter Obs.isMem)

/-- A pass of the loop stays in it or goes to the teardown, and logs its `select`. -/
theorem selectStep_eq {wake : Wake} {w w' : World} (h : selectStep wake w = some w') :
    ∃ wk, (wk = .loop ∨ wk = .cleanup) ∧ w' =
      { w with
        worker := wk
        log := w.log ++ [Obs.select (readFds w.stopFd w.sdFd) (nfds w.lastFd)] } := by
  simp only [selectStep] at h
  split_ifs at h
  · exact ⟨_, .inr rfl, (Option.some.inj h).symm⟩
  all_goals cases wake <;> simp only [Option.some.injEq, reduceCtorEq] at h
  all_goals exact ⟨_, by split <;> simp, h.symm⟩

/-- A worker's step that moves between two points on the same side of the teardown's frees. -/
theorem WorkerFrame.of_eq {w w' : World} (hw : w.worker ≠ .absent) (hw' : w'.worker ≠ .absent)
    (ht : w'.worker.tornDown = w.worker.tornDown) (hc : w'.caller = w.caller)
    (hp : w'.pending ≤ w.pending) (hx : w'.ctx = w.ctx) (hr : w'.refs = w.refs)
    (hl : w'.log.filter Obs.isMem = w.log.filter Obs.isMem) : WorkerFrame w w' :=
  ⟨hw, hc, hp, hx, hr, .inr ⟨hw', ht, hl⟩⟩

/-- **What a step can do.**  One of the caller's three steps, or a worker's step. -/
theorem step_cases {w w' : World} {e : Ev} (h : step w e = some w') :
    (w.caller = .idle ∧ ∃ mc g err started, dnsSdAnnounceStep mc g err started w = some w') ∨
    ((w.caller = .idle ∨ w.caller = .announced) ∧ w' = dnsSdTermTest w) ∨
    (w.caller = .writing ∧ w' = dnsSdTermWrite w) ∨ WorkerFrame w w' := by
  cases e with
  | announce mc g err started =>
    obtain ⟨hc, h⟩ := Option.ite_none_right_eq_some.mp h
    exact .inl ⟨hc, mc, g, err, started, h⟩
  | termTest =>
    obtain ⟨hc, ⟨⟩⟩ := Option.ite_none_right_eq_some.mp h
    exact .inr (.inl ⟨hc, rfl⟩)
  | termWrite =>
    obtain ⟨hc, ⟨⟩⟩ := Option.ite_none_right_eq_some.mp h
    exact .inr (.inr (.inl ⟨hc, rfl⟩))
  | populate sockFd =>
    obtain ⟨hw, ⟨⟩⟩ := Option.ite_none_right_eq_some.mp h
    exact .inr (.inr (.inr (.of_eq (by simp [hw]) (by simp [populateStep])
      (by simp [populateStep, hw, Worker.tornDown]) rfl le_rfl rfl rfl rfl)))
  | pipe res =>
    obtain ⟨hw, ⟨⟩⟩ := Option.ite_none_right_eq_some.mp h
    refine .inr (.inr (.inr (.of_eq (by simp [hw]) ?_ ?_ ?_ ?_ ?_ ?_ ?_))) <;>
      cases res <;> simp [pipeStep, hw, Worker.tornDown]
  | select wake =>
    obtain ⟨hw, h⟩ := Option.ite_none_right_eq_some.mp h
    obtain ⟨wk, hwk, rfl⟩ := selectStep_eq h
    refine .inr (.inr (.inr (.of_eq (by simp [hw]) ?_ ?_ rfl le_rfl rfl rfl (by simp [Obs.isMem]))))
      <;> rcases hwk with rfl | rfl <;> simp [hw, Worker.tornDown]
  | cleanup =>
    obtain ⟨hw, ⟨⟩⟩ := Option.ite_none_right_eq_some.mp h
    exact .inr (.inr (.inr ⟨by simp [hw], rfl, le_rfl, rfl, rfl, .inl ⟨hw, rfl⟩⟩))
  | closeRead | closeWrite =>
    obtain ⟨hw, ⟨⟩⟩ := Option.ite_none_right_eq_some.mp h
    exact .inr (.inr (.inr (.of_eq (by simp [hw]) (by simp) (by simp [hw, Worker.tornDown]) rfl
      le_rfl rfl rfl (by simp [closeFd, Obs.isMem]))))

theorem run_cons {w w' : World} {e : Ev} {es : List Ev} (h : run w (e :: es) = some w') :
    ∃ w₁, step w e = some w₁ ∧ run w₁ es = some w' :=
  Option.bind_eq_some.mp h

/-! ### Runs -/

/-- With the caller past `dns_sd_announce` and no thread created, every step keeps the worker
absent and frees nothing. -/
theorem step_absent {w w' : World} {e : Ev} (h : step w e = some w') (hw : w.worker = .absent)
    (hc : w.caller ≠ .idle) :
    w'.worker = .absent ∧ w'.caller ≠ .idle ∧
      w'.log.filter Obs.isMem = w.log.filter Obs.isMem := by
  rcases step_cases h with ⟨hi, -⟩ | ⟨-, rfl⟩ | ⟨-, rfl⟩ | hf
  · exact absurd hi hc
  · exact ⟨hw, by simp only [dnsSdTermTest]; split_ifs <;> simp, rfl⟩
  · exact ⟨hw, by simp [dnsSdTermWrite], by simp [dnsSdTermWrite, Obs.isMem]⟩
  · exact absurd hw hf.present

theorem run_absent :
    ∀ {w w' : World} {evs : List Ev}, run w evs = some w' → w.worker = .absent →
      w.caller ≠ .idle → w'.log.filter Obs.isMem = w.log.filter Obs.isMem
  | _, _, [], h, _, _ => by cases h; rfl
  | _, _, _ :: _, h, hw, hc => by
    obtain ⟨w₁, h₁, h'⟩ := run_cons h
    obtain ⟨hw₁, hc₁, hf⟩ := step_absent h₁ hw hc
    exact (run_absent h' hw₁ hc₁).trans hf

/-- Past `dns_sd_term`, the caller does nothing more, and no step adds to the stop pipe. -/
theorem step_done {w w' : World} {e : Ev} (h : step w e = some w') (hc : w.caller = .done) :
    w'.caller = .done ∧ w'.pending ≤ w.pending := by
  rcases step_cases h with ⟨hi, -⟩ | ⟨hi | hi, -⟩ | ⟨hi, -⟩ | hf <;>
    first | exact absurd (hc.symm.trans hi) (by decide) | exact ⟨hf.caller.trans hc, hf.pending⟩

theorem run_done :
    ∀ {w w' : World} {evs : List Ev}, run w evs = some w' → w.caller = .done →
      w'.caller = .done ∧ w'.pending ≤ w.pending
  | _, _, [], h, hc => by cases h; exact ⟨hc, le_rfl⟩
  | _, _, _ :: _, h, hc => by
    obtain ⟨w₁, h₁, h'⟩ := run_cons h
    obtain ⟨hc₁, hp₁⟩ := step_done h₁ hc
    obtain ⟨hc', hp'⟩ := run_done h' hc₁
    exact ⟨hc', hp'.trans hp₁⟩

/-! ### Every pass of the loop -/

/-- The worker has not yet called `pipe`. -/
def Worker.beforePipe : Worker → Bool
  | .absent | .start | .populated => true
  | _ => false

/-- The worker's descriptors after the events `past`: no thread before `dns_sd_announce`;
`stop_fd` untouched and no `select` before `pipe`; once the fd loop ran, its result on the
sockets of a `populate` among `past`; from `pipe` on, the arguments `selectArgs` computes from
those sockets and the result of a `pipe` among `past`, which every `select` so far was handed. -/
structure Passes (past : List Ev) (w : World) : Prop where
  idle : w.caller = .idle → w.worker = .absent
  early : w.worker.beforePipe → w.stopFd = (-1, -1) ∧ ∀ fds n, Obs.select fds n ∉ w.log
  fdLoop : w.worker = .populated → ∃ sockFd, Ev.populate sockFd ∈ past ∧
    (w.sdFd, w.lastFd) = populateFds sockFd 0 w.refs none
  args : w.worker.beforePipe = false → ∃ sockFd res, Ev.populate sockFd ∈ past ∧
    Ev.pipe res ∈ past ∧ (readFds w.stopFd w.sdFd, nfds w.lastFd) = selectArgs sockFd w.refs res
  log : ∀ fds n, Obs.select fds n ∈ w.log → fds = readFds w.stopFd w.sdFd ∧ n = nfds w.lastFd

theorem select_not_mem_announceObs (ctx : Batch) (refs : List Bool) (fds : List Int)
    (n : Option Int) : Obs.select fds n ∉ announceObs ctx refs := fun h => by
  simp only [announceObs, List.cons_append, List.mem_cons, List.mem_append, reduceCtorEq,
    false_or] at h
  rcases h with h | h <;> obtain ⟨k, -, hk⟩ := mem_slotObs h <;> cases hk

theorem select_not_mem_cleanupObs (ctx : Batch) (refs : List Bool) (fds : List Int)
    (n : Option Int) : Obs.select fds n ∉ cleanupObs ctx refs := fun h => by
  simp only [cleanupObs, List.mem_cons, List.mem_append, reduceCtorEq, or_false,
    List.not_mem_nil] at h
  rcases h with h | h <;> obtain ⟨k, -, hk⟩ := mem_slotObs h <;> cases hk

/-- Later events keep what earlier ones gave. -/
theorem Passes.mono {past : List Ev} {w : World} (hp : Passes past w) (l : List Ev) :
    Passes (past ++ l) w := by
  refine ⟨hp.idle, hp.early, fun h => ?_, fun h => ?_, hp.log⟩
  · obtain ⟨s, hs, hf⟩ := hp.fdLoop h
    exact ⟨s, List.mem_append_left l hs, hf⟩
  · obtain ⟨s, r, hs, hr, ha⟩ := hp.args h
    exact ⟨s, r, List.mem_append_left l hs, List.mem_append_left l hr, ha⟩

/-- A step that touches neither the descriptors nor the references, and logs no `select`. -/
theorem Passes.of_frame {past l : List Ev} {w w' : World} (hp : Passes past w)
    (hi : w'.caller = .idle → w'.worker = .absent)
    (hb : w'.worker.beforePipe = w.worker.beforePipe)
    (hpop : w'.worker = .populated → w.worker = .populated) (hs : w'.stopFd = w.stopFd)
    (hd : w'.sdFd = w.sdFd) (hl : w'.lastFd = w.lastFd) (hr : w'.refs = w.refs)
    (hlog : ∀ fds n, Obs.select fds n ∈ w'.log → Obs.select fds n ∈ w.log) :
    Passes (past ++ l) w' := by
  replace hp := hp.mono l
  refine ⟨hi, fun h => ?_, fun h => ?_, fun h => ?_, fun fds n h => ?_⟩
  · obtain ⟨h₁, h₂⟩ := hp.early (hb ▸ h)
    exact ⟨hs.trans h₁, fun fds n hm => h₂ fds n (hlog fds n hm)⟩
  · rw [hd, hl, hr]; exact hp.fdLoop (hpop h)
  · rw [hs, hd, hl, hr]; exact hp.args (hb ▸ h)
  · rw [hs, hd, hl]; exact hp.log fds n (hlog fds n h)

/-- A worker's step from a point the worker can only reach once the caller has left `idle`. -/
theorem Passes.not_idle {past : List Ev} {w : World} (hp : Passes past w)
    (hw : w.worker ≠ .absent) : w.caller = .idle → False := fun h => hw (hp.idle h)

/-- **Every step keeps the worker's descriptors as they were set.**  Only the fd loop and `pipe`
set them, from the sockets and the pipe of their own events, before the first `select`; the
caller never touches them. -/
theorem step_passes {past : List Ev} {w w' : World} {e : Ev} (h : step w e = some w')
    (hp : Passes past w) : Passes (past ++ [e]) w' := by
  have he : e ∈ past ++ [e] := List.mem_append_right _ (List.mem_singleton_self e)
  cases e with
  | announce mc g err started =>
    obtain ⟨hc, h⟩ := Option.ite_none_right_eq_some.mp h
    obtain ⟨hs, hn⟩ := hp.early (by simp [hp.idle hc, Worker.beforePipe])
    unfold dnsSdAnnounceStep at h
    by_cases hz : dnsSdServiceCount mc = 0
    · rw [if_pos hz] at h
      cases h
      exact hp.of_frame nofun rfl id rfl rfl rfl rfl fun _ _ h => h
    · rw [if_neg hz] at h
      obtain ⟨ctx, -, rfl⟩ := Option.map_eq_some'.mp h
      have hn' : ∀ fds n, Obs.select fds n ∉ w.log ++ announceObs ctx (registerLoop err 0 ctx).2 :=
        fun fds n hm => (List.mem_append.mp hm).elim (hn fds n) (select_not_mem_announceObs _ _ _ _)
      refine ⟨nofun, fun _ => ⟨hs, hn'⟩, fun h => ?_, fun h => ?_, fun fds n hm => absurd hm (hn' fds n)⟩
      all_goals cases started <;> simp [Worker.beforePipe] at h
  | termTest =>
    obtain ⟨hc, ⟨⟩⟩ := Option.ite_none_right_eq_some.mp h
    exact hp.of_frame (fun h => by simp only [dnsSdTermTest] at h; split_ifs at h) rfl id rfl rfl
      rfl rfl fun _ _ h => h
  | termWrite =>
    obtain ⟨-, ⟨⟩⟩ := Option.ite_none_right_eq_some.mp h
    exact hp.of_frame nofun rfl id rfl rfl rfl rfl fun fds n h => by simpa [dnsSdTermWrite] using h
  | populate sockFd =>
    obtain ⟨hw, ⟨⟩⟩ := Option.ite_none_right_eq_some.mp h
    obtain ⟨hs, hn⟩ := hp.early (by simp [hw, Worker.beforePipe])
    exact ⟨fun h => absurd h (hp.not_idle (by simp [hw])), fun _ => ⟨hs, hn⟩,
      fun _ => ⟨sockFd, he, rfl⟩, nofun, fun fds n hm => absurd hm (hn fds n)⟩
  | pipe res =>
    obtain ⟨hw, ⟨⟩⟩ := Option.ite_none_right_eq_some.mp h
    obtain ⟨hs, hn⟩ := hp.early (by simp [hw, Worker.beforePipe])
    obtain ⟨sockFd, hpop, hf⟩ := hp.fdLoop hw
    obtain ⟨hd, hl⟩ := Prod.mk.inj hf
    have hni := hp.not_idle (by simp [hw])
    refine ⟨fun h => ?_, fun h => ?_, fun h => ?_,
      fun _ => ⟨sockFd, res, List.mem_append_left _ hpop, he, ?_⟩, fun fds n hm => absurd hm ?_⟩
    all_goals cases res <;> simp_all [pipeStep, selectArgs, pipeFds, Worker.beforePipe]
  | select wake =>
    obtain ⟨hw, h⟩ := Option.ite_none_right_eq_some.mp h
    obtain ⟨wk, hwk, rfl⟩ := selectStep_eq h
    refine ⟨fun h => absurd h (hp.not_idle (by simp [hw])), fun h => ?_, fun h => ?_,
      fun _ => (hp.mono _).args (by simp [hw, Worker.beforePipe]), fun fds n hm => ?_⟩
    · rcases hwk with rfl | rfl <;> simp [Worker.beforePipe] at h
    · rcases hwk with rfl | rfl <;> simp at h
    · simp only [List.mem_append, List.mem_singleton, Obs.select.injEq] at hm
      rcases hm with hm | ⟨rfl, rfl⟩
      · exact hp.log fds n hm
      · exact ⟨rfl, rfl⟩
  | cleanup =>
    obtain ⟨hw, ⟨⟩⟩ := Option.ite_none_right_eq_some.mp h
    exact hp.of_frame (fun h => absurd h (hp.not_idle (by simp [hw])))
      (by simp [cleanupStep, hw, Worker.beforePipe]) (by simp [cleanupStep]) rfl rfl rfl rfl
      fun fds n h => by simpa [cleanupStep, select_not_mem_cleanupObs] using h
  | closeRead | closeWrite =>
    obtain ⟨hw, ⟨⟩⟩ := Option.ite_none_right_eq_some.mp h
    exact hp.of_frame (fun h => absurd h (hp.not_idle (by simp [hw])))
      (by simp [closeFd, hw, Worker.beforePipe]) (by simp [closeFd]) rfl rfl rfl rfl
      fun fds n h => by simpa [closeFd] using h

theorem Passes.init : Passes [] World.init :=
  ⟨fun _ => rfl, fun _ => ⟨rfl, fun _ _ => List.not_mem_nil _⟩, nofun, nofun,
    fun _ _ h => absurd h (List.not_mem_nil _)⟩

theorem run_passes :
    ∀ {past : List Ev} {w w' : World} {evs : List Ev}, run w evs = some w' → Passes past w →
      Passes (past ++ evs) w'
  | _, _, _, [], h, hp => by cases h; rw [List.append_nil]; exact hp
  | _, _, _, _ :: _, h, hp => by
    obtain ⟨w₁, h₁, h'⟩ := run_cons h
    rw [List.append_cons]
    exact run_passes h' (step_passes h₁ hp)

/-- **Every pass of the loop hands `select` the same arguments**: in every run that reached a
`select`, those `selectArgs` computes from the sockets the daemon gave at the run's fd loop, the
references `dns_sd_announce` kept and what the run's `pipe` returned. -/
theorem every_pass_selects_alike {evs : List Ev} {w : World} (h : run World.init evs = some w)
    {fds : List Int} {n : Option Int} (hs : Obs.select fds n ∈ w.log) :
    ∃ sockFd res, Ev.populate sockFd ∈ evs ∧ Ev.pipe res ∈ evs ∧
      ∀ fds n, Obs.select fds n ∈ w.log → (fds, n) = selectArgs sockFd w.refs res := by
  have hp : Passes evs w := List.nil_append evs ▸ run_passes h Passes.init
  have hb : w.worker.beforePipe = false := by
    cases hb : w.worker.beforePipe
    · rfl
    · exact absurd hs ((hp.early hb).2 fds n)
  obtain ⟨sockFd, res, hpop, hpipe, ha⟩ := hp.args hb
  exact ⟨sockFd, res, hpop, hpipe, fun fds n hm => by
    rw [← ha, (hp.log fds n hm).1, (hp.log fds n hm).2]⟩

/-- AGWPE alone on socket `3`, the pipe at `{4, 5}`: two passes, each handed `readfds`
`{4, 3}` and `nfds` `6`, the arguments the run's fd loop and `pipe` give. -/
theorem two_passes_select_alike :
    ∃ w, run World.init [.announce agwpeOnly none (fun _ => 0) true, .populate (fun _ => 3),
        .pipe (some (4, 5)), .select (.service true), .select (.service true)] = some w ∧
      Obs.select [4, 3] (some 6) ∈ w.log ∧
      ∃ sockFd res, Ev.populate sockFd ∈ [.announce agwpeOnly none (fun _ => 0) true,
          .populate (fun _ => 3), .pipe (some (4, 5)), .select (.service true),
          .select (.service true)] ∧
        Ev.pipe res ∈ [.announce agwpeOnly none (fun _ => 0) true, .populate (fun _ => 3),
          .pipe (some (4, 5)), .select (.service true), .select (.service true)] ∧
        ∀ fds n, Obs.select fds n ∈ w.log → (fds, n) = selectArgs sockFd w.refs res :=
  ⟨_, rfl, by decide, @every_pass_selects_alike [.announce agwpeOnly none (fun _ => 0) true,
    .populate (fun _ => 3), .pipe (some (4, 5)), .select (.service true), .select (.service true)]
    _ rfl [4, 3] (some 6) (by decide)⟩

/-! ### Three runs -/

/-- AGWPE alone, its socket `3`.  The caller announces and at once calls `dns_sd_term`, before
the worker's `pipe`: `stop_fd[1]` is still `-1` and nothing is written.  The worker then makes
the pipe `{4, 5}` and waits in `select`, and in every later state the pipe stays empty. -/
theorem term_before_pipe_is_lost :
    ∃ w, run World.init [.announce agwpeOnly none (fun _ => 0) true, .termTest,
        .populate (fun _ => 3), .pipe (some (4, 5))] = some w ∧
      w.caller = .done ∧ w.worker = .loop ∧ w.stopFd = (4, 5) ∧ w.stopReadable = false ∧
      ∀ evs w', run w evs = some w' → w'.pending = 0 := by
  refine ⟨_, rfl, rfl, rfl, rfl, by decide, fun evs w' h => ?_⟩
  have hp : w'.pending ≤ 0 := (run_done h rfl).2
  omega

/-- The same session, the daemon's socket failing in `select`: the worker leaves its loop and
tears down, closing `4` and `5`.  A `dns_sd_term` after that still finds `stop_fd[1] == 5` and
writes to it, though `5` is closed. -/
theorem term_after_teardown_writes_closed_fd :
    ∃ w, run World.init [.announce agwpeOnly none (fun _ => 0) true, .populate (fun _ => 3),
        .pipe (some (4, 5)), .select (.service false), .cleanup, .closeRead, .closeWrite,
        .termTest, .termWrite] = some w ∧
      w.worker = .done ∧ Obs.close 5 ∈ w.log ∧ w.log.getLast? = some (.write 5) ∧
      w.writeEnd 5 = false :=
  ⟨_, rfl, rfl, by decide, rfl, by decide⟩

/-- AGWPE alone, `pthread_create` failing: `dns_sd_announce` returns with the batch, its name,
the extended context and the reference allocated, and in no later state is any of them freed. -/
theorem failed_thread_leaks_session :
    ∃ w, run World.init [.announce agwpeOnly none (fun _ => 0) false] = some w ∧
      w.log = [.alloc .batch, .alloc (.name 0), .alloc .svcs, .alloc (.ref 0)] ∧
      ∀ evs w', run w evs = some w' → ∀ r, Obs.free r ∉ w'.log := by
  refine ⟨_, rfl, rfl, fun evs w' h r hr => ?_⟩
  have hf : w'.log.filter Obs.isMem =
      [.alloc .batch, .alloc (.name 0), .alloc .svcs, .alloc (.ref 0)] := run_absent h rfl (by decide)
  have : Obs.free r ∈ w'.log.filter Obs.isMem := List.mem_filter.mpr ⟨hr, rfl⟩
  rw [hf] at this
  simp at this

end DnsSd.MacOS
