import DnsSd.Avahi.Invariant
import DnsSd.Common.Slots

/-!
# Avahi — Session

`[dns_sd_avahi.c]`.  A session on Avahi as two threads.  The caller runs `dns_sd_announce`: it
builds the batch and the simple poll, then calls `avahi_client_new`, which may run
`client_callback` on the caller's thread before it returns and before `client` is set; then it
starts the worker with `pthread_create`, whose result it does not look at.  Later the caller runs
`dns_sd_term`.  The worker runs `avahi_mainloop`: each iteration of `avahi_simple_poll_loop`
first tests the quit flag (`avahi_simple_poll_prepare`), then waits and dispatches at most one of
our callbacks, which runs whatever the flag is by then; once the flag is seen, or `poll` fails,
the worker runs `cleanup`.  Each label of `Ev` is one atomic step of one thread, so a list of
labels is an interleaving.  `dns_sd_term` is two steps, its test of `simple_poll` and its
`avahi_simple_poll_quit(simple_poll)`, which reads the global again; the worker's `cleanup`
frees the poll and sets `simple_poll` to `NULL` in two steps.

A rename (`avahi_alternative_service_name`, then `avahi_free` of the old name) and the
`avahi_strdup` pass replace a slot's string by a new one in one go; the ledger counts the string
each slot holds.

* `session_quit_pending`: once `dns_sd_term` has run to its end while the worker is in its loop,
  the quit flag is set, and the loop ends at its next quit test, whatever happens in between.
* `session_released_once`: no resource is freed more often than it was allocated, nor allocated
  twice; once the worker is done, or no thread runs and no batch is held, each was freed as often
  as allocated.
* `session_failed_thread_leaks`: when `pthread_create` fails, the batch, the poll and the client
  are never freed.
-/

namespace DnsSd.Avahi

variable {alt : Bytes → Bytes}

/-! ### What a callback keeps -/

/-- Filling the group may set the quit flag; it never clears it, and leaves the group. -/
theorem fillGroup_keeps {r : Replies} {s s' : St} {obs0 obs : List Obs}
    (h : fillGroup alt r s obs0 = some (s', obs)) :
    (s.quit = true → s'.quit = true) ∧ s'.group = s.group := by
  rcases fillGroup_cases h with ⟨rfl, -⟩ | ⟨l, -, ⟨-, rfl, -⟩ | ⟨-, -, rfl, -⟩ | ⟨-, -, rfl, -⟩⟩ <;>
    simp [dnsSdTerm]

theorem createServices_keeps {r : Replies} {s s' : St} {obs : List Obs}
    (h : createServices alt r s = some (s', obs)) :
    (s.quit = true → s'.quit = true) ∧ (s.group.isSome → s'.group.isSome) := by
  unfold createServices at h
  split at h
  · split_ifs at h
    · obtain ⟨hq, hg⟩ := fillGroup_keeps h
      exact ⟨hq, fun _ => by simp [hg]⟩
    · obtain ⟨rfl, -⟩ := Prod.mk.inj (Option.some.inj h)
      exact ⟨fun _ => rfl, id⟩
  · obtain ⟨hq, hg⟩ := fillGroup_keeps h
    exact ⟨hq, fun hs => by simpa [hg] using hs⟩

/-- **A callback never clears the quit flag and never forgets the group.** -/
theorem step_keeps {s s' : St} {e : Event} {obs : List Obs} (h : step alt s e = some (s', obs)) :
    (s.quit = true → s'.quit = true) ∧ (s.group.isSome → s'.group.isSome) := by
  cases e with
  | client state r =>
    obtain ⟨⟨s₁, rest⟩, hc, hp⟩ := Option.map_eq_some'.mp h
    obtain ⟨rfl, -⟩ := Prod.mk.inj hp
    cases state with
    | sRunning => exact createServices_keeps hc
    | _ =>
      simp only [clientCallback] at hc
      try split_ifs at hc
      all_goals obtain ⟨rfl, -⟩ := Prod.mk.inj (Option.some.inj hc); simp [dnsSdTerm]
  | group g state r =>
    obtain ⟨⟨s₁, rest⟩, hc, hp⟩ := Option.map_eq_some'.mp h
    obtain ⟨rfl, -⟩ := Prod.mk.inj hp
    simp only [entryGroupCallback] at hc
    split_ifs at hc
    cases state with
    | collision =>
      obtain ⟨hq, hg⟩ := createServices_keeps hc
      exact ⟨hq, fun _ => hg rfl⟩
    | _ => obtain ⟨rfl, -⟩ := Prod.mk.inj (Option.some.inj hc); simp [dnsSdTerm]

/-- A callback renames slots and keeps which of them have a name. -/
theorem step_named {s s' : St} {e : Event} {obs : List Obs} (h : step alt s e = some (s', obs)) :
    s'.ctx.map (·.name.isSome) = s.ctx.map (·.name.isSome) := by
  have hs := congrArg (List.map fun x : Int × Int × Bool => x.2.2) (step_shape h)
  simpa [List.map_map, Function.comp_def, DnsSdService.shape] using hs

namespace Session

/-! ### The two threads -/

/-- What a session allocates: the batch, the string slot `i` holds, the simple poll, the client
and the entry group. -/
inductive Res
  | batch
  | name (i : Nat)
  | poll
  | client
  | group
  deriving DecidableEq, Repr

/-- What a run records of the threads: allocations, releases, each `avahi_simple_poll_quit`
called while `simple_poll` is set (`true`) or `NULL`, and the calls of each callback. -/
inductive Note
  | alloc (r : Res)
  | free (r : Res)
  | quit (set : Bool)
  | callback (obs : List Obs)
  deriving DecidableEq, Repr

/-- Where the caller is: before `dns_sd_announce`; inside `avahi_client_new`; past
`dns_sd_announce`; between `dns_sd_term`'s test and its call; or past `dns_sd_term`. -/
inductive Caller
  | idle
  | connecting
  | announced
  | quitting
  | done
  deriving DecidableEq, Repr

/-- Where the worker is: not created; at the quit test that starts an iteration of the simple
poll's loop; past it, waiting or dispatching; out of the loop; between
`avahi_simple_poll_free(simple_poll)` and `simple_poll = NULL`; past `cleanup`'s daemon objects;
or done. -/
inductive Worker
  | absent
  | loop
  | polling
  | exited
  | pollFreed
  | released
  | done
  deriving DecidableEq, Repr

/-- The two threads and the globals: whether the batch, `simple_poll` and `client` are set, and
the callbacks' state, whose `group` is the global `group` and whose `quit` is the simple poll's
quit flag. -/
structure World where
  caller : Caller
  worker : Worker
  batch : Bool
  poll : Bool
  client : Bool
  st : St
  log : List Note

/-- Before anything. -/
def World.init : World := ⟨.idle, .absent, false, false, false, initial [], []⟩

/-- One note for each slot of `ctx` that has a name. -/
def nameNotes (mk : Nat → Note) (ctx : Batch) : List Note := slotObs (·.name.isSome) mk 0 ctx

/-- `cleanup`'s group and client: each freed if set, and its global set to `NULL`. -/
def cleanupGroupClient (w : World) : World :=
  let notes := (if w.st.group.isSome then [Note.free .group] else []) ++
    (if w.client then [Note.free .client] else [])
  { w with client := false, st := { w.st with group := none }, log := w.log ++ notes }

/-- `cleanup`'s `avahi_simple_poll_free(simple_poll)`, if set: the global still holds the
freed poll. -/
def freePoll (w : World) : World :=
  { w with log := w.log ++ if w.poll then [Note.free .poll] else [] }

/-- `cleanup`'s `simple_poll = NULL`. -/
def resetPoll (w : World) : World := { w with poll := false }

/-- The rest of `cleanup`: each name, then the batch. -/
def cleanupCtx (w : World) : World :=
  let notes := nameNotes (fun i => .free (.name i)) w.st.ctx ++ [Note.free .batch]
  { w with batch := false, log := w.log ++ notes }

/-- `cleanup`, as `dns_sd_announce` runs it when its setup failed. -/
def cleanup (w : World) : World := cleanupCtx (resetPoll (freePoll (cleanupGroupClient w)))

/-- `dns_sd_create_context` and the `avahi_strdup` pass: the batch and a string for each slot
with a name. -/
def allocBatch (ctx : Batch) (w : World) : World :=
  { w with
    batch := true
    st := initial ctx
    log := w.log ++ Note.alloc .batch :: nameNotes (fun i => .alloc (.name i)) ctx }

/-- `dns_sd_announce` up to `avahi_client_new`: nothing when no service is configured; else the
batch, and `avahi_simple_poll_new`, `pollOk` being whether it succeeded.  Without a poll it runs
`cleanup` and returns; with one the caller enters `avahi_client_new`. -/
def dnsSdAnnounceStep (mc : MiscConfig) (g : Option Bytes) (pollOk : Bool) (w : World) :
    Option World :=
  if dnsSdServiceCount mc = 0 then some { w with caller := .announced }
  else (dnsSdCreateContext mc g).map fun ctx =>
    let w := allocBatch ctx w
    if pollOk then { w with caller := .connecting, poll := true, log := w.log ++ [.alloc .poll] }
    else { cleanup w with caller := .announced }

/-- `avahi_client_new` returns, and `dns_sd_announce` ends: with a client (`clientOk`) it calls
`pthread_create`, `started` being whether that succeeded; without one, `cleanup`. -/
def dnsSdAnnounceEnd (clientOk started : Bool) (w : World) : World :=
  if clientOk then
    { w with
      caller := .announced
      client := true
      log := w.log ++ [.alloc .client]
      worker := if started then .loop else .absent }
  else { cleanup w with caller := .announced }

/-- `dns_sd_term`'s test `if (simple_poll)`. -/
def dnsSdTermTest (w : World) : World :=
  { w with caller := if w.poll then .quitting else .done }

/-- `avahi_simple_poll_quit(simple_poll)`, the global read again: while it is set, the quit
flag is set. -/
def dnsSdTermQuit (w : World) : World :=
  let w' := { w with caller := .done, log := w.log ++ [.quit w.poll] }
  if w.poll then { w' with st := dnsSdTerm w.st } else w'

/-- One of our callbacks, run to completion.  A callback that gets the group from
`avahi_entry_group_new` allocates it. -/
def dispatch (alt : Bytes → Bytes) (e : Event) (w : World) : Option World :=
  (Avahi.step alt w.st e).map fun p =>
    let made := if w.st.group.isNone && p.1.group.isSome then [Note.alloc .group] else []
    { w with st := p.1, log := w.log ++ Note.callback p.2 :: made }

/-- One atomic step of one thread.  The caller: `dns_sd_announce` up to `avahi_client_new`, a
`client_callback` inside it, its return and the rest of `dns_sd_announce`, and `dns_sd_term`'s
two reads.  The worker: the quit test, a dispatched callback, an iteration that dispatched none
of ours, a failed `poll`, and `cleanup` in three parts. -/
inductive Ev
  | announce (mc : MiscConfig) (g : Option Bytes) (pollOk : Bool)
  | connectCallback (state : ClientState) (r : Replies)
  | connected (clientOk started : Bool)
  | termTest
  | termQuit
  | prepare
  | callback (e : Event)
  | wakeup
  | failLoop
  | freeHandles
  | resetPoll
  | releaseCtx

/-- A step; `none` when the thread is not at that point of its code. -/
def step (alt : Bytes → Bytes) (w : World) : Ev → Option World
  | .announce mc g pollOk => if w.caller = .idle then dnsSdAnnounceStep mc g pollOk w else none
  | .connectCallback state r =>
    if w.caller = .connecting then dispatch alt (.client state r) w else none
  | .connected clientOk started =>
    if w.caller = .connecting then some (dnsSdAnnounceEnd clientOk started w) else none
  | .termTest => if w.caller = .idle ∨ w.caller = .announced then some (dnsSdTermTest w) else none
  | .termQuit => if w.caller = .quitting then some (dnsSdTermQuit w) else none
  | .prepare =>
    if w.worker = .loop then some { w with worker := if w.st.quit then .exited else .polling }
    else none
  | .callback e => if w.worker = .polling then dispatch alt e { w with worker := .loop } else none
  | .wakeup => if w.worker = .polling then some { w with worker := .loop } else none
  | .failLoop => if w.worker = .polling then some { w with worker := .exited } else none
  | .freeHandles =>
    if w.worker = .exited then some { freePoll (cleanupGroupClient w) with worker := .pollFreed }
    else none
  | .resetPoll =>
    if w.worker = .pollFreed then some { resetPoll w with worker := .released } else none
  | .releaseCtx => if w.worker = .released then some { cleanupCtx w with worker := .done } else none

/-- An interleaving. -/
def run (alt : Bytes → Bytes) : World → List Ev → Option World
  | w, [] => some w
  | w, e :: es => (step alt w e).bind (run alt · es)

/-- What is held as `1` or `0`: the batch, the string of slot `i`, the poll until it is freed,
the client and the group. -/
def World.held (w : World) : Res → Nat
  | .batch => if w.batch then 1 else 0
  | .name i =>
    if w.batch then (nameNotes (fun k => .alloc (.name k)) w.st.ctx).count (.alloc (.name i)) else 0
  | .poll => if w.poll ∧ w.worker ≠ .pollFreed then 1 else 0
  | .client => if w.client then 1 else 0
  | .group => if w.st.group.isSome then 1 else 0

/-- Moving the worker outside the window after the poll's free keeps what is held. -/
theorem World.held_worker {w : World} {wk : Worker} (hw : w.worker ≠ .pollFreed)
    (hwk : wk ≠ .pollFreed) (r : Res) : { w with worker := wk }.held r = w.held r := by
  cases r <;> simp [World.held, hw, hwk]

/-- Which globals are set at each point of the worker: with no thread, all of them or none
(`pthread_create` failed, or the setup failed and `cleanup` ran), unless the caller is inside
`avahi_client_new`; in the loop, all; once the poll is freed, the batch and `simple_poll`, which
dangles; past `cleanup`'s daemon objects, only the batch; at the end, nothing. -/
def World.Phase (w : World) : Prop :=
  match w.worker with
  | .absent => w.caller = .connecting ∨
      w.poll = w.batch ∧ w.client = w.batch ∧ (w.batch = false → w.st.group = none)
  | .loop | .polling | .exited => w.poll = true ∧ w.client = true ∧ w.batch = true
  | .pollFreed => w.poll = true ∧ w.client = false ∧ w.st.group = none ∧ w.batch = true
  | .released => w.poll = false ∧ w.client = false ∧ w.st.group = none ∧ w.batch = true
  | .done => w.poll = false ∧ w.client = false ∧ w.st.group = none ∧ w.batch = false

/-- What every reachable state satisfies: nothing before `dns_sd_announce`; inside
`avahi_client_new`, no thread, the batch and the poll only, and nothing freed; the globals of the
worker's point; the quit request once `dns_sd_term` is done; and the ledger: each resource
allocated at most once, and freed as often as it was allocated but for what is held. -/
structure Inv (w : World) : Prop where
  idle : w.caller = .idle → w.worker = .absent ∧ w.batch = false ∧ w.log = []
  connecting : w.caller = .connecting → w.worker = .absent ∧ w.poll = true ∧ w.client = false ∧
    w.batch = true ∧ w.log.count (.alloc .client) = 0 ∧ ∀ r, w.log.count (.free r) = 0
  phase : w.Phase
  quit : w.caller = .done → w.worker = .loop ∨ w.worker = .polling → w.st.quit = true
  groupFree : w.worker = .loop ∨ w.worker = .polling ∨ w.worker = .exited →
    w.log.count (.free .group) = 0
  pollFreed : w.worker = .pollFreed → w.log.count (.free .poll) = 1
  bal : ∀ r, w.log.count (.alloc r) = w.log.count (.free r) + w.held r
  once : ∀ r, w.log.count (.alloc r) ≤ 1

/-- The phase reads the worker, the globals, and whether the caller is inside
`avahi_client_new`. -/
theorem World.Phase.of_eq {w w' : World} (hp : w.Phase) (hw : w'.worker = w.worker)
    (hc : w'.caller = .connecting ↔ w.caller = .connecting) (hpo : w'.poll = w.poll)
    (hcl : w'.client = w.client) (hb : w'.batch = w.batch) (hg : w'.st.group = w.st.group) :
    w'.Phase := by
  unfold World.Phase at hp ⊢
  rw [hw, hc, hpo, hcl, hb, hg]
  exact hp

/-! ### What a step can do -/

theorem dispatch_eq {e : Event} {w w' : World} (h : dispatch alt e w = some w') :
    ∃ s' obs, Avahi.step alt w.st e = some (s', obs) ∧
      w' = { w with
        st := s'
        log := w.log ++ Note.callback obs ::
          if w.st.group.isNone && s'.group.isSome then [Note.alloc .group] else [] } := by
  obtain ⟨⟨s', obs⟩, hs, rfl⟩ := Option.map_eq_some'.mp h
  exact ⟨s', obs, hs, rfl⟩

/-- **What a step can do**: the caller's five steps, and the worker's six. -/
theorem step_cases {w w' : World} {e : Ev} (h : step alt w e = some w') :
    (w.caller = .idle ∧ ∃ mc g p, dnsSdAnnounceStep mc g p w = some w') ∨
    (w.caller = .connecting ∧ ∃ state r, dispatch alt (.client state r) w = some w') ∨
    (w.caller = .connecting ∧ ∃ c t, w' = dnsSdAnnounceEnd c t w) ∨
    ((w.caller = .idle ∨ w.caller = .announced) ∧ w' = dnsSdTermTest w) ∨
    (w.caller = .quitting ∧ w' = dnsSdTermQuit w) ∨
    (w.worker = .loop ∧ w' = { w with worker := if w.st.quit then .exited else .polling }) ∨
    (w.worker = .polling ∧ ∃ e, dispatch alt e { w with worker := .loop } = some w') ∨
    (w.worker = .polling ∧ (w' = { w with worker := .loop } ∨ w' = { w with worker := .exited })) ∨
    (w.worker = .exited ∧ w' = { freePoll (cleanupGroupClient w) with worker := .pollFreed }) ∨
    (w.worker = .pollFreed ∧ w' = { resetPoll w with worker := .released }) ∨
    (w.worker = .released ∧ w' = { cleanupCtx w with worker := .done }) := by
  cases e with
  | announce mc g p =>
    obtain ⟨hc, h⟩ := Option.ite_none_right_eq_some.mp h
    exact .inl ⟨hc, mc, g, p, h⟩
  | connectCallback state r =>
    obtain ⟨hc, h⟩ := Option.ite_none_right_eq_some.mp h
    exact .inr (.inl ⟨hc, state, r, h⟩)
  | connected c t =>
    obtain ⟨hc, ⟨⟩⟩ := Option.ite_none_right_eq_some.mp h
    exact .inr (.inr (.inl ⟨hc, c, t, rfl⟩))
  | termTest =>
    obtain ⟨hc, ⟨⟩⟩ := Option.ite_none_right_eq_some.mp h
    exact .inr (.inr (.inr (.inl ⟨hc, rfl⟩)))
  | termQuit =>
    obtain ⟨hc, ⟨⟩⟩ := Option.ite_none_right_eq_some.mp h
    exact .inr (.inr (.inr (.inr (.inl ⟨hc, rfl⟩))))
  | prepare =>
    obtain ⟨hw, ⟨⟩⟩ := Option.ite_none_right_eq_some.mp h
    exact .inr (.inr (.inr (.inr (.inr (.inl ⟨hw, rfl⟩)))))
  | callback e =>
    obtain ⟨hw, h⟩ := Option.ite_none_right_eq_some.mp h
    exact .inr (.inr (.inr (.inr (.inr (.inr (.inl ⟨hw, e, h⟩))))))
  | wakeup =>
    obtain ⟨hw, ⟨⟩⟩ := Option.ite_none_right_eq_some.mp h
    exact .inr (.inr (.inr (.inr (.inr (.inr (.inr (.inl ⟨hw, .inl rfl⟩)))))))
  | failLoop =>
    obtain ⟨hw, ⟨⟩⟩ := Option.ite_none_right_eq_some.mp h
    exact .inr (.inr (.inr (.inr (.inr (.inr (.inr (.inl ⟨hw, .inr rfl⟩)))))))
  | freeHandles =>
    obtain ⟨hw, ⟨⟩⟩ := Option.ite_none_right_eq_some.mp h
    exact .inr (.inr (.inr (.inr (.inr (.inr (.inr (.inr (.inl ⟨hw, rfl⟩))))))))
  | resetPoll =>
    obtain ⟨hw, ⟨⟩⟩ := Option.ite_none_right_eq_some.mp h
    exact .inr (.inr (.inr (.inr (.inr (.inr (.inr (.inr (.inr (.inl ⟨hw, rfl⟩)))))))))
  | releaseCtx =>
    obtain ⟨hw, ⟨⟩⟩ := Option.ite_none_right_eq_some.mp h
    exact .inr (.inr (.inr (.inr (.inr (.inr (.inr (.inr (.inr (.inr ⟨hw, rfl⟩)))))))))

theorem run_cons {w w' : World} {e : Ev} {es : List Ev} (h : run alt w (e :: es) = some w') :
    ∃ w₁, step alt w e = some w₁ ∧ run alt w₁ es = some w' :=
  Option.bind_eq_some.mp h

/-! ### The ledger's counts -/

theorem alloc_name_injective : Function.Injective fun k => Note.alloc (.name k) :=
  fun _ _ h => by simpa using h

theorem free_name_injective : Function.Injective fun k => Note.free (.name k) :=
  fun _ _ h => by simpa using h

@[simp] theorem count_nameNotes_alloc_free (ctx : Batch) (r : Res) :
    (nameNotes (fun k => .alloc (.name k)) ctx).count (.free r) = 0 :=
  count_slotObs_of_ne (fun _ => by simp) 0 ctx

@[simp] theorem count_nameNotes_free_alloc (ctx : Batch) (r : Res) :
    (nameNotes (fun k => .free (.name k)) ctx).count (.alloc r) = 0 :=
  count_slotObs_of_ne (fun _ => by simp) 0 ctx

@[simp] theorem count_nameNotes_alloc_of_ne {r : Res} (hr : ∀ k, r ≠ .name k) (ctx : Batch) :
    (nameNotes (fun k => .alloc (.name k)) ctx).count (.alloc r) = 0 :=
  count_slotObs_of_ne (fun k h => hr k (by simpa using h.symm)) 0 ctx

@[simp] theorem count_nameNotes_free_of_ne {r : Res} (hr : ∀ k, r ≠ .name k) (ctx : Batch) :
    (nameNotes (fun k => .free (.name k)) ctx).count (.free r) = 0 :=
  count_slotObs_of_ne (fun k h => hr k (by simpa using h.symm)) 0 ctx

/-- `cleanup` frees the string of each slot `dns_sd_announce` allocated one for. -/
@[simp] theorem count_nameNotes_free (ctx : Batch) (i : Nat) :
    (nameNotes (fun k => .free (.name k)) ctx).count (.free (.name i)) =
      (nameNotes (fun k => .alloc (.name k)) ctx).count (.alloc (.name i)) :=
  count_slotObs_eq free_name_injective alloc_name_injective i 0 ctx

@[simp] theorem count_nameNotes_le (ctx : Batch) (i : Nat) :
    (nameNotes (fun k => .alloc (.name k)) ctx).count (.alloc (.name i)) ≤ 1 :=
  count_slotObs_le alloc_name_injective i 0 ctx

/-- A step that appends `notes` keeps the ledger when the notes allocate and free what the step
takes and releases. -/
theorem bal_append {w w' : World} {notes : List Note} (hl : w'.log = w.log ++ notes)
    (hb : ∀ r, w.log.count (.alloc r) = w.log.count (.free r) + w.held r)
    (hd : ∀ r, notes.count (.alloc r) + w.held r = notes.count (.free r) + w'.held r) (r : Res) :
    w'.log.count (.alloc r) = w'.log.count (.free r) + w'.held r := by
  rw [hl, List.count_append, List.count_append, hb r]
  have := hd r
  omega

@[simp] theorem cleanup_worker (w : World) : (cleanup w).worker = w.worker := rfl

@[simp] theorem cleanup_caller (w : World) : (cleanup w).caller = w.caller := rfl

@[simp] theorem cleanup_st (w : World) : (cleanup w).st = { w.st with group := none } := rfl

/-- Afterwards no global is set. -/
@[simp] theorem cleanup_globals (w : World) :
    (cleanup w).batch = false ∧ (cleanup w).poll = false ∧ (cleanup w).client = false :=
  ⟨rfl, rfl, rfl⟩

/-- Afterwards nothing is held. -/
@[simp] theorem cleanup_held (w : World) (r : Res) : (cleanup w).held r = 0 := by
  cases r <;> rfl

/-- What `cleanup` frees of the daemon objects, in its order. -/
theorem freePoll_cleanupGroupClient_log (w : World) :
    (freePoll (cleanupGroupClient w)).log = w.log ++
      ((if w.st.group.isSome then [Note.free .group] else []) ++
        (if w.client then [Note.free .client] else []) ++
        (if w.poll then [Note.free .poll] else [])) := by
  simp [cleanupGroupClient, freePoll]

/-- `cleanup`'s daemon objects allocate nothing. -/
theorem freePoll_cleanupGroupClient_count_alloc (w : World) (r : Res) :
    (freePoll (cleanupGroupClient w)).log.count (.alloc r) = w.log.count (.alloc r) := by
  cases r <;> simp [freePoll_cleanupGroupClient_log, List.count_cons, apply_ite (List.count _)]

/-- Nor do the names and the batch. -/
theorem cleanupCtx_count_alloc (w : World) (r : Res) :
    (cleanupCtx w).log.count (.alloc r) = w.log.count (.alloc r) := by
  cases r <;> simp [cleanupCtx, List.count_cons]

/-- `cleanup` allocates nothing. -/
theorem cleanup_count_alloc (w : World) (r : Res) :
    (cleanup w).log.count (.alloc r) = w.log.count (.alloc r) :=
  (cleanupCtx_count_alloc _ r).trans (freePoll_cleanupGroupClient_count_alloc w r)

/-- What `cleanup` frees, in its order. -/
theorem cleanup_log (w : World) :
    (cleanup w).log = w.log ++ ((if w.st.group.isSome then [Note.free .group] else []) ++
      (if w.client then [Note.free .client] else []) ++
      (if w.poll then [Note.free .poll] else []) ++
      (nameNotes (fun i => .free (.name i)) w.st.ctx ++ [Note.free .batch])) := by
  simp [cleanup, cleanupCtx, cleanupGroupClient, freePoll, resetPoll]

/-- `cleanup` frees everything held, and afterwards nothing is. -/
theorem cleanup_bal {w : World}
    (hb : ∀ r, w.log.count (.alloc r) = w.log.count (.free r) + w.held r)
    (hbatch : w.batch = true) (hw : w.worker ≠ .pollFreed) (r : Res) :
    (cleanup w).log.count (.alloc r) = (cleanup w).log.count (.free r) + (cleanup w).held r := by
  refine bal_append (cleanup_log w) hb (fun r => ?_) r
  rw [cleanup_held, Nat.add_zero]
  cases r <;> simp [World.held, hbatch, hw, List.count_cons, apply_ite (List.count _)]

/-- From the start, the batch balances the ledger with what it allocates. -/
theorem allocBatch_bal {w : World} (ctx : Batch) (hl : w.log = []) (hp : w.poll = false)
    (hc : w.client = false) (r : Res) :
    (allocBatch ctx w).log.count (.alloc r) =
      (allocBatch ctx w).log.count (.free r) + (allocBatch ctx w).held r := by
  cases r <;> simp [allocBatch, World.held, hl, hp, hc, initial, List.count_cons]

/-! ### Each step keeps the invariant -/

theorem Inv.init : Inv World.init where
  idle _ := ⟨rfl, rfl, rfl⟩
  connecting := nofun
  phase := .inr ⟨rfl, rfl, fun _ => rfl⟩
  quit h := by cases h
  groupFree _ := rfl
  pollFreed := nofun
  bal r := by cases r <;> rfl
  once _ := Nat.zero_le _

theorem Inv.poll_of_running {w : World} (hi : Inv w)
    (hw : w.worker = .loop ∨ w.worker = .polling ∨ w.worker = .exited) :
    w.poll = true ∧ w.client = true ∧ w.batch = true := by
  have h := hi.phase
  rcases hw with hw | hw | hw <;> simpa only [World.Phase, hw] using h

theorem Inv.not_connecting {w : World} (hi : Inv w) (hw : w.worker ≠ .absent) :
    w.caller ≠ .connecting := fun hc => hw (hi.connecting hc).1

/-- `dns_sd_announce` from the start: nothing when no service is configured; else the batch and
its names, then the poll, or `cleanup` of what was made. -/
theorem Inv.announce {w w' : World} {mc : MiscConfig} {g : Option Bytes} {p : Bool}
    (hi : Inv w) (hc : w.caller = .idle) (h : dnsSdAnnounceStep mc g p w = some w') :
    Inv w' := by
  obtain ⟨hw, hb, hl⟩ := hi.idle hc
  have hph := hi.phase
  simp only [World.Phase, hw, hc, hb, reduceCtorEq, false_or, forall_const] at hph
  obtain ⟨hp, hcl, hg⟩ := hph
  unfold dnsSdAnnounceStep at h
  by_cases hz : dnsSdServiceCount mc = 0
  · rw [if_pos hz] at h
    cases h
    exact { hi with
      idle := nofun
      connecting := nofun
      quit := nofun
      phase := hi.phase.of_eq rfl (by simp [hc]) rfl rfl rfl rfl }
  · rw [if_neg hz] at h
    obtain ⟨ctx, -, rfl⟩ := Option.map_eq_some'.mp h
    have hb₁ := allocBatch_bal (w := w) ctx hl hp hcl
    cases p
    · show Inv { cleanup (allocBatch ctx w) with caller := .announced }
      refine ⟨nofun, nofun, by simp [World.Phase, allocBatch, hw], nofun, by simp [allocBatch, hw],
        by simp [allocBatch, hw], cleanup_bal hb₁ rfl (by simp [allocBatch, hw]),
        fun r => (cleanup_count_alloc _ r).trans_le ?_⟩
      cases r <;> simp [allocBatch, hl, List.count_cons]
    · show Inv { allocBatch ctx w with
        caller := .connecting, poll := true, log := (allocBatch ctx w).log ++ [.alloc .poll] }
      refine ⟨nofun, fun _ => ⟨hw, rfl, hcl, rfl, by simp [allocBatch, hl, List.count_cons],
        fun r => by simp [allocBatch, hl, List.count_cons]⟩, by simp [World.Phase, allocBatch, hw],
        nofun, by simp [allocBatch, hw], by simp [allocBatch, hw], bal_append rfl hb₁ fun r => ?_,
        fun r => ?_⟩
      · cases r <;> simp [World.held, allocBatch, hp, hw, List.count_cons]
      · cases r <;> simp [allocBatch, hl, List.count_cons]

/-- A callback keeps the globals, never clears the quit flag, and allocates the group the first
time it gets one. -/
theorem Inv.dispatch {w w' : World} {e : Event} (hi : Inv w)
    (hlive : w.caller = .connecting ∨ w.worker = .loop) (h : dispatch alt e w = some w') :
    Inv w' := by
  obtain ⟨s', obs, hs, rfl⟩ := dispatch_eq h
  obtain ⟨hq, hgs⟩ := step_keeps hs
  have hn : nameNotes (fun k => .alloc (.name k)) s'.ctx =
      nameNotes (fun k => .alloc (.name k)) w.st.ctx := slotObs_congr (step_named hs)
  have hf : w.log.count (.free .group) = 0 := by
    rcases hlive with hc | hw
    · exact (hi.connecting hc).2.2.2.2.2 _
    · exact hi.groupFree (.inl hw)
  have hfree : ∀ r, (w.log ++ Note.callback obs ::
      if w.st.group.isNone && s'.group.isSome then [Note.alloc .group] else []).count (.free r) =
      w.log.count (.free r) := fun r => by split <;> simp [List.count_cons]
  have hb := hi.bal .group
  have hna : w.caller ≠ .idle := by
    rcases hlive with hc | hw
    · simp [hc]
    · exact fun hc => absurd ((hi.idle hc).1.symm.trans hw) nofun
  refine ⟨fun hc => absurd hc hna, fun hc => ?_, ?_, fun hc hw => hq (hi.quit hc hw),
    fun hw => (hfree _).trans (hi.groupFree hw), fun hw => (hfree _).trans (hi.pollFreed hw),
    bal_append rfl hi.bal fun r => ?_, fun r => ?_⟩
  · obtain ⟨hw, hp, hcl, hbt, hac, hfr⟩ := hi.connecting hc
    refine ⟨hw, hp, hcl, hbt, ?_, fun r => (hfree r).trans (hfr r)⟩
    split <;> simp [List.count_cons, hac]
  · rcases hlive with hc | hw
    · simp only [World.Phase, (hi.connecting hc).1]
      exact .inl hc
    · have h := hi.phase
      simpa only [World.Phase, hw] using h
  · cases r with
    | group =>
      cases hg : w.st.group <;> cases hg' : s'.group <;> simp [hg, hg'] at hgs ⊢ <;>
        simp [World.held, List.count_cons, hg, hg']
    | _ => simp [World.held, List.count_cons, apply_ite (List.count _), hn]
  · have h := hi.once r
    cases r with
    | group =>
      have hb : w.log.count (.alloc .group) = w.held .group := by rw [hb, hf, Nat.zero_add]
      cases hg : w.st.group <;> cases hg' : s'.group <;>
        simp [World.held, List.count_cons, hg, hg'] at hb ⊢ <;> omega
    | _ => simpa [List.count_cons, apply_ite (List.count _)] using h

/-- `avahi_client_new` returns: the client and the worker, or `cleanup`. -/
theorem Inv.connected {w : World} (hi : Inv w) (hc : w.caller = .connecting) (c t : Bool) :
    Inv (dnsSdAnnounceEnd c t w) := by
  obtain ⟨hw, hp, hcl, hbt, hac, hfr⟩ := hi.connecting hc
  cases c
  · show Inv { cleanup w with caller := .announced }
    exact ⟨nofun, nofun, by simp [World.Phase, hw], nofun, by simp [hw], by simp [hw],
      cleanup_bal hi.bal hbt (by simp [hw]), fun r => (cleanup_count_alloc w r).trans_le (hi.once r)⟩
  · show Inv { w with
      caller := .announced
      client := true
      log := w.log ++ [.alloc .client]
      worker := if t then .loop else .absent }
    refine ⟨nofun, nofun, ?_, nofun, fun _ => by simp [hfr, List.count_cons],
      by cases t <;> simp, bal_append rfl hi.bal fun r => ?_, fun r => ?_⟩
    · cases t <;> simp [World.Phase, hp, hbt]
    · cases r <;> cases t <;> simp [World.held, hcl, hw, List.count_cons]
    · cases r with
      | client => simp [List.count_cons, hac]
      | _ => simpa [List.count_cons] using hi.once _

theorem Inv.termTest {w : World} (hi : Inv w) (hc : w.caller = .idle ∨ w.caller = .announced) :
    Inv (dnsSdTermTest w) := by
  have hc' : (dnsSdTermTest w).caller = .quitting ∨ (dnsSdTermTest w).caller = .done := by
    simp only [dnsSdTermTest]
    split <;> simp
  have hnc : w.caller ≠ .connecting := by rcases hc with hc | hc <;> simp [hc]
  have hnc' : (dnsSdTermTest w).caller ≠ .connecting := by rcases hc' with h | h <;> simp [h]
  refine { hi with
    idle := fun h => by rcases hc' with h' | h' <;> simp [h'] at h
    connecting := fun h => absurd h hnc'
    phase := hi.phase.of_eq rfl ⟨fun h => absurd h hnc', fun h => absurd h hnc⟩ rfl rfl rfl rfl
    quit := fun h hw => ?_ }
  simp only [dnsSdTermTest] at h
  split_ifs at h with hp
  exact absurd (hi.poll_of_running (hw.elim .inl fun h => .inr (.inl h))).1 hp

theorem Inv.termQuit {w : World} (hi : Inv w) (hc : w.caller = .quitting) :
    Inv (dnsSdTermQuit w) := by
  have hcount : ∀ r, (w.log ++ [Note.quit w.poll]).count (.alloc r) = w.log.count (.alloc r) ∧
      (w.log ++ [Note.quit w.poll]).count (.free r) = w.log.count (.free r) := by
    simp [List.count_cons]
  have hcc : Caller.done = .connecting ↔ w.caller = .connecting := by simp [hc]
  unfold dnsSdTermQuit
  split_ifs with hp
  · exact ⟨nofun, nofun, hi.phase.of_eq rfl hcc rfl rfl rfl rfl, fun _ _ => rfl,
      fun h => (hcount _).2.trans (hi.groupFree h), fun h => (hcount _).2.trans (hi.pollFreed h),
      fun r => by rw [(hcount r).1, (hcount r).2]; exact hi.bal r, fun r => (hcount r).1 ▸ hi.once r⟩
  · exact ⟨nofun, nofun, hi.phase.of_eq rfl hcc rfl rfl rfl rfl,
      fun _ hw => absurd (hi.poll_of_running (hw.elim .inl fun h => .inr (.inl h))).1 hp,
      fun h => (hcount _).2.trans (hi.groupFree h), fun h => (hcount _).2.trans (hi.pollFreed h),
      fun r => by rw [(hcount r).1, (hcount r).2]; exact hi.bal r, fun r => (hcount r).1 ▸ hi.once r⟩

/-- The loop's own moves: the quit test, an iteration that dispatched nothing of ours, a failed
`poll`, and the return of a dispatched callback. -/
theorem Inv.loopMove {w : World} (hi : Inv w) (hw : w.worker = .loop ∨ w.worker = .polling)
    {wk : Worker} (hwk : wk = .loop ∨ wk = .polling ∨ wk = .exited) :
    Inv { w with worker := wk } := by
  have hph := hi.poll_of_running (hw.elim .inl fun h => .inr (.inl h))
  have hna : w.worker ≠ .absent := by rcases hw with hw | hw <;> simp [hw]
  refine ⟨fun h => absurd (hi.idle h).1 hna, fun h => absurd (hi.connecting h).1 hna, ?_,
    fun hc _ => hi.quit hc hw, fun _ => hi.groupFree (hw.elim .inl fun h => .inr (.inl h)),
    fun h => by rcases hwk with rfl | rfl | rfl <;> simp at h, fun r => ?_, hi.once⟩
  · rcases hwk with rfl | rfl | rfl <;> exact hph
  · rw [World.held_worker (by rcases hw with hw | hw <;> simp [hw])
      (by rcases hwk with rfl | rfl | rfl <;> simp)]
    exact hi.bal r

/-- `cleanup`'s group, client and `avahi_simple_poll_free`. -/
theorem Inv.freeHandles {w : World} (hi : Inv w) (hw : w.worker = .exited) :
    Inv { freePoll (cleanupGroupClient w) with worker := .pollFreed } := by
  obtain ⟨hp, hcl, hbt⟩ := hi.poll_of_running (.inr (.inr hw))
  have hf : w.log.count (.free .poll) = 0 := by
    have h₁ := hi.bal .poll
    have h₂ := hi.once .poll
    simp [World.held, hp, hw] at h₁
    omega
  refine ⟨fun h => absurd ((hi.idle h).1.symm.trans hw) nofun, fun h => absurd h
    (hi.not_connecting (by simp [hw])), ⟨hp, rfl, rfl, hbt⟩, fun _ h => by simp at h,
    fun h => by simp at h, fun _ => ?_,
    bal_append (freePoll_cleanupGroupClient_log w) hi.bal fun r => ?_, fun r => ?_⟩
  · show (freePoll (cleanupGroupClient w)).log.count _ = 1
    rw [freePoll_cleanupGroupClient_log]
    cases hg : w.st.group <;> simp [hp, hcl, hf, List.count_cons]
  · cases r <;> simp [freePoll, cleanupGroupClient, World.held, hp, hcl, hw, List.count_cons,
      apply_ite (List.count _)]
  · exact (freePoll_cleanupGroupClient_count_alloc w r).trans_le (hi.once r)

/-- `simple_poll = NULL`. -/
theorem Inv.resetPoll {w : World} (hi : Inv w) (hw : w.worker = .pollFreed) :
    Inv { resetPoll w with worker := .released } := by
  have hph := hi.phase
  simp only [World.Phase, hw] at hph
  obtain ⟨-, hcl, hg, hbt⟩ := hph
  refine ⟨fun h => absurd ((hi.idle h).1.symm.trans hw) nofun, fun h => absurd h
    (hi.not_connecting (by simp [hw])), ⟨rfl, hcl, hg, hbt⟩, fun _ h => by simp at h,
    fun h => by simp at h, fun h => by simp at h, fun r => ?_, hi.once⟩
  have h := hi.bal r
  cases r <;> simpa [World.held, resetPoll, hw] using h

/-- The rest of `cleanup`: the names and the batch. -/
theorem Inv.releaseCtx {w : World} (hi : Inv w) (hw : w.worker = .released) :
    Inv { cleanupCtx w with worker := .done } := by
  have hph := hi.phase
  simp only [World.Phase, hw] at hph
  obtain ⟨hp, hc, hg, hb⟩ := hph
  refine ⟨fun h => absurd ((hi.idle h).1.symm.trans hw) nofun, fun h => absurd h
    (hi.not_connecting (by simp [hw])), ⟨hp, hc, hg, rfl⟩, fun _ h => by simp at h,
    fun h => by simp at h, fun h => by simp at h, bal_append rfl hi.bal fun r => ?_, fun r => ?_⟩
  · cases r <;> simp [cleanupCtx, World.held, hb, hp, hc, hg, List.count_cons]
  · exact (cleanupCtx_count_alloc w r).trans_le (hi.once r)

/-- **Every step keeps the invariant.** -/
theorem step_inv {w w' : World} {e : Ev} (h : step alt w e = some w') (hi : Inv w) : Inv w' := by
  rcases step_cases h with ⟨hc, _, _, _, ha⟩ | ⟨hc, _, _, hd⟩ | ⟨hc, c, t, rfl⟩ | ⟨hc, rfl⟩ |
      ⟨hc, rfl⟩ | ⟨hw, rfl⟩ | ⟨hw, _, hd⟩ | ⟨hw, rfl | rfl⟩ | ⟨hw, rfl⟩ | ⟨hw, rfl⟩ | ⟨hw, rfl⟩
  · exact hi.announce hc ha
  · exact hi.dispatch (.inl hc) hd
  · exact hi.connected hc c t
  · exact hi.termTest hc
  · exact hi.termQuit hc
  · exact hi.loopMove (.inl hw) (by split <;> simp)
  · exact (hi.loopMove (.inr hw) (.inl rfl)).dispatch (.inr rfl) hd
  · exact hi.loopMove (.inr hw) (.inl rfl)
  · exact hi.loopMove (.inr hw) (.inr (.inr rfl))
  · exact hi.freeHandles hw
  · exact hi.resetPoll hw
  · exact hi.releaseCtx hw

theorem run_inv :
    ∀ {w w' : World} {evs : List Ev}, run alt w evs = some w' → Inv w → Inv w'
  | _, _, [], h, hi => by cases h; exact hi
  | _, _, _ :: _, h, hi => by
    obtain ⟨w₁, h₁, h'⟩ := run_cons h
    exact run_inv h' (step_inv h₁ hi)

/-! ### Three properties of every run -/

/-- `dns_sd_term` is done and the quit flag is set. -/
def World.Stopping (w : World) : Prop := w.caller = .done ∧ w.st.quit = true

/-- The worker is out of its loop. -/
def World.LoopOver (w : World) : Prop := w.worker ≠ .loop ∧ w.worker ≠ .polling

/-- Once stopping, every step stays so; the worker, once out of its loop, stays out, and the
quit test takes it out. -/
theorem step_stopping {w w' : World} {e : Ev} (h : step alt w e = some w') (hs : w.Stopping) :
    w'.Stopping ∧ (w.LoopOver ∨ e = .prepare → w'.LoopOver) := by
  obtain ⟨hc, hq⟩ := hs
  cases e with
  | announce | connectCallback | connected | termTest | termQuit => simp [step, hc] at h
  | prepare =>
    obtain ⟨-, ⟨⟩⟩ := Option.ite_none_right_eq_some.mp h
    exact ⟨⟨hc, hq⟩, fun _ => by simp [World.LoopOver, hq]⟩
  | callback e =>
    obtain ⟨hw, hd⟩ := Option.ite_none_right_eq_some.mp h
    obtain ⟨s', obs, hs, rfl⟩ := dispatch_eq hd
    exact ⟨⟨hc, (step_keeps hs).1 hq⟩, fun h => by simp_all [World.LoopOver]⟩
  | wakeup | failLoop =>
    obtain ⟨hw, ⟨⟩⟩ := Option.ite_none_right_eq_some.mp h
    exact ⟨⟨hc, hq⟩, fun h => by simp_all [World.LoopOver]⟩
  | freeHandles | resetPoll | releaseCtx =>
    obtain ⟨hw, ⟨⟩⟩ := Option.ite_none_right_eq_some.mp h
    exact ⟨⟨hc, hq⟩, fun _ => by simp [World.LoopOver]⟩

theorem run_stopping :
    ∀ {w w' : World} {evs : List Ev}, run alt w evs = some w' → w.Stopping →
      w'.Stopping ∧ (w.LoopOver ∨ Ev.prepare ∈ evs → w'.LoopOver)
  | _, _, [], h, hs => by cases h; exact ⟨hs, fun h => h.resolve_right (List.not_mem_nil _)⟩
  | _, _, _ :: _, h, hs => by
    obtain ⟨w₁, h₁, h'⟩ := run_cons h
    obtain ⟨hs₁, ho₁⟩ := step_stopping h₁ hs
    obtain ⟨hs', ho'⟩ := run_stopping h' hs₁
    refine ⟨hs', fun ho => ho' ?_⟩
    rcases ho with ho | hm
    · exact .inl (ho₁ (.inl ho))
    · rcases List.mem_cons.mp hm with rfl | hm
      · exact .inl (ho₁ (.inr rfl))
      · exact .inr hm

/-- **No stop is lost on Avahi.**  In every run, once `dns_sd_term` is done while the worker is
in its loop, the simple poll's quit flag is set; and in every continuation, whatever the daemon
sends and however the threads interleave, the worker is out of its loop for good once it has made
its next quit test: it dispatches at most the one callback it may be waiting for. -/
theorem session_quit_pending {evs : List Ev} {w : World} (h : run alt World.init evs = some w)
    (hc : w.caller = .done) (hw : w.worker = .loop ∨ w.worker = .polling) :
    w.st.quit = true ∧ ∀ evs' w', run alt w evs' = some w' → Ev.prepare ∈ evs' →
      w'.worker ≠ .loop ∧ w'.worker ≠ .polling := by
  have hq := (run_inv h Inv.init).quit hc hw
  exact ⟨hq, fun evs' w' h' hm => (run_stopping h' ⟨hc, hq⟩).2 (.inr hm)⟩

/-- AGWPE alone: the caller's `dns_sd_term` reaches the poll while the worker waits in `poll`;
the worker's next quit test ends its loop. -/
theorem session_quit_pending_while_polling :
    ∃ w, run (· ++ [50]) World.init [.announce agwpeOnly none true, .connected true true, .prepare,
        .termTest, .termQuit] = some w ∧ w.caller = .done ∧
      (w.worker = .loop ∨ w.worker = .polling) ∧ w.st.quit = true ∧
      ∀ evs' w', run (· ++ [50]) w evs' = some w' → Ev.prepare ∈ evs' →
        w'.worker ≠ .loop ∧ w'.worker ≠ .polling :=
  ⟨_, rfl, rfl, .inr rfl, @session_quit_pending (· ++ [50]) [.announce agwpeOnly none true,
    .connected true true, .prepare, .termTest, .termQuit] _ rfl rfl (.inr rfl)⟩

/-- **The ledger on Avahi.**  In every run no resource is freed more often than it was
allocated, and none is allocated twice.  Once the worker is done, or when no thread runs and no
batch is held (nothing configured, or a setup that failed and ran `cleanup`), each was freed as
often as it was allocated. -/
theorem session_released_once {evs : List Ev} {w : World} (h : run alt World.init evs = some w)
    (r : Res) :
    w.log.count (.free r) ≤ w.log.count (.alloc r) ∧ w.log.count (.alloc r) ≤ 1 ∧
      (w.worker = .done ∨ (w.worker = .absent ∧ w.batch = false) →
        w.log.count (.free r) = w.log.count (.alloc r)) := by
  have hi := run_inv h Inv.init
  refine ⟨by rw [hi.bal r]; omega, hi.once r, fun hd => ?_⟩
  have hph := hi.phase
  have hz : w.held r = 0 := by
    rcases hd with hw | ⟨hw, hb⟩
    · simp only [World.Phase, hw] at hph
      cases r <;> simp [World.held, hph]
    · have hnc : w.caller ≠ .connecting := fun hc => by simp [(hi.connecting hc).2.2.2.1] at hb
      simp only [World.Phase, hw, hb, hnc, false_or, forall_const] at hph
      obtain ⟨hp, hcl, hg⟩ := hph
      cases r <;> simp [World.held, hp, hcl, hg, hb]
  rw [hi.bal r, hz, Nat.add_zero]

/-- AGWPE alone: the server runs inside `avahi_client_new`, which then fails; `cleanup` frees
the group the callback made along with the rest. -/
theorem session_released_after_failed_client :
    ∃ w, run (· ++ [50]) World.init [.announce agwpeOnly none true,
        .connectCallback .sRunning ⟨true, [0], 0, 0⟩, .connected false true] = some w ∧
      w.log.count (.free .group) ≤ w.log.count (.alloc .group) ∧
      w.log.count (.alloc .group) ≤ 1 ∧
      (w.worker = .done ∨ (w.worker = .absent ∧ w.batch = false) →
        w.log.count (.free .group) = w.log.count (.alloc .group)) :=
  ⟨_, rfl, @session_released_once (· ++ [50]) [.announce agwpeOnly none true,
    .connectCallback .sRunning ⟨true, [0], 0, 0⟩, .connected false true] _ rfl .group⟩

/-- With no thread and the caller past `dns_sd_announce`, only `dns_sd_term` can step, and it
keeps every global. -/
theorem step_absent {w w' : World} {e : Ev} (h : step alt w e = some w')
    (hw : w.worker = .absent)
    (hc : w.caller = .announced ∨ w.caller = .quitting ∨ w.caller = .done) :
    w'.worker = .absent ∧ (w'.caller = .announced ∨ w'.caller = .quitting ∨ w'.caller = .done) ∧
      w'.batch = w.batch ∧ w'.poll = w.poll ∧ w'.client = w.client := by
  have hi : w.caller ≠ .idle ∧ w.caller ≠ .connecting := by rcases hc with hc | hc | hc <;> simp [hc]
  rcases step_cases h with ⟨hc, -⟩ | ⟨hc, -⟩ | ⟨hc, -⟩ | ⟨-, rfl⟩ | ⟨-, rfl⟩ | ⟨hl, -⟩ | ⟨hl, -⟩ |
      ⟨hl, -⟩ | ⟨hl, -⟩ | ⟨hl, -⟩ | ⟨hl, -⟩
  · exact absurd hc hi.1
  · exact absurd hc hi.2
  · exact absurd hc hi.2
  · exact ⟨hw, by simp only [dnsSdTermTest]; split_ifs <;> simp, rfl, rfl, rfl⟩
  · unfold dnsSdTermQuit; split_ifs <;> exact ⟨hw, by simp, rfl, rfl, rfl⟩
  all_goals exact absurd (hw.symm.trans hl) nofun

theorem run_absent :
    ∀ {w w' : World} {evs : List Ev}, run alt w evs = some w' → w.worker = .absent →
      (w.caller = .announced ∨ w.caller = .quitting ∨ w.caller = .done) →
      w'.batch = w.batch ∧ w'.poll = w.poll ∧ w'.client = w.client
  | _, _, [], h, _, _ => by cases h; exact ⟨rfl, rfl, rfl⟩
  | _, _, _ :: _, h, hw, hc => by
    obtain ⟨w₁, h₁, h'⟩ := run_cons h
    obtain ⟨hw₁, hc₁, hb, hp, hcl⟩ := step_absent h₁ hw hc
    obtain ⟨hb', hp', hcl'⟩ := run_absent h' hw₁ hc₁
    exact ⟨hb'.trans hb, hp'.trans hp, hcl'.trans hcl⟩

/-- **`pthread_create`'s result is ignored on Avahi too.**  For every configuration with a
service, when the poll and the client are made and `pthread_create` fails, `dns_sd_announce`
returns holding the batch, the poll and the client, and no later step frees them. -/
theorem session_failed_thread_leaks (mc : MiscConfig) (g : Option Bytes)
    (hz : dnsSdServiceCount mc ≠ 0) :
    ∃ w, run alt World.init [.announce mc g true, .connected true false] = some w ∧
      ∀ evs w', run alt w evs = some w' → w'.batch = true ∧ w'.poll = true ∧ w'.client = true := by
  have hctx := dnsSdCreateContext_eq mc g
  cases hs : run alt World.init [.announce mc g true, .connected true false] with
  | none => simp [run, step, World.init, dnsSdAnnounceStep, hz, hctx] at hs
  | some w =>
    have hw : w.worker = .absent ∧ w.caller = .announced ∧ w.batch = true ∧ w.poll = true ∧
        w.client = true := by
      simp [run, step, World.init, dnsSdAnnounceStep, hz, hctx] at hs
      subst hs
      simp [dnsSdAnnounceEnd, allocBatch]
    refine ⟨w, rfl, fun evs w' h => ?_⟩
    obtain ⟨hb, hp, hc⟩ := run_absent h hw.1 (.inl hw.2.1)
    exact ⟨hb.trans hw.2.2.1, hp.trans hw.2.2.2.1, hc.trans hw.2.2.2.2⟩

/-- AGWPE alone, `pthread_create` failing. -/
theorem session_failed_thread_leaks_agwpe_only :
    dnsSdServiceCount agwpeOnly ≠ 0 ∧
      ∃ w, run (· ++ [50]) World.init [.announce agwpeOnly none true, .connected true false] =
          some w ∧
        ∀ evs w', run (· ++ [50]) w evs = some w' →
          w'.batch = true ∧ w'.poll = true ∧ w'.client = true :=
  ⟨by decide, session_failed_thread_leaks agwpeOnly none (by decide)⟩

end Session

end DnsSd.Avahi
