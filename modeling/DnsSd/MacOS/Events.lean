import DnsSd.MacOS.Announce

/-!
# MacOS — Events

`[dns_sd_macos.c]`.  `process_events` up to its `select`: the fd loop that fills `sd_fd` and
`last_fd`, the `pipe(stop_fd)` call, and the arguments every pass of the loop hands to
`select`.  The daemon's socket for slot `i` is `sockFd i` (`-1` on an error); `pipe` returns
its two ends or fails.

* `populateFds_lastFd`: `last_fd` is the socket of the last slot holding a reference, not the
  largest one.
* `selectArgs_sound_iff`: the arguments are well formed exactly when `pipe` succeeds and no
  service socket lies above the pipe's write end; when `pipe` fails, `FD_SET` receives `-1`.
* `selectArgs_unsound`: three configurations, one per way it goes wrong.
-/

namespace DnsSd.MacOS

/-- The fd loop of `process_events` from slot `i`: `sd_fd[i]` for each slot
(`DNSServiceRefSockFD` for a slot holding a reference, else the `0` that `calloc` left), and
`last_fd` as the loop leaves it (`none`: never assigned). -/
def populateFds (sockFd : Nat → Int) : Nat → List Bool → Option Int → List Int × Option Int
  | _, [], last => ([], last)
  | i, ref :: refs, last =>
    if ref then
      let next := populateFds sockFd (i + 1) refs (some (sockFd i))
      (sockFd i :: next.1, next.2)
    else
      let next := populateFds sockFd (i + 1) refs last
      (0 :: next.1, next.2)

/-- `pipe(stop_fd)` and the `if` after it: on success `stop_fd` holds the two ends and `last_fd`
becomes the write end; on failure both stay. -/
def pipeFds (res : Option (Int × Int)) (stopFd : Int × Int) (last : Option Int) :
    (Int × Int) × Option Int :=
  match res with
  | some p => (p, some p.2)
  | none => (stopFd, last)

/-- The descriptors a pass puts in `readfds`: `stop_fd[0]`, then each `sd_fd[i] > 0`. -/
def readFds (stopFd : Int × Int) (sdFd : List Int) : List Int :=
  stopFd.1 :: sdFd.filter (· > 0)

/-- `select`'s first argument, `last_fd + 1`; `none` when `last_fd` was never assigned. -/
def nfds (last : Option Int) : Option Int := last.map (· + 1)

/-- What `process_events` hands to `select`, `stop_fd` starting at `{-1, -1}`. -/
def selectArgs (sockFd : Nat → Int) (refs : List Bool) (res : Option (Int × Int)) :
    List Int × Option Int :=
  let fds := populateFds sockFd 0 refs none
  let p := pipeFds res (-1, -1) fds.2
  (readFds p.1 fds.1, nfds p.2)

/-- A well-formed `select` call: `last_fd` was assigned, and every descriptor in `readfds` is
non-negative and below `nfds`. -/
def SelectSound : List Int × Option Int → Prop
  | (fds, some n) => ∀ fd ∈ fds, 0 ≤ fd ∧ fd < n
  | (_, none) => False

instance : DecidablePred SelectSound
  | (_, some _) => by unfold SelectSound; infer_instance
  | (_, none) => by unfold SelectSound; infer_instance

/-! ### The fd loop -/

/-- With no reference from slot `i` on, the loop keeps `last_fd`. -/
theorem populateFds_last_of_no_ref (sockFd : Nat → Int) :
    ∀ (i : Nat) (refs : List Bool) (last : Option Int), (∀ b ∈ refs, b = false) →
      (populateFds sockFd i refs last).2 = last
  | _, [], _, _ => rfl
  | i, ref :: refs, last, h => by
    have hr : ref = false := h ref (List.mem_cons_self _ _)
    simp only [populateFds, hr]
    exact populateFds_last_of_no_ref sockFd (i + 1) refs last fun b hb =>
      h b (List.mem_cons_of_mem _ hb)

/-- **`last_fd` is the last socket assigned**: the socket of the last slot that holds a
reference, whatever the sockets of the slots before it. -/
theorem populateFds_lastFd (sockFd : Nat → Int) (k : Nat) :
    ∀ (i : Nat) (refs : List Bool) (last : Option Int),
      (populateFds sockFd i (refs ++ true :: List.replicate k false) last).2 =
        some (sockFd (i + refs.length))
  | i, [], _ => by
    simp only [List.nil_append, populateFds, if_true, List.length_nil, Nat.add_zero]
    exact populateFds_last_of_no_ref sockFd (i + 1) _ _ fun b hb => (List.mem_replicate.mp hb).2
  | i, ref :: refs, last => by
    have ih := populateFds_lastFd sockFd k (i + 1) refs
    have hi : i + 1 + refs.length = i + (ref :: refs).length := by
      rw [List.length_cons]; omega
    cases ref <;>
      simp only [List.cons_append, populateFds, Bool.false_eq_true, if_false, if_true,
        List.append_eq, ih, hi]

/-! ### The arguments of `select` -/

/-- After a successful `pipe`, `nfds` is one above the write end, whatever the sockets. -/
theorem selectArgs_of_pipe (sockFd : Nat → Int) (refs : List Bool) (r w : Int) :
    selectArgs sockFd refs (some (r, w)) =
      (r :: (populateFds sockFd 0 refs none).1.filter (· > 0), some (w + 1)) := rfl

/-- When `pipe` succeeds with ends `0 ≤ r ≤ w`, `select` is well formed exactly when every
service socket it watches lies at or below the write end. -/
theorem selectArgs_some_sound_iff (sockFd : Nat → Int) (refs : List Bool) {r w : Int} (hr : 0 ≤ r)
    (hrw : r ≤ w) :
    SelectSound (selectArgs sockFd refs (some (r, w))) ↔
      ∀ fd ∈ (populateFds sockFd 0 refs none).1, 0 < fd → fd ≤ w := by
  rw [selectArgs_of_pipe]
  simp only [SelectSound, List.mem_cons, List.mem_filter, forall_eq_or_imp, decide_eq_true_eq]
  constructor
  · exact fun ⟨_, h⟩ fd hfd hpos => by have := h fd ⟨hfd, hpos⟩; omega
  · exact fun h => ⟨⟨hr, by omega⟩, fun fd ⟨hfd, hpos⟩ => ⟨by omega, by have := h fd hfd hpos; omega⟩⟩

/-- When `pipe` fails, `stop_fd[0]` is still `-1` and goes into `readfds`, for every
configuration. -/
theorem selectArgs_not_sound_of_pipe_failed (sockFd : Nat → Int) (refs : List Bool) :
    ¬ SelectSound (selectArgs sockFd refs none) := by
  simp only [selectArgs, pipeFds, readFds, nfds]
  cases h : (populateFds sockFd 0 refs none).2 with
  | none => simp [SelectSound]
  | some n => simp [SelectSound]

/-- **When `select` is well formed**: exactly when `pipe` succeeded and every service socket it
watches lies at or below the pipe's write end.  The one assumption is how the kernel numbers a
pipe: its read end non-negative and not above its write end. -/
theorem selectArgs_sound_iff (sockFd : Nat → Int) (refs : List Bool) (res : Option (Int × Int))
    (hk : ∀ r w, res = some (r, w) → 0 ≤ r ∧ r ≤ w) :
    SelectSound (selectArgs sockFd refs res) ↔
      ∃ r w, res = some (r, w) ∧ ∀ fd ∈ (populateFds sockFd 0 refs none).1, 0 < fd → fd ≤ w := by
  cases res with
  | none => simpa using selectArgs_not_sound_of_pipe_failed sockFd refs
  | some p =>
    obtain ⟨r, w⟩ := p
    obtain ⟨hr, hrw⟩ := hk r w rfl
    rw [selectArgs_some_sound_iff sockFd refs hr hrw]
    constructor
    · exact fun h => ⟨r, w, rfl, h⟩
    · rintro ⟨_, _, ⟨⟩, h⟩
      exact h

/-- AGWPE alone on socket `3`, the pipe at `{4, 5}`: `select` is well formed, the socket lying
below the write end. -/
theorem selectArgs_sound_agwpe_below_pipe :
    (∀ r w, (some (4, 5) : Option (Int × Int)) = some (r, w) → 0 ≤ r ∧ r ≤ w) ∧
      (SelectSound (selectArgs (fun _ => 3) [true] (some (4, 5))) ↔
        ∃ r w, (some (4, 5) : Option (Int × Int)) = some (r, w) ∧
          ∀ fd ∈ (populateFds (fun _ => 3) 0 [true] none).1, 0 < fd → fd ≤ w) :=
  have hk : ∀ r w, (some (4, 5) : Option (Int × Int)) = some (r, w) → 0 ≤ r ∧ r ≤ w := by
    simp only [Option.some.injEq, Prod.mk.injEq]
    rintro r w ⟨rfl, rfl⟩
    decide
  ⟨hk, selectArgs_sound_iff (fun _ => 3) [true] (some (4, 5)) hk⟩

/-- One reference whose socket is `10`: with the pipe at `{3, 4}`, `select` watches up to `4`
and never sees the socket; with `pipe` failing, `readfds` holds `-1`; and with no reference
and `pipe` failing, `last_fd` is read unassigned. -/
theorem selectArgs_unsound :
    selectArgs (fun _ => 10) [true] (some (3, 4)) = ([3, 10], some 5) ∧
      ¬ SelectSound ([3, 10], some 5) ∧
    selectArgs (fun _ => 10) [true] none = ([-1, 10], some 11) ∧
      ¬ SelectSound ([-1, 10], some 11) ∧
    selectArgs (fun _ => 10) [false] none = ([-1], none) ∧ ¬ SelectSound ([-1], none) := by
  decide

end DnsSd.MacOS
