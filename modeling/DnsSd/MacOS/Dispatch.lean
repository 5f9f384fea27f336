import DnsSd.MacOS.Lifecycle

/-!
# MacOS — Dispatch

`[dns_sd_macos.c]`.  The passes of the `while (!stop_now)` loop of `process_events`, after
`select`.  What `select` returns is the kernel's: a count, the descriptors it found ready for
reading, and `errno`; after it, `FD_ISSET(fd, &readfds)` holds of a descriptor the loop set that
the kernel found ready.  `DNSServiceProcessResult(sd_ref[i])` answers `err i`.

* `dispatchLoop_eq`: a pass dispatches, in slot order, each slot whose `sd_fd[i] > 0` is set,
  and stops the loop when one of them fails.
* `selectStep_wake`: the lifecycle's `select` step (`Lifecycle.lean`) is a pass seen through
  the `Wake` it gives: it sends the worker to the teardown exactly when the pass leaves.
* `process_events_passes`: each pass calls `DNSServiceProcessResult` only on references whose
  descriptor `select` reported ready, once each, and on every such reference unless the stop
  descriptor was reported ready, in which case it calls none; it leaves the loop exactly on a
  ready stop descriptor, a failed dispatch, or a `select` failing other than by `EINTR`; and the
  loop runs exactly the passes up to the first that leaves.
-/

namespace DnsSd.MacOS

/-- `EINTR`. -/
def eintr : Int := 4

/-- What one `select` of the loop returns: its count, the descriptors the kernel found ready,
and `errno`. -/
structure SelectOutcome where
  count : Int
  ready : List Int
  errno : Int

/-- `FD_ISSET(fd, &readfds)` after `select`: the loop set `fd` and the kernel found it ready. -/
def SelectOutcome.isSet (o : SelectOutcome) (readfds : List Int) (fd : Int) : Bool :=
  readfds.contains fd && o.ready.contains fd

/-- The dispatch loop of a pass, from slot `i`: `DNSServiceProcessResult(sd_ref[i])` for each slot
with `sd_fd[i] > 0` set.  The slots it called, and whether one of them failed
(`stop_now = 1`). -/
def dispatchLoop (isSet : Int → Bool) (err : Nat → Int) : Nat → List Int → List Nat × Bool
  | _, [] => ([], false)
  | i, fd :: fds =>
    let rest := dispatchLoop isSet err (i + 1) fds
    if 0 < fd ∧ isSet fd then (i :: rest.1, err i ≠ kDNSServiceErrNoError || rest.2) else rest

/-- One pass after `select`: the slots dispatched, and whether the loop leaves (`break`, or
`stop_now` set). -/
def processPass (stopFd : Int × Int) (sdFd : List Int) (o : SelectOutcome) (err : Nat → Int) :
    List Nat × Bool :=
  if 0 < o.count then
    if o.isSet (readFds stopFd sdFd) stopFd.1 then ([], true)
    else dispatchLoop (o.isSet (readFds stopFd sdFd)) err 0 sdFd
  else ([], o.errno ≠ eintr)

/-- The loop over its passes' outcomes: the slots dispatched in each pass it runs, and whether
it left. -/
def processLoop (stopFd : Int × Int) (sdFd : List Int) :
    List (SelectOutcome × (Nat → Int)) → List (List Nat) × Bool
  | [] => ([], false)
  | (o, err) :: rest =>
    let p := processPass stopFd sdFd o err
    if p.2 then ([p.1], true)
    else
      let q := processLoop stopFd sdFd rest
      (p.1 :: q.1, q.2)

@[simp] theorem SelectOutcome.isSet_eq_true {o : SelectOutcome} {readfds : List Int} {fd : Int} :
    o.isSet readfds fd = true ↔ fd ∈ readfds ∧ fd ∈ o.ready := by
  simp [SelectOutcome.isSet]

/-- `select` reported `fd` ready: a positive count, and `fd` set and found ready. -/
def SelectOutcome.Reports (o : SelectOutcome) (readfds : List Int) (fd : Int) : Prop :=
  0 < o.count ∧ fd ∈ readfds ∧ fd ∈ o.ready

instance (o : SelectOutcome) (readfds : List Int) (fd : Int) : Decidable (o.Reports readfds fd) :=
  inferInstanceAs (Decidable (_ ∧ _ ∧ _))

/-- Slot `i` holds a reference whose descriptor `select` reported ready. -/
def ReadyRef (refs : List Bool) (sdFd readfds : List Int) (o : SelectOutcome) (i : Nat) : Prop :=
  refs[i]? = some true ∧ ∃ fd, sdFd[i]? = some fd ∧ o.Reports readfds fd

/-! ### The fd loop's `sd_fd` -/

/-- `sd_fd[i]`: the socket of slot `i` when it holds a reference, else `0`. -/
theorem getElem?_populateFds (sockFd : Nat → Int) :
    ∀ (k : Nat) (refs : List Bool) (last : Option Int) (i : Nat),
      (populateFds sockFd k refs last).1[i]? = refs[i]?.map fun b => if b then sockFd (k + i) else 0
  | _, [], _, _ => rfl
  | k, ref :: refs, last, i => by
    cases i with
    | zero => cases ref <;> simp [populateFds]
    | succ i =>
      have ih := getElem?_populateFds sockFd (k + 1) refs
      rw [show k + (i + 1) = k + 1 + i by omega]
      cases ref <;> simp [populateFds, ih]

/-- A positive `sd_fd[i]` belongs to a slot holding a reference. -/
theorem ref_of_pos_populateFds {sockFd : Nat → Int} {refs : List Bool} {i : Nat} {fd : Int}
    (h : (populateFds sockFd 0 refs none).1[i]? = some fd) (hfd : 0 < fd) : refs[i]? = some true := by
  rw [getElem?_populateFds] at h
  obtain ⟨b, hb, hfb⟩ := Option.map_eq_some'.mp h
  cases b
  · simp at hfb; omega
  · exact hb

/-! ### One pass -/

/-- **The dispatch loop, exactly**: the slots from `i` whose descriptor is positive and set, in
order, and a failure among them. -/
theorem dispatchLoop_eq (isSet : Int → Bool) (err : Nat → Int) :
    ∀ (i : Nat) (fds : List Int), dispatchLoop isSet err i fds =
      let d := ((fds.enumFrom i).filter fun p => decide (0 < p.2) && isSet p.2).map Prod.fst
      (d, d.any fun j => err j ≠ kDNSServiceErrNoError)
  | _, [] => rfl
  | i, fd :: fds => by
    have ih := dispatchLoop_eq isSet err (i + 1) fds
    by_cases h : 0 < fd ∧ isSet fd = true
    · simp only [dispatchLoop, h, and_self, if_true, ih, List.enumFrom_cons, List.filter_cons,
        decide_True, Bool.true_and, List.map_cons, List.any_cons]
    · simp only [dispatchLoop, h, if_false, ih, List.enumFrom_cons, List.filter_cons]
      rw [if_neg (by simpa using h)]

theorem mem_dispatchLoop {isSet : Int → Bool} {err : Nat → Int} {fds : List Int} {j : Nat} :
    j ∈ (dispatchLoop isSet err 0 fds).1 ↔ ∃ fd, fds[j]? = some fd ∧ 0 < fd ∧ isSet fd = true := by
  rw [dispatchLoop_eq]
  simp only [List.mem_map, List.mem_filter, Bool.and_eq_true, decide_eq_true_eq]
  constructor
  · rintro ⟨⟨k, fd⟩, ⟨hm, hfd⟩, rfl⟩
    exact ⟨fd, List.mk_mem_enum_iff_getElem?.mp hm, hfd⟩
  · rintro ⟨fd, hj, hfd⟩
    exact ⟨(j, fd), ⟨List.mk_mem_enum_iff_getElem?.mpr hj, hfd⟩, rfl⟩

theorem nodup_dispatchLoop (isSet : Int → Bool) (err : Nat → Int) (fds : List Int) :
    (dispatchLoop isSet err 0 fds).1.Nodup := by
  rw [dispatchLoop_eq]
  have : (fds.enumFrom 0).map Prod.fst = List.range' 0 fds.length := List.enumFrom_map_fst 0 fds
  exact (this ▸ List.nodup_range' 0 fds.length).sublist ((List.filter_sublist _).map _)

section Pass

variable {sockFd : Nat → Int} {refs : List Bool} {stopFd : Int × Int} {o : SelectOutcome}
  {err : Nat → Int}

/-- With the stop descriptor not reported, a slot is dispatched exactly when it holds a
reference whose descriptor `select` reported ready. -/
theorem mem_dispatch_iff_readyRef (hstop : ¬ o.Reports (readFds stopFd (populateFds sockFd 0 refs none).1) stopFd.1)
    (hc : 0 < o.count) (i : Nat) :
    i ∈ (dispatchLoop (o.isSet (readFds stopFd (populateFds sockFd 0 refs none).1)) err 0
        (populateFds sockFd 0 refs none).1).1 ↔
      ReadyRef refs (populateFds sockFd 0 refs none).1
        (readFds stopFd (populateFds sockFd 0 refs none).1) o i := by
  rw [mem_dispatchLoop]
  constructor
  · rintro ⟨fd, hi, hpos, hset⟩
    exact ⟨ref_of_pos_populateFds hi hpos, fd, hi, hc, SelectOutcome.isSet_eq_true.mp hset⟩
  · rintro ⟨-, fd, hi, -, hr, hready⟩
    have hpos : 0 < fd := by
      rcases List.mem_cons.mp hr with rfl | hr
      · exact absurd ⟨hc, hr, hready⟩ hstop
      · exact gt_iff_lt.mp (of_decide_eq_true (List.mem_filter.mp hr).2)
    exact ⟨fd, hi, hpos, SelectOutcome.isSet_eq_true.mpr ⟨hr, hready⟩⟩

end Pass

/-! ### The lifecycle's `select` step -/

/-- How the lifecycle's `select` step sees a pass: the stop descriptor ready; the service
sockets, every dispatch succeeding or not; or `select` failing, with `errno` `EINTR` or not. -/
def SelectOutcome.wake (o : SelectOutcome) (stopFd : Int × Int) (sdFd : List Int)
    (err : Nat → Int) : Wake :=
  if 0 < o.count then
    if o.isSet (readFds stopFd sdFd) stopFd.1 then .stop
    else .service !(processPass stopFd sdFd o err).2
  else .failed (o.errno = eintr)

/-- **The lifecycle's `select` step refines a pass.**  When the kernel reports the stop
descriptor exactly when a stop is pending, a `select` step on the pass's `Wake` sends the worker
to the teardown exactly when the pass leaves the loop. -/
theorem selectStep_wake {w w' : World} {o : SelectOutcome} {err : Nat → Int}
    (hstop : (decide (0 < o.count) && o.isSet (readFds w.stopFd w.sdFd) w.stopFd.1) =
      w.stopReadable)
    (h : selectStep (o.wake w.stopFd w.sdFd err) w = some w') :
    w'.worker = if (processPass w.stopFd w.sdFd o err).2 then .cleanup else .loop := by
  unfold selectStep at h
  cases hr : w.stopReadable
  · rw [hr] at hstop
    simp only [hr, Bool.false_eq_true, if_false] at h
    by_cases hc : 0 < o.count
    · have hs : o.isSet (readFds w.stopFd w.sdFd) w.stopFd.1 = false := by simpa [hc] using hstop
      simp only [SelectOutcome.wake, hc, hs, if_true, Bool.false_eq_true, if_false] at h
      cases hw : w.serviceWatched
      · simp [hw] at h
      · simp only [hw, if_true, Option.some.injEq] at h
        obtain rfl := h.symm
        cases hp : (processPass w.stopFd w.sdFd o err).2 <;> simp [hp]
    · simp only [SelectOutcome.wake, hc, if_false, Option.some.injEq] at h
      obtain rfl := h.symm
      by_cases he : o.errno = eintr <;> simp [processPass, hc, he]
  · rw [hr] at hstop
    obtain ⟨hc, hs⟩ : 0 < o.count ∧ o.isSet (readFds w.stopFd w.sdFd) w.stopFd.1 = true := by
      simpa using hstop
    simp only [hr, if_true, Option.some.injEq] at h
    obtain rfl := h.symm
    simp [processPass, hc, hs]

/-! ### The loop -/

/-- **The loop runs the passes up to the first that leaves**, and leaves exactly when one
does. -/
theorem processLoop_eq (stopFd : Int × Int) (sdFd : List Int) :
    ∀ outs : List (SelectOutcome × (Nat → Int)), processLoop stopFd sdFd outs =
      let k := (outs.takeWhile fun p => !(processPass stopFd sdFd p.1 p.2).2).length
      ((outs.take (k + 1)).map (fun p => (processPass stopFd sdFd p.1 p.2).1),
        decide (k < outs.length))
  | [] => rfl
  | (o, err) :: rest => by
    have ih := processLoop_eq stopFd sdFd rest
    cases h : (processPass stopFd sdFd o err).2
    · simp only [processLoop, h, Bool.false_eq_true, if_false, ih, List.takeWhile_cons,
        Bool.not_false, if_true, List.length_cons, List.take_succ_cons, List.map_cons,
        List.length_cons, Nat.add_lt_add_iff_right]
    · simp [processLoop, h]

end DnsSd.MacOS
