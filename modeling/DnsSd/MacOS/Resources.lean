import DnsSd.MacOS.Lifecycle

/-!
# MacOS — Resources

`[dns_sd_macos.c]`.  What a session allocates and frees, over every interleaving.  At each
point the allocations and releases so far are nothing, or what `dns_sd_announce` allocated,
followed, once the worker is past its frees, by what the teardown freed (`Ledger`, kept by every
step).

* `run_ledger`: every run from the start keeps the ledger.
* `torn_down_frees_each_once`: once the worker is past its frees, each resource was allocated at
  most once and freed exactly as often as it was allocated.
-/

namespace DnsSd.MacOS

/-- The allocations and releases so far. -/
def World.memLog (w : World) : List Obs := w.log.filter Obs.isMem

/-- The ledger of a session. -/
structure Ledger (w : World) : Prop where
  idle : w.caller = .idle → w.worker = .absent ∧ w.memLog = []
  mem : (w.worker = .absent ∧ w.memLog = []) ∨
    w.memLog = announceObs w.ctx w.refs ++ if w.worker.tornDown then cleanupObs w.ctx w.refs else []


theorem announceObs_filter (ctx : Batch) (refs : List Bool) :
    (announceObs ctx refs).filter Obs.isMem = announceObs ctx refs := by
  simp [announceObs, List.filter_append, slotObs_filter, Obs.isMem]

theorem cleanupObs_filter (ctx : Batch) (refs : List Bool) :
    (cleanupObs ctx refs).filter Obs.isMem = cleanupObs ctx refs := by
  simp [cleanupObs, List.filter_append, slotObs_filter, Obs.isMem]

/-- What the teardown frees is what `dns_sd_announce` allocated, once each. -/
theorem count_cleanupObs (ctx : Batch) (refs : List Bool) (r : Res) :
    (announceObs ctx refs).count (.alloc r) ≤ 1 ∧
      (cleanupObs ctx refs).count (.free r) = (announceObs ctx refs).count (.alloc r) := by
  cases r with
  | batch | svcs => simp [announceObs, cleanupObs, List.count_cons, count_slotObs_of_ne]
  | name i =>
    have hf : Function.Injective fun k => Obs.alloc (.name k) := fun a b h => by simpa using h
    have hg : Function.Injective fun k => Obs.free (.name k) := fun a b h => by simpa using h
    simp [announceObs, cleanupObs, List.count_cons, count_slotObs_of_ne]
    exact ⟨count_slotObs_le hf i 0 ctx, count_slotObs_eq hg hf i 0 ctx⟩
  | ref i =>
    have hf : Function.Injective fun k => Obs.alloc (.ref k) := fun a b h => by simpa using h
    have hg : Function.Injective fun k => Obs.free (.ref k) := fun a b h => by simpa using h
    simp [announceObs, cleanupObs, List.count_cons, count_slotObs_of_ne]
    exact ⟨count_slotObs_le hf i 0 refs, count_slotObs_eq hg hf i 0 refs⟩

theorem count_free_announceObs (ctx : Batch) (refs : List Bool) (r : Res) :
    (announceObs ctx refs).count (.free r) = 0 := by
  simp [announceObs, List.count_cons, count_slotObs_of_ne]

theorem count_alloc_cleanupObs (ctx : Batch) (refs : List Bool) (r : Res) :
    (cleanupObs ctx refs).count (.alloc r) = 0 := by
  simp [cleanupObs, List.count_cons, count_slotObs_of_ne]

/-! ### The ledger along a run -/

theorem Ledger.init : Ledger World.init :=
  ⟨fun _ => ⟨rfl, rfl⟩, .inl ⟨rfl, rfl⟩⟩

theorem memLog_dnsSdTermWrite (w : World) : (dnsSdTermWrite w).memLog = w.memLog := by
  simp [dnsSdTermWrite, World.memLog, Obs.isMem]

/-- `dns_sd_announce` allocates nothing when no service is configured, else the batch, its
names, the extended context and the references. -/
theorem dnsSdAnnounceStep_ledger {mc : MiscConfig} {g : Option Bytes} {err : Nat → Int}
    {started : Bool} {w w' : World} (h : dnsSdAnnounceStep mc g err started w = some w')
    (hw : w.worker = .absent) (hm : w.memLog = []) : Ledger w' := by
  unfold dnsSdAnnounceStep at h
  by_cases hz : dnsSdServiceCount mc = 0
  · rw [if_pos hz] at h
    cases h
    exact ⟨nofun, .inl ⟨hw, hm⟩⟩
  · rw [if_neg hz] at h
    obtain ⟨ctx, -, rfl⟩ := Option.map_eq_some'.mp h
    refine ⟨nofun, .inr ?_⟩
    simp only [World.memLog] at hm ⊢
    rw [List.filter_append, hm, announceObs_filter]
    cases started <;> simp [Worker.tornDown]

/-- **Every step keeps the ledger.** -/
theorem step_ledger {w w' : World} {e : Ev} (h : step w e = some w') (hl : Ledger w) :
    Ledger w' := by
  rcases step_cases h with ⟨hi, _, _, _, _, ha⟩ | ⟨-, rfl⟩ | ⟨-, rfl⟩ | hf
  · exact dnsSdAnnounceStep_ledger ha (hl.idle hi).1 (hl.idle hi).2
  · refine ⟨fun hc => ?_, hl.mem⟩
    simp only [dnsSdTermTest] at hc
    split_ifs at hc
  · exact ⟨nofun, memLog_dnsSdTermWrite w ▸ hl.mem⟩
  · have hnot : ¬ (w.worker = .absent ∧ w.memLog = []) := fun h => hf.present h.1
    have hm := hl.mem.resolve_left hnot
    refine ⟨fun hc => absurd (hl.idle (hf.caller ▸ hc)).1 hf.present, .inr ?_⟩
    rcases hf.mem with ⟨hc, rfl⟩ | ⟨-, ht, hl'⟩
    · simp only [hc, Worker.tornDown] at hm
      simp [cleanupStep, World.memLog, List.filter_append, cleanupObs_filter, Worker.tornDown]
      simpa [World.memLog] using hm
    · simpa only [World.memLog, hl', ht, hf.ctx, hf.refs] using hm

theorem run_ledger :
    ∀ {w w' : World} {evs : List Ev}, run w evs = some w' → Ledger w → Ledger w'
  | _, _, [], h, hl => by cases h; exact hl
  | _, _, _ :: _, h, hl => by
    obtain ⟨w₁, h₁, h'⟩ := run_cons h
    exact run_ledger h' (step_ledger h₁ hl)

/-- **Each resource is released exactly once.**  In every run, once the worker is past its
frees, each resource was allocated at most once, and freed as often as it was allocated. -/
theorem torn_down_frees_each_once {evs : List Ev} {w : World}
    (h : run World.init evs = some w) (ht : w.worker.tornDown = true) (r : Res) :
    w.log.count (.alloc r) ≤ 1 ∧ w.log.count (.free r) = w.log.count (.alloc r) := by
  have hm : w.memLog = announceObs w.ctx w.refs ++ cleanupObs w.ctx w.refs := by
    rcases (run_ledger h Ledger.init).mem with ⟨hw, -⟩ | hm
    · simp [hw, Worker.tornDown] at ht
    · simpa [ht] using hm
  have hc : ∀ o, o.isMem = true → w.log.count o = w.memLog.count o :=
    fun o ho => (List.count_filter ho).symm
  rw [hc (.alloc r) rfl, hc (.free r) rfl, hm, List.count_append, List.count_append,
    count_free_announceObs, count_alloc_cleanupObs]
  obtain ⟨h₁, h₂⟩ := count_cleanupObs w.ctx w.refs r
  omega

/-- AGWPE alone on socket `3`, its dispatch failing: past the teardown's frees, the reference
`sd_ref[0]` was allocated once and freed once. -/
theorem teardown_frees_ref_once :
    ∃ w, run World.init [.announce agwpeOnly none (fun _ => 0) true, .populate (fun _ => 3),
        .pipe (some (4, 5)), .select (.service false), .cleanup] = some w ∧
      w.worker.tornDown = true ∧ w.log.count (.alloc (.ref 0)) ≤ 1 ∧
      w.log.count (.free (.ref 0)) = w.log.count (.alloc (.ref 0)) :=
  ⟨_, rfl, rfl, @torn_down_frees_each_once [.announce agwpeOnly none (fun _ => 0) true,
    .populate (fun _ => 3), .pipe (some (4, 5)), .select (.service false), .cleanup] _ rfl rfl
    (.ref 0)⟩

end DnsSd.MacOS
