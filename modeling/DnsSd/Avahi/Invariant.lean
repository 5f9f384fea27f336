import DnsSd.Avahi.Rounds

/-!
# Avahi — Invariant

The representation invariant of the batch over every run of the Avahi backend.  The callbacks
change a slot only by renaming it, so a slot's *shape* (port, channel, whether it has a name)
never changes (`run_shape`).  From the shape `dns_sd_create_context` gives the batch
(`dnsSdCreateContext_eq`), `announced_batch_invariant` reads off every fact of the invariant:
the batch has `MAX_DNS_SD_SERVICES` slots, a slot has a name exactly when its port is
non-zero, slot 0 is AGWPE's with channel -1, the non-zero KISS ports follow in configured
order with their channels, the rest are inert, and the active slots number
`dns_sd_service_count`.
-/

namespace DnsSd.DnsSdService

/-- What the callbacks never change of a slot: its port, its channel, and whether it has a
name. -/
def shape (svc : DnsSdService) : Int × Int × Bool :=
  (svc.port, svc.channel, svc.name.isSome)

end DnsSd.DnsSdService

namespace DnsSd.Avahi

open DnsSdService

variable {alt : Bytes → Bytes}

@[simp] theorem shape_rename (svc : DnsSdService) (n : Nat) :
    (svc.rename alt n).shape = svc.shape := by
  simp [DnsSdService.shape]

theorem Renamed.shape_eq {a b : DnsSdService} (h : Renamed alt a b) : b.shape = a.shape := by
  obtain ⟨n, rfl⟩ := h
  exact shape_rename a n

theorem map_shape_of_renamed {l l' : Batch} (h : List.Forall₂ (Renamed alt) l l') :
    l'.map DnsSdService.shape = l.map DnsSdService.shape := by
  induction h with
  | nil => rfl
  | cons hab _ ih => simp [ih, hab.shape_eq]

@[simp] theorem map_shape_renameAllServices (ctx : Batch) :
    (renameAllServices alt ctx).map DnsSdService.shape = ctx.map DnsSdService.shape := by
  simp only [renameAllServices, List.map_map]
  exact List.map_congr_left fun svc _ => by cases h : svc.name <;> simp [DnsSdService.shape, h]

theorem fillGroup_shape {r : Replies} {s s' : St} {obs0 obs : List Obs}
    (h : fillGroup alt r s obs0 = some (s', obs)) :
    s'.ctx.map DnsSdService.shape = s.ctx.map DnsSdService.shape := by
  rcases fillGroup_cases h with ⟨rfl, -⟩ | ⟨l, hl, hcase⟩
  · rfl
  have := map_shape_of_renamed (addServices_slots hl)
  rcases hcase with ⟨-, rfl, -⟩ | ⟨-, -, rfl, -⟩ | ⟨-, -, rfl, -⟩ <;> exact this

theorem createServices_shape {r : Replies} {s s' : St} {obs : List Obs}
    (h : createServices alt r s = some (s', obs)) :
    s'.ctx.map DnsSdService.shape = s.ctx.map DnsSdService.shape := by
  rcases createServices_cases h with ⟨rfl, -⟩ | ⟨s₀, o, hc, -, -, hf⟩
  · rfl
  · rw [fillGroup_shape hf, hc]

theorem step_shape {s s' : St} {e : Event} {obs : List Obs} (h : step alt s e = some (s', obs)) :
    s'.ctx.map DnsSdService.shape = s.ctx.map DnsSdService.shape := by
  obtain ⟨o, rest, -, -, -, hc⟩ := step_cases h
  rcases hc with ⟨r, s₀, hs₀, hc, -⟩ | ⟨-, hc, -⟩ | ⟨-, hc, -⟩
  · rw [createServices_shape hc]
    rcases hs₀ with hs₀ | hs₀ <;> simp [hs₀]
  all_goals rw [hc]

/-- Along a run, every slot keeps its shape. -/
theorem run_shape :
    ∀ {s : St} {evs : List Event} {s' : St} {obs : List Obs}, run alt s evs = some (s', obs) →
      s'.ctx.map DnsSdService.shape = s.ctx.map DnsSdService.shape
  | _, [], _, _, h => by obtain ⟨rfl, -⟩ := Prod.mk.inj (Option.some.inj h); rfl
  | _, _ :: _, _, _, h => by
    obtain ⟨s₁, o₁, o₂, h₁, h₂, -⟩ := run_cons_eq h
    rw [run_shape h₂, step_shape h₁]

/-! ### The batch `dns_sd_create_context` builds -/

@[simp] theorem shape_zero : DnsSdService.zero.shape = (0, 0, false) := rfl

theorem shape_agwpeSlot (mc : MiscConfig) (h : Bytes) :
    (agwpeSlot mc h).shape =
      if mc.agwpePort ≠ 0 then (mc.agwpePort, -1, true) else (0, 0, false) := by
  by_cases ha : mc.agwpePort = 0 <;> simp [agwpeSlot, ha, mkSlot, DnsSdService.shape]

theorem map_shape_kissSlots (b h : Bytes) :
    ∀ (ps cs : List Int),
      (kissSlots b h ps cs).map DnsSdService.shape =
        ((ps.zip cs).filter (·.1 ≠ 0)).map fun pc => (pc.1, pc.2, true)
  | [], _ => by simp [kissSlots]
  | _ :: _, [] => by simp [kissSlots]
  | p :: ps, c :: cs => by
    by_cases hp : p = 0 <;>
      simp [kissSlots, hp, map_shape_kissSlots b h ps cs, mkSlot, DnsSdService.shape,
        List.filter_cons]

/-- The shape of the batch `dns_sd_create_context` returns. -/
theorem map_shape_dnsSdCreateContext {mc : MiscConfig} {g : Option Bytes} {ctx : Batch}
    (h : dnsSdCreateContext mc g = some ctx) :
    ctx.map DnsSdService.shape =
      (if mc.agwpePort ≠ 0 then (mc.agwpePort, -1, true) else (0, 0, false)) ::
        ((mc.kissPort.zip mc.kissChan).filter (·.1 ≠ 0)).map (fun pc => (pc.1, pc.2, true)) ++
        List.replicate (mc.maxKissTcpPorts - mc.kissPort.countP (· ≠ 0)) (0, 0, false) := by
  rw [dnsSdCreateContext_eq] at h
  obtain rfl := (Option.some.inj h).symm
  simp only [List.map_cons, List.map_append, shape_agwpeSlot, map_shape_kissSlots,
    List.map_replicate, shape_zero]

@[simp] theorem map_shape_avahiStrdupPass (ctx : Batch) :
    (avahiStrdupPass ctx).map DnsSdService.shape = ctx.map DnsSdService.shape := by
  simp [avahiStrdupPass, Function.comp_def, DnsSdService.shape]

theorem countP_active_of_map_shape {ctx ctx' : Batch}
    (h : ctx'.map DnsSdService.shape = ctx.map DnsSdService.shape) :
    ctx'.countP (·.port ≠ 0) = ctx.countP (·.port ≠ 0) := by
  have := congrArg (List.countP fun x : Int × Int × Bool => x.1 ≠ 0) h
  simpa [List.countP_map, Function.comp_def, DnsSdService.shape] using this

theorem mem_kissSlots {b h : Bytes} :
    ∀ {ps cs : List Int} {svc : DnsSdService}, svc ∈ kissSlots b h ps cs →
      svc.port ≠ 0 ∧ svc.name.isSome
  | [], _, _, hm => by simp [kissSlots] at hm
  | _ :: _, [], _, hm => by simp [kissSlots] at hm
  | p :: ps, c :: cs, svc, hm => by
    by_cases hp : p = 0
    · simp only [kissSlots, hp, ne_eq, not_true_eq_false, if_false] at hm
      exact mem_kissSlots hm
    · simp only [kissSlots, hp, ne_eq, not_false_eq_true, if_true, List.mem_cons] at hm
      rcases hm with rfl | hm
      · exact ⟨hp, rfl⟩
      · exact mem_kissSlots hm

/-- In the batch `dns_sd_create_context` builds, a slot has a name exactly when its port is
non-zero. -/
theorem active_iff_named_of_mem {mc : MiscConfig} {h : Bytes} {n : Nat} {svc : DnsSdService}
    (hm : svc ∈ agwpeSlot mc h :: kissSlots mc.dnsSdName h mc.kissPort mc.kissChan ++
      List.replicate n .zero) : svc.port ≠ 0 ↔ svc.name.isSome := by
  simp only [List.mem_cons, List.mem_append, List.mem_replicate] at hm
  rcases hm with (rfl | hm) | ⟨-, rfl⟩
  · by_cases ha : mc.agwpePort = 0 <;> simp [agwpeSlot, ha, mkSlot]
  · simp [mem_kissSlots hm]
  · simp

/-- The active slots of the batch `dns_sd_create_context` builds number `dns_sd_service_count`. -/
theorem countP_active_dnsSdCreateContext {mc : MiscConfig} {g : Option Bytes} {ctx : Batch}
    (h : dnsSdCreateContext mc g = some ctx) : ctx.countP (·.port ≠ 0) = dnsSdServiceCount mc := by
  rw [dnsSdCreateContext_eq] at h
  obtain rfl := (Option.some.inj h).symm
  have hz : (List.replicate (mc.maxKissTcpPorts - mc.kissPort.countP (· ≠ 0))
      DnsSdService.zero).countP (·.port ≠ 0) = 0 :=
    List.countP_eq_zero.mpr fun svc hm => by simp [List.eq_of_mem_replicate hm]
  rw [List.countP_append, List.countP_cons, hz,
    List.countP_eq_length.mpr fun svc hm => by simpa using (mem_kissSlots hm).1,
    kissSlots_length _ _ _ _ mc.kissChan_length]
  by_cases ha : mc.agwpePort = 0 <;> simp [agwpeSlot, ha, mkSlot, dnsSdServiceCount]
  omega

/-- **The batch invariant.**  For every configuration (every `MAX_KISS_TCP_PORTS`, every port
and channel) and host name, `dns_sd_create_context` writes only inside its array, and along
every run of the Avahi backend from there (the `avahi_strdup` pass, then any notifications and
daemon answers, with any number of collision retries and renames) the batch keeps
`MAX_DNS_SD_SERVICES` slots; a slot has a name exactly when its port is non-zero, so the slots
`rename_all_services` and `cleanup` pick are those `create_services` picks; the ports and
channels are always AGWPE's with channel -1 (or an inert slot), then the non-zero KISS ports in
configured order with their channels, then inert slots; and the active slots number
`dns_sd_service_count`. -/
theorem announced_batch_invariant (mc : MiscConfig) (g : Option Bytes) (alt : Bytes → Bytes) :
    ∃ ctx₀, dnsSdCreateContext mc g = some ctx₀ ∧
      ∀ evs s' obs, run alt (initial ctx₀) evs = some (s', obs) →
        s'.ctx.length = mc.maxDnsSdServices ∧
        (∀ svc ∈ s'.ctx, svc.port ≠ 0 ↔ svc.name.isSome) ∧
        s'.ctx.map (fun svc => (svc.port, svc.channel)) =
          (if mc.agwpePort ≠ 0 then (mc.agwpePort, -1) else (0, 0)) ::
            (mc.kissPort.zip mc.kissChan).filter (·.1 ≠ 0) ++
            List.replicate (mc.maxKissTcpPorts - mc.kissPort.countP (· ≠ 0)) (0, 0) ∧
        s'.ctx.countP (·.port ≠ 0) = dnsSdServiceCount mc := by
  refine ⟨_, dnsSdCreateContext_eq mc g, fun evs s' obs h => ?_⟩
  have hs := (run_shape h).trans (map_shape_avahiStrdupPass _)
  have hk := kissSlots_length mc.dnsSdName (shortHostname g) mc.kissPort mc.kissChan
    mc.kissChan_length
  have hle : mc.kissPort.countP (· ≠ 0) ≤ mc.maxKissTcpPorts := List.countP_le_length _
  refine ⟨?_, fun svc hsvc => ?_, ?_, ?_⟩
  · have := congrArg List.length hs
    simp only [List.length_map, List.length_cons, List.length_append, List.length_replicate,
      hk] at this
    rw [this, MiscConfig.maxDnsSdServices]
    omega
  · obtain ⟨svc₀, hm, he⟩ := List.mem_map.mp (hs ▸ List.mem_map_of_mem DnsSdService.shape hsvc)
    simp only [DnsSdService.shape, Prod.mk.injEq] at he
    rw [← he.1, ← he.2.2]
    exact active_iff_named_of_mem hm
  · rw [show (fun svc : DnsSdService => (svc.port, svc.channel)) =
      (fun x : Int × Int × Bool => (x.1, x.2.1)) ∘ DnsSdService.shape from rfl, ← List.map_map,
      hs.trans (map_shape_dnsSdCreateContext (dnsSdCreateContext_eq mc g))]
    by_cases ha : mc.agwpePort = 0 <;> simp [ha, Function.comp_def]
  · rw [countP_active_of_map_shape hs]
    exact countP_active_dnsSdCreateContext (dnsSdCreateContext_eq mc g)

/-- Its batch, announced once the server runs; every fact of the invariant holds after. -/
theorem announced_batch_invariant_agwpe_only :
    dnsSdCreateContext agwpeOnly none = some [⟨8000, -1, some (ascii "Dire Wolf")⟩] ∧
    run (· ++ [50]) (initial [⟨8000, -1, some (ascii "Dire Wolf")⟩])
        [.client .sRunning ⟨true, [0], 0, 0⟩] =
      some (⟨some 0, 1, [request 0 ⟨8000, -1, some (ascii "Dire Wolf")⟩],
          [⟨8000, -1, some (ascii "Dire Wolf")⟩], false⟩,
        [.client .sRunning, .groupNew true,
          .addService (request 0 ⟨8000, -1, some (ascii "Dire Wolf")⟩) 0,
          .commit [request 0 ⟨8000, -1, some (ascii "Dire Wolf")⟩]
            [⟨8000, -1, some (ascii "Dire Wolf")⟩] 0]) ∧
    [⟨8000, -1, some (ascii "Dire Wolf")⟩].countP (fun svc : DnsSdService => svc.port ≠ 0) =
      dnsSdServiceCount agwpeOnly := by
  obtain ⟨ctx₀, h₀, hinv⟩ := announced_batch_invariant agwpeOnly none (· ++ [50])
  obtain rfl : ctx₀ = [⟨8000, -1, some (ascii "Dire Wolf")⟩] :=
    Option.some.inj (h₀.symm.trans (by decide))
  have hrun : run (· ++ [50]) (initial [⟨8000, -1, some (ascii "Dire Wolf")⟩])
      [.client .sRunning ⟨true, [0], 0, 0⟩] =
    some (⟨some 0, 1, [request 0 ⟨8000, -1, some (ascii "Dire Wolf")⟩],
        [⟨8000, -1, some (ascii "Dire Wolf")⟩], false⟩,
      [.client .sRunning, .groupNew true,
        .addService (request 0 ⟨8000, -1, some (ascii "Dire Wolf")⟩) 0,
        .commit [request 0 ⟨8000, -1, some (ascii "Dire Wolf")⟩]
          [⟨8000, -1, some (ascii "Dire Wolf")⟩] 0]) := rfl
  exact ⟨h₀, hrun, (hinv _ _ _ hrun).2.2.2⟩

/-! ### `result` is assigned before it is read

`create_services` declares `result` without a value and reads it after the slot loop.  The loop
assigns it at its first active slot; the batch keeps an active slot along every run, so no
callback's decision between the commit and `dns_sd_term` depends on the uninitialised value
(`Replies.garbage`). -/

/-- The event with the uninitialised `result` of `create_services` holding `v`. -/
def Event.withGarbage (v : Int) : Event → Event
  | .client state r => .client state { r with garbage := v }
  | .group g state r => .group g state { r with garbage := v }

/-- A loop that leaves `result` unassigned started with it unassigned and met no active
slot. -/
theorem addServices_result_none :
    ∀ {i : Nat} {slots : Batch} {res : Option Int} {es : List Request} {adds : List Int}
      {l : Looped}, addServices alt i slots res es adds = some l → l.result = none →
      res = none ∧ ∀ svc ∈ slots, svc.port = 0
  | _, [], _, _, _, _, h, hr => by rw [addServices_nil h] at hr; exact ⟨hr, nofun⟩
  | _, svc :: rest, _, _, _, _, h, hr => by
    rcases addServices_cons h with ⟨hp, l', h', rfl⟩ | ⟨-, sv, -, -, rfl⟩ |
        ⟨-, sv, l', -, -, h', rfl⟩
    · obtain ⟨hres, hrest⟩ := addServices_result_none h' hr
      exact ⟨hres, List.forall_mem_cons.mpr ⟨hp, hrest⟩⟩
    · cases hr
    · cases (addServices_result_none h' hr).1

/-- A loop over slots with an active one assigns `result`. -/
theorem addServices_result_isSome {i : Nat} {slots : Batch} {res : Option Int}
    {es : List Request} {adds : List Int} {l : Looped}
    (h : addServices alt i slots res es adds = some l) (ha : ∃ svc ∈ slots, svc.port ≠ 0) :
    l.result.isSome :=
  Option.ne_none_iff_isSome.mp fun hn =>
    let ⟨svc, hm, hp⟩ := ha
    hp ((addServices_result_none h hn).2 svc hm)

theorem exists_active_of_map_shape {ctx ctx' : Batch}
    (h : ctx'.map DnsSdService.shape = ctx.map DnsSdService.shape)
    (ha : ∃ svc ∈ ctx, svc.port ≠ 0) : ∃ svc ∈ ctx', svc.port ≠ 0 := by
  have h₀ : 0 < ctx.countP (·.port ≠ 0) := List.countP_pos_iff.mpr (by simpa using ha)
  rw [← countP_active_of_map_shape h] at h₀
  simpa using List.countP_pos_iff.mp h₀

/-- With an active slot, the round does the same whatever `result` held before the loop. -/
theorem fillGroup_garbage {r : Replies} (s : St) (obs : List Obs) (v : Int)
    (ha : ∃ svc ∈ s.ctx, svc.port ≠ 0) :
    fillGroup alt { r with garbage := v } s obs = fillGroup alt r s obs := by
  unfold fillGroup
  split
  · cases hl : addServices alt 0 s.ctx none s.entries r.adds with
    | none => rfl
    | some l =>
      obtain ⟨x, hx⟩ := Option.isSome_iff_exists.mp (addServices_result_isSome hl ha)
      simp [hx]
  · rfl

theorem createServices_garbage {r : Replies} (s : St) (v : Int)
    (ha : ∃ svc ∈ s.ctx, svc.port ≠ 0) :
    createServices alt { r with garbage := v } s = createServices alt r s := by
  unfold createServices
  split
  · split
    · exact fillGroup_garbage _ _ v ha
    · rfl
  · exact fillGroup_garbage _ _ v ha

/-- A callback at a state with an active slot does the same whatever `result` held. -/
theorem step_garbage {s : St} (e : Event) (v : Int) (ha : ∃ svc ∈ s.ctx, svc.port ≠ 0) :
    step alt s (e.withGarbage v) = step alt s e := by
  cases e with
  | client state r =>
    cases state <;> simp only [Event.withGarbage, step, clientCallback, createServices_garbage s v ha]
  | group g state r =>
    have ha' := exists_active_of_map_shape (@map_shape_renameAllServices alt s.ctx) ha
    simp only [Event.withGarbage, step, entryGroupCallback]
    split
    · cases state
      case collision =>
        exact congrArg _ (createServices_garbage ⟨some g, s.nextGroup, s.entries,
          renameAllServices alt s.ctx, s.quit⟩ v ha')
      all_goals rfl
    · rfl

/-- **`create_services` never reads `result` unassigned.**  For every configuration with a
service and every run of the Avahi callbacks from the batch `dns_sd_announce` builds, across any
number of rounds started by `S_RUNNING` or a group collision: some slot is active; every slot
loop a callback can run (on the batch, or on its renaming after a collision) has assigned
`result` whenever it returns; and so every callback does the same whatever the uninitialised
`result` holds. -/
theorem create_services_reads_assigned_result (mc : MiscConfig) (g : Option Bytes)
    (alt : Bytes → Bytes) (hc : 0 < dnsSdServiceCount mc) :
    ∃ ctx₀, dnsSdCreateContext mc g = some ctx₀ ∧
      ∀ evs s obs, run alt (initial ctx₀) evs = some (s, obs) →
        (∃ svc ∈ s.ctx, svc.port ≠ 0) ∧
        (∀ c es adds l, (c = s.ctx ∨ c = renameAllServices alt s.ctx) →
          addServices alt 0 c none es adds = some l → l.result.isSome) ∧
        ∀ e v, step alt s (e.withGarbage v) = step alt s e := by
  refine ⟨_, dnsSdCreateContext_eq mc g, fun evs s obs h => ?_⟩
  have hs := (run_shape h).trans (map_shape_avahiStrdupPass _)
  have ha : ∃ svc ∈ s.ctx, svc.port ≠ 0 := by
    have := (countP_active_of_map_shape hs).trans
      (countP_active_dnsSdCreateContext (dnsSdCreateContext_eq mc g))
    obtain ⟨svc, hm, hp⟩ := List.countP_pos_iff.mp (this ▸ hc)
    exact ⟨svc, hm, of_decide_eq_true hp⟩
  refine ⟨ha, fun c es adds l hc' hl => ?_, fun e v => step_garbage e v ha⟩
  have hac : ∃ svc ∈ c, svc.port ≠ 0 := by
    rcases hc' with rfl | rfl
    · exact ha
    · exact exists_active_of_map_shape (map_shape_renameAllServices s.ctx) ha
  exact addServices_result_isSome hl hac

/-- AGWPE alone: one service, so every round's loop assigns `result`. -/
theorem create_services_reads_assigned_result_agwpe_only :
    0 < dnsSdServiceCount agwpeOnly ∧
    ∃ ctx₀, dnsSdCreateContext agwpeOnly none = some ctx₀ ∧
      ∀ evs s obs, run (· ++ [50]) (initial ctx₀) evs = some (s, obs) →
        (∃ svc ∈ s.ctx, svc.port ≠ 0) ∧
        (∀ c es adds l, (c = s.ctx ∨ c = renameAllServices (· ++ [50]) s.ctx) →
          addServices (· ++ [50]) 0 c none es adds = some l → l.result.isSome) ∧
        ∀ e v, step (· ++ [50]) s (e.withGarbage v) = step (· ++ [50]) s e :=
  ⟨by decide, create_services_reads_assigned_result agwpeOnly none (· ++ [50]) (by decide)⟩

end DnsSd.Avahi
