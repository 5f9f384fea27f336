import DnsSd.Avahi.Rounds

/-!
# Avahi — Group

`[dns_sd_avahi.c]`.  What the daemon's entry group holds, between the callbacks and at their
end.  `create_services` resets the group, or gets a new one, before it adds; it adds the active
slots in order, each once `create_service` has found it a free name; `rename_all_services` runs
only right before such a round; and a client `S_REGISTERING` or `S_COLLISION` resets the group.

* `addServices_entries_current`: the slot loop adds the requests of the first active slots it
  walks, in order, under the names it leaves them with.
* `run_entries_current`: along every run the group holds a prefix of the batch's requests: only
  active slots, in slot order, none twice, each under the slot's current name.
* `run_renamed`, `run_asks`: along every run each slot is the one it started as, renamed some
  number of times by `alt`, and every add asks for an active slot of the starting batch under
  its name so renamed.
-/

namespace DnsSd.Avahi

open DnsSdService

variable {alt : Bytes → Bytes}

/-- The slot loop adds, after what the group held, the requests of the first active slots it
walks, under the names it leaves them with; a failed add adds nothing. -/
theorem addServices_entries_current :
    ∀ {i : Nat} {slots : Batch} {res : Option Int} {es : List Request} {adds : List Int}
      {l : Looped}, addServices alt i slots res es adds = some l →
      ∃ p, l.entries = es ++ p ∧ p <+: slotEntries i l.slots
  | _, [], _, _, _, _, h => ⟨[], by simp [addServices_nil h], List.nil_prefix⟩
  | i, svc :: rest, _, _, _, _, h => by
    rcases addServices_cons h with ⟨hp, l', h', rfl⟩ | ⟨-, sv, hsv, hr, rfl⟩ |
        ⟨hp, sv, l', hsv, hr, h', rfl⟩
    · obtain ⟨p, he, hpre⟩ := addServices_entries_current h'
      exact ⟨p, he, by simpa [slotEntries, hp] using hpre⟩
    · obtain ⟨n, -, -, -, hes, -⟩ := createService_eq hsv
      exact ⟨[], by simpa [hr] using hes, List.nil_prefix⟩
    · obtain ⟨n, -, -, hs, hes, -⟩ := createService_eq hsv
      obtain ⟨p, he, hpre⟩ := addServices_entries_current h'
      have hp' : sv.svc.port ≠ 0 := by rw [hs, rename_port]; exact hp
      refine ⟨request i sv.svc :: p, by simp [he, hes, hr], ?_⟩
      simpa [slotEntries, hp'] using hpre

/-- A round from an empty group leaves it holding a prefix of the batch's requests. -/
theorem fillGroup_entries_current {r : Replies} {s s' : St} {obs0 obs : List Obs}
    (h : fillGroup alt r s obs0 = some (s', obs)) (he : s.entries = []) :
    s'.entries <+: slotEntries 0 s'.ctx := by
  rcases fillGroup_cases h with ⟨rfl, -⟩ | ⟨l, hl, hcase⟩
  · simp [he]
  obtain ⟨p, hle, hp⟩ := addServices_entries_current hl
  rw [he, List.nil_append] at hle
  rcases hcase with ⟨-, rfl, -⟩ | ⟨-, -, rfl, -⟩ | ⟨-, -, rfl, -⟩ <;> simpa [dnsSdTerm, hle] using hp

/-- `create_services` resets the group, or gets a new one, before its round; only when
`avahi_entry_group_new` fails does the state stay, and there is then no group. -/
theorem createServices_entries_current {r : Replies} {s s' : St} {obs : List Obs}
    (h : createServices alt r s = some (s', obs))
    (hs : s.group = none → s.entries <+: slotEntries 0 s.ctx) :
    s'.entries <+: slotEntries 0 s'.ctx := by
  unfold createServices at h
  split at h
  · next hg =>
    split_ifs at h
    · exact fillGroup_entries_current h rfl
    · obtain ⟨rfl, -⟩ := Prod.mk.inj (Option.some.inj h)
      exact hs hg
  · exact fillGroup_entries_current h rfl

/-- Every callback keeps the group holding a prefix of the batch's requests.  After a group
`COLLISION` the batch is renamed, but `create_services` then holds the group and resets it. -/
theorem step_entries_current {s s' : St} {e : Event} {obs : List Obs}
    (h : step alt s e = some (s', obs)) (hs : s.entries <+: slotEntries 0 s.ctx) :
    s'.entries <+: slotEntries 0 s'.ctx := by
  cases e with
  | client state r =>
    obtain ⟨⟨s₁, o⟩, hc, hp⟩ := Option.map_eq_some'.mp h
    obtain ⟨rfl, -⟩ := Prod.mk.inj hp
    cases state with
    | sRunning => exact createServices_entries_current hc fun _ => hs
    | _ =>
      simp only [clientCallback] at hc
      try split_ifs at hc
      all_goals obtain ⟨rfl, -⟩ := Prod.mk.inj (Option.some.inj hc); simp [dnsSdTerm, hs]
  | group g state r =>
    obtain ⟨⟨s₁, o⟩, hc, hp⟩ := Option.map_eq_some'.mp h
    obtain ⟨rfl, -⟩ := Prod.mk.inj hp
    simp only [entryGroupCallback] at hc
    split_ifs at hc
    cases state with
    | collision => exact createServices_entries_current hc nofun
    | _ => obtain ⟨rfl, -⟩ := Prod.mk.inj (Option.some.inj hc); simp [dnsSdTerm, hs]

/-- **The group holds only current entries.**  Along every run of the callbacks, from every
state whose group holds a prefix of the batch's requests, for every order of notifications and
every daemon answer, the group keeps holding one: requests of active slots only, in slot order,
none twice, each under the name its slot has now.  No rename, of one slot by `create_service` or
of all by `rename_all_services`, leaves an entry under the old name behind. -/
theorem run_entries_current :
    ∀ {s : St} {evs : List Event} {s' : St} {obs : List Obs}, run alt s evs = some (s', obs) →
      s.entries <+: slotEntries 0 s.ctx → s'.entries <+: slotEntries 0 s'.ctx
  | _, [], _, _, h, hs => by obtain ⟨rfl, -⟩ := Prod.mk.inj (Option.some.inj h); exact hs
  | _, _ :: _, _, _, h, hs => by
    obtain ⟨s₁, o₁, o₂, h₁, h₂, -⟩ := run_cons_eq h
    exact run_entries_current h₂ (step_entries_current h₁ hs)

/-! ### What the daemon is asked for -/

/-- `req` asks for the active slot `i` of `ctx`, under its name renamed some number of times:
slot `i`'s type, its port, and the renamed name. -/
def Asks (alt : Bytes → Bytes) (ctx : Batch) (req : Request) : Prop :=
  ∃ i svc n, ctx[i]? = some svc ∧ svc.port ≠ 0 ∧ req = request i (svc.rename alt n)

theorem Renamed.trans {a b c : DnsSdService} (hab : Renamed alt a b) (hbc : Renamed alt b c) :
    Renamed alt a c := by
  obtain ⟨n, rfl⟩ := hab
  obtain ⟨m, rfl⟩ := hbc
  exact ⟨m + n, by simp [DnsSdService.rename, Function.iterate_add_apply]⟩

theorem forall₂_renamed_trans {a b c : Batch} (hab : List.Forall₂ (Renamed alt) a b)
    (hbc : List.Forall₂ (Renamed alt) b c) : List.Forall₂ (Renamed alt) a c := by
  induction hab generalizing c with
  | nil => exact hbc
  | cons h _ ih =>
    cases hbc with
    | cons h' hbc => exact .cons (h.trans h') (ih hbc)

theorem forall₂_renamed_refl (ctx : Batch) : List.Forall₂ (Renamed alt) ctx ctx :=
  List.forall₂_same.mpr fun x _ => Renamed.refl x

theorem forall₂_renamed_renameAllServices (ctx : Batch) :
    List.Forall₂ (Renamed alt) ctx (renameAllServices alt ctx) := by
  induction ctx with
  | nil => exact .nil
  | cons svc ctx ih => exact .cons ⟨1, rfl⟩ ih

theorem exists_renamed_of_getElem? {ctx ctx' : Batch} (hr : List.Forall₂ (Renamed alt) ctx ctx') :
    ∀ {i : Nat} {svc : DnsSdService}, ctx'[i]? = some svc →
      ∃ svc₀, ctx[i]? = some svc₀ ∧ Renamed alt svc₀ svc := by
  induction hr with
  | nil => simp
  | cons hab _ ih =>
    intro i svc hi
    cases i with
    | zero => simp only [List.getElem?_cons_zero, Option.some.injEq] at hi; exact ⟨_, List.getElem?_cons_zero, hi ▸ hab⟩
    | succ i => simpa using ih (by simpa using hi)

/-- A request for a slot renamed since is a request for the slot it came from. -/
theorem Asks.of_renamed {ctx ctx' : Batch} {req : Request} (h : Asks alt ctx' req)
    (hr : List.Forall₂ (Renamed alt) ctx ctx') : Asks alt ctx req := by
  obtain ⟨i, svc, n, hi, hp, rfl⟩ := h
  obtain ⟨svc₀, hi₀, k, rfl⟩ := exists_renamed_of_getElem? hr hi
  exact ⟨i, svc₀, n + k, hi₀, hp, by simp [request, DnsSdService.rename, Function.iterate_add_apply]⟩

theorem mem_collisionObs {i : Nat} {svc : DnsSdService} {n : Nat} {req : Request} {x : Int}
    (h : Obs.addService req x ∈ collisionObs alt i svc n) :
    ∃ k, req = request i (svc.rename alt k) := by
  induction n generalizing svc with
  | zero => simp [collisionObs] at h
  | succ n ih =>
    rcases List.mem_cons.mp h with h | h
    · exact ⟨0, (Obs.addService.inj h).1⟩
    · obtain ⟨k, rfl⟩ := ih h
      exact ⟨k + 1, by rw [rename_succ]⟩

/-- `create_service` asks only for its slot, under successive names. -/
theorem createService_asks {i : Nat} {svc : DnsSdService} {es : List Request} {adds : List Int}
    {sv : Served} (h : createService alt i svc es adds = some sv) {req : Request} {x : Int}
    (hm : Obs.addService req x ∈ sv.obs) : ∃ k, req = request i (svc.rename alt k) := by
  obtain ⟨n, -, -, hs, -, hobs⟩ := createService_eq h
  rw [hobs, List.mem_append, List.mem_singleton] at hm
  rcases hm with hm | hm
  · exact mem_collisionObs hm
  · exact ⟨n, hs ▸ (Obs.addService.inj hm).1⟩

theorem asks_cons {i : Nat} {svc : DnsSdService} {rest : Batch} {req : Request}
    (h : ∃ j svc' n, rest[j]? = some svc' ∧ svc'.port ≠ 0 ∧
      req = request (i + 1 + j) (svc'.rename alt n)) :
    ∃ j svc' n, (svc :: rest)[j]? = some svc' ∧ svc'.port ≠ 0 ∧
      req = request (i + j) (svc'.rename alt n) := by
  obtain ⟨j, svc', n, hj, hp, rfl⟩ := h
  exact ⟨j + 1, svc', n, by simpa using hj, hp, by rw [show i + 1 + j = i + (j + 1) by omega]⟩

/-- The slot loop asks only for the active slots it walks. -/
theorem addServices_asks :
    ∀ {i : Nat} {slots : Batch} {res : Option Int} {es : List Request} {adds : List Int}
      {l : Looped}, addServices alt i slots res es adds = some l →
      ∀ {req : Request} {x : Int}, Obs.addService req x ∈ l.obs →
        ∃ j svc n, slots[j]? = some svc ∧ svc.port ≠ 0 ∧ req = request (i + j) (svc.rename alt n)
  | _, [], _, _, _, _, h, _, _, hm => by simp [addServices_nil h] at hm
  | _, svc :: _, _, _, _, _, h, _, _, hm => by
    rcases addServices_cons h with ⟨-, l', h', rfl⟩ | ⟨hp, sv, hsv, -, rfl⟩ |
        ⟨hp, sv, l', hsv, -, h', rfl⟩
    · exact asks_cons (addServices_asks h' hm)
    · obtain ⟨k, rfl⟩ := createService_asks hsv hm
      exact ⟨0, svc, k, List.getElem?_cons_zero, hp, rfl⟩
    · rcases List.mem_append.mp hm with hm | hm
      · obtain ⟨k, rfl⟩ := createService_asks hsv hm
        exact ⟨0, svc, k, List.getElem?_cons_zero, hp, rfl⟩
      · exact asks_cons (addServices_asks h' hm)

theorem fillGroup_renamed {r : Replies} {s s' : St} {obs0 obs : List Obs}
    (h : fillGroup alt r s obs0 = some (s', obs)) : List.Forall₂ (Renamed alt) s.ctx s'.ctx := by
  rcases fillGroup_cases h with ⟨rfl, -⟩ | ⟨l, hl, hcase⟩
  · exact forall₂_renamed_refl _
  rcases hcase with ⟨-, rfl, -⟩ | ⟨-, -, rfl, -⟩ | ⟨-, -, rfl, -⟩ <;> exact addServices_slots hl

/-- A round asks only for the active slots of the batch it starts from. -/
theorem fillGroup_asks {r : Replies} {s s' : St} {obs0 obs : List Obs}
    (h : fillGroup alt r s obs0 = some (s', obs)) (h0 : ∀ req x, Obs.addService req x ∉ obs0)
    {req : Request} {x : Int} (hm : Obs.addService req x ∈ obs) : Asks alt s.ctx req := by
  rcases fillGroup_cases h with ⟨-, rfl⟩ | ⟨l, hl, hcase⟩
  · exact absurd hm (h0 req x)
  have hm : Obs.addService req x ∈ l.obs := by
    rcases hcase with ⟨-, -, rfl⟩ | ⟨-, -, -, rfl⟩ | ⟨-, -, -, rfl⟩ <;> simpa [h0] using hm
  obtain ⟨j, svc, n, hj, hp, rfl⟩ := addServices_asks hl hm
  exact ⟨j, svc, n, hj, hp, by rw [Nat.zero_add]⟩

theorem createServices_renamed {r : Replies} {s s' : St} {obs : List Obs}
    (h : createServices alt r s = some (s', obs)) : List.Forall₂ (Renamed alt) s.ctx s'.ctx := by
  rcases createServices_cases h with ⟨rfl, -⟩ | ⟨s₀, o, hc, -, -, hf⟩
  · exact forall₂_renamed_refl _
  · exact hc ▸ fillGroup_renamed hf

theorem createServices_asks {r : Replies} {s s' : St} {obs : List Obs}
    (h : createServices alt r s = some (s', obs)) {req : Request} {x : Int}
    (hm : Obs.addService req x ∈ obs) : Asks alt s.ctx req := by
  rcases createServices_cases h with ⟨-, rfl⟩ | ⟨s₀, o, hc, -, ho, hf⟩
  · simp at hm
  · exact hc ▸ fillGroup_asks hf (by rcases ho with rfl | rfl <;> simp) hm

/-- A callback only renames slots. -/
theorem step_renamed {s s' : St} {e : Event} {obs : List Obs} (h : step alt s e = some (s', obs)) :
    List.Forall₂ (Renamed alt) s.ctx s'.ctx := by
  obtain ⟨o, rest, -, -, -, hc⟩ := step_cases h
  rcases hc with ⟨r, s₀, hs₀ | hs₀, hc, -⟩ | ⟨-, hc, -⟩ | ⟨-, hc, -⟩
  · exact hs₀ ▸ createServices_renamed hc
  · exact forall₂_renamed_trans (hs₀ ▸ forall₂_renamed_renameAllServices s.ctx)
      (createServices_renamed hc)
  all_goals exact hc ▸ forall₂_renamed_refl _

/-- A callback asks only for active slots of the batch it starts from. -/
theorem step_asks {s s' : St} {e : Event} {obs : List Obs} (h : step alt s e = some (s', obs))
    {req : Request} {x : Int} (hm : Obs.addService req x ∈ obs) : Asks alt s.ctx req := by
  cases e with
  | client state r =>
    obtain ⟨⟨s₁, o⟩, hc, hp⟩ := Option.map_eq_some'.mp h
    obtain ⟨-, rfl⟩ := Prod.mk.inj hp
    replace hm : Obs.addService req x ∈ o := by simpa using hm
    cases state with
    | sRunning => exact createServices_asks hc hm
    | _ =>
      simp only [clientCallback] at hc
      try split_ifs at hc
      all_goals obtain ⟨-, rfl⟩ := Prod.mk.inj (Option.some.inj hc); simp at hm
  | group g state r =>
    obtain ⟨⟨s₁, o⟩, hc, hp⟩ := Option.map_eq_some'.mp h
    obtain ⟨-, rfl⟩ := Prod.mk.inj hp
    replace hm : Obs.addService req x ∈ o := by simpa using hm
    simp only [entryGroupCallback] at hc
    split_ifs at hc
    cases state with
    | collision =>
      exact (createServices_asks hc hm).of_renamed (forall₂_renamed_renameAllServices s.ctx)
    | _ => obtain ⟨-, rfl⟩ := Prod.mk.inj (Option.some.inj hc); simp at hm

/-- Along a run every slot is the one it started as, renamed some number of times. -/
theorem run_renamed :
    ∀ {s : St} {evs : List Event} {s' : St} {obs : List Obs}, run alt s evs = some (s', obs) →
      List.Forall₂ (Renamed alt) s.ctx s'.ctx
  | _, [], _, _, h => by
    obtain ⟨rfl, -⟩ := Prod.mk.inj (Option.some.inj h)
    exact forall₂_renamed_refl _
  | _, _ :: _, _, _, h => by
    obtain ⟨s₁, o₁, o₂, h₁, h₂, -⟩ := run_cons_eq h
    exact forall₂_renamed_trans (step_renamed h₁) (run_renamed h₂)

/-- Along a run every add asks for an active slot of the batch the run started from. -/
theorem run_asks :
    ∀ {s : St} {evs : List Event} {s' : St} {obs : List Obs}, run alt s evs = some (s', obs) →
      ∀ {req : Request} {x : Int}, Obs.addService req x ∈ obs → Asks alt s.ctx req
  | _, [], _, _, h, _, _, hm => by
    obtain ⟨-, rfl⟩ := Prod.mk.inj (Option.some.inj h)
    simp at hm
  | _, _ :: _, _, _, h, _, _, hm => by
    obtain ⟨s₁, o₁, o₂, h₁, h₂, rfl⟩ := run_cons_eq h
    rcases List.mem_append.mp hm with hm | hm
    · exact step_asks h₁ hm
    · exact (run_asks h₂ hm).of_renamed (step_renamed h₁)

end DnsSd.Avahi
