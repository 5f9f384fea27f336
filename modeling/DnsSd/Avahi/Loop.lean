import DnsSd.Avahi.Handlers
import Mathlib.Data.List.Forall2

/-!
# Avahi — Loop

What `create_service` and the slot loop of `create_services` do, for every sequence of daemon
answers.

* `createService_eq`: the answers are `n` collisions and one other result `r`; the slot ends
  under its name renamed `n` times, and the group gains its entry exactly when `r` is
  `AVAHI_OK`.
* `addServices_slots`: the loop only renames slots; ports and channels stay.
* `addServices_entries`: a loop that did not break leaves one entry per active slot, in order.
* `addServices_obs`: the loop's calls are adds that succeeded or collided, then at most one
  failed add, and it fails exactly when the loop broke.
-/

namespace DnsSd.Avahi

open DnsSdService

variable {alt : Bytes → Bytes}

/-- The requests `create_service` makes for a name that collides `n` times. -/
def collisionObs (alt : Bytes → Bytes) (i : Nat) : DnsSdService → Nat → List Obs
  | _, 0 => []
  | svc, n + 1 =>
    .addService (request i svc) avahiErrCollision ::
      collisionObs alt i { svc with name := svc.name.map alt } n

/-- `svc` renamed some number of times. -/
def Renamed (alt : Bytes → Bytes) (svc svc' : DnsSdService) : Prop := ∃ n, svc' = svc.rename alt n

/-- An add that succeeded or collided: no fatal condition. -/
def Obs.Benign : Obs → Prop
  | .addService _ r => r = avahiOk ∨ r = avahiErrCollision
  | _ => False

@[simp] theorem rename_zero (svc : DnsSdService) : svc.rename alt 0 = svc := rfl

theorem rename_succ (svc : DnsSdService) (n : Nat) :
    svc.rename alt (n + 1) = ({ svc with name := svc.name.map alt }).rename alt n := by
  simp [DnsSdService.rename, Function.iterate_succ_apply]

@[simp] theorem rename_port (svc : DnsSdService) (n : Nat) : (svc.rename alt n).port = svc.port :=
  rfl

@[simp] theorem rename_channel (svc : DnsSdService) (n : Nat) :
    (svc.rename alt n).channel = svc.channel := rfl

@[simp] theorem rename_name_isSome (svc : DnsSdService) (n : Nat) :
    ((svc.rename alt n).name).isSome = svc.name.isSome := by
  induction n generalizing svc with
  | zero => rfl
  | succ n ih => rw [rename_succ, ih]; cases svc.name <;> rfl

theorem Renamed.refl (svc : DnsSdService) : Renamed alt svc svc := ⟨0, rfl⟩

theorem Obs.benign_of_mem_collisionObs {i : Nat} {svc : DnsSdService} {n : Nat} {o : Obs}
    (h : o ∈ collisionObs alt i svc n) : o.Benign := by
  induction n generalizing svc with
  | zero => simp [collisionObs] at h
  | succ n ih =>
    rcases List.mem_cons.mp h with rfl | h
    · exact .inr rfl
    · exact ih h

/-! ### `create_service` -/

/-- **`create_service`, exactly.**  Its answers are `n` collisions and then a result `r` that
is not one; it makes `n + 1` requests under successive names and ends on the last. -/
theorem createService_eq {i : Nat} {es : List Request} :
    ∀ {svc : DnsSdService} {adds : List Int} {sv : Served},
      createService alt i svc es adds = some sv →
      ∃ n, adds = List.replicate n avahiErrCollision ++ sv.result :: sv.rest ∧
        sv.result ≠ avahiErrCollision ∧ sv.svc = svc.rename alt n ∧
        sv.entries = (if sv.result = avahiOk then es ++ [request i sv.svc] else es) ∧
        sv.obs = collisionObs alt i svc n ++ [.addService (request i sv.svc) sv.result]
  | _, [], _, h => by simp [createService] at h
  | svc, r :: rs, sv, h => by
    by_cases hr : r = avahiErrCollision
    · simp only [createService, hr, if_true, Option.map_eq_some'] at h
      obtain ⟨sv', h', rfl⟩ := h
      obtain ⟨n, hadds, hres, hsvc, hes, hobs⟩ := createService_eq h'
      exact ⟨n + 1, by simp [hadds, List.replicate_succ, hr], hres, by rw [hsvc, rename_succ], hes,
        by simp [hobs, collisionObs]⟩
    · simp only [createService, hr, if_false, Option.some.injEq] at h
      subst h
      exact ⟨0, rfl, hr, rfl, rfl, rfl⟩

/-! ### The slot loop -/

/-- One iteration of the slot loop: an inert slot is skipped; an active one is served, and
the loop breaks or goes on. -/
theorem addServices_cons {i : Nat} {svc : DnsSdService} {rest : Batch} {res : Option Int}
    {es : List Request} {adds : List Int} {l : Looped}
    (h : addServices alt i (svc :: rest) res es adds = some l) :
    (svc.port = 0 ∧ ∃ l', addServices alt (i + 1) rest res es adds = some l' ∧
      l = { l' with slots := svc :: l'.slots }) ∨
    (svc.port ≠ 0 ∧ ∃ sv, createService alt i svc es adds = some sv ∧ sv.result ≠ avahiOk ∧
      l = ⟨some sv.result, sv.svc :: rest, sv.entries, sv.rest, sv.obs⟩) ∨
    (svc.port ≠ 0 ∧ ∃ sv l', createService alt i svc es adds = some sv ∧ sv.result = avahiOk ∧
      addServices alt (i + 1) rest (some sv.result) sv.entries sv.rest = some l' ∧
      l = { l' with slots := sv.svc :: l'.slots, obs := sv.obs ++ l'.obs }) := by
  unfold addServices at h
  split_ifs at h with hp
  · obtain ⟨l', h', rfl⟩ := Option.map_eq_some'.mp h
    exact .inl ⟨hp, l', h', rfl⟩
  · obtain ⟨sv, hsv, h⟩ := Option.bind_eq_some.mp h
    split_ifs at h with hr
    · exact .inr (.inl ⟨hp, sv, hsv, hr, (Option.some.inj h).symm⟩)
    · obtain ⟨l', h', rfl⟩ := Option.map_eq_some'.mp h
      exact .inr (.inr ⟨hp, sv, l', hsv, not_not.mp hr, h', rfl⟩)

theorem addServices_nil {i : Nat} {res : Option Int} {es : List Request} {adds : List Int}
    {l : Looped} (h : addServices alt i [] res es adds = some l) :
    l = ⟨res, [], es, adds, []⟩ :=
  (Option.some.inj h).symm

/-- The loop renames slots and does nothing else to the batch. -/
theorem addServices_slots :
    ∀ {i : Nat} {slots : Batch} {res : Option Int} {es : List Request} {adds : List Int}
      {l : Looped}, addServices alt i slots res es adds = some l →
      List.Forall₂ (Renamed alt) slots l.slots
  | _, [], _, _, _, _, h => by simp [addServices_nil h]
  | _, svc :: rest, _, _, _, _, h => by
    rcases addServices_cons h with ⟨-, l', h', rfl⟩ | ⟨-, sv, hsv, -, rfl⟩ |
        ⟨-, sv, l', hsv, -, h', rfl⟩
    · exact .cons (.refl svc) (addServices_slots h')
    · obtain ⟨n, -, -, hs, -⟩ := createService_eq hsv
      exact .cons ⟨n, hs⟩ (List.forall₂_same.mpr fun x _ => Renamed.refl x)
    · obtain ⟨n, -, -, hs, -⟩ := createService_eq hsv
      exact .cons ⟨n, hs⟩ (addServices_slots h')

/-- A loop that did not break (every assigned `result` is `AVAHI_OK`) has added one entry per
active slot, under the names the slots end with. -/
theorem addServices_entries :
    ∀ {i : Nat} {slots : Batch} {res : Option Int} {es : List Request} {adds : List Int}
      {l : Looped}, addServices alt i slots res es adds = some l →
      (∀ r, l.result = some r → r = avahiOk) → l.entries = es ++ slotEntries i l.slots
  | _, [], _, _, _, _, h, _ => by simp [addServices_nil h, slotEntries]
  | _, svc :: rest, _, _, _, _, h, hok => by
    rcases addServices_cons h with ⟨hp, l', h', rfl⟩ | ⟨-, sv, -, hr, rfl⟩ |
        ⟨hp, sv, l', hsv, hr, h', rfl⟩
    · simpa [slotEntries, hp] using addServices_entries h' hok
    · exact absurd (hok _ rfl) hr
    · obtain ⟨n, -, -, hs, hes, -⟩ := createService_eq hsv
      have hp' : sv.svc.port ≠ 0 := by rw [hs, rename_port]; exact hp
      simp only [hr, if_true] at hes
      simp [addServices_entries h' hok, hes, slotEntries, hp']

/-- The loop's calls: adds that succeeded or collided, then, exactly when it broke, the one
add that failed. -/
theorem addServices_obs :
    ∀ {i : Nat} {slots : Batch} {res : Option Int} {es : List Request} {adds : List Int}
      {l : Looped}, addServices alt i slots res es adds = some l →
      (∀ r, res = some r → r = avahiOk) →
      ∃ pre, (∀ o ∈ pre, o.Benign) ∧
        ((l.obs = pre ∧ ∀ r, l.result = some r → r = avahiOk) ∨
          ∃ q r, l.obs = pre ++ [.addService q r] ∧ l.result = some r ∧ r ≠ avahiOk ∧
            r ≠ avahiErrCollision)
  | _, [], _, _, _, _, h, hres => by
    rw [addServices_nil h]
    exact ⟨[], by simp, .inl ⟨rfl, hres⟩⟩
  | i, svc :: rest, _, _, _, _, h, hres => by
    rcases addServices_cons h with ⟨-, l', h', rfl⟩ | ⟨-, sv, hsv, hr, rfl⟩ |
        ⟨-, sv, l', hsv, hr, h', rfl⟩
    · have hl := addServices_obs h' hres
      exact hl
    · obtain ⟨n, -, hcol, -, -, hobs⟩ := createService_eq hsv
      exact ⟨collisionObs alt i svc n, fun o ho => Obs.benign_of_mem_collisionObs ho,
        .inr ⟨_, _, hobs, rfl, hr, hcol⟩⟩
    · obtain ⟨n, -, -, -, -, hobs⟩ := createService_eq hsv
      obtain ⟨pre, hpre, hl⟩ := addServices_obs h' (fun r h => (Option.some.inj h) ▸ hr)
      refine ⟨sv.obs ++ pre, ?_, ?_⟩
      · intro o ho
        rcases List.mem_append.mp ho with ho | ho
        · rw [hobs] at ho
          rcases List.mem_append.mp ho with ho | ho
          · exact Obs.benign_of_mem_collisionObs ho
          · simp only [List.mem_singleton] at ho; exact ho ▸ .inl hr
        · exact hpre o ho
      · rcases hl with ⟨hl, hok⟩ | ⟨q, r, hl, hres', hr', hc⟩
        · exact .inl ⟨by simp [hl], hok⟩
        · exact .inr ⟨q, r, by simp [hl], hres', hr', hc⟩

end DnsSd.Avahi
