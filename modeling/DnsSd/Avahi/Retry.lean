import DnsSd.Avahi.Loop
import Mathlib.Data.Finset.Card
import Mathlib.Data.Nat.Find

/-!
# Avahi — Retry

`[dns_sd_avahi.c]`.  How often `create_service` retries one slot.  The daemon is any function
`add` from a request to its answer to `avahi_entry_group_add_service`, reporting
`AVAHI_ERR_COLLISION` exactly for the names of a finite set `T` (names other hosts hold, and
names already in the group); `avahi_alternative_service_name` is any `alt` whose iterates from
a name never repeat.

Each retry renames the name just refused, so the names submitted are `n₀`, `alt n₀`,
`alt (alt n₀)`, … : pairwise distinct, and all but the last in `T`.  There are at most `|T|` of
them.

* `createService_collisions`: `create_service` on `n` collisions and then another answer.
* `create_service_retries_bounded`: the run in which the daemon answers every add exists and
  ends, after at most `|T| + 1` adds, with an answer other than a collision and the slot named
  `alt^m n₀`, `m` the collisions seen.
-/

namespace DnsSd.Avahi

open DnsSdService

variable {alt : Bytes → Bytes}

/-- Every add among `obs` got the daemon's answer `add` to its request. -/
def Answered (add : Request → Int) (obs : List Obs) : Prop :=
  ∀ q r, Obs.addService q r ∈ obs → r = add q

/-- An add the daemon refused with a collision. -/
def Obs.isCollision : Obs → Bool
  | .addService _ r => decide (r = avahiErrCollision)
  | _ => false

theorem Option.map_iterate_some {α : Type} (f : α → α) (a : α) (k : Nat) :
    (Option.map f)^[k] (some a) = some (f^[k] a) :=
  (Function.Semiconj.iterate_right (f := some) (fun _ => rfl) k a).symm

@[simp] theorem rename_name_some (port channel : Int) (n₀ : Bytes) (k : Nat) :
    (DnsSdService.mk port channel (some n₀)).rename alt k = ⟨port, channel, some (alt^[k] n₀)⟩ := by
  simp [DnsSdService.rename, Option.map_iterate_some]

/-- The adds of a name that collides `n` times, one per name it takes. -/
theorem collisionObs_eq_map (i : Nat) :
    ∀ (n : Nat) (svc : DnsSdService), collisionObs alt i svc n =
      (List.range n).map fun k => .addService (request i (svc.rename alt k)) avahiErrCollision
  | 0, _ => rfl
  | n + 1, svc => by
    simp only [collisionObs, List.range_succ_eq_map, List.map_cons, List.map_map,
      collisionObs_eq_map i n, Function.comp_def, rename_succ, rename_zero]

theorem countP_isCollision_collisionObs (i n : Nat) (svc : DnsSdService) :
    (collisionObs alt i svc n).countP Obs.isCollision = n := by
  simp [collisionObs_eq_map, List.countP_map, Function.comp_def, Obs.isCollision]

/-- **`create_service` on `n` collisions and then an answer `r` that is not one**: it makes
`n + 1` adds under successive names, keeps the answers after `r`, and ends on the last name. -/
theorem createService_collisions {i : Nat} {es : List Request} {r : Int}
    (hr : r ≠ avahiErrCollision) (rest : List Int) :
    ∀ (n : Nat) (svc : DnsSdService),
      createService alt i svc es (List.replicate n avahiErrCollision ++ r :: rest) =
        some ⟨r, svc.rename alt n, if r = avahiOk then es ++ [request i (svc.rename alt n)] else es,
          rest, collisionObs alt i svc n ++ [.addService (request i (svc.rename alt n)) r]⟩
  | 0, svc => by simp [createService, hr, collisionObs]
  | n + 1, svc => by
    simp [createService, createService_collisions hr rest n, rename_succ, collisionObs]

section Daemon

variable (alt) {T : Finset Bytes} {add : Request → Int}

/-- The names a run of collisions submits all lie in `T`, and are pairwise distinct: there are
at most `|T|` of them. -/
theorem collisions_le_card (halt : ∀ n i j, alt^[i] n = alt^[j] n → i = j) {n₀ : Bytes}
    {n : Nat} (hn : ∀ k < n, alt^[k] n₀ ∈ T) : n ≤ T.card :=
  Finset.le_card_of_inj_on_range (fun k => alt^[k] n₀) hn fun i _ j _ h => halt n₀ i j h

/-- Some name of the chain is free. -/
theorem exists_free (halt : ∀ n i j, alt^[i] n = alt^[j] n → i = j) (n₀ : Bytes) :
    ∃ k, alt^[k] n₀ ∉ T := by
  by_contra! h
  have := collisions_le_card alt halt (n := T.card + 1) fun k _ => h k
  omega

end Daemon

/-- **`create_service` ends within `|T| + 1` adds.**  For every slot and starting name `n₀`,
when the daemon answers each add with `add` of its request, collisions exactly for the names
in `T`: the run in which it does so exists and uses exactly its answers; and every such run
makes at most `|T| + 1` adds, returns an answer other than `AVAHI_ERR_COLLISION`, and leaves
the slot named `alt^m n₀`, `m` the collisions it saw. -/
theorem create_service_retries_bounded (alt : Bytes → Bytes)
    (halt : ∀ n i j, alt^[i] n = alt^[j] n → i = j) (T : Finset Bytes) (add : Request → Int)
    (hT : ∀ q n, q.name = some n → (add q = avahiErrCollision ↔ n ∈ T))
    (i : Nat) (port channel : Int) (n₀ : Bytes) (es : List Request) :
    (∃ adds sv, createService alt i ⟨port, channel, some n₀⟩ es adds = some sv ∧ sv.rest = [] ∧
      Answered add sv.obs) ∧
    ∀ adds sv, createService alt i ⟨port, channel, some n₀⟩ es adds = some sv →
      Answered add sv.obs →
      sv.obs.length ≤ T.card + 1 ∧ sv.result ≠ avahiErrCollision ∧
        sv.svc.name = some (alt^[sv.obs.countP Obs.isCollision] n₀) := by
  -- the `k`-th add submits `alt^[k] n₀`
  have hq : ∀ k, (request i ((DnsSdService.mk port channel (some n₀)).rename alt k)).name =
      some (alt^[k] n₀) := fun k => by simp [request]
  constructor
  · classical
    let m := Nat.find (exists_free alt (T := T) halt n₀)
    have hm : alt^[m] n₀ ∉ T := Nat.find_spec (exists_free alt halt n₀)
    have hr : add (request i ((DnsSdService.mk port channel (some n₀)).rename alt m)) ≠
        avahiErrCollision := fun h => hm ((hT _ _ (hq m)).mp h)
    refine ⟨_, _, createService_collisions hr [] m _, rfl, fun q r h => ?_⟩
    simp only [collisionObs_eq_map, List.mem_append, List.mem_map, List.mem_range,
      List.mem_singleton, Obs.addService.injEq] at h
    rcases h with ⟨k, hk, rfl, rfl⟩ | ⟨rfl, rfl⟩
    · exact ((hT _ _ (hq k)).mpr (not_not.mp (Nat.find_min _ hk))).symm
    · rfl
  · intro adds sv h ha
    obtain ⟨n, -, hres, hsvc, -, hobs⟩ := createService_eq h
    have hin : ∀ k < n, alt^[k] n₀ ∈ T := fun k hk => by
      refine (hT _ _ (hq k)).mp (ha _ _ ?_).symm
      rw [hobs, collisionObs_eq_map]
      exact List.mem_append_left _ (List.mem_map.mpr ⟨k, List.mem_range.mpr hk, rfl⟩)
    have hc : sv.obs.countP Obs.isCollision = n := by
      simp [hobs, countP_isCollision_collisionObs, Obs.isCollision, hres]
    refine ⟨?_, hres, by rw [hc, hsvc, rename_name_some]⟩
    have := collisions_le_card alt halt hin
    simp only [hobs, List.length_append, List.length_singleton, collisionObs_eq_map,
      List.length_map, List.length_range]
    omega

theorem length_iterate_append (b : UInt8) (n : Bytes) (k : Nat) :
    ((· ++ [b])^[k] n).length = n.length + k := by
  induction k with
  | zero => rfl
  | succ k ih => rw [Function.iterate_succ_apply', List.length_append, ih, List.length_singleton]; rfl

/-- A daemon that refuses only `A`, and an `alt` that appends `2`: slot 0 on port 8000 named
`A` is renamed once. -/
theorem create_service_renames_taken_name :
    (∀ (n : Bytes) i j, (· ++ [50])^[i] n = (· ++ [50])^[j] n → i = j) ∧
    (∀ (q : Request) (n : Bytes), q.name = some n →
      ((if q.name = some [65] then avahiErrCollision else avahiOk) = avahiErrCollision ↔
        n ∈ ({[65]} : Finset Bytes))) ∧
    ((∃ adds sv, createService (· ++ [50]) 0 ⟨8000, -1, some [65]⟩ [] adds = some sv ∧
        sv.rest = [] ∧
        Answered (fun q => if q.name = some [65] then avahiErrCollision else avahiOk) sv.obs) ∧
      ∀ adds sv, createService (· ++ [50]) 0 ⟨8000, -1, some [65]⟩ [] adds = some sv →
        Answered (fun q => if q.name = some [65] then avahiErrCollision else avahiOk) sv.obs →
        sv.obs.length ≤ ({[65]} : Finset Bytes).card + 1 ∧ sv.result ≠ avahiErrCollision ∧
          sv.svc.name = some ((· ++ [50])^[sv.obs.countP Obs.isCollision] [65])) := by
  have halt : ∀ (n : Bytes) i j, (· ++ [50])^[i] n = (· ++ [50])^[j] n → i = j := fun n i j h => by
    have := congrArg List.length h
    rw [length_iterate_append, length_iterate_append] at this
    omega
  have hT : ∀ (q : Request) (n : Bytes), q.name = some n →
      ((if q.name = some [65] then avahiErrCollision else avahiOk) = avahiErrCollision ↔
        n ∈ ({[65]} : Finset Bytes)) := fun q n h => by
    by_cases hn : n = [65] <;> simp [h, hn, avahiOk, avahiErrCollision]
  exact ⟨halt, hT, create_service_retries_bounded _ halt _ _ hT 0 8000 (-1) [65] []⟩

end DnsSd.Avahi
