import DnsSd.Avahi.Invariant
import DnsSd.MacOS.Announce

/-!
# Backends

The two backends against each other.  macOS `dns_sd_announce` registers every active slot,
logging a failed `DNSServiceRegister` and going on; the Avahi round adds the active slots in
the same order and stops at the first add that fails.  So in a first round without
collisions the Avahi requests are a prefix of the macOS registrations, and the two are equal
when the group is created and every add succeeds (`first_round_requests_agree`); an add that
fails makes them differ (`failed_add_shortens_avahi_requests`).
-/

namespace DnsSd.Avahi

open DnsSdService MacOS

variable {alt : Bytes → Bytes}

/-- The requests among a callback's calls, in order. -/
def addRequests (obs : List Obs) : List Request :=
  obs.filterMap fun o => match o with
    | .addService q _ => some q
    | _ => none

@[simp] theorem addRequests_nil : addRequests [] = [] := rfl

@[simp] theorem addRequests_append (xs ys : List Obs) :
    addRequests (xs ++ ys) = addRequests xs ++ addRequests ys :=
  List.filterMap_append _ _ _

/-- With no collision among the daemon's answers, `create_service` makes one request under the
slot's own name. -/
theorem createService_no_collision {i : Nat} {svc : DnsSdService} {es : List Request}
    {adds : List Int} {sv : Served} (h : createService alt i svc es adds = some sv)
    (hnc : ∀ x ∈ adds, x ≠ avahiErrCollision) :
    adds = sv.result :: sv.rest ∧ sv.svc = svc ∧ sv.obs = [.addService (request i svc) sv.result] := by
  obtain ⟨n, hadds, -, hs, -, hobs⟩ := createService_eq h
  cases n with
  | zero => exact ⟨hadds, hs, by simpa [collisionObs, hs] using hobs⟩
  | succ n => exact absurd rfl (hnc avahiErrCollision (by simp [hadds, List.replicate_succ]))

/-- Without collisions the slot loop requests a prefix of the active slots, in order, and all of
them when every add succeeds. -/
theorem addServices_requests :
    ∀ {i : Nat} {slots : Batch} {res : Option Int} {es : List Request} {adds : List Int}
      {l : Looped}, addServices alt i slots res es adds = some l →
      (∀ x ∈ adds, x ≠ avahiErrCollision) →
      addRequests l.obs <+: slotEntries i slots ∧
        ((∀ x ∈ adds, x = avahiOk) → addRequests l.obs = slotEntries i slots)
  | _, [], _, _, _, _, h, _ => by simp [addServices_nil h, slotEntries]
  | i, svc :: rest, _, _, adds, _, h, hnc => by
    rcases addServices_cons h with ⟨hp, l', h', rfl⟩ | ⟨hp, sv, hsv, hr, rfl⟩ |
        ⟨hp, sv, l', hsv, -, h', rfl⟩
    · simpa [slotEntries, hp] using addServices_requests h' hnc
    · obtain ⟨hadds, -, hobs⟩ := createService_no_collision hsv hnc
      refine ⟨by simp [hobs, addRequests, slotEntries, hp], fun hok => ?_⟩
      exact absurd (hok _ (by simp [hadds])) hr
    · obtain ⟨hadds, -, hobs⟩ := createService_no_collision hsv hnc
      have hsub : ∀ x ∈ sv.rest, x ∈ adds := fun x hx => hadds ▸ List.mem_cons_of_mem _ hx
      obtain ⟨hpre, heq⟩ := addServices_requests h' fun x hx => hnc x (hsub x hx)
      simp only [hobs, addRequests_append, slotEntries, hp, if_false]
      exact ⟨List.prefix_cons_inj _ |>.mpr hpre, fun hok => by
        rw [heq fun x hx => hok x (hsub x hx)]; rfl⟩

/-- The first round, from the state `dns_sd_announce` leaves: no request if the group cannot be
created, else those of the slot loop over the batch. -/
theorem createServices_initial_requests {r : Replies} {ctx : Batch} {s' : St} {obs : List Obs}
    (h : createServices alt r (initial ctx) = some (s', obs)) :
    (r.groupNew = false ∧ addRequests obs = []) ∨
    (r.groupNew = true ∧ ∃ l, addServices alt 0 ctx none [] r.adds = some l ∧
      addRequests obs = addRequests l.obs) := by
  simp only [createServices, initial, avahiStrdupPass_eq] at h
  split_ifs at h with hg
  · simp only [fillGroup, if_true, Option.map_eq_some'] at h
    obtain ⟨l, hl, h⟩ := h
    refine .inr ⟨hg, l, hl, ?_⟩
    split_ifs at h <;> obtain ⟨-, rfl⟩ := Prod.mk.inj h <;> simp [addRequests]
  · obtain ⟨-, rfl⟩ := Prod.mk.inj (Option.some.inj h)
    exact .inl ⟨by simpa using hg, rfl⟩

/-- **The backends agree on a clean first round.**  The macOS registrations announce one
service per active slot of the batch `dns_sd_create_context` built, in slot order.  The Avahi
round started from the same batch requests a prefix of them when no add collides, and all of
them when the group is created and every add returns `AVAHI_OK`. -/
theorem first_round_requests_agree (mc : MiscConfig) (g : Option Bytes) (err : Nat → Int)
    (alt : Bytes → Bytes) (r : Replies) (ctx : Batch) (regs : List Registration)
    (refs : List Bool) (s' : St) (obs : List Obs)
    (hm : dnsSdAnnounce mc g err = some (ctx, regs, refs))
    (ha : createServices alt r (initial ctx) = some (s', obs))
    (hnc : ∀ x ∈ r.adds, x ≠ avahiErrCollision) :
    regs.map Registration.announced = slotEntries 0 ctx ∧
      addRequests obs <+: regs.map Registration.announced ∧
      (r.groupNew = true → (∀ x ∈ r.adds, x = avahiOk) →
        addRequests obs = regs.map Registration.announced) := by
  have hregs : regs.map Registration.announced = slotEntries 0 ctx := by
    simp only [dnsSdAnnounce] at hm
    split_ifs at hm
    obtain ⟨c, -, hc⟩ := Option.map_eq_some'.mp hm
    obtain ⟨rfl, hr⟩ := Prod.mk.inj hc
    rw [← show (registerLoop err 0 c).1 = regs from congrArg Prod.fst hr]
    exact registerLoop_announced err 0 c
  rw [hregs]
  rcases createServices_initial_requests ha with ⟨hg, hobs⟩ | ⟨-, l, hl, hobs⟩
  · exact ⟨rfl, hobs ▸ List.nil_prefix, fun h => absurd (hg.symm.trans h) (by decide)⟩
  · obtain ⟨hpre, heq⟩ := addServices_requests hl hnc
    exact ⟨rfl, hobs ▸ hpre, fun _ hok => hobs.trans (heq hok)⟩

/-- One AGWPE slot, every answer `OK`: both backends announce `Dire Wolf` on port 8000. -/
theorem first_round_requests_agree_agwpe_only :
    ∃ ctx regs refs s' obs,
      dnsSdAnnounce agwpeOnly none (fun _ => 0) = some (ctx, regs, refs) ∧
      createServices id ⟨true, [0], 0, 0⟩ (initial ctx) = some (s', obs) ∧
      (∀ x ∈ [(0 : Int)], x ≠ avahiErrCollision) ∧
      addRequests obs = regs.map Registration.announced ∧
      addRequests obs = [request 0 ⟨8000, -1, some (ascii "Dire Wolf")⟩] := by
  refine ⟨_, _, _, _, _, rfl, rfl, by decide, ?_, rfl⟩
  exact (first_round_requests_agree agwpeOnly none (fun _ => 0) id ⟨true, [0], 0, 0⟩ _ _ _ _ _
    rfl rfl (by decide)).2.2 rfl (by decide)

/-- The daemon refuses the AGWPE add with an error other than a collision: the Avahi round
stops there and requests one service, while macOS registers both. -/
theorem failed_add_shortens_avahi_requests :
    ∃ ctx regs refs s' obs,
      dnsSdAnnounce agwpeAndKiss none (fun _ => 0) = some (ctx, regs, refs) ∧
      createServices id ⟨true, [-1], 0, 0⟩ (initial ctx) = some (s', obs) ∧
      (∀ x ∈ [(-1 : Int)], x ≠ avahiErrCollision) ∧
      addRequests obs = [request 0 ⟨8000, -1, some (ascii "Dire Wolf")⟩] ∧
      regs.map Registration.announced =
        [request 0 ⟨8000, -1, some (ascii "Dire Wolf")⟩,
          request 1 ⟨8001, 0, some (ascii "Dire Wolf channel 0")⟩] :=
  ⟨_, _, _, _, _, rfl, rfl, by decide, rfl, rfl⟩

end DnsSd.Avahi
