import DnsSd.Avahi.Group

/-!
# Avahi — Reentry

`[dns_sd_avahi.c]`.  `avahi_entry_group_new` may run `entry_group_callback` for the group it
creates before it returns, while the global `group` is still `NULL` (the callback's header says
as much).  Here the call is two steps: `create_services` up to the call, after which the daemon
holds the new group and may deliver its notifications, each a whole `entry_group_callback`; and
the call's return, which stores the group and goes on to fill it.  The daemon delivers an
entry-group notification only for a group `avahi_entry_group_new` has created, the
`nextGroup` groups numbered `0`, `1`, … .

* `nstep_lift`: a callback of the atomic model (`Avahi.step`) is a run of this one in which
  `avahi_entry_group_new` returns at once.
* `entry_group_assert_holds`: in every run, for every group created, `g == group || group ==
  NULL` holds, so the assertion of `entry_group_callback` never fails.
* `nrun_commits_match_slots`: re-entry keeps every commit equal to the batch's entries and the
  group holding only current entries.
-/

namespace DnsSd.Avahi

variable {alt : Bytes → Bytes}

/-- The callbacks' state, and the `avahi_entry_group_new` call in progress, if any: the group it
creates and the daemon's answers for the rest of that `create_services`. -/
structure Nest where
  st : St
  creating : Option (Nat × Replies)

/-- A notification, or the return of `avahi_entry_group_new`. -/
inductive NEvent
  | client (state : ClientState) (r : Replies)
  | group (g : Nat) (state : EntryGroupState) (r : Replies)
  | groupNewReturns

/-- `create_services` calls `avahi_entry_group_new`: `client_callback` on `S_RUNNING` with no
group, the daemon creating one. -/
def StartsGroup (s : St) (state : ClientState) (r : Replies) : Prop :=
  state = .sRunning ∧ s.group = none ∧ r.groupNew = true

instance (s : St) (state : ClientState) (r : Replies) : Decidable (StartsGroup s state r) :=
  inferInstanceAs (Decidable (_ ∧ _ ∧ _))

/-- One step.  A client notification comes only between callbacks; one that reaches
`avahi_entry_group_new` stops there, the daemon holding the new group.  An entry-group
notification, for a group created, runs `entry_group_callback` wherever it comes. -/
def nstep (alt : Bytes → Bytes) (n : Nest) : NEvent → Option (Nest × List Obs)
  | .client state r =>
    if n.creating.isNone then
      if StartsGroup n.st state r then
        some (⟨{ n.st with nextGroup := n.st.nextGroup + 1, entries := [] },
          some (n.st.nextGroup, r)⟩, [.client state])
      else (step alt n.st (.client state r)).map fun p => (⟨p.1, none⟩, p.2)
    else none
  | .group g state r =>
    if g < n.st.nextGroup then
      (step alt n.st (.group g state r)).map fun p => (⟨p.1, n.creating⟩, p.2)
    else none
  | .groupNewReturns =>
    match n.creating with
    | some (g, r) =>
      (fillGroup alt r { n.st with group := some g } [.groupNew true]).map fun p => (⟨p.1, none⟩, p.2)
    | none => none

/-- A sequence of steps, and everything they did. -/
def nrun (alt : Bytes → Bytes) : Nest → List NEvent → Option (Nest × List Obs)
  | n, [] => some (n, [])
  | n, e :: es => (nstep alt n e).bind fun p => (nrun alt p.1 es).map fun q => (q.1, p.2 ++ q.2)

theorem nrun_cons_eq {n n' : Nest} {e : NEvent} {es : List NEvent} {obs : List Obs}
    (h : nrun alt n (e :: es) = some (n', obs)) :
    ∃ n₁ o₁ o₂, nstep alt n e = some (n₁, o₁) ∧ nrun alt n₁ es = some (n', o₂) ∧ obs = o₁ ++ o₂ := by
  obtain ⟨⟨n₁, o₁⟩, h₁, h⟩ := Option.bind_eq_some.mp h
  obtain ⟨⟨n₂, o₂⟩, h₂, h⟩ := Option.map_eq_some'.mp h
  obtain ⟨rfl, rfl⟩ := Prod.mk.inj h
  exact ⟨n₁, o₁, o₂, h₁, h₂, rfl⟩

/-! ### The atomic callbacks are runs of this model -/

/-- The steps of an atomic callback: `avahi_entry_group_new`, when called, returns at once. -/
def lift (s : St) : Event → List NEvent
  | .client state r =>
    if StartsGroup s state r then [.client state r, .groupNewReturns] else [.client state r]
  | .group g state r => [.group g state r]

/-- The daemon delivers the notification: an entry-group one is for a group it created. -/
def Event.Delivered (s : St) : Event → Prop
  | .client _ _ => True
  | .group g _ _ => g < s.nextGroup

/-- **The atomic model refines this one.**  Every callback of `Avahi.step` that the daemon can
deliver is a run of `nstep` from the same state, with the same result and the same calls. -/
theorem nstep_lift {s : St} {e : Event} (he : e.Delivered s) :
    nrun alt ⟨s, none⟩ (lift s e) = (step alt s e).map fun p => (⟨p.1, none⟩, p.2) := by
  cases e with
  | client state r =>
    by_cases hs : StartsGroup s state r
    · obtain ⟨rfl, hg, hn⟩ := hs
      simp [lift, StartsGroup, nrun, nstep, hg, hn, step, clientCallback, createServices,
        Function.comp_def]
    · cases h : step alt s (.client state r) <;> simp [lift, hs, nrun, nstep, h]
  | group g state r =>
    cases h : step alt s (.group g state r) <;>
      simp [lift, nrun, nstep, show g < s.nextGroup from he, h]

/-! ### What a callback does to `group` -/

/-- Filling the group keeps the global `group` and the groups created. -/
theorem fillGroup_groups {r : Replies} {s s' : St} {obs0 obs : List Obs}
    (h : fillGroup alt r s obs0 = some (s', obs)) :
    s'.group = s.group ∧ s'.nextGroup = s.nextGroup := by
  rcases fillGroup_cases h with ⟨rfl, -⟩ | ⟨l, -, ⟨-, rfl, -⟩ | ⟨-, -, rfl, -⟩ | ⟨-, -, rfl, -⟩⟩ <;>
    exact ⟨rfl, rfl⟩

/-- `create_services` with a group, or with `avahi_entry_group_new` failing, creates none. -/
theorem createServices_groups {r : Replies} {s s' : St} {obs : List Obs}
    (h : createServices alt r s = some (s', obs)) (hs : s.group.isSome ∨ r.groupNew = false) :
    s'.group = s.group ∧ s'.nextGroup = s.nextGroup := by
  unfold createServices at h
  split at h
  · rcases hs with hs | hs
    · simp_all
    · simp only [hs, Bool.false_eq_true, if_false, Option.some.injEq, Prod.mk.injEq] at h
      obtain ⟨rfl, -⟩ := h
      exact ⟨rfl, rfl⟩
  · obtain ⟨hg, hn⟩ := fillGroup_groups h
    exact ⟨hg, hn⟩

/-- An entry-group callback for `g` that returns sets `group` to `g` and creates no group. -/
theorem step_group_groups {s s' : St} {g : Nat} {state : EntryGroupState} {r : Replies}
    {obs : List Obs} (h : step alt s (.group g state r) = some (s', obs)) :
    s'.group = some g ∧ s'.nextGroup = s.nextGroup := by
  obtain ⟨⟨s₁, o⟩, hc, hp⟩ := Option.map_eq_some'.mp h
  obtain ⟨rfl, -⟩ := Prod.mk.inj hp
  simp only [entryGroupCallback] at hc
  split_ifs at hc
  cases state with
  | collision => exact createServices_groups hc (.inl rfl)
  | failure => obtain ⟨rfl, -⟩ := Prod.mk.inj (Option.some.inj hc); exact ⟨rfl, rfl⟩
  | _ => obtain ⟨rfl, -⟩ := Prod.mk.inj (Option.some.inj hc); exact ⟨rfl, rfl⟩

/-- A client callback that does not call `avahi_entry_group_new` keeps `group`. -/
theorem step_client_groups {s s' : St} {state : ClientState} {r : Replies} {obs : List Obs}
    (h : step alt s (.client state r) = some (s', obs)) (hs : ¬ StartsGroup s state r) :
    s'.group = s.group ∧ s'.nextGroup = s.nextGroup := by
  obtain ⟨⟨s₁, o⟩, hc, hp⟩ := Option.map_eq_some'.mp h
  obtain ⟨rfl, -⟩ := Prod.mk.inj hp
  cases state with
  | sRunning =>
    refine createServices_groups hc ?_
    cases hg : s.group <;> cases hn : r.groupNew <;> simp_all [StartsGroup]
  | _ =>
    simp only [clientCallback] at hc
    try split_ifs at hc
    all_goals obtain ⟨rfl, -⟩ := Prod.mk.inj (Option.some.inj hc); exact ⟨rfl, rfl⟩

/-! ### The assertion -/

/-- At most one group is ever created; `group` is `NULL` or that group; only the call that
creates it is in progress; and between callbacks, once it exists, `group` holds it. -/
structure GroupInv (n : Nest) : Prop where
  created : n.st.nextGroup ≤ 1
  held : ∀ g, n.st.group = some g → g + 1 = n.st.nextGroup
  creating : ∀ g r, n.creating = some (g, r) → g + 1 = n.st.nextGroup
  settled : n.creating = none → 0 < n.st.nextGroup → n.st.group.isSome

theorem GroupInv.initial (ctx : Batch) : GroupInv ⟨initial ctx, none⟩ :=
  ⟨Nat.zero_le 1, nofun, nofun, fun _ h => absurd h (Nat.lt_irrefl 0)⟩

/-- The assertion `g == group || group == NULL`, for every group created. -/
theorem GroupInv.assert {n : Nest} (hi : GroupInv n) {g : Nat} (hg : g < n.st.nextGroup) :
    n.st.group = some g ∨ n.st.group = none := by
  cases h : n.st.group with
  | none => exact .inr rfl
  | some g' =>
    have := hi.held g' h
    have := hi.created
    exact .inl (by congr; omega)

/-- **Every step keeps the invariant.** -/
theorem nstep_inv {n n' : Nest} {e : NEvent} {obs : List Obs} (h : nstep alt n e = some (n', obs))
    (hi : GroupInv n) : GroupInv n' := by
  cases e with
  | client state r =>
    simp only [nstep] at h
    split_ifs at h with hc hs
    · obtain ⟨rfl, -⟩ := Prod.mk.inj (Option.some.inj h)
      -- no group yet, so none was created
      have h0 : n.st.nextGroup = 0 := Nat.eq_zero_of_not_pos fun hp => by
        simpa [hs.2.1] using hi.settled (Option.isNone_iff_eq_none.mp hc) hp
      exact ⟨by simp [h0], fun g hg => by simp [hs.2.1] at hg, fun g r' hg => by cases hg; rfl, nofun⟩
    · obtain ⟨⟨s', o⟩, hst, hp⟩ := Option.map_eq_some'.mp h
      obtain ⟨rfl, -⟩ := Prod.mk.inj hp
      obtain ⟨hg, hn⟩ := step_client_groups hst hs
      have hcr : n.creating = none := Option.isNone_iff_eq_none.mp hc
      exact ⟨hn ▸ hi.created, fun g h => hn ▸ hi.held g (hg ▸ h), nofun,
        fun _ h => hg ▸ hi.settled hcr (hn ▸ h)⟩
  | group g state r =>
    simp only [nstep] at h
    split_ifs at h with hlt
    obtain ⟨⟨s', o⟩, hst, hp⟩ := Option.map_eq_some'.mp h
    obtain ⟨rfl, -⟩ := Prod.mk.inj hp
    obtain ⟨hg, hn⟩ := step_group_groups hst
    have := hi.created
    refine ⟨hn ▸ hi.created, fun g' h => ?_,
      fun g' r' h => hn ▸ hi.creating g' r' h, fun _ _ => by simp [hg]⟩
    dsimp only at h ⊢
    rw [hg] at h
    cases h
    omega
  | groupNewReturns =>
    simp only [nstep] at h
    split at h
    · next g r hcr =>
      obtain ⟨⟨s', o⟩, hf, hp⟩ := Option.map_eq_some'.mp h
      obtain ⟨rfl, -⟩ := Prod.mk.inj hp
      obtain ⟨hg, hn⟩ := fillGroup_groups hf
      exact ⟨hn ▸ hi.created, fun g' h => by rw [hg] at h; cases h; exact hn ▸ hi.creating g r hcr,
        nofun, fun _ _ => by simp [hg]⟩
    · cases h

theorem nrun_inv :
    ∀ {n n' : Nest} {evs : List NEvent} {obs : List Obs}, nrun alt n evs = some (n', obs) →
      GroupInv n → GroupInv n'
  | _, _, [], _, h, hi => by obtain ⟨rfl, -⟩ := Prod.mk.inj (Option.some.inj h); exact hi
  | _, _, _ :: _, _, h, hi => by
    obtain ⟨n₁, o₁, o₂, h₁, h₂, -⟩ := nrun_cons_eq h
    exact nrun_inv h₂ (nstep_inv h₁ hi)

/-- **The assertion of `entry_group_callback` never fails.**  In every run of the callbacks
from the batch `dns_sd_announce` builds, whatever the order of client and entry-group
notifications, with entry-group notifications delivered, also inside `avahi_entry_group_new`,
only for groups it created: at every point, for every group created,
`g == group || group == NULL` holds. -/
theorem entry_group_assert_holds (alt : Bytes → Bytes) (ctx : Batch) :
    ∀ evs n obs, nrun alt ⟨initial ctx, none⟩ evs = some (n, obs) →
      ∀ g < n.st.nextGroup, n.st.group = some g ∨ n.st.group = none :=
  fun _ _ _ h _ hg => (nrun_inv h (GroupInv.initial ctx)).assert hg

/-- One slot on port 1 named `A`; the server runs, and `avahi_entry_group_new` delivers
`UNCOMMITED` for the group it creates before it returns. -/
theorem entry_group_assert_holds_inside_group_new :
    ∃ n obs, nrun (· ++ [50]) ⟨initial [⟨1, -1, some [65]⟩], none⟩
        [.client .sRunning ⟨true, [0], 0, 0⟩, .group 0 .uncommited ⟨false, [], 0, 0⟩,
          .groupNewReturns] = some (n, obs) ∧
      0 < n.st.nextGroup ∧ (n.st.group = some 0 ∨ n.st.group = none) :=
  ⟨_, _, rfl, by decide, entry_group_assert_holds (· ++ [50]) [⟨1, -1, some [65]⟩]
    [.client .sRunning ⟨true, [0], 0, 0⟩, .group 0 .uncommited ⟨false, [], 0, 0⟩, .groupNewReturns]
    _ _ rfl 0 (by decide)⟩

/-! ### Commits and the group's entries under re-entry -/

/-- Every step commits only the batch's entries and keeps the group holding a prefix of the
batch's requests.  On its return `avahi_entry_group_new` fills the group only if no callback in
between filled it. -/
theorem nstep_current {n n' : Nest} {e : NEvent} {obs : List Obs}
    (h : nstep alt n e = some (n', obs)) (hs : n.st.entries <+: slotEntries 0 n.st.ctx) :
    n'.st.entries <+: slotEntries 0 n'.st.ctx ∧ CommitsMatch obs := by
  cases e with
  | client state r =>
    simp only [nstep] at h
    split_ifs at h
    · obtain ⟨rfl, rfl⟩ := Prod.mk.inj (Option.some.inj h)
      exact ⟨List.nil_prefix, CommitsMatch.of_forall (by simp)⟩
    · obtain ⟨⟨s', o⟩, hst, hp⟩ := Option.map_eq_some'.mp h
      obtain ⟨rfl, rfl⟩ := Prod.mk.inj hp
      exact ⟨step_entries_current hst hs, step_commitsMatch hst⟩
  | group g state r =>
    simp only [nstep] at h
    split_ifs at h
    obtain ⟨⟨s', o⟩, hst, hp⟩ := Option.map_eq_some'.mp h
    obtain ⟨rfl, rfl⟩ := Prod.mk.inj hp
    exact ⟨step_entries_current hst hs, step_commitsMatch hst⟩
  | groupNewReturns =>
    simp only [nstep] at h
    split at h
    · obtain ⟨⟨s', o⟩, hf, hp⟩ := Option.map_eq_some'.mp h
      obtain ⟨rfl, rfl⟩ := Prod.mk.inj hp
      have h0 : CommitsMatch [.groupNew true] := CommitsMatch.of_forall (by simp)
      by_cases he : n.st.entries = []
      · exact ⟨fillGroup_entries_current hf he, fillGroup_commitsMatch hf h0 he⟩
      · simp only [fillGroup, he, if_false, Option.some.injEq, Prod.mk.injEq] at hf
        obtain ⟨rfl, rfl⟩ := hf
        exact ⟨hs, h0⟩
    · cases h

/-- **Re-entry keeps the commits and the group current.**  Along every run of this model, with
`avahi_entry_group_new` delivering any notifications for the group it creates before it returns,
from every state whose group holds a prefix of the batch's requests: every
`avahi_entry_group_commit` commits one entry per active slot, in slot order, under the slot's
name at that moment, and the group keeps holding only such entries. -/
theorem nrun_commits_match_slots :
    ∀ {n : Nest} {evs : List NEvent} {n' : Nest} {obs : List Obs}, nrun alt n evs = some (n', obs) →
      n.st.entries <+: slotEntries 0 n.st.ctx →
      n'.st.entries <+: slotEntries 0 n'.st.ctx ∧
        ∀ es ctx res, Obs.commit es ctx res ∈ obs → es = slotEntries 0 ctx
  | _, [], _, _, h, hs => by
    obtain ⟨rfl, rfl⟩ := Prod.mk.inj (Option.some.inj h)
    exact ⟨hs, nofun⟩
  | _, _ :: _, _, _, h, hs => by
    obtain ⟨n₁, o₁, o₂, h₁, h₂, rfl⟩ := nrun_cons_eq h
    obtain ⟨hs₁, hc₁⟩ := nstep_current h₁ hs
    obtain ⟨hs', hc₂⟩ := nrun_commits_match_slots h₂ hs₁
    exact ⟨hs', hc₁.append hc₂⟩

/-- One slot on port 1 named `A`: inside `avahi_entry_group_new` the new group collides, so the
callback renames the slot, resets the group, adds it and commits; on its return the group is
not empty and nothing more is added. -/
theorem collision_inside_group_new_commits_batch :
    ∃ n obs, nrun (· ++ [50]) ⟨initial [⟨1, -1, some [65]⟩], none⟩
        [.client .sRunning ⟨true, [0], 0, 0⟩, .group 0 .collision ⟨false, [0], 0, 0⟩,
          .groupNewReturns] = some (n, obs) ∧
      (initial [⟨1, -1, some [65]⟩]).entries <+: slotEntries 0 (initial [⟨1, -1, some [65]⟩]).ctx ∧
      n.st.entries <+: slotEntries 0 n.st.ctx ∧
        ∀ es ctx res, Obs.commit es ctx res ∈ obs → es = slotEntries 0 ctx :=
  ⟨_, _, rfl, List.nil_prefix, @nrun_commits_match_slots (· ++ [50])
    ⟨initial [⟨1, -1, some [65]⟩], none⟩ [.client .sRunning ⟨true, [0], 0, 0⟩,
      .group 0 .collision ⟨false, [0], 0, 0⟩, .groupNewReturns] _ _ rfl List.nil_prefix⟩

end DnsSd.Avahi
