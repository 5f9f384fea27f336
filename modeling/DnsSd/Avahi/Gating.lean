import DnsSd.Avahi.Rounds

/-!
# Avahi — Gating

When `create_services` runs.  `client_callback` runs it on `AVAHI_CLIENT_S_RUNNING`, and resets
the group on `S_REGISTERING` and `S_COLLISION` to wait for the host name.  But
`entry_group_callback` runs it on every group `COLLISION`, whatever the client state.

* `step_adds_only_on_running_or_collision`: a callback adds or commits only when it handles
  `S_RUNNING` or a group `COLLISION`.
* `stale_collision_commits_while_registering`: a group `COLLISION` that arrives after
  `S_REGISTERING` renames the services and commits them while the host name is still being
  registered.
-/

namespace DnsSd.Avahi

open DnsSdService

variable {alt : Bytes → Bytes}

/-- An `avahi_entry_group_add_service` or an `avahi_entry_group_commit`. -/
def Obs.IsAddOrCommit : Obs → Prop
  | .addService _ _ | .commit _ _ _ => True
  | _ => False

/-- The most recent client-state notification among `obs`. -/
def lastClientState (obs : List Obs) : Option ClientState :=
  obs.foldl (fun acc o => match o with | .client st => some st | _ => acc) none

/-- The gate the client callback keeps: every add and every commit comes after a client
notification, and the most recent one is `S_RUNNING`. -/
def GatedByRunning (obs : List Obs) : Prop :=
  ∀ pre o post, obs = pre ++ o :: post → o.IsAddOrCommit → lastClientState pre = some .sRunning

/-- A callback adds or commits only while it handles `S_RUNNING` or a group `COLLISION`. -/
theorem step_adds_only_on_running_or_collision {s s' : St} {e : Event} {o : Obs}
    {rest : List Obs} (h : step alt s e = some (s', o :: rest)) (hm : ∃ x ∈ rest, x.IsAddOrCommit) :
    o = .client .sRunning ∨ o = .group .collision := by
  obtain ⟨x, hx, hxa⟩ := hm
  have hno : ∀ l : List Obs, l = [] ∨ l = [.groupReset] ∨ l = [.term] → x ∈ l → False := by
    rintro l (rfl | rfl | rfl) hx <;> simp at hx <;> subst hx <;> exact hxa
  cases e with
  | client state r =>
    simp only [step, Option.map_eq_some'] at h
    obtain ⟨⟨s₁, rest'⟩, hc, hp⟩ := h
    obtain ⟨-, hl⟩ := Prod.mk.inj hp
    obtain ⟨rfl, rfl⟩ := List.cons.inj hl
    cases state with
    | sRunning => exact .inl rfl
    | failure | connecting =>
      obtain ⟨-, rfl⟩ := Prod.mk.inj (Option.some.inj hc)
      exact (hno _ (by simp) hx).elim
    | sRegistering | sCollision =>
      simp only [clientCallback] at hc
      split_ifs at hc <;> obtain ⟨-, rfl⟩ := Prod.mk.inj (Option.some.inj hc) <;>
        exact (hno _ (by simp) hx).elim
  | group g state r =>
    simp only [step, Option.map_eq_some'] at h
    obtain ⟨⟨s₁, rest'⟩, hc, hp⟩ := h
    obtain ⟨-, hl⟩ := Prod.mk.inj hp
    obtain ⟨rfl, rfl⟩ := List.cons.inj hl
    simp only [entryGroupCallback] at hc
    split_ifs at hc
    cases state with
    | collision => exact .inr rfl
    | _ =>
      obtain ⟨-, rfl⟩ := Prod.mk.inj (Option.some.inj hc)
      exact (hno _ (by simp) hx).elim

/-- One slot on port 1 named `A`, `S_RUNNING`: the callback makes the group, adds the slot and
commits it. -/
theorem running_callback_adds_and_commits :
    ∃ s', step (· ++ [50]) (initial [⟨1, -1, some [65]⟩]) (.client .sRunning ⟨true, [0], 0, 0⟩) =
        some (s', [.client .sRunning, .groupNew true, .addService (request 0 ⟨1, -1, some [65]⟩) 0,
          .commit [request 0 ⟨1, -1, some [65]⟩] [⟨1, -1, some [65]⟩] 0]) ∧
      (∃ x ∈ [Obs.groupNew true, .addService (request 0 ⟨1, -1, some [65]⟩) 0,
        .commit [request 0 ⟨1, -1, some [65]⟩] [⟨1, -1, some [65]⟩] 0], x.IsAddOrCommit) ∧
      (Obs.client .sRunning = .client .sRunning ∨ Obs.client .sRunning = .group .collision) :=
  have hm : ∃ x ∈ [Obs.groupNew true, .addService (request 0 ⟨1, -1, some [65]⟩) 0,
      .commit [request 0 ⟨1, -1, some [65]⟩] [⟨1, -1, some [65]⟩] 0], x.IsAddOrCommit :=
    ⟨_, List.mem_cons_of_mem _ (List.mem_cons_self _ _), trivial⟩
  ⟨_, rfl, hm, @step_adds_only_on_running_or_collision (· ++ [50]) (initial [⟨1, -1, some [65]⟩])
    _ (.client .sRunning ⟨true, [0], 0, 0⟩) _ _ rfl hm⟩

/-- One AGWPE slot: the server runs and the services are committed; the host name changes
(`S_REGISTERING`, the group is reset); then a group `COLLISION` for the earlier commit
arrives.  The callback renames the slot and commits it again, although the last client
notification was `S_REGISTERING`. -/
theorem stale_collision_commits_while_registering :
    run (· ++ [50]) (initial [⟨1, -1, some [65]⟩])
        [.client .sRunning ⟨true, [0], 0, 0⟩, .client .sRegistering ⟨true, [0], 0, 0⟩,
          .group 0 .collision ⟨true, [0], 0, 0⟩] =
      some (⟨some 0, 1, [request 0 ⟨1, -1, some [65, 50]⟩], [⟨1, -1, some [65, 50]⟩], false⟩,
        [.client .sRunning, .groupNew true, .addService (request 0 ⟨1, -1, some [65]⟩) 0,
          .commit [request 0 ⟨1, -1, some [65]⟩] [⟨1, -1, some [65]⟩] 0,
          .client .sRegistering, .groupReset, .group .collision, .groupReset,
          .addService (request 0 ⟨1, -1, some [65, 50]⟩) 0,
          .commit [request 0 ⟨1, -1, some [65, 50]⟩] [⟨1, -1, some [65, 50]⟩] 0]) ∧
    ¬ GatedByRunning
        [.client .sRunning, .groupNew true, .addService (request 0 ⟨1, -1, some [65]⟩) 0,
          .commit [request 0 ⟨1, -1, some [65]⟩] [⟨1, -1, some [65]⟩] 0,
          .client .sRegistering, .groupReset, .group .collision, .groupReset,
          .addService (request 0 ⟨1, -1, some [65, 50]⟩) 0,
          .commit [request 0 ⟨1, -1, some [65, 50]⟩] [⟨1, -1, some [65, 50]⟩] 0] :=
  ⟨rfl, fun h => absurd (h [.client .sRunning, .groupNew true,
    .addService (request 0 ⟨1, -1, some [65]⟩) 0,
    .commit [request 0 ⟨1, -1, some [65]⟩] [⟨1, -1, some [65]⟩] 0,
    .client .sRegistering, .groupReset, .group .collision, .groupReset,
    .addService (request 0 ⟨1, -1, some [65, 50]⟩) 0]
    (.commit [request 0 ⟨1, -1, some [65, 50]⟩] [⟨1, -1, some [65, 50]⟩] 0) [] rfl trivial)
    (by decide)⟩

end DnsSd.Avahi
