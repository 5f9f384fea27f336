import DnsSd.Avahi.Loop

/-!
# Avahi — Rounds

A round is one run of `create_services`: new or reset group, the slot loop, the commit.

* `run_commits_match_slots`: along every run, from every state, each
  `avahi_entry_group_commit` commits one entry per active slot, in slot order, under the names
  the slots have at that moment.
* `step_fatal_then_term`: in every callback, every fatal condition is followed by
  `dns_sd_term` before the callback returns, and the quit flag is then set; after an add that
  failed comes `dns_sd_term` and nothing else.
-/

namespace DnsSd.Avahi

open DnsSdService

variable {alt : Bytes → Bytes}

/-- A notification or an answer that reports a fatal condition. -/
def Obs.Fatal : Obs → Prop
  | .client .failure | .group .failure | .groupNew false => True
  | .addService _ r => r ≠ avahiOk ∧ r ≠ avahiErrCollision
  | .commit _ _ r => r ≠ avahiOk
  | _ => False

/-- An add that failed with something other than a collision. -/
def Obs.FailedAdd : Obs → Prop
  | .addService _ r => r ≠ avahiOk ∧ r ≠ avahiErrCollision
  | _ => False

/-- Every commit among `obs` holds exactly the entries of the batch it records. -/
def CommitsMatch (obs : List Obs) : Prop :=
  ∀ es ctx res, Obs.commit es ctx res ∈ obs → es = slotEntries 0 ctx

/-- How a callback's calls end: with `dns_sd_term` and the quit flag set, an add that failed
standing only right before it; or with no fatal condition at all. -/
def Settled (s : St) (obs : List Obs) : Prop :=
  (s.quit = true ∧ ∃ ys, (∀ y ∈ ys, ¬ y.FailedAdd) ∧
    (obs = ys ++ [.term] ∨ ∃ f, f.FailedAdd ∧ obs = ys ++ [f, .term])) ∨
  ∀ o ∈ obs, ¬ o.Fatal

theorem Obs.FailedAdd.fatal {o : Obs} (h : o.FailedAdd) : o.Fatal := by
  cases o with
  | addService q r => exact h
  | _ => exact h.elim

theorem Obs.not_fatal_of_benign {o : Obs} (h : o.Benign) : ¬ o.Fatal := by
  cases o with
  | addService q r => rintro ⟨h₁, h₂⟩; exact h.elim h₁ h₂
  | _ => exact h.elim

@[simp] theorem dnsSdTerm_quit (s : St) : (dnsSdTerm s).quit = true := rfl
@[simp] theorem dnsSdTerm_ctx (s : St) : (dnsSdTerm s).ctx = s.ctx := rfl

theorem CommitsMatch.append {xs ys : List Obs} (hx : CommitsMatch xs) (hy : CommitsMatch ys) :
    CommitsMatch (xs ++ ys) := fun es ctx res h =>
  (List.mem_append.mp h).elim (hx es ctx res) (hy es ctx res)

theorem CommitsMatch.of_forall {xs : List Obs} (h : ∀ o ∈ xs, ∀ es ctx res, o ≠ .commit es ctx res) :
    CommitsMatch xs := fun es ctx res hm => absurd rfl (h _ hm es ctx res)

/-- A fatal-free prefix keeps a callback settled. -/
theorem Settled.cons {s : St} {o : Obs} {obs : List Obs} (ho : ¬ o.Fatal) (h : Settled s obs) :
    Settled s (o :: obs) := by
  rcases h with ⟨hq, ys, hys, hobs⟩ | h
  · refine .inl ⟨hq, o :: ys, ?_, ?_⟩
    · simp only [List.mem_cons, forall_eq_or_imp]
      exact ⟨fun hf => ho hf.fatal, hys⟩
    · rcases hobs with rfl | ⟨f, hf, rfl⟩
      · exact .inl rfl
      · exact .inr ⟨f, hf, rfl⟩
  · exact .inr (by simpa [ho] using h)

theorem Settled.append {s : St} {xs obs : List Obs} (hx : ∀ o ∈ xs, ¬ o.Fatal)
    (h : Settled s obs) : Settled s (xs ++ obs) := by
  induction xs with
  | nil => exact h
  | cons o xs ih =>
    simp only [List.mem_cons, forall_eq_or_imp] at hx
    exact (ih hx.2).cons hx.1

/-- In a list that ends with `t`, whatever stands before the end is followed by `t`. -/
theorem List.mem_post_of_eq_append_singleton {α : Type} {pre post ys : List α} {o t : α}
    (h : pre ++ o :: post = ys ++ [t]) : (post = [] ∧ o = t) ∨ t ∈ post := by
  rcases List.eq_nil_or_concat post with rfl | ⟨post, x, rfl⟩
  · exact .inl ⟨rfl, by simpa using (List.append_inj' h rfl).2⟩
  · have h' : (pre ++ o :: post) ++ [x] = ys ++ [t] := by simpa using h
    obtain ⟨-, hx⟩ := List.append_inj' h' rfl
    exact .inr (by simp [List.singleton_inj.mp hx])

/-- An element not in `ys` that stands in `ys ++ zs` stands in `zs`, with the same tail. -/
theorem List.cons_tail_of_not_mem {α : Type} {pre post ys zs : List α} {o : α}
    (h : pre ++ o :: post = ys ++ zs) (ho : o ∉ ys) : ∃ pre', zs = pre' ++ o :: post := by
  rcases List.append_eq_append_iff.mp h with ⟨a', rfl, hb⟩ | ⟨c', -, rfl⟩
  · cases a' with
    | nil => exact ⟨[], by simpa using hb.symm⟩
    | cons x a' =>
      obtain ⟨rfl, -⟩ := List.cons.inj hb
      exact absurd (by simp) ho
  · exact ⟨c', rfl⟩

/-! ### `create_services` -/

/-- What `create_services` does once the group is ready: nothing if the group holds entries;
otherwise the slot loop, then `dns_sd_term` or the commit. -/
theorem fillGroup_cases {r : Replies} {s s' : St} {obs0 obs : List Obs}
    (h : fillGroup alt r s obs0 = some (s', obs)) :
    (s' = s ∧ obs = obs0) ∨
    ∃ l, addServices alt 0 s.ctx none s.entries r.adds = some l ∧
      ((l.result.getD r.garbage ≠ avahiOk ∧
          s' = dnsSdTerm { s with ctx := l.slots, entries := l.entries } ∧
          obs = obs0 ++ l.obs ++ [.term]) ∨
        (l.result.getD r.garbage = avahiOk ∧ r.commit ≠ avahiOk ∧
          s' = dnsSdTerm { s with ctx := l.slots, entries := l.entries } ∧
          obs = obs0 ++ l.obs ++ [.commit l.entries l.slots r.commit, .term]) ∨
        (l.result.getD r.garbage = avahiOk ∧ r.commit = avahiOk ∧
          s' = { s with ctx := l.slots, entries := l.entries } ∧
          obs = obs0 ++ l.obs ++ [.commit l.entries l.slots r.commit])) := by
  unfold fillGroup at h
  by_cases he : s.entries = []
  · rw [if_pos he] at h
    obtain ⟨l, hl, h⟩ := Option.map_eq_some'.mp h
    refine .inr ⟨l, hl, ?_⟩
    simp only at h
    split_ifs at h with h₁ h₂ <;> obtain ⟨rfl, rfl⟩ := Prod.mk.inj h
    · exact .inl ⟨h₁, rfl, rfl⟩
    · exact .inr (.inl ⟨not_not.mp h₁, h₂, rfl, by simp⟩)
    · exact .inr (.inr ⟨not_not.mp h₁, not_not.mp h₂, rfl, rfl⟩)
  · rw [if_neg he] at h
    obtain ⟨rfl, rfl⟩ := Prod.mk.inj (Option.some.inj h)
    exact .inl ⟨rfl, rfl⟩

/-- `create_services` starts from a new group or a reset one, or gives up. -/
theorem createServices_cases {r : Replies} {s s' : St} {obs : List Obs}
    (h : createServices alt r s = some (s', obs)) :
    (s' = dnsSdTerm s ∧ obs = [.groupNew false, .term]) ∨
    ∃ s₀ o, s₀.ctx = s.ctx ∧ s₀.entries = [] ∧ (o = .groupNew true ∨ o = .groupReset) ∧
      fillGroup alt r s₀ [o] = some (s', obs) := by
  unfold createServices at h
  split at h
  · split_ifs at h
    · exact .inr ⟨{ s with group := some s.nextGroup, nextGroup := s.nextGroup + 1, entries := [] },
        _, rfl, rfl, .inl rfl, h⟩
    · obtain ⟨rfl, rfl⟩ := Prod.mk.inj (Option.some.inj h)
      exact .inl ⟨rfl, rfl⟩
  · exact .inr ⟨{ s with entries := [] }, _, rfl, rfl, .inr rfl, h⟩

theorem fillGroup_commitsMatch {r : Replies} {s s' : St} {obs0 obs : List Obs}
    (h : fillGroup alt r s obs0 = some (s', obs)) (h0 : CommitsMatch obs0) (he : s.entries = []) :
    CommitsMatch obs := by
  rcases fillGroup_cases h with ⟨-, rfl⟩ | ⟨l, hl, hcase⟩
  · exact h0
  have hobs := addServices_obs hl (by simp)
  have hno : CommitsMatch l.obs := by
    obtain ⟨pre, hpre, hpost⟩ := hobs
    refine CommitsMatch.of_forall fun o ho es ctx res hc => ?_
    rcases hpost with ⟨hpost, -⟩ | ⟨q, r, hpost, -⟩ <;> rw [hpost] at ho
    · exact absurd (hpre o ho) (by simp [hc, Obs.Benign])
    · rcases List.mem_append.mp ho with ho | ho
      · exact absurd (hpre o ho) (by simp [hc, Obs.Benign])
      · simp [hc] at ho
  have hentries (hok : l.result.getD r.garbage = avahiOk) : l.entries = slotEntries 0 l.slots := by
    have := addServices_entries hl fun x hx => by simpa [hx] using hok
    simpa [he] using this
  rcases hcase with ⟨-, -, rfl⟩ | ⟨hok, -, -, rfl⟩ | ⟨hok, -, -, rfl⟩
  · exact (h0.append hno).append (CommitsMatch.of_forall (by simp))
  all_goals
    refine (h0.append hno).append fun es ctx res hm => ?_
    simp at hm
    obtain ⟨rfl, rfl, -⟩ := hm
    exact hentries hok

/-- The calls of a round are settled: the loop's failed add, if any, ends it with
`dns_sd_term`, and a failed commit is followed by `dns_sd_term`. -/
theorem fillGroup_settled {r : Replies} {s s' : St} {obs0 obs : List Obs}
    (h : fillGroup alt r s obs0 = some (s', obs)) (h0 : ∀ o ∈ obs0, ¬ o.Fatal) :
    Settled s' obs := by
  have hnf : ∀ o ∈ obs0, ¬ o.FailedAdd := fun o ho hf => h0 o ho hf.fatal
  rcases fillGroup_cases h with ⟨-, rfl⟩ | ⟨l, hl, hcase⟩
  · exact .inr h0
  obtain ⟨pre, hpre, hpost⟩ := addServices_obs hl (by simp)
  have hpre' : ∀ o ∈ pre, ¬ o.FailedAdd := fun o ho hf =>
    Obs.not_fatal_of_benign (hpre o ho) hf.fatal
  have hpre'' : ∀ o ∈ obs0 ++ pre, ¬ o.FailedAdd := by
    simpa [or_imp, forall_and] using And.intro hnf hpre'
  rcases hcase with ⟨hres, rfl, rfl⟩ | ⟨hres, -, rfl, rfl⟩ | ⟨hres, hc, rfl, rfl⟩
  · refine .inl ⟨rfl, obs0 ++ pre, hpre'', ?_⟩
    rcases hpost with ⟨hpost, -⟩ | ⟨q, r, hpost, -, hr, hc⟩ <;> rw [hpost]
    · exact .inl (by simp)
    · exact .inr ⟨.addService q r, ⟨hr, hc⟩, by simp⟩
  all_goals
    rcases hpost with ⟨hpost, -⟩ | ⟨q, r', -, hres', hr, -⟩
    swap
    · simp [hres'] at hres; exact absurd hres hr
    rw [hpost]
  · refine .inl ⟨rfl, obs0 ++ pre ++ [.commit l.entries l.slots r.commit], ?_, .inl (by simp)⟩
    simpa [or_imp, forall_and, Obs.FailedAdd] using hpre''
  · refine .inr fun o ho => ?_
    simp only [List.mem_append, List.mem_singleton] at ho
    rcases ho with (ho | ho) | rfl
    · exact h0 o ho
    · exact Obs.not_fatal_of_benign (hpre o ho)
    · simp [Obs.Fatal, hc]

theorem createServices_commitsMatch {r : Replies} {s s' : St} {obs : List Obs}
    (h : createServices alt r s = some (s', obs)) : CommitsMatch obs := by
  rcases createServices_cases h with ⟨-, rfl⟩ | ⟨s₀, o, -, he, ho, hf⟩
  · exact CommitsMatch.of_forall (by simp)
  · exact fillGroup_commitsMatch hf (CommitsMatch.of_forall (by rcases ho with rfl | rfl <;> simp)) he

theorem createServices_settled {r : Replies} {s s' : St} {obs : List Obs}
    (h : createServices alt r s = some (s', obs)) : Settled s' obs := by
  rcases createServices_cases h with ⟨rfl, rfl⟩ | ⟨s₀, o, -, -, ho, hf⟩
  · exact .inl ⟨rfl, [.groupNew false], by simp [Obs.FailedAdd], .inl rfl⟩
  · exact fillGroup_settled hf (by rcases ho with rfl | rfl <;> simp [Obs.Fatal])

/-! ### Callbacks and runs -/

/-- The callbacks, by what they do: `create_services` (after `rename_all_services` on a group
collision), `dns_sd_term`, or a reset at most.  Each starts by recording its notification. -/
theorem step_cases {s s' : St} {e : Event} {obs : List Obs} (h : step alt s e = some (s', obs)) :
    ∃ o rest, obs = o :: rest ∧ (∀ es ctx res, o ≠ .commit es ctx res) ∧ ¬ o.FailedAdd ∧
      ((∃ r s₀, (s₀.ctx = s.ctx ∨ s₀.ctx = renameAllServices alt s.ctx) ∧
          createServices alt r s₀ = some (s', rest) ∧ ¬ o.Fatal) ∨
        (s'.quit = true ∧ s'.ctx = s.ctx ∧ rest = [.term]) ∨
        ((rest = [] ∨ rest = [.groupReset]) ∧ s'.ctx = s.ctx ∧ ¬ o.Fatal)) := by
  cases e with
  | client state r =>
    simp only [step, Option.map_eq_some'] at h
    obtain ⟨⟨s₁, rest⟩, hc, hp⟩ := h
    obtain ⟨rfl, rfl⟩ := Prod.mk.inj hp
    refine ⟨_, rest, rfl, by simp, by simp [Obs.FailedAdd], ?_⟩
    cases state with
    | sRunning => exact .inl ⟨r, s, .inl rfl, hc, by simp [Obs.Fatal]⟩
    | failure =>
      obtain ⟨rfl, rfl⟩ := Prod.mk.inj (Option.some.inj hc)
      exact .inr (.inl ⟨rfl, rfl, rfl⟩)
    | connecting =>
      obtain ⟨rfl, rfl⟩ := Prod.mk.inj (Option.some.inj hc)
      simp [Obs.Fatal]
    | _ =>
      simp only [clientCallback] at hc
      split_ifs at hc <;> obtain ⟨rfl, rfl⟩ := Prod.mk.inj (Option.some.inj hc) <;>
        simp [Obs.Fatal]
  | group g state r =>
    simp only [step, Option.map_eq_some'] at h
    obtain ⟨⟨s₁, rest⟩, hc, hp⟩ := h
    obtain ⟨rfl, rfl⟩ := Prod.mk.inj hp
    refine ⟨_, rest, rfl, by simp, by simp [Obs.FailedAdd], ?_⟩
    simp only [entryGroupCallback] at hc
    split_ifs at hc
    cases state with
    | collision => exact .inl ⟨r, _, .inr rfl, hc, by simp [Obs.Fatal]⟩
    | failure =>
      obtain ⟨rfl, rfl⟩ := Prod.mk.inj (Option.some.inj hc)
      exact .inr (.inl ⟨rfl, rfl, rfl⟩)
    | _ =>
      obtain ⟨rfl, rfl⟩ := Prod.mk.inj (Option.some.inj hc)
      simp [Obs.Fatal]

theorem step_commitsMatch {s s' : St} {e : Event} {obs : List Obs}
    (h : step alt s e = some (s', obs)) : CommitsMatch obs := by
  obtain ⟨o, rest, rfl, ho, -, hc⟩ := step_cases h
  have ho' : CommitsMatch [o] := CommitsMatch.of_forall (by simpa using ho)
  refine ho'.append ?_
  rcases hc with ⟨r, s₀, -, hc, -⟩ | ⟨-, -, rfl⟩ | ⟨rfl | rfl, -⟩
  · exact createServices_commitsMatch hc
  all_goals exact CommitsMatch.of_forall (by simp)

theorem step_settled {s s' : St} {e : Event} {obs : List Obs}
    (h : step alt s e = some (s', obs)) : Settled s' obs := by
  obtain ⟨o, rest, rfl, -, hf, hc⟩ := step_cases h
  rcases hc with ⟨r, s₀, -, hc, ho⟩ | ⟨hq, -, rfl⟩ | ⟨hr, -, ho⟩
  · exact (createServices_settled hc).cons ho
  · exact .inl ⟨hq, [o], by simpa using hf, .inl rfl⟩
  · refine .inr fun x hx => ?_
    rcases hr with rfl | rfl <;> simp only [List.mem_cons, List.mem_singleton,
      List.not_mem_nil, or_false] at hx <;> rcases hx with rfl | rfl <;> simp_all [Obs.Fatal]

theorem run_cons (s : St) (e : Event) (es : List Event) :
    run alt s (e :: es) = (step alt s e).bind fun p => (run alt p.1 es).map fun q => (q.1, p.2 ++ q.2) :=
  rfl

/-- A run, one callback after another. -/
theorem run_cons_eq {s s' : St} {e : Event} {es : List Event} {obs : List Obs}
    (h : run alt s (e :: es) = some (s', obs)) :
    ∃ s₁ o₁ o₂, step alt s e = some (s₁, o₁) ∧ run alt s₁ es = some (s', o₂) ∧ obs = o₁ ++ o₂ := by
  obtain ⟨⟨s₁, o₁⟩, h₁, h⟩ := Option.bind_eq_some.mp h
  obtain ⟨⟨s₂, o₂⟩, h₂, h⟩ := Option.map_eq_some'.mp h
  obtain ⟨rfl, rfl⟩ := Prod.mk.inj h
  exact ⟨s₁, o₁, o₂, h₁, h₂, rfl⟩

/-- **Every commit is the batch.**  Along every run of the callbacks, from every state and for
every sequence of notifications and daemon answers, each `avahi_entry_group_commit` commits one
entry per active slot, in slot order, each with the slot's name at the moment of the commit,
its port and its type.  No entry of an earlier round, or under a name since replaced, is in
it. -/
theorem run_commits_match_slots (alt : Bytes → Bytes) :
    ∀ (s : St) (evs : List Event) (s' : St) (obs : List Obs), run alt s evs = some (s', obs) →
      ∀ es ctx res, Obs.commit es ctx res ∈ obs → es = slotEntries 0 ctx
  | s, [], s', obs, h => by
    obtain ⟨-, rfl⟩ := Prod.mk.inj (Option.some.inj h)
    simp
  | s, e :: evs, s', obs, h => by
    obtain ⟨s₁, o₁, o₂, h₁, h₂, rfl⟩ := run_cons_eq h
    exact (step_commitsMatch h₁).append (run_commits_match_slots alt s₁ evs s' o₂ h₂)

/-- One AGWPE slot on port 1 named `A`, announced once the server runs; the daemon accepts. -/
theorem commits_match_slots_one_slot :
    run (· ++ [50]) (initial [⟨1, -1, some [65]⟩]) [.client .sRunning ⟨true, [0], 0, 0⟩] =
      some (⟨some 0, 1, [request 0 ⟨1, -1, some [65]⟩], [⟨1, -1, some [65]⟩], false⟩,
        [.client .sRunning, .groupNew true, .addService (request 0 ⟨1, -1, some [65]⟩) 0,
          .commit [request 0 ⟨1, -1, some [65]⟩] [⟨1, -1, some [65]⟩] 0]) ∧
    [request 0 ⟨1, -1, some [65]⟩] = slotEntries 0 [⟨1, -1, some [65]⟩] :=
  ⟨rfl, run_commits_match_slots (· ++ [50]) (initial [⟨1, -1, some [65]⟩])
    [.client .sRunning ⟨true, [0], 0, 0⟩]
    ⟨some 0, 1, [request 0 ⟨1, -1, some [65]⟩], [⟨1, -1, some [65]⟩], false⟩
    [.client .sRunning, .groupNew true, .addService (request 0 ⟨1, -1, some [65]⟩) 0,
      .commit [request 0 ⟨1, -1, some [65]⟩] [⟨1, -1, some [65]⟩] 0] rfl _ _ 0 (by simp)⟩

/-- **Fatal conditions end in `dns_sd_term`.**  In every callback, from every state: each
fatal condition it sees (a FAILURE notification, `avahi_entry_group_new` failing, an add
failing other than by a collision, a failed commit) is followed, before the callback returns,
by `dns_sd_term`, which sets the simple poll's quit flag.  After an add that failed the
callback calls `dns_sd_term` and nothing else: no later slot is added and the group is not
committed. -/
theorem step_fatal_then_term (alt : Bytes → Bytes) (s : St) (e : Event) (s' : St)
    (obs : List Obs) (h : step alt s e = some (s', obs)) :
    (∀ pre o post, obs = pre ++ o :: post → o.Fatal → Obs.term ∈ post ∧ s'.quit = true) ∧
      ∀ pre o post, obs = pre ++ o :: post → o.FailedAdd → post = [.term] := by
  have hterm : ¬ Obs.term.Fatal ∧ ¬ Obs.term.FailedAdd := ⟨id, id⟩
  rcases step_settled h with ⟨hq, ys, hys, hobs⟩ | hnf
  · have hend : ∃ zs, obs = zs ++ [.term] := by
      rcases hobs with rfl | ⟨f, -, rfl⟩
      exacts [⟨ys, rfl⟩, ⟨ys ++ [f], by simp⟩]
    refine ⟨fun pre o post he hf => ⟨?_, hq⟩, fun pre o post he hf => ?_⟩
    · obtain ⟨zs, rfl⟩ := hend
      rcases List.mem_post_of_eq_append_singleton he.symm with ⟨-, rfl⟩ | hm
      exacts [absurd hf hterm.1, hm]
    · rcases hobs with rfl | ⟨f, -, rfl⟩
      · have hm : o ∈ ys ++ [.term] := by rw [he]; simp
        rcases List.mem_append.mp hm with hm | hm
        · exact absurd hf (hys o hm)
        · rw [List.mem_singleton.mp hm] at hf; exact absurd hf hterm.2
      · obtain ⟨pre', hz⟩ := List.cons_tail_of_not_mem he.symm (fun hm => hys o hm hf)
        rcases pre' with _ | ⟨x, _ | ⟨y, pre'⟩⟩
        · exact (by simpa using hz.symm : o = f ∧ post = [.term]).2
        · simp only [List.singleton_append, List.cons.injEq] at hz
          exact absurd (hz.2.1 ▸ hf) hterm.2
        · simp at hz
  · refine ⟨fun pre o post he hf => absurd hf (hnf o (by simp [he])),
      fun pre o post he hf => absurd hf.fatal (hnf o (by simp [he]))⟩

/-- The same slot, when the daemon fails its add with `AVAHI_ERR_FAILURE`. -/
theorem failed_add_then_term :
    step (· ++ [50]) (initial [⟨1, -1, some [65]⟩]) (.client .sRunning ⟨true, [-1], 0, 0⟩) =
      some (⟨some 0, 1, [], [⟨1, -1, some [65]⟩], true⟩,
        [.client .sRunning, .groupNew true, .addService (request 0 ⟨1, -1, some [65]⟩) (-1), .term]) ∧
    (∀ pre (o : Obs) post, [.client .sRunning, .groupNew true,
        .addService (request 0 ⟨1, -1, some [65]⟩) (-1), .term] = pre ++ o :: post → o.Fatal →
        Obs.term ∈ post ∧ true = true) ∧
      ∀ pre (o : Obs) post, [.client .sRunning, .groupNew true,
        .addService (request 0 ⟨1, -1, some [65]⟩) (-1), .term] = pre ++ o :: post → o.FailedAdd →
        post = [.term] :=
  ⟨rfl, step_fatal_then_term (· ++ [50]) (initial [⟨1, -1, some [65]⟩])
    (.client .sRunning ⟨true, [-1], 0, 0⟩) ⟨some 0, 1, [], [⟨1, -1, some [65]⟩], true⟩
    [.client .sRunning, .groupNew true, .addService (request 0 ⟨1, -1, some [65]⟩) (-1), .term] rfl⟩

end DnsSd.Avahi
