import Mathlib.Data.List.Basic

/-!
# Common — Slots

What a loop over the slots does to each slot that passes its test: one note per such slot,
tagged with the slot's index.  Both backends' ledgers are lists of these notes.

* `count_slotObs_le`: each index is noted at most once.
* `count_slotObs_eq`: two loops over the same slots note each index alike.
-/

namespace DnsSd

/-- One note for each element of `l` that satisfies `p`, with its index from `i`. -/
def slotObs {α β : Type} (p : α → Bool) (mk : Nat → β) : Nat → List α → List β
  | _, [] => []
  | i, a :: as => if p a then mk i :: slotObs p mk (i + 1) as else slotObs p mk (i + 1) as

section SlotObs

variable {α β : Type} {p : α → Bool} {f g : Nat → β}

theorem mem_slotObs {o : β} : ∀ {i : Nat} {l : List α}, o ∈ slotObs p f i l → ∃ k, i ≤ k ∧ o = f k
  | _, [], h => absurd h (List.not_mem_nil _)
  | i, a :: l, h => by
    simp only [slotObs] at h
    split_ifs at h
    · rcases List.mem_cons.mp h with rfl | h
      · exact ⟨i, le_rfl, rfl⟩
      · obtain ⟨k, hk, rfl⟩ := mem_slotObs h
        exact ⟨k, by omega, rfl⟩
    · obtain ⟨k, hk, rfl⟩ := mem_slotObs h
      exact ⟨k, by omega, rfl⟩

theorem slotObs_filter {q : β → Bool} (hq : ∀ k, q (f k) = true) (i : Nat) (l : List α) :
    (slotObs p f i l).filter q = slotObs p f i l :=
  List.filter_eq_self.mpr fun _ ho => by obtain ⟨k, -, rfl⟩ := mem_slotObs ho; exact hq k

/-- The notes depend only on which slots pass the test. -/
theorem slotObs_congr {γ : Type} {q : γ → Bool} :
    ∀ {i : Nat} {l : List α} {l' : List γ}, l.map p = l'.map q → slotObs p f i l = slotObs q f i l'
  | _, [], [], _ => rfl
  | i, a :: l, b :: l', h => by
    obtain ⟨hab, hl⟩ := List.cons_eq_cons.mp h
    simp only [slotObs, hab, slotObs_congr hl]

variable [DecidableEq β]

theorem count_slotObs_of_ne {o : β} (h : ∀ k, f k ≠ o) (i : Nat) (l : List α) :
    (slotObs p f i l).count o = 0 :=
  List.count_eq_zero.mpr fun ho => by obtain ⟨k, -, rfl⟩ := mem_slotObs ho; exact h k rfl

theorem count_slotObs_of_lt (hf : f.Injective) {i j : Nat} (hj : j < i) (l : List α) :
    (slotObs p f i l).count (f j) = 0 :=
  List.count_eq_zero.mpr fun ho => by
    obtain ⟨k, hk, he⟩ := mem_slotObs ho
    exact absurd (hf he) (by omega)

/-- Each index appears at most once. -/
theorem count_slotObs_le (hf : f.Injective) (j : Nat) :
    ∀ (i : Nat) (l : List α), (slotObs p f i l).count (f j) ≤ 1
  | _, [] => Nat.zero_le _
  | i, a :: l => by
    have ih := count_slotObs_le hf j (i + 1) l
    simp only [slotObs]
    split_ifs
    · rw [List.count_cons]
      by_cases hij : i = j
      · subst hij
        simp [count_slotObs_of_lt hf (Nat.lt_succ_self i)]
      · simpa [hf.eq_iff, hij] using ih
    · exact ih

/-- Two relabellings of the same slots count each index alike. -/
theorem count_slotObs_eq (hf : f.Injective) (hg : g.Injective) (j : Nat) :
    ∀ (i : Nat) (l : List α), (slotObs p f i l).count (f j) = (slotObs p g i l).count (g j)
  | _, [] => rfl
  | i, a :: l => by
    have ih := count_slotObs_eq hf hg j (i + 1) l
    simp only [slotObs]
    split_ifs
    · simp only [List.count_cons, ih, beq_iff_eq, hf.eq_iff, hg.eq_iff]
    · exact ih

end SlotObs

end DnsSd
