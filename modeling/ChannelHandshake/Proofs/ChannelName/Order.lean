import ChannelHandshake.Registry.Table

/-!
# Names that occur more than once

Names are ordered totally, so that equal names stand next to each other in a sorted list. The
duplicates of a list are therefore the names that occur in it at least twice
(`mem_duplicates_iff`), in increasing order (`pairwise_duplicates`). A list in increasing order is
determined by its members (`eq_of_pairwise_lt`).
-/

namespace ChannelHandshake.ChannelName

theorem le_iff {a b : ChannelName} : le a b = true ↔ a < b ∨ a = b := by
  rw [le, Bool.not_eq_true', decide_eq_false_iff_not]
  constructor
  · intro h
    rcases eq_or_lt_of_not_lt h with rfl | h
    · exact .inr rfl
    · exact .inl h
  · rintro (h | rfl)
    · exact fun h' => lt_irrefl a (lt_trans h h')
    · exact lt_irrefl a

theorem le_trans (a b c : ChannelName) (hab : le a b = true) (hbc : le b c = true) :
    le a c = true := by
  rw [le_iff] at *
  rcases hab with hab | rfl
  · rcases hbc with hbc | rfl
    · exact .inl (lt_trans hab hbc)
    · exact .inl hab
  · exact hbc

theorem le_total (a b : ChannelName) : (le a b || le b a) = true := by
  rw [Bool.or_eq_true, le_iff, le_iff]
  by_cases h : a < b
  · exact .inl (.inl h)
  · rcases eq_or_lt_of_not_lt h with rfl | h
    · exact .inl (.inr rfl)
    · exact .inr (.inl h)

/-- A name is not found behind a later one. -/
theorem count_eq_zero_of_lt {a b : ChannelName} {rest : List ChannelName} (hab : a < b)
    (hsorted : (b :: rest).Pairwise fun x y => le x y = true) : (b :: rest).count a = 0 := by
  rw [List.count_eq_zero]
  intro hmem
  rcases List.mem_cons.1 hmem with rfl | hmem
  · exact lt_irrefl a hab
  · rcases le_iff.1 ((List.pairwise_cons.1 hsorted).1 a hmem) with hba | rfl
    · exact lt_irrefl a (lt_trans hab hba)
    · exact lt_irrefl b hab

theorem mem_dropWhile_eq_iff {a n : ChannelName} (h : n ≠ a) (names : List ChannelName) :
    n ∈ names.dropWhile (· = a) ↔ n ∈ names := by
  induction names with
  | nil => simp
  | cons b names ih =>
    by_cases hb : b = a
    · have hn : n ≠ b := fun hnb => h (hnb.trans hb)
      simp [hb, ih, h]
    · simp [hb]

theorem mem_repeats_iff {names : List ChannelName} {n : ChannelName}
    (hsorted : names.Pairwise fun a b => le a b = true) :
    n ∈ repeats names ↔ 2 ≤ names.count n := by
  fun_induction repeats names with
  | case1 b rest ih =>
    have hrest := ih (List.pairwise_cons.1 hsorted).2
    by_cases hn : n = b
    · simp [hn]
    · have hcount : (b :: b :: rest).count n = (b :: rest).count n :=
        List.count_cons_of_ne (Ne.symm hn)
      rw [List.mem_cons, mem_dropWhile_eq_iff hn, hrest, hcount]
      simp [hn]
  | case2 a b rest hab ih =>
    have hrest := ih (List.pairwise_cons.1 hsorted).2
    rw [hrest]
    by_cases hn : n = a
    · have hlt : a < b := by
        rcases le_iff.1 ((List.pairwise_cons.1 hsorted).1 b List.mem_cons_self) with h | h
        · exact h
        · exact absurd h hab
      have hzero := count_eq_zero_of_lt hlt (List.pairwise_cons.1 hsorted).2
      rw [hn, List.count_cons_self, hzero]
      omega
    · rw [List.count_cons_of_ne (Ne.symm hn)]
  | case3 names hshort =>
    rcases names with _ | ⟨a, _ | ⟨b, rest⟩⟩
    · simp
    · rw [List.count_singleton]
      constructor
      · simp
      · split <;> omega
    · exact absurd rfl (hshort a b rest)

/-- The names that occur at least twice. -/
theorem mem_duplicates_iff {names : List ChannelName} {n : ChannelName} :
    n ∈ duplicates names ↔ 2 ≤ names.count n := by
  rw [duplicates, mem_repeats_iff (List.pairwise_mergeSort le_trans le_total names),
    (List.mergeSort_perm names le).count_eq]

/-- What is left behind the copies of a least name comes after it. -/
theorem lt_of_mem_dropWhile_eq {a : ChannelName} {names : List ChannelName}
    (hincreasing : names.Pairwise (· < ·)) (hleast : ∀ n ∈ names, le a n = true) :
    ∀ n ∈ names.dropWhile (· = a), a < n := by
  induction names with
  | nil => simp
  | cons b names ih =>
    obtain ⟨hlt, hrest⟩ := List.pairwise_cons.1 hincreasing
    have hb := hleast b List.mem_cons_self
    intro n hn
    by_cases hba : b = a
    · rw [List.dropWhile_cons_of_pos (by simpa using hba)] at hn
      exact hba ▸ hlt n ((List.dropWhile_sublist _).subset hn)
    · rw [List.dropWhile_cons_of_neg (by simpa using hba)] at hn
      have hab : a < b := (le_iff.1 hb).resolve_right (Ne.symm hba)
      rcases List.mem_cons.1 hn with rfl | hn
      · exact hab
      · exact lt_trans hab (hlt n hn)

theorem pairwise_repeats {names : List ChannelName}
    (hsorted : names.Pairwise fun a b => le a b = true) : (repeats names).Pairwise (· < ·) := by
  fun_induction repeats names with
  | case1 b rest ih =>
    have hsorted' := (List.pairwise_cons.1 hsorted).2
    have hrest := ih hsorted'
    -- every repeated name stands in the list, and so not before its first name
    have hleast : ∀ n ∈ repeats (b :: rest), le b n = true := by
      intro n hn
      have hcount := (mem_repeats_iff hsorted').1 hn
      have hmem : n ∈ b :: rest := List.count_pos_iff.1 (by omega)
      exact (List.pairwise_cons.1 hsorted).1 n hmem
    exact List.pairwise_cons.2
      ⟨lt_of_mem_dropWhile_eq hrest hleast, hrest.sublist (List.dropWhile_sublist _)⟩
  | case2 a b rest hab ih => exact ih (List.pairwise_cons.1 hsorted).2
  | case3 => exact .nil

/-- The duplicates stand in increasing order. -/
theorem pairwise_duplicates (names : List ChannelName) :
    (duplicates names).Pairwise (· < ·) :=
  pairwise_repeats (List.pairwise_mergeSort le_trans le_total names)

theorem nodup_of_pairwise_lt {names : List ChannelName} (h : names.Pairwise (· < ·)) :
    names.Nodup := by
  refine h.imp ?_
  rintro a b hlt rfl
  exact lt_irrefl a hlt

/-- Names in increasing order are determined by which names they are. -/
theorem eq_of_pairwise_lt {names names' : List ChannelName} (h : names.Pairwise (· < ·))
    (h' : names'.Pairwise (· < ·)) (hmem : ∀ n, n ∈ names ↔ n ∈ names') : names = names' := by
  have hperm : names.Perm names' :=
    (List.perm_ext_iff_of_nodup (nodup_of_pairwise_lt h) (nodup_of_pairwise_lt h')).2 hmem
  refine hperm.eq_of_pairwise ?_ h h'
  intro a b _ _ hab hba
  exact absurd (lt_trans hab hba) (lt_irrefl a)

end ChannelHandshake.ChannelName
