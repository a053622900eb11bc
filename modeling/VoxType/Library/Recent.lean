import Mathlib

/-!
# Bounded maps of the most recent records

A list keeps one record for each of the keys that were recorded last. What it
answers is told by the history alone.
-/

namespace Recent

set_option autoImplicit false

universe u v

variable {α : Type u} {κ : Type v} [DecidableEq κ] (key : α → κ)

/-- The first record of each key; with the newest record first, the latest ones. -/
def latest : List α → List α
  | [] => []
  | x :: rest => x :: (latest rest).filter fun y => key y ≠ key x

/-- The latest records of the last `n` keys, the oldest first. -/
def recent (n : Nat) (history : List α) : List α := ((latest key history.reverse).take n).reverse

/-- One more record: its key is forgotten, then the oldest record when there is no room. -/
def remember (n : Nat) (kept : List α) (x : α) : List α :=
  let others := kept.eraseP fun y => key y = key x
  (if others.length = n then others.drop 1 else others) ++ [x]

/-- How many keys were recorded after the latest record of a key. -/
def since (k : κ) (history : List α) : Nat :=
  ((history.reverse.takeWhile fun y => key y ≠ k).map key).toFinset.card

section Latest

variable {key}

theorem mem_keys_latest {k : κ} {l : List α} : k ∈ (latest key l).map key ↔ k ∈ l.map key := by
  induction l with
  | nil => rfl
  | cons x rest ih =>
    rw [latest, List.map_cons, List.mem_cons, List.map_cons, List.mem_cons, ← ih]
    by_cases hSame : k = key x
    · exact iff_of_true (.inl hSame) (.inl hSame)
    · simp only [hSame, false_or, List.mem_map, List.mem_filter, decide_eq_true_iff]
      constructor
      · rintro ⟨y, ⟨hMem, -⟩, rfl⟩
        exact ⟨y, hMem, rfl⟩
      · rintro ⟨y, hMem, rfl⟩
        exact ⟨y, ⟨hMem, hSame⟩, rfl⟩

theorem nodup_keys_latest (l : List α) : ((latest key l).map key).Nodup := by
  induction l with
  | nil => exact List.nodup_nil
  | cons x rest ih =>
    rw [latest, List.map_cons, List.nodup_cons]
    constructor
    · simp
    · exact ih.sublist (List.filter_sublist.map key)

theorem length_latest (l : List α) : (latest key l).length = (l.map key).toFinset.card := by
  have hSame : (l.map key).toFinset = ((latest key l).map key).toFinset := by
    ext k
    rw [List.mem_toFinset, List.mem_toFinset, mem_keys_latest]
  rw [hSame, List.toFinset_card_of_nodup (nodup_keys_latest l), List.length_map]

theorem latest_append (left right : List α) :
    latest key (left ++ right) =
      latest key left ++ (latest key right).filter fun y => key y ∉ left.map key := by
  induction left with
  | nil =>
    rw [List.nil_append, latest, List.nil_append, eq_comm, List.filter_eq_self]
    simp
  | cons x left ih =>
    rw [List.cons_append, latest, ih, latest, List.filter_append, List.cons_append, List.filter_filter]
    congr 2
    refine List.filter_congr fun y _ => ?_
    simp [not_or]

theorem find?_latest_none {k : κ} {l : List α} (h : ∀ y ∈ l, key y ≠ k) :
    (latest key l).find? (fun y => key y = k) = none := by
  rw [List.find?_eq_none]
  intro y hMem hSame
  rw [decide_eq_true_iff] at hSame
  have hKey : k ∈ l.map key :=
    mem_keys_latest.mp (List.mem_map.mpr ⟨y, hMem, hSame⟩)
  obtain ⟨z, hz, hEq⟩ := List.mem_map.mp hKey
  exact h z hz hEq

/-- A key is answered by its latest record, unless too many others came later. -/
theorem find?_take_latest (n : Nat) (k : κ) (l : List α) :
    ((latest key l).take n).find? (fun y => key y = k) =
      if ((l.takeWhile fun y => key y ≠ k).map key).toFinset.card < n then
        l.find? fun y => key y = k
      else none := by
  cases hFind : l.find? (fun y => key y = k) with
  | none =>
    rw [List.find?_eq_none] at hFind
    have hNone : (latest key l).find? (fun y => key y = k) = none :=
      find?_latest_none fun y hMem => by simpa using hFind y hMem
    rw [ite_self, List.find?_eq_none]
    rw [List.find?_eq_none] at hNone
    exact fun y hMem => hNone y (List.mem_of_mem_take hMem)
  | some found =>
    obtain ⟨hFound, left, right, rfl, hLeft⟩ := List.find?_eq_some_iff_append.mp hFind
    rw [decide_eq_true_iff] at hFound
    have hOthers : ∀ y ∈ left, key y ≠ k := fun y hMem => by simpa using hLeft y hMem
    have hTake : (left ++ found :: right).takeWhile (fun y => key y ≠ k) = left := by
      rw [List.takeWhile_append_of_pos (by simpa using hOthers), List.takeWhile_cons_of_neg
        (by simp [hFound]), List.append_nil]
    have hFresh : key found ∉ left.map key := by
      rw [List.mem_map]
      rintro ⟨y, hMem, hSame⟩
      exact hOthers y hMem (hSame.trans hFound)
    rw [hTake, ← length_latest, latest_append, latest, List.filter_cons, if_pos (by simpa using hFresh)]
    have hNone := find?_latest_none hOthers
    split
    case isTrue hRoom =>
      rw [List.take_append, List.take_of_length_le hRoom.le, List.find?_append, hNone]
      obtain ⟨m, hm⟩ : ∃ m, n - (latest key left).length = m + 1 :=
        ⟨n - (latest key left).length - 1, by omega⟩
      rw [hm, List.take_succ_cons, List.find?_cons_of_pos (by simpa using hFound)]
      rfl
    case isFalse hFull =>
      rw [List.take_append_of_le_length (Nat.le_of_not_lt hFull), List.find?_eq_none]
      rw [List.find?_eq_none] at hNone
      exact fun y hMem => hNone y (List.mem_of_mem_take hMem)

end Latest

section Remember

variable {key} {n : Nat}

/-- One key out of distinct ones leaves at most one record fewer. -/
theorem length_filter_key {l : List α} (h : (l.map key).Nodup) (k : κ) :
    l.length ≤ (l.filter fun y => key y ≠ k).length + 1 := by
  induction l with
  | nil => exact Nat.zero_le _
  | cons x rest ih =>
    rw [List.map_cons, List.nodup_cons] at h
    rw [List.filter_cons]
    by_cases hSame : key x = k
    · have hRest : rest.filter (fun y => key y ≠ k) = rest := by
        rw [List.filter_eq_self]
        intro y hMem
        rw [decide_eq_true_iff]
        rintro hKey
        exact h.1 (List.mem_map.mpr ⟨y, hMem, hKey.trans hSame.symm⟩)
      rw [if_neg (by simpa using hSame), hRest, List.length_cons]
    · have hBound := ih h.2
      rw [if_pos (by simpa using hSame), List.length_cons, List.length_cons]
      omega

theorem take_filter_key {l : List α} (h : (l.map key).Nodup) (k : κ) :
    (l.filter fun y => key y ≠ k).take n =
      ((l.take (n + 1)).filter fun y => key y ≠ k).take n := by
  have hSplit := List.take_append_drop (n + 1) l
  have hKept := length_filter_key (h.sublist ((List.take_sublist (n + 1) l).map key)) k
  conv_lhs => rw [← hSplit, List.filter_append]
  by_cases hEnough : n ≤ ((l.take (n + 1)).filter fun y => key y ≠ k).length
  · rw [List.take_append_of_le_length hEnough]
  · have hShort : l.length ≤ n := by
      rw [List.length_take] at hKept
      omega
    rw [List.drop_of_length_le (hShort.trans (Nat.le_succ n)), List.filter_nil, List.append_nil]

theorem eraseP_eq_filter {l : List α} (h : (l.map key).Nodup) (k : κ) :
    l.eraseP (fun y => key y = k) = l.filter fun y => key y ≠ k := by
  induction l with
  | nil => rfl
  | cons x rest ih =>
    rw [List.map_cons, List.nodup_cons] at h
    by_cases hSame : key x = k
    · rw [List.eraseP_cons_of_pos (by simpa using hSame), List.filter_cons_of_neg
        (by simpa using hSame), eq_comm, List.filter_eq_self]
      intro y hMem
      rw [decide_eq_true_iff]
      rintro hKey
      exact h.1 (List.mem_map.mpr ⟨y, hMem, hKey.trans hSame.symm⟩)
    · rw [List.eraseP_cons_of_neg (by simpa using hSame), List.filter_cons_of_pos
        (by simpa using hSame), ih h.2]

variable (n)

theorem nodup_keys_recent (history : List α) : ((recent key n history).map key).Nodup := by
  rw [recent, List.map_reverse, List.nodup_reverse]
  exact (nodup_keys_latest _).sublist ((List.take_sublist n _).map key)

theorem length_recent_le (history : List α) : (recent key n history).length ≤ n := by
  rw [recent, List.length_reverse]
  exact List.length_take_le n _

theorem recent_snoc (history : List α) (x : α) :
    recent key (n + 1) (history ++ [x]) = remember key (n + 1) (recent key (n + 1) history) x := by
  have hNodup : ((recent key (n + 1) history).map key).Nodup := nodup_keys_recent (n + 1) history
  have hLatest : ((latest key history.reverse).map key).Nodup := nodup_keys_latest history.reverse
  rw [remember, eraseP_eq_filter hNodup, recent, List.reverse_append, List.reverse_singleton,
    List.singleton_append, latest, List.take_succ_cons, List.reverse_cons, take_filter_key hLatest,
    recent, List.filter_reverse, List.length_reverse]
  congr 1
  split
  case isTrue hFull =>
    rw [List.drop_reverse, hFull, Nat.add_sub_cancel]
  case isFalse hRoom =>
    have hBound := (List.filter_sublist (p := fun y => decide (key y ≠ key x))
      (l := (latest key history.reverse).take (n + 1))).length_le.trans (List.length_take_le _ _)
    rw [List.take_of_length_le (by omega)]

theorem find?_recent (k : κ) (history : List α) :
    (recent key n history).reverse.find? (fun y => key y = k) =
      if since key k history < n then history.reverse.find? fun y => key y = k else none := by
  rw [recent, List.reverse_reverse]
  exact find?_take_latest n k history.reverse

end Remember

end Recent
