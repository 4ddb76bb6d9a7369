import Mathlib.Algebra.BigOperators.Group.List.Lemmas
import Mathlib.Algebra.GroupWithZero.Nat
import Mathlib.Data.List.Perm.Basic

/-!
# Tallies

The answer of a grouped count, and a table with one entry a key that is filled while such answers are
read.  A grouped count lists every key once, in any order, with the number of its rows, so that the
counts of any set of keys add up to the number of rows with such a key.
-/

namespace Tally

/-! ## Grouped counts -/

/-- The groups of some rows by a key, with their sizes: no key twice, and no empty group. -/
structure Grouped {ρ κ : Type} [DecidableEq κ] (rows : List ρ) (key : ρ → κ) where
  groups : List (κ × ℕ)
  nodup : (groups.map Prod.fst).Nodup
  exact : ∀ k n, (k, n) ∈ groups ↔ n = (rows.map key).count k ∧ 0 < n

namespace Grouped

variable {ρ κ : Type} [DecidableEq κ] {rows : List ρ} {key : ρ → κ}

/-- The groups in one order. -/
def ofRows (rows : List ρ) (key : ρ → κ) : Grouped rows key where
  groups := (rows.map key).dedup.map fun k => (k, (rows.map key).count k)
  nodup := by
    rw [List.map_map]
    exact (List.map_id _).symm ▸ List.nodup_dedup (rows.map key)
  exact k n := by
    rw [List.mem_map]
    constructor
    · rintro ⟨k', hmem, heq⟩
      obtain ⟨rfl, rfl⟩ := Prod.mk.inj heq
      exact ⟨rfl, List.count_pos_iff.mpr (List.mem_dedup.mp hmem)⟩
    · rintro ⟨rfl, hpos⟩
      exact ⟨k, List.mem_dedup.mpr (List.count_pos_iff.mp hpos), rfl⟩

/-- The answers differ in the order of their groups alone. -/
theorem perm (g g' : Grouped rows key) : g.groups.Perm g'.groups := by
  rw [List.perm_ext_iff_of_nodup g.nodup.of_map g'.nodup.of_map]
  rintro ⟨k, n⟩
  rw [g.exact, g'.exact]

/-- The sizes of the groups whose key is in a set add up to the number of rows with such a key. -/
theorem sum_filter (g : Grouped rows key) (p : κ → Bool) :
    ((g.groups.filter (p ·.1)).map Prod.snd).sum = rows.countP (p ∘ key) := by
  rw [(((g.perm (ofRows rows key)).filter _).map Prod.snd).sum_eq, ofRows, List.filter_map,
    List.map_map, ← List.countP_map]
  exact List.sum_map_count_dedup_filter_eq_countP p (rows.map key)

/-- A key is listed when some row has it. -/
theorem exists_group_iff (g : Grouped rows key) (p : κ → Bool) :
    (∃ group ∈ g.groups, p group.1 = true) ↔ ∃ row ∈ rows, p (key row) = true := by
  constructor
  · rintro ⟨⟨k, n⟩, hmem, hp⟩
    obtain ⟨rfl, hpos⟩ := (g.exact k n).mp hmem
    obtain ⟨row, hrow, rfl⟩ := List.mem_map.mp (List.count_pos_iff.mp hpos)
    exact ⟨row, hrow, hp⟩
  · rintro ⟨row, hrow, hp⟩
    have hmem : key row ∈ rows.map key := List.mem_map_of_mem hrow
    exact ⟨(key row, _), (g.exact _ _).mpr ⟨rfl, List.count_pos_iff.mpr hmem⟩, hp⟩

end Grouped

/-! ## Tables -/

section Table

variable {κ β : Type} [DecidableEq κ]

/-- Update the entry of a key, which is `new` when the key has none. -/
def upsert (k : κ) (new : β) (update : β → β) : List (κ × β) → List (κ × β)
  | [] => [(k, update new)]
  | (k', v) :: rest =>
    if k' = k then (k', update v) :: rest else (k', v) :: upsert k new update rest

/-- The entry of a key. -/
def entry (table : List (κ × β)) (k : κ) : Option β := (table.find? (·.1 = k)).map Prod.snd

@[simp] theorem entry_nil (k : κ) : entry ([] : List (κ × β)) k = none := rfl

theorem entry_cons (k' : κ) (v : β) (rest : List (κ × β)) (k : κ) :
    entry ((k', v) :: rest) k = if k' = k then some v else entry rest k := by
  unfold entry
  by_cases h : k' = k
  · simp [h]
  · simp [h]

theorem entry_upsert (k : κ) (new : β) (update : β → β) (table : List (κ × β)) (k' : κ) :
    entry (upsert k new update table) k' =
      if k = k' then some (update ((entry table k).getD new)) else entry table k' := by
  induction table with
  | nil => simp [upsert, entry_cons]
  | cons head rest ih =>
    obtain ⟨j, v⟩ := head
    rw [upsert]
    by_cases hj : j = k
    · subst hj
      rw [if_pos rfl, entry_cons, entry_cons, entry_cons, if_pos rfl]
      by_cases hk : j = k'
      · simp [hk]
      · simp [hk]
    · rw [if_neg hj, entry_cons, ih, entry_cons, entry_cons, if_neg hj]
      by_cases hk : k = k'
      · subst hk
        simp [hj]
      · simp [hk]

theorem keys_upsert (k : κ) (new : β) (update : β → β) (table : List (κ × β)) :
    (upsert k new update table).map Prod.fst =
      if k ∈ table.map Prod.fst then table.map Prod.fst else table.map Prod.fst ++ [k] := by
  induction table with
  | nil => simp [upsert]
  | cons head rest ih =>
    obtain ⟨j, v⟩ := head
    rw [upsert]
    by_cases hj : j = k
    · subst hj
      simp
    · have hk : k ≠ j := fun h => hj h.symm
      rw [if_neg hj, List.map_cons, ih, List.map_cons]
      by_cases hmem : k ∈ rest.map Prod.fst
      · simp [hmem]
      · simp [hmem, hk]

theorem nodup_upsert {table : List (κ × β)} (h : (table.map Prod.fst).Nodup) (k : κ) (new : β)
    (update : β → β) : ((upsert k new update table).map Prod.fst).Nodup := by
  rw [keys_upsert]
  split
  · exact h
  · next hmem => exact List.nodup_append.mpr ⟨h, List.nodup_singleton k,
      fun a ha b hb heq => hmem (List.mem_singleton.mp hb ▸ heq ▸ ha)⟩

/-- A table with no key twice lists exactly its entries. -/
theorem mem_iff_entry {table : List (κ × β)} (h : (table.map Prod.fst).Nodup) (k : κ) (v : β) :
    (k, v) ∈ table ↔ entry table k = some v := by
  induction table with
  | nil => simp
  | cons head rest ih =>
    obtain ⟨j, w⟩ := head
    obtain ⟨hj, hrest⟩ := List.nodup_cons.mp h
    rw [entry_cons, List.mem_cons, ih hrest]
    by_cases hk : j = k
    · subst hk
      have hnone : entry rest j ≠ some v := by
        intro hentry
        exact hj (List.mem_map.mpr ⟨(j, v), (ih hrest).mpr hentry, rfl⟩)
      simp [hnone, eq_comm]
    · simp [hk, Ne.symm hk]

theorem exists_entry {table : List (κ × β)} {k : κ} (h : k ∈ table.map Prod.fst) :
    ∃ v, entry table k = some v ∧ (k, v) ∈ table := by
  induction table with
  | nil => simp at h
  | cons head rest ih =>
    obtain ⟨j, v⟩ := head
    rw [entry_cons]
    by_cases hj : j = k
    · exact ⟨v, by simp [hj]⟩
    · have hrest : k ∈ rest.map Prod.fst := (List.mem_cons.mp h).resolve_left (Ne.symm hj)
      obtain ⟨w, hentry, hmem⟩ := ih hrest
      exact ⟨w, by rw [if_neg hj, hentry], List.mem_cons_of_mem _ hmem⟩

/-- A table with no key twice is read off its keys and its entries. -/
theorem eq_map_entry {table : List (κ × β)} (h : (table.map Prod.fst).Nodup) (other : β) :
    table = (table.map Prod.fst).map fun k => (k, (entry table k).getD other) := by
  rw [List.map_map]
  refine (List.map_id table).symm.trans (List.map_congr_left fun e he => ?_)
  have hentry : entry table e.1 = some e.2 := (mem_iff_entry h e.1 e.2).mp he
  simp [hentry]

/-- Update the value of a key that is there. -/
def adjust (k : κ) (update : β → β) (table : List (κ × β)) : List (κ × β) :=
  table.map fun e => if e.1 = k then (e.1, update e.2) else e

theorem keys_adjust (k : κ) (update : β → β) (table : List (κ × β)) :
    (adjust k update table).map Prod.fst = table.map Prod.fst := by
  unfold adjust
  rw [List.map_map]
  refine List.map_congr_left fun e _ => ?_
  by_cases h : e.1 = k
  · simp [h]
  · simp [h]

theorem entry_adjust (k : κ) (update : β → β) (table : List (κ × β)) (k' : κ) :
    entry (adjust k update table) k' =
      if k = k' then (entry table k').map update else entry table k' := by
  induction table with
  | nil => simp [adjust]
  | cons head rest ih =>
    obtain ⟨j, v⟩ := head
    have hcons : adjust k update ((j, v) :: rest) =
        (j, if j = k then update v else v) :: adjust k update rest := by
      unfold adjust
      by_cases hj : j = k
      · simp [hj]
      · simp [hj]
    rw [hcons, entry_cons, entry_cons, ih]
    by_cases hj : j = k'
    · by_cases hk : k = k'
      · simp [hj, hk]
      · simp [hj, hk, Ne.symm hk]
    · simp [hj]

end Table

end Tally
