import Mathlib.Data.List.Perm.Basic

/-!
# Tables with distinct keys

A table is a list of keys with their entries. With distinct keys a lookup finds exactly the
entries of the table, in whatever order they stand, and looking all the keys up, in any order,
gives each entry once. Keys and lookups do not see a change of the entries.
-/
namespace AttributeArguments.Table

open scoped List

section Entries

variable {κ α β : Type}

theorem keys_map (f : α → β) (xs : List (κ × α)) :
    (xs.map (Prod.map id f)).map (·.1) = xs.map (·.1) := by
  rw [List.map_map]
  rfl

theorem lookup_map [BEq κ] (f : α → β) (xs : List (κ × α)) (k : κ) :
    (xs.map (Prod.map id f)).lookup k = (xs.lookup k).map f := by
  induction xs with
  | nil => rfl
  | cons x xs ih =>
    obtain ⟨k', a⟩ := x
    simp only [List.map_cons, Prod.map, id, List.lookup_cons] at ih ⊢
    cases k == k' with
    | true => rfl
    | false => exact ih

end Entries

variable {κ α : Type} [BEq κ] [LawfulBEq κ]

theorem lookup_cons_of_ne {k key : κ} (h : k ≠ key) (a : α) (table : List (κ × α)) :
    ((key, a) :: table).lookup k = table.lookup k := by
  rw [List.lookup_cons, beq_eq_false_iff_ne.mpr h]

theorem isNone_lookup_iff {table : List (κ × α)} {k : κ} :
    (table.lookup k).isNone = true ↔ k ∉ table.map Prod.fst := by
  rw [Option.isNone_iff_eq_none, List.lookup_eq_none_iff, List.mem_map]
  grind

theorem isSome_lookup_congr {xs ys : List (κ × α)}
    (keys : xs.map Prod.fst = ys.map Prod.fst) (k : κ) :
    (xs.lookup k).isSome = (ys.lookup k).isSome := by
  rw [← Option.not_isNone, ← Option.not_isNone, Bool.not_inj_iff, Bool.eq_iff_iff,
    isNone_lookup_iff, isNone_lookup_iff, keys]

theorem lookup_eq_some_iff {table : List (κ × α)} (distinct : (table.map Prod.fst).Nodup)
    (k : κ) (a : α) : table.lookup k = some a ↔ (k, a) ∈ table := by
  induction table with
  | nil => simp
  | cons x table ih =>
    obtain ⟨key, entry⟩ := x
    rw [List.map_cons, List.nodup_cons] at distinct
    rw [List.mem_cons, Prod.mk.injEq]
    by_cases hk : k = key
    · subst hk
      have hne : (k, a) ∉ table := fun h => distinct.1 (List.mem_map.mpr ⟨_, h, rfl⟩)
      simp [hne, eq_comm]
    · rw [lookup_cons_of_ne hk, ih distinct.2]
      simp [hk]

theorem lookup_perm {xs ys : List (κ × α)} (distinct : (xs.map Prod.fst).Nodup) (same : xs ~ ys)
    (k : κ) : xs.lookup k = ys.lookup k := by
  have distinct' : (ys.map Prod.fst).Nodup := (same.map Prod.fst).nodup_iff.mp distinct
  ext a
  rw [lookup_eq_some_iff distinct, lookup_eq_some_iff distinct', same.mem_iff]

theorem filterMap_lookup_perm {table : List (κ × α)} (distinct : (table.map Prod.fst).Nodup)
    {keys : List κ} (nodup : keys.Nodup) (held : ∀ k ∈ table.map Prod.fst, k ∈ keys) :
    keys.filterMap (table.lookup ·) ~ table.map Prod.snd := by
  induction table generalizing keys with
  | nil => simp [List.filterMap_eq_nil_iff.mpr]
  | cons x table ih =>
    obtain ⟨key, entry⟩ := x
    rw [List.map_cons, List.nodup_cons] at distinct
    rw [List.map_cons, List.forall_mem_cons] at held
    have hrest : ∀ k ∈ table.map Prod.fst, k ∈ keys.erase key := by
      intro k hk
      have hne : k ≠ key := fun he => distinct.1 (by rwa [he] at hk)
      exact (List.mem_erase_of_ne hne).mpr (held.2 k hk)
    have hsame : (keys.erase key).filterMap (((key, entry) :: table).lookup ·) =
        (keys.erase key).filterMap (table.lookup ·) :=
      List.filterMap_congr fun k hk => lookup_cons_of_ne (nodup.mem_erase_iff.mp hk).1 _ _
    calc keys.filterMap (((key, entry) :: table).lookup ·)
      _ ~ (key :: keys.erase key).filterMap (((key, entry) :: table).lookup ·) :=
        (List.perm_cons_erase held.1).filterMap _
      _ = entry :: (keys.erase key).filterMap (table.lookup ·) := by
        rw [List.filterMap_cons, List.lookup_cons_self, hsame]
      _ ~ entry :: table.map Prod.snd :=
        (ih distinct.2 (nodup.erase key) hrest).cons entry

end AttributeArguments.Table
