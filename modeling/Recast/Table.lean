/-!
# Table — a finite map whose entries stay

A table maps keys to values.  Entries are only ever added, and only under keys that are still free,
so that an answer once given stays the answer.

* `Table.get?_insertNew`: what a table holds after an insertion.
* `Table.size`: the number of keys, since no key occurs twice.
-/

namespace Recast

/-- A finite map as a list of entries with distinct keys, the newest first. -/
structure Table (α β : Type) where
  entries : List (α × β)
  /-- No key occurs twice. -/
  keys_nodup : (entries.map Prod.fst).Nodup

namespace Table

variable {α β : Type}

def empty : Table α β :=
  { entries := []
    keys_nodup := List.nodup_nil }

def size (t : Table α β) : Nat :=
  t.entries.length

/-- The values in a table, the newest first. -/
def values (t : Table α β) : List β :=
  t.entries.map Prod.snd

variable [DecidableEq α]

/-- The value under a key. -/
def get? (t : Table α β) (key : α) : Option β :=
  (t.entries.find? fun e => e.1 = key).map Prod.snd

/-- Whether a key has a value. -/
def contains (t : Table α β) (key : α) : Bool :=
  (t.get? key).isSome

theorem get?_eq_none_iff {t : Table α β} {key : α} :
    t.get? key = none ↔ key ∉ t.entries.map Prod.fst := by
  simp only [get?, Option.map_eq_none_iff, List.find?_eq_none, decide_eq_true_eq, List.mem_map]
  constructor
  · rintro h ⟨e, he, rfl⟩
    exact h e he rfl
  · intro h e he hkey
    exact h ⟨e, he, hkey⟩

theorem contains_eq_false_iff {t : Table α β} {key : α} :
    t.contains key = false ↔ t.get? key = none := by
  simp [contains]

theorem mem_values_of_get? {t : Table α β} {key : α} {kept : β} (h : t.get? key = some kept) :
    kept ∈ t.values := by
  rcases Option.map_eq_some_iff.1 h with ⟨e, found, rfl⟩
  exact List.mem_map_of_mem (List.mem_of_find?_eq_some found)

/-- Add an entry, unless its key has a value already. -/
def insertNew (t : Table α β) (key : α) (value : β) : Table α β :=
  if h : t.contains key = false then
    { entries := (key, value) :: t.entries
      keys_nodup := by
        rw [List.map_cons, List.nodup_cons]
        exact ⟨get?_eq_none_iff.1 (contains_eq_false_iff.1 h), t.keys_nodup⟩ }
  else
    t

@[simp]
theorem get?_empty (key : α) : (empty : Table α β).get? key = none :=
  rfl

/-- An insertion changes the answer for its own key only, and only if there was none. -/
theorem get?_insertNew (t : Table α β) (key key' : α) (value : β) :
    (t.insertNew key value).get? key' =
      if key' = key then some ((t.get? key).getD value) else t.get? key' := by
  unfold insertNew
  split
  · rename_i h
    rw [contains_eq_false_iff] at h
    by_cases hkey : key' = key
    · rw [if_pos hkey, h]
      simp [hkey, get?]
    · have hkey' : key ≠ key' := fun heq => hkey heq.symm
      simp [hkey, hkey', get?]
  · rename_i h
    by_cases hkey : key' = key
    · subst hkey
      cases hget : t.get? key' with
      | none =>
          exact absurd (contains_eq_false_iff.2 hget) h
      | some v =>
          simp
    · simp [hkey]

theorem get?_insertNew_of_eq_none {t : Table α β} {key : α} (hfree : t.get? key = none)
    (key' : α) (value : β) :
    (t.insertNew key value).get? key' = if key' = key then some value else t.get? key' := by
  simp [get?_insertNew, hfree]

/-- An answer once given stays the answer. -/
theorem get?_insertNew_of_eq_some {t : Table α β} {key key' : α} {kept value : β}
    (hget : t.get? key' = some kept) : (t.insertNew key value).get? key' = some kept := by
  by_cases hkey : key' = key
  · simp [get?_insertNew, ← hkey, hget]
  · simpa [get?_insertNew, hkey] using hget

theorem insertNew_of_eq_some {t : Table α β} {key : α} {kept value : β}
    (h : t.get? key = some kept) : t.insertNew key value = t := by
  unfold insertNew
  rw [dif_neg]
  simp [contains, h]

end Table
end Recast
