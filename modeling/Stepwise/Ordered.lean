/-!
# Insertion-ordered maps

A map that keeps its keys in the order in which they first came in. Giving a
key another value leaves the key at its place. The keys are distinct by type,
so whatever is listed for a map lists every key once.

## Main results

* `lookup_update`, `lookup_update_ne`: updating is a change at one key.
* `update_update`, `modify_update`: several changes at a key are one.
* `keys_update`: the keys stay where they are, and a new one comes last.
* `ofList_entries`: a map is made of its entries.
-/

namespace Stepwise

/-- A map with its keys in the order in which they came in. -/
structure Ordered (κ α : Type) where
  entries : List (κ × α)
  nodup : (entries.map Prod.fst).Nodup

namespace Ordered

variable {κ α : Type}

/-- The map without keys. -/
def empty : Ordered κ α := ⟨[], List.nodup_nil⟩

/-- The keys, in order. -/
def keys (m : Ordered κ α) : List κ := m.entries.map Prod.fst

/-- Whether there are no keys. -/
def isEmpty (m : Ordered κ α) : Bool := m.entries.isEmpty

theorem eq_of_entries {m m' : Ordered κ α} (h : m.entries = m'.entries) : m = m' := by
  obtain ⟨entries, _⟩ := m
  obtain ⟨_, _⟩ := m'
  cases h
  rfl

variable [DecidableEq κ]

/-- Entries with the value of one key replaced, or added at the end. -/
def updateEntries (key : κ) (f : Option α → α) : List (κ × α) → List (κ × α)
  | [] => [(key, f none)]
  | (k, a) :: rest =>
      if k = key then (k, f (some a)) :: rest else (k, a) :: updateEntries key f rest

/-- The value of a key among entries. -/
def lookupEntries (key : κ) : List (κ × α) → Option α
  | [] => none
  | (k, a) :: rest => if k = key then some a else lookupEntries key rest

private theorem keys_updateEntries (key : κ) (f : Option α → α) (entries : List (κ × α)) :
    (updateEntries key f entries).map Prod.fst =
      if key ∈ entries.map Prod.fst then entries.map Prod.fst
      else entries.map Prod.fst ++ [key] := by
  induction entries with
  | nil => simp [updateEntries]
  | cons entry rest ih =>
      obtain ⟨k, a⟩ := entry
      by_cases h : k = key
      · simp [updateEntries, h]
      · have h' : ¬ key = k := fun e => h e.symm
        simp only [updateEntries, h, if_false, List.map_cons, ih, List.mem_cons, h', false_or]
        split <;> simp

private theorem nodup_updateEntries (key : κ) (f : Option α → α) {entries : List (κ × α)}
    (h : (entries.map Prod.fst).Nodup) :
    ((updateEntries key f entries).map Prod.fst).Nodup := by
  rw [keys_updateEntries]
  split
  · exact h
  · rename_i absent
    rw [List.nodup_append]
    refine ⟨h, by simp, ?_⟩
    intro a ha b hb e
    simp only [List.mem_singleton] at hb
    exact absent (hb ▸ e ▸ ha)

variable (m : Ordered κ α)

/-- The map with a key's value, if any, replaced by what `f` makes of it. -/
def update (key : κ) (f : Option α → α) : Ordered κ α :=
  ⟨updateEntries key f m.entries, nodup_updateEntries key f m.nodup⟩

/-- The map with a value for a key. -/
def insert (key : κ) (a : α) : Ordered κ α := m.update key fun _ => a

/-- The value of a key. -/
def lookup (key : κ) : Option α := lookupEntries key m.entries

/-- The map of a list of keys and values; of several values the last one counts. -/
def ofList (entries : List (κ × α)) : Ordered κ α :=
  entries.foldl (fun m entry => m.insert entry.1 entry.2) empty

theorem keys_update (key : κ) (f : Option α → α) :
    (m.update key f).keys = if key ∈ m.keys then m.keys else m.keys ++ [key] :=
  keys_updateEntries key f m.entries

theorem lookup_update (key : κ) (f : Option α → α) :
    (m.update key f).lookup key = some (f (m.lookup key)) := by
  simp only [lookup, update]
  induction m.entries with
  | nil => simp [updateEntries, lookupEntries]
  | cons entry rest ih =>
      obtain ⟨k, a⟩ := entry
      by_cases h : k = key
      · simp [updateEntries, lookupEntries, h]
      · simp [updateEntries, lookupEntries, h, ih]

theorem lookup_update_ne {key other : κ} (f : Option α → α) (h : other ≠ key) :
    (m.update key f).lookup other = m.lookup other := by
  simp only [lookup, update]
  induction m.entries with
  | nil => simp [updateEntries, lookupEntries, Ne.symm h]
  | cons entry rest ih =>
      obtain ⟨k, a⟩ := entry
      by_cases hk : k = key
      · have : ¬ key = other := fun e => h e.symm
        simp [updateEntries, lookupEntries, hk, this]
      · simp only [updateEntries, hk, if_false, lookupEntries, ih]

private theorem updateEntries_congr {key : κ} {f g : Option α → α} {entries : List (κ × α)}
    (h : f (lookupEntries key entries) = g (lookupEntries key entries)) :
    updateEntries key f entries = updateEntries key g entries := by
  induction entries with
  | nil => simpa [updateEntries, lookupEntries] using h
  | cons entry rest ih =>
      obtain ⟨k, a⟩ := entry
      by_cases hk : k = key
      · simpa [updateEntries, lookupEntries, hk] using h
      · simp only [lookupEntries, hk, if_false] at h
        simp only [updateEntries, hk, if_false, ih h]

private theorem updateEntries_updateEntries (key : κ) (f g : Option α → α)
    (entries : List (κ × α)) : updateEntries key g (updateEntries key f entries) =
      updateEntries key (fun a => g (some (f a))) entries := by
  induction entries with
  | nil => simp [updateEntries]
  | cons entry rest ih =>
      obtain ⟨k, a⟩ := entry
      by_cases h : k = key
      · simp [updateEntries, h]
      · simp only [updateEntries, h, if_false, ih]

/-- Only what is made of the value at hand counts. -/
theorem update_congr {key : κ} {f g : Option α → α} (h : f (m.lookup key) = g (m.lookup key)) :
    m.update key f = m.update key g :=
  eq_of_entries (updateEntries_congr h)

/-- Two updates of a key are one. -/
theorem update_update (key : κ) (f g : Option α → α) :
    (m.update key f).update key g = m.update key fun a => g (some (f a)) :=
  eq_of_entries (updateEntries_updateEntries key f g m.entries)

private theorem updateEntries_of_absent {key : κ} (f : Option α → α) {entries : List (κ × α)}
    (h : key ∉ entries.map Prod.fst) : updateEntries key f entries = entries ++ [(key, f none)] := by
  induction entries with
  | nil => rfl
  | cons entry rest ih =>
      obtain ⟨k, a⟩ := entry
      simp only [List.map_cons, List.mem_cons, not_or] at h
      simp [updateEntries, Ne.symm h.1, ih h.2]

private theorem entries_foldl_insert (entries : List (κ × α)) (m : Ordered κ α)
    (h : (entries.map Prod.fst).Nodup) (habsent : ∀ key ∈ entries.map Prod.fst, key ∉ m.keys) :
    (entries.foldl (fun m entry => m.insert entry.1 entry.2) m).entries = m.entries ++ entries := by
  induction entries generalizing m with
  | nil => simp
  | cons entry rest ih =>
      simp only [List.map_cons, List.nodup_cons] at h
      have hnew : entry.1 ∉ m.keys := habsent entry.1 (by simp)
      have hentries : (m.insert entry.1 entry.2).entries = m.entries ++ [entry] :=
        updateEntries_of_absent _ hnew
      have hrest : ∀ key ∈ rest.map Prod.fst, key ∉ (m.insert entry.1 entry.2).keys := by
        intro key hkey hmem
        rw [insert, keys_update, if_neg hnew, List.mem_append, List.mem_singleton] at hmem
        rcases hmem with hold | rfl
        · exact habsent key (List.mem_cons_of_mem _ hkey) hold
        · exact h.1 hkey
      rw [List.foldl_cons, ih _ h.2 hrest, hentries, List.append_assoc]
      rfl

/-- A map is made of its entries. -/
theorem ofList_entries : ofList m.entries = m := by
  have hentries := entries_foldl_insert m.entries empty m.nodup (by simp [keys, empty])
  exact eq_of_entries hentries

/-- The map with the value of a key changed, if it has one. -/
def modify (key : κ) (f : α → α) : Ordered κ α :=
  match m.lookup key with
  | some a => m.insert key (f a)
  | none => m

/-- A value that has just come in may as well be changed before. -/
theorem modify_update (key : κ) (f : Option α → α) (g : α → α) :
    (m.update key f).modify key g = m.update key fun a => g (f a) := by
  unfold modify
  rw [lookup_update]
  calc (m.update key f).insert key (g (f (m.lookup key)))
      = m.update key (fun _ => g (f (m.lookup key))) := m.update_update key f _
    _ = m.update key fun a => g (f a) := m.update_congr rfl

end Ordered

end Stepwise
