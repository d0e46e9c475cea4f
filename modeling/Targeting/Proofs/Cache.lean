import Targeting.Platform.Cache

/-!
# What the cache holds

The two maps of a cache describe the same entries: a number of a use leads to the key that was used,
and the entry under this key carries the number. Every operation keeps this, so the entry that was
not used for the longest time is found by the smallest number, and what is saved is never what is
dropped.

## Main definitions

* `Cache.Coherent` — the two maps of a cache describe the same entries
* `Cache.Holds` — a value is held under a key

## Main results

* `Cache.Coherent.save`, `Cache.Coherent.lookup`, `Cache.Coherent.reset` — the operations keep a
  cache coherent
* `Cache.Coherent.holds_save` — what is saved is held
* `Cache.Holds.of_save`, `Cache.Holds.of_lookup` — nothing else comes into the cache
-/

namespace Targeting.Platform.Cache

variable {κ ν : Type} [Ord κ] {c d : Cache κ ν} {now : Duration} {key k : κ} {value v : ν}
  {entry : Entry ν} {use : Nat}

/-- The two maps of a cache describe the same entries, and no number of a use is ahead of the
counter. -/
structure Coherent (c : Cache κ ν) : Prop where
  linked : ∀ (use : Nat) (key : κ), c.recency[use]? = some key ↔
    ∃ entry : Entry ν, c.entries[key]? = some entry ∧ entry.use = use
  used : ∀ (key : κ) (entry : Entry ν), c.entries[key]? = some entry → entry.use ≤ c.uses
  sizes : c.recency.size = c.entries.size

/-! ### Maps -/

section Maps

variable {α β : Type} [Ord α] [Std.TransOrd α] [Std.LawfulEqOrd α] {t : Std.TreeMap α β} {a b : α}

theorem getElem?_insert_of_ne (ne : b ≠ a) (v : β) : (t.insert a v)[b]? = t[b]? := by
  rw [Std.TreeMap.getElem?_insert, if_neg]
  exact fun same => ne (Std.LawfulEqOrd.eq_of_compare same).symm

theorem getElem?_erase_of_ne (ne : b ≠ a) : (t.erase a)[b]? = t[b]? := by
  rw [Std.TreeMap.getElem?_erase, if_neg]
  exact fun same => ne (Std.LawfulEqOrd.eq_of_compare same).symm

theorem getElem?_erase_eq_some_iff {v : β} : (t.erase a)[b]? = some v ↔ b ≠ a ∧ t[b]? = some v := by
  by_cases same : b = a
  · simp [same]
  · simp [same, getElem?_erase_of_ne same]

omit [Std.LawfulEqOrd α] in
theorem size_erase_of_some {v : β} (held : t[a]? = some v) : (t.erase a).size = t.size - 1 := by
  rw [Std.TreeMap.size_erase, Std.TreeMap.contains_eq_isSome_getElem?, held, Option.isSome_some,
    if_pos rfl]

omit [Std.LawfulEqOrd α] in
theorem size_insert_of_some {v : β} (held : t[a]? = some v) (w : β) :
    (t.insert a w).size = t.size := by
  rw [Std.TreeMap.size_insert, Std.TreeMap.contains_eq_isSome_getElem?, held, Option.isSome_some,
    if_pos rfl]

omit [Std.LawfulEqOrd α] in
theorem size_insert_of_none (absent : t[a]? = none) (v : β) :
    (t.insert a v).size = t.size + 1 := by
  rw [Std.TreeMap.size_insert, Std.TreeMap.contains_eq_isSome_getElem?, absent, Option.isSome_none,
    if_neg Bool.false_ne_true]

omit [Std.LawfulEqOrd α] in
theorem size_pos_of_some {v : β} (held : t[a]? = some v) : 0 < t.size := by
  refine Nat.pos_of_ne_zero fun zero => ?_
  have empty : t.isEmpty = true := by
    rw [Std.TreeMap.isEmpty_eq_size_eq_zero, zero, beq_self_eq_true]
  rw [Std.TreeMap.getElem?_of_isEmpty empty] at held
  exact Option.some_ne_none _ held.symm

omit [Std.LawfulEqOrd α] in
theorem mem_iff_exists : a ∈ t ↔ ∃ v, t[a]? = some v := by
  rw [Std.TreeMap.mem_iff_isSome_getElem?, Option.isSome_iff_exists]

omit [Std.LawfulEqOrd α] in
/-- It does not matter whether a value is replaced or erased first. -/
theorem size_insert_erase {v : β} (held : t[a]? = some v) (w : β) :
    ((t.erase a).insert a w).size = (t.insert a w).size := by
  rw [size_insert_of_none Std.TreeMap.getElem?_erase_self, size_insert_of_some held,
    size_erase_of_some held, Nat.sub_add_cancel (size_pos_of_some held)]

end Maps

/-! ### The operations -/

theorem remove_of_some (found : c.entries[key]? = some entry) :
    c.remove key = { c with
      entries := c.entries.erase key
      recency := c.recency.erase entry.use } := by
  rw [remove, Std.TreeMap.get?_eq_getElem?, found]

theorem remove_of_none (absent : c.entries[key]? = none) : c.remove key = c := by
  rw [remove, Std.TreeMap.get?_eq_getElem?, absent]

@[simp] theorem remove_uses (c : Cache κ ν) (key : κ) : (c.remove key).uses = c.uses := by
  unfold remove
  split <;> rfl

@[simp] theorem remove_capacity (c : Cache κ ν) (key : κ) :
    (c.remove key).capacity = c.capacity := by
  unfold remove
  split <;> rfl

section

variable [Std.TransOrd κ] [Std.LawfulEqOrd κ]

theorem getElem?_remove_eq_some_iff :
    (c.remove key).entries[k]? = some entry ↔ k ≠ key ∧ c.entries[k]? = some entry := by
  cases found : c.entries[key]? with
  | none =>
    rw [remove_of_none found]
    refine ⟨fun held => ⟨?_, held⟩, And.right⟩
    rintro rfl
    exact Option.some_ne_none _ (held.symm.trans found)
  | some old => rw [remove_of_some found, getElem?_erase_eq_some_iff]

theorem getElem?_remove_self (c : Cache κ ν) (key : κ) : (c.remove key).entries[key]? = none :=
  Option.eq_none_iff_forall_ne_some.mpr fun _ held => (getElem?_remove_eq_some_iff.mp held).1 rfl

omit [Std.LawfulEqOrd κ] in
theorem getElem?_add_self (c : Cache κ ν) (now : Duration) (key : κ) (value : ν) :
    (c.add now key value).entries[key]? = some ⟨value, now, c.uses + 1⟩ :=
  Std.TreeMap.getElem?_insert_self

theorem getElem?_add_of_ne (ne : k ≠ key) : (c.add now key value).entries[k]? = c.entries[k]? :=
  getElem?_insert_of_ne ne _

omit [Std.LawfulEqOrd κ] in
theorem getElem?_touch_self (c : Cache κ ν) (key : κ) (entry : Entry ν) :
    (c.touch key entry).entries[key]? = some { entry with use := c.uses + 1 } :=
  Std.TreeMap.getElem?_insert_self

theorem getElem?_touch_of_ne (ne : k ≠ key) : (c.touch key entry).entries[k]? = c.entries[k]? :=
  getElem?_insert_of_ne ne _

end

theorem lookup_of_none (absent : c.entries[key]? = none) : c.lookup now key = (none, c) := by
  rw [lookup, Std.TreeMap.get?_eq_getElem?, absent]

theorem lookup_of_some (found : c.entries[key]? = some entry) :
    c.lookup now key =
      if c.isExpired now entry then (none, c.remove key)
      else (some entry.value, c.touch key entry) := by
  rw [lookup, Std.TreeMap.get?_eq_getElem?, found]

/-! ### Coherence -/

namespace Coherent

section

variable [Std.TransOrd κ]

/-- An empty cache is coherent. -/
theorem of_empty (entries : c.entries = ∅) (recency : c.recency = ∅) : c.Coherent where
  linked use key := by simp [entries, recency]
  used key entry h := by simp [entries] at h
  sizes := by simp [entries, recency]

theorem reset (c : Cache κ ν) : c.reset.Coherent := of_empty rfl rfl

end

theorem getElem?_use (h : c.Coherent) (found : c.entries[key]? = some entry) :
    c.recency[entry.use]? = some key :=
  (h.linked entry.use key).mpr ⟨entry, found, rfl⟩

variable [Std.TransOrd κ] [Std.LawfulEqOrd κ] (h : c.Coherent)
include h

theorem remove (key : κ) : (c.remove key).Coherent := by
  cases found : c.entries[key]? with
  | none => rwa [remove_of_none found]
  | some old =>
    have number := h.getElem?_use found
    refine ⟨fun use k => ?_, fun k entry held => ?_, ?_⟩
    · -- Of two keys at most one has a given number, so the number goes exactly if the key does.
      have erased : (c.remove key).recency[use]? = some k ↔
          use ≠ old.use ∧ c.recency[use]? = some k := by
        rw [remove_of_some found, getElem?_erase_eq_some_iff]
      rw [erased, h.linked]
      simp only [getElem?_remove_eq_some_iff]
      constructor
      · rintro ⟨ne, entry, held, rfl⟩
        refine ⟨entry, ⟨?_, held⟩, rfl⟩
        rintro rfl
        obtain rfl := Option.some.inj (held.symm.trans found)
        exact ne rfl
      · rintro ⟨entry, ⟨ne, held⟩, rfl⟩
        refine ⟨fun same => ne ?_, entry, held, rfl⟩
        exact Option.some.inj ((h.getElem?_use held).symm.trans (same ▸ number))
    · rw [remove_uses]
      exact h.used k entry (getElem?_remove_eq_some_iff.mp held).2
    · -- Both maps shrink by one.
      rw [remove_of_some found]
      exact (size_erase_of_some number).trans
        ((congrArg (· - 1) h.sizes).trans (size_erase_of_some found).symm)

omit [Std.TransOrd κ] [Std.LawfulEqOrd κ] in
/-- The next number of a use is new. -/
theorem getElem?_succ_uses : c.recency[c.uses + 1]? = none := by
  refine Option.eq_none_iff_forall_ne_some.mpr fun key held => ?_
  obtain ⟨entry, found, number⟩ := (h.linked _ _).mp held
  exact Nat.not_succ_le_self _ (number ▸ h.used key entry found)

theorem add (absent : c.entries[key]? = none) (now : Duration) (value : ν) :
    (c.add now key value).Coherent := by
  -- The number given out is ahead of all that are in use, so it is linked with the new key alone.
  have fresh {k : κ} {entry : Entry ν} (held : c.entries[k]? = some entry) :
      entry.use ≠ c.uses + 1 :=
    fun same => Nat.not_succ_le_self _ (same ▸ h.used k entry held)
  have mine := getElem?_add_self c now key value
  refine ⟨fun use k => ?_, fun k entry held => ?_, ?_⟩
  · by_cases newest : use = c.uses + 1
    · have number : (c.add now key value).recency[use]? = some key :=
        newest ▸ Std.TreeMap.getElem?_insert_self
      rw [number, Option.some_inj]
      constructor
      · rintro rfl
        exact ⟨_, mine, newest.symm⟩
      · rintro ⟨entry, held, number⟩
        refine Classical.byContradiction fun ne => ?_
        rw [getElem?_add_of_ne (Ne.symm ne)] at held
        exact fresh held (number.trans newest)
    · have number : (c.add now key value).recency[use]? = c.recency[use]? :=
        getElem?_insert_of_ne newest _
      rw [number, h.linked]
      by_cases same : k = key
      · subst same
        rw [absent, mine]
        simp [Ne.symm newest]
      · rw [getElem?_add_of_ne same]
  · by_cases same : k = key
    · subst same
      rw [← Option.some.inj (mine.symm.trans held)]
      exact Nat.le_refl _
    · rw [getElem?_add_of_ne same] at held
      exact Nat.le_succ_of_le (h.used k entry held)
  · -- Both maps grow by one, since neither the number nor the key was there.
    exact (size_insert_of_none h.getElem?_succ_uses key).trans
      ((congrArg (· + 1) h.sizes).trans (size_insert_of_none absent _).symm)

omit [Std.TransOrd κ] [Std.LawfulEqOrd κ] in
theorem congr (entries : ∀ k : κ, d.entries[k]? = c.entries[k]?)
    (size : d.entries.size = c.entries.size) (recency : d.recency = c.recency)
    (uses : d.uses = c.uses) : d.Coherent where
  linked use key := by rw [recency, entries, h.linked]
  used key entry found := uses ▸ h.used key entry (entries key ▸ found)
  sizes := by rw [recency, size, h.sizes]

/-- Touching an entry is removing it and adding it again. -/
theorem touch (found : c.entries[key]? = some entry) : (c.touch key entry).Coherent := by
  have again : ((c.remove key).add entry.savedAt key entry.value).Coherent :=
    (h.remove key).add (getElem?_remove_self c key) _ _
  -- The two maps differ in how they are built, but no look-up can tell them apart.
  refine again.congr (fun k => ?_) ?_ ?_ ?_
  · by_cases same : k = key
    · subst same
      rw [getElem?_touch_self, getElem?_add_self, remove_uses]
    · rw [getElem?_touch_of_ne same, getElem?_add_of_ne same, remove_of_some found]
      exact (getElem?_erase_of_ne same).symm
  · rw [remove_of_some found]
    exact (size_insert_of_some found _).trans
      ((size_insert_of_some found _).symm.trans (size_insert_erase found _).symm)
  · rw [remove_of_some found]
    rfl
  · rw [remove_of_some found]
    rfl

theorem lookup (now : Duration) (key : κ) : (c.lookup now key).2.Coherent := by
  cases found : c.entries[key]? with
  | none => rwa [lookup_of_none found]
  | some entry =>
    rw [lookup_of_some found]
    split
    · exact h.remove key
    · exact h.touch found

omit [Std.TransOrd κ] [Std.LawfulEqOrd κ] in
/-- The entry with the smallest number is dropped. -/
theorem dropOldest?_eq :
    c.dropOldest? = c.recency.minKey?.bind fun use => c.recency[use]?.map c.remove := by
  rw [dropOldest?]
  refine Option.bind_congr fun use _ => ?_
  rw [Std.TreeMap.get?_eq_getElem?]
  cases found : c.recency[use]? with
  | none => rfl
  | some key =>
    obtain ⟨entry, held, rfl⟩ := (h.linked use key).mp found
    rw [Option.map_some, Option.map_some, remove_of_some held]

omit [Std.TransOrd κ] [Std.LawfulEqOrd κ] in
/-- Of several entries, the one used last is not the one with the smallest number. -/
theorem exists_oldest (held : c.entries[key]? = some entry) (last : entry.use = c.uses)
    (several : 1 < c.size) :
    ∃ use k, k ≠ key ∧ c.recency.minKey? = some use ∧ c.recency[use]? = some k := by
  have number := last ▸ h.getElem?_use held
  -- Some number other than the last one is in use.
  obtain ⟨other, mem⟩ : ∃ other, other ∈ c.recency.erase c.uses := by
    refine Std.TreeMap.isEmpty_eq_false_iff_exists_mem.mp (Bool.eq_false_iff.mpr fun empty => ?_)
    have size : c.size - 1 = 0 := by
      rw [size, ← h.sizes, ← size_erase_of_some number]
      simpa [Std.TreeMap.isEmpty_eq_size_eq_zero] using empty
    omega
  obtain ⟨used, ho⟩ := mem_iff_exists.mp mem
  obtain ⟨ne, ho⟩ := getElem?_erase_eq_some_iff.mp ho
  obtain ⟨least, hl⟩ := Option.isSome_iff_exists.mp
    (Std.TreeMap.isSome_minKey?_of_mem (mem_iff_exists.mpr ⟨used, ho⟩))
  obtain ⟨mem, smallest⟩ := Std.TreeMap.minKey?_eq_some_iff_mem_and_forall.mp hl
  obtain ⟨k, hk⟩ := mem_iff_exists.mp mem
  refine ⟨least, k, ?_, hl, hk⟩
  -- The smallest number is below that of the last use, since there is another number below it.
  rintro rfl
  have below : least ≤ other := Nat.isLE_compare.mp (smallest other (mem_iff_exists.mpr ⟨used, ho⟩))
  obtain ⟨_, found, rfl⟩ := (h.linked other used).mp ho
  obtain ⟨_, again, rfl⟩ := (h.linked least k).mp hk
  obtain rfl := Option.some.inj (held.symm.trans again)
  exact ne (Nat.le_antisymm (h.used used _ found) (last ▸ below))

omit [Std.TransOrd κ] [Std.LawfulEqOrd κ] in
/-- Of several entries, the one used last is not dropped. -/
theorem exists_dropOldest? (held : c.entries[key]? = some entry) (last : entry.use = c.uses)
    (several : 1 < c.size) : ∃ k, k ≠ key ∧ c.dropOldest? = some (c.remove k) := by
  obtain ⟨use, k, ne, least, owner⟩ := h.exists_oldest held last several
  exact ⟨k, ne, by rw [h.dropOldest?_eq, least, Option.bind_some, owner, Option.map_some]⟩

omit [Std.TransOrd κ] [Std.LawfulEqOrd κ] in
/-- Dropping an entry is removing it. -/
theorem exists_eq_remove (drop : c.dropOldest? = some d) : ∃ k, d = c.remove k := by
  rw [h.dropOldest?_eq] at drop
  obtain ⟨use, -, drop⟩ := Option.bind_eq_some_iff.mp drop
  obtain ⟨k, -, rfl⟩ := Option.map_eq_some_iff.mp drop
  exact ⟨k, rfl⟩

theorem trim (fuel : Nat) : (c.trim fuel).Coherent := by
  induction fuel generalizing c with
  | zero => exact h
  | succ fuel ih =>
    unfold Cache.trim
    split
    · cases drop : c.dropOldest? with
      | none => exact h
      | some d =>
        obtain ⟨k, rfl⟩ := h.exists_eq_remove drop
        exact ih (h.remove k)
    · exact h

theorem of_getElem?_trim (fuel : Nat) (held : (c.trim fuel).entries[key]? = some entry) :
    c.entries[key]? = some entry := by
  induction fuel generalizing c with
  | zero => exact held
  | succ fuel ih =>
    unfold Cache.trim at held
    split at held
    · cases drop : c.dropOldest? with
      | none => rwa [drop] at held
      | some d =>
        obtain ⟨k, rfl⟩ := h.exists_eq_remove drop
        rw [drop] at held
        exact (getElem?_remove_eq_some_iff.mp (ih (h.remove k) held)).2
    · exact held

theorem getElem?_trim (fuel : Nat) (room : c.capacity ≠ 0) (held : c.entries[key]? = some entry)
    (last : entry.use = c.uses) : (c.trim fuel).entries[key]? = some entry := by
  -- The entry used last stays so, because a removal does not move the counter.
  induction fuel generalizing c with
  | zero => exact held
  | succ fuel ih =>
    unfold Cache.trim
    split
    · next many =>
      obtain ⟨k, ne, drop⟩ := h.exists_dropOldest? held last (by omega)
      rw [drop]
      refine ih (h.remove k) (by rwa [remove_capacity]) ?_ (by rwa [remove_uses])
      exact getElem?_remove_eq_some_iff.mpr ⟨Ne.symm ne, held⟩
    · exact held

theorem save (now : Duration) (key : κ) (value : ν) : (c.save now key value).Coherent := by
  unfold Cache.save
  split
  · exact h
  · exact ((h.remove key).add (getElem?_remove_self c key) now value).trim _

end Coherent

/-! ### The capacity -/

section Capacity

variable (c : Cache κ ν)

@[simp] theorem reset_capacity : c.reset.capacity = c.capacity := rfl

@[simp] theorem lookup_capacity (now : Duration) (key : κ) :
    (c.lookup now key).2.capacity = c.capacity := by
  cases found : c.entries[key]? with
  | none => rw [lookup_of_none found]
  | some entry =>
    rw [lookup_of_some found]
    split
    · exact remove_capacity c key
    · rfl

/-- Dropping entries changes the two maps and nothing else. -/
theorem exists_trim_eq (fuel : Nat) :
    ∃ entries recency, c.trim fuel = { c with entries, recency } := by
  induction fuel generalizing c with
  | zero => exact ⟨_, _, rfl⟩
  | succ fuel ih =>
    unfold trim
    split
    · cases drop : c.dropOldest? with
      | none => exact ⟨_, _, rfl⟩
      | some d =>
        obtain ⟨use, -, drop⟩ := Option.bind_eq_some_iff.mp drop
        obtain ⟨key, -, rfl⟩ := Option.map_eq_some_iff.mp drop
        exact ih _
    · exact ⟨_, _, rfl⟩

theorem trim_capacity (fuel : Nat) : (c.trim fuel).capacity = c.capacity := by
  obtain ⟨entries, recency, same⟩ := exists_trim_eq c fuel
  rw [same]

@[simp] theorem save_capacity (now : Duration) (key : κ) (value : ν) :
    (c.save now key value).capacity = c.capacity := by
  unfold save
  split
  · rfl
  · exact (trim_capacity ..).trans (remove_capacity c key)

end Capacity

/-! ### What is held -/

/-- A value is held under a key. -/
def Holds (c : Cache κ ν) (key : κ) (value : ν) : Prop :=
  ∃ entry : Entry ν, c.entries[key]? = some entry ∧ entry.value = value

theorem holds_of_lookup (found : (c.lookup now key).1 = some value) : c.Holds key value := by
  cases held : c.entries[key]? with
  | none =>
    rw [lookup_of_none held] at found
    exact absurd found.symm (Option.some_ne_none value)
  | some entry =>
    rw [lookup_of_some held] at found
    split at found
    · exact absurd found.symm (Option.some_ne_none value)
    · exact ⟨entry, held, Option.some.inj found⟩

theorem not_holds_reset [Std.TransOrd κ] : ¬ c.reset.Holds key value := by
  rintro ⟨entry, held, -⟩
  exact Option.some_ne_none entry (held.symm.trans Std.TreeMap.getElem?_emptyc)

namespace Holds

variable [Std.TransOrd κ] [Std.LawfulEqOrd κ]

/-- Looking something up brings nothing into the cache. -/
theorem of_lookup (h : (c.lookup now key).2.Holds k v) : c.Holds k v := by
  cases found : c.entries[key]? with
  | none => rwa [lookup_of_none found] at h
  | some entry =>
    rw [lookup_of_some found] at h
    obtain ⟨kept, held, rfl⟩ := h
    split at held
    · exact ⟨kept, (getElem?_remove_eq_some_iff.mp held).2, rfl⟩
    · -- A touched entry has a new number but its old value.
      by_cases same : k = key
      · subst same
        obtain rfl := Option.some.inj ((getElem?_touch_self ..).symm.trans held)
        exact ⟨entry, found, rfl⟩
      · exact ⟨kept, (getElem?_touch_of_ne same).symm.trans held, rfl⟩

/-- Saving brings nothing but the saved value into the cache. -/
theorem of_save (h : (c.save now key value).Holds k v) (coherent : c.Coherent)
    (room : c.capacity ≠ 0) : k = key ∧ v = value ∨ k ≠ key ∧ c.Holds k v := by
  rw [Cache.save, if_neg room] at h
  obtain ⟨entry, held, rfl⟩ := h
  have added := (coherent.remove key).add (getElem?_remove_self c key) now value
  replace held := added.of_getElem?_trim _ held
  by_cases same : k = key
  · subst same
    obtain rfl := Option.some.inj ((getElem?_add_self ..).symm.trans held)
    exact .inl ⟨rfl, rfl⟩
  · rw [getElem?_add_of_ne same] at held
    exact .inr ⟨same, entry, (getElem?_remove_eq_some_iff.mp held).2, rfl⟩

end Holds

theorem Coherent.holds_save [Std.TransOrd κ] [Std.LawfulEqOrd κ] (h : c.Coherent)
    (room : c.capacity ≠ 0) (now : Duration) (key : κ) (value : ν) :
    (c.save now key value).Holds key value := by
  rw [Cache.save, if_neg room]
  have added := (h.remove key).add (getElem?_remove_self c key) now value
  have roomy : ((c.remove key).add now key value).capacity ≠ 0 := by
    show (c.remove key).capacity ≠ 0
    rwa [remove_capacity]
  exact ⟨_, added.getElem?_trim _ roomy (getElem?_add_self ..) rfl, rfl⟩

end Targeting.Platform.Cache
