import Mathlib.Data.List.Nodup
import Targeting.Proofs.Cache

/-!
# The cache as a list

Seen from outside, a cache is a list of entries in the order of their last use, the latest one first.
Saving puts an entry at the front and cuts the list off at the capacity; finding moves an entry to the
front; an entry that is found too old is taken out. The two maps of the cache and its counter serve to
do this fast, and nobody can tell the difference: the cache and the list find the same values and have
the same number of entries, whatever is asked of them and however time passes in between.

Both are *keepers*, that is, they offer the same operations. Two keepers are told apart by runs of
requests, so it is enough that every request keeps a relation between them.

## Main definitions

* `Keeper`, `Keeper.run` — what a cache offers, and what is seen of it in a run of requests
* `Shelf` — the list of entries in the order of their last use
* `Cache.Shows` — the entries of a cache in the order of their last use
* `Cache.Mirrors` — a cache and a shelf with the same entries in the same order

## Main results

* `Keeper.run_eq` — keepers that are related cannot be told apart
* `Cache.Shows.trim` — what is left when the oldest entries are dropped
* `Cache.run_eq_shelf` — a cache cannot be told apart from a shelf
-/

namespace Targeting.Platform

/-! ### Keepers -/

/-- What a cache offers. The time is passed along, and a look-up may change what is kept. -/
structure Keeper (σ κ ν : Type) where
  save : σ → Duration → κ → ν → σ
  lookup : σ → Duration → κ → Option ν × σ
  reset : σ → σ
  size : σ → Nat

namespace Keeper

/-- What happens to a keeper: it is asked for something, or time passes. -/
inductive Request (κ ν : Type) where
  | save (key : κ) (value : ν)
  | lookup (key : κ)
  | reset
  | advance (time : Duration)

variable {σ τ κ ν : Type}

/-- What a request finds, the time after it, and what is kept then. -/
def serve (k : Keeper σ κ ν) (now : Duration) (s : σ) :
    Request κ ν → Option ν × Duration × σ
  | .save key value => (none, now, k.save s now key value)
  | .lookup key => ((k.lookup s now key).1, now, (k.lookup s now key).2)
  | .reset => (none, now, k.reset s)
  | .advance time => (none, now.add time, s)

/-- What is seen in a run of requests: what each one finds, and the number of entries after it. -/
def run (k : Keeper σ κ ν) (now : Duration) (s : σ) :
    List (Request κ ν) → List (Option ν × Nat)
  | [] => []
  | request :: requests =>
    let (found, now, s) := k.serve now s request
    (found, k.size s) :: k.run now s requests

/-- Two keepers are related: related states have the same size, and every operation gives the same
result on them and leaves related states behind. -/
structure Related (k : Keeper σ κ ν) (l : Keeper τ κ ν) (R : σ → τ → Prop) : Prop where
  size : ∀ {s t}, R s t → k.size s = l.size t
  save : ∀ {s t} (now key value), R s t → R (k.save s now key value) (l.save t now key value)
  lookup : ∀ {s t} (now key), R s t →
    (k.lookup s now key).1 = (l.lookup t now key).1 ∧
      R (k.lookup s now key).2 (l.lookup t now key).2
  reset : ∀ {s t}, R s t → R (k.reset s) (l.reset t)

variable {k : Keeper σ κ ν} {l : Keeper τ κ ν} {R : σ → τ → Prop} {s : σ} {t : τ}

theorem Related.serve (h : Related k l R) (related : R s t) (now : Duration)
    (request : Request κ ν) :
    (k.serve now s request).1 = (l.serve now t request).1 ∧
      (k.serve now s request).2.1 = (l.serve now t request).2.1 ∧
      R (k.serve now s request).2.2 (l.serve now t request).2.2 := by
  cases request with
  | save key value => exact ⟨rfl, rfl, h.save now key value related⟩
  | lookup key => exact ⟨(h.lookup now key related).1, rfl, (h.lookup now key related).2⟩
  | reset => exact ⟨rfl, rfl, h.reset related⟩
  | advance time => exact ⟨rfl, rfl, related⟩

/-- Keepers that are related cannot be told apart. -/
theorem run_eq (h : Related k l R) (related : R s t) (now : Duration)
    (requests : List (Request κ ν)) : k.run now s requests = l.run now t requests := by
  induction requests generalizing now s t with
  | nil => rfl
  | cons request requests ih =>
    obtain ⟨found, later, after⟩ := h.serve related now request
    simp only [run]
    rw [found, h.size after, later, ih after]

end Keeper

/-! ### Shelves -/

/-- What stands on a shelf: a value under a key, and the time when it was saved. -/
structure Shelf.Item (κ ν : Type) where
  key : κ
  value : ν
  savedAt : Duration

/-- Items in the order of their last use, the latest one first. -/
structure Shelf (κ ν : Type) where
  capacity : Nat
  timeout : Option Duration
  items : List (Shelf.Item κ ν) := []

namespace Shelf

variable {κ ν : Type} [DecidableEq κ]

/-- Whether an item is younger than the timeout; without a timeout it always is. -/
def isFresh (s : Shelf κ ν) (now : Duration) (item : Item κ ν) : Bool :=
  s.timeout.all fun timeout =>
    now.nanoseconds - item.savedAt.nanoseconds < timeout.nanoseconds

/-- The items under other keys. -/
def others (s : Shelf κ ν) (key : κ) : List (Item κ ν) := s.items.filter (·.key ≠ key)

theorem length_others_lt {s : Shelf κ ν} {item : Item κ ν} (member : item ∈ s.items) :
    (s.others item.key).length < s.items.length :=
  List.length_filter_lt_length_iff_exists.mpr ⟨item, member, by simp⟩

/-- Puts an item at the front, and cuts the shelf off at its capacity. -/
def save (s : Shelf κ ν) (now : Duration) (key : κ) (value : ν) : Shelf κ ν :=
  { s with items := (⟨key, value, now⟩ :: s.others key).take s.capacity }

/-- Finds an item that is young enough and moves it to the front, with the time when it was saved. One
that is too old is taken out. -/
def lookup (s : Shelf κ ν) (now : Duration) (key : κ) : Option ν × Shelf κ ν :=
  match s.items.find? (·.key = key) with
  | none => (none, s)
  | some item =>
    if s.isFresh now item then (some item.value, { s with items := item :: s.others key })
    else (none, { s with items := s.others key })

/-- The shelf as a keeper. -/
def keeper : Keeper (Shelf κ ν) κ ν where
  save := save
  lookup := lookup
  reset s := { s with items := [] }
  size s := s.items.length

/-- A shelf without room finds nothing and stays empty. -/
theorem run_of_no_room (timeout : Option Duration) (start : Duration)
    (requests : List (Keeper.Request κ ν)) :
    keeper.run start ({ capacity := 0, timeout } : Shelf κ ν) requests =
      requests.map fun _ => (none, 0) := by
  induction requests generalizing start with
  | nil => rfl
  | cons request requests ih =>
    rw [List.map_cons]
    cases request with
    | advance time => exact congrArg _ (ih (start.add time))
    | _ => exact congrArg _ (ih start)

end Shelf

namespace Cache

variable {κ ν : Type} [Ord κ] {c d : Cache κ ν} {now : Duration} {key : κ} {value : ν}
  {entry : Entry ν} {xs ys : List (κ × Entry ν)} {last : κ × Entry ν}

/-- The cache as a keeper. -/
def keeper : Keeper (Cache κ ν) κ ν where
  save := save
  lookup := lookup
  reset := reset
  size := size

/-! ### The entries in the order of their last use -/

/-- A list has the entries of a cache, and has them in the order of their last use. -/
structure Shows (c : Cache κ ν) (xs : List (κ × Entry ν)) : Prop where
  mem : ∀ key entry, (key, entry) ∈ xs ↔ c.entries[key]? = some entry
  recent : xs.Pairwise fun a b => b.2.use < a.2.use

namespace Shows

theorem nodup (h : c.Shows xs) : xs.Nodup := by
  refine h.recent.imp ?_
  rintro a b earlier rfl
  exact Nat.lt_irrefl _ earlier

theorem congr (h : c.Shows xs) (same : ∀ k : κ, d.entries[k]? = c.entries[k]?) : d.Shows xs where
  mem key entry := by rw [same, h.mem]
  recent := h.recent

/-- An empty cache has no entries to show. -/
theorem of_empty [Std.TransOrd κ] (entries : c.entries = ∅) : c.Shows [] where
  mem key entry := by simp [entries]
  recent := .nil

theorem find?_eq [DecidableEq κ] (h : c.Shows xs) (key : κ) :
    xs.find? (·.1 = key) = c.entries[key]?.map (key, ·) := by
  cases found : c.entries[key]? with
  | none =>
    refine List.find?_eq_none.mpr ?_
    rintro ⟨k, entry⟩ hx same
    obtain rfl := of_decide_eq_true same
    exact Option.some_ne_none entry (((h.mem k entry).mp hx).symm.trans found)
  | some entry =>
    -- There is one entry under the key, so it does not matter which one is found first.
    have member := (h.mem key entry).mpr found
    obtain ⟨⟨k, other⟩, first⟩ : ∃ x, xs.find? (·.1 = key) = some x :=
      Option.isSome_iff_exists.mp (List.find?_isSome.mpr ⟨_, member, decide_eq_true rfl⟩)
    have same := List.find?_some first
    obtain rfl : k = key := of_decide_eq_true same
    have held := (h.mem k other).mp (List.mem_of_find?_eq_some first)
    rw [first, Option.some.inj (held.symm.trans found)]
    rfl

/-- The last entry of the list is the one that is dropped. -/
theorem dropOldest? (h : c.Shows (ys ++ [last])) (coherent : c.Coherent) :
    c.dropOldest? = some (c.remove last.1) := by
  obtain ⟨key, entry⟩ := last
  have held := (h.mem key entry).mp (List.mem_append_right _ List.mem_cons_self)
  have number := coherent.getElem?_use held
  have smallest : c.recency.minKey? = some entry.use := by
    refine Std.TreeMap.minKey?_eq_some_iff_mem_and_forall.mpr ⟨mem_iff_exists.mpr ⟨key, number⟩, ?_⟩
    intro use used
    obtain ⟨k, hk⟩ := mem_iff_exists.mp used
    obtain ⟨other, found, rfl⟩ := (coherent.linked use k).mp hk
    refine Nat.isLE_compare.mpr ?_
    -- Any other number belongs to an entry that stands before the last one.
    rcases List.mem_append.mp ((h.mem k other).mpr found) with before | same
    · exact Nat.le_of_lt ((List.pairwise_append.mp h.recent).2.2 _ before _ List.mem_cons_self)
    · obtain ⟨-, rfl⟩ := Prod.mk.inj (List.mem_singleton.mp same)
      exact Nat.le_refl _
  rw [coherent.dropOldest?_eq, smallest, Option.bind_some, number, Option.map_some]

section Lawful

variable [Std.TransOrd κ] [Std.LawfulEqOrd κ]

theorem size_eq (h : c.Shows xs) : c.size = xs.length := by
  have distinct : c.entries.toList.Nodup := by
    refine Std.TreeMap.ordered_keys_toList.imp ?_
    rintro a b before rfl
    exact absurd (Std.ReflOrd.compare_self.symm.trans before) (by decide)
  have same : xs.Perm c.entries.toList := by
    rw [List.perm_ext_iff_of_nodup h.nodup distinct]
    rintro ⟨key, entry⟩
    rw [h.mem, Std.TreeMap.mem_toList_iff_getElem?_eq_some]
  rw [same.length_eq, Std.TreeMap.length_toList, size]

theorem add (h : c.Shows xs) (coherent : c.Coherent) (absent : c.entries[key]? = none)
    (now : Duration) (value : ν) :
    (c.add now key value).Shows ((key, ⟨value, now, c.uses + 1⟩) :: xs) where
  mem k entry := by
    rw [List.mem_cons, h.mem]
    by_cases same : k = key
    · subst same
      rw [getElem?_add_self, absent]
      simp [eq_comm]
    · rw [getElem?_add_of_ne same]
      simp [same]
  recent := by
    -- The number that is given out is ahead of all others.
    refine List.pairwise_cons.mpr ⟨?_, h.recent⟩
    rintro ⟨k, entry⟩ hx
    exact Nat.lt_succ_of_le (coherent.used k entry ((h.mem k entry).mp hx))

theorem remove_last (h : c.Shows (ys ++ [last])) : (c.remove last.1).Shows ys where
  mem k entry := by
    have split := h.mem k entry
    rw [List.mem_append, List.mem_singleton] at split
    rw [getElem?_remove_eq_some_iff, ← split]
    constructor
    · -- An entry under the key of the last one would be the last one, which is older than itself.
      intro before
      refine ⟨?_, .inl before⟩
      rintro rfl
      have held := (h.mem last.1 entry).mp (List.mem_append_left _ before)
      have held' := (h.mem last.1 last.2).mp (List.mem_append_right _ List.mem_cons_self)
      have older := (List.pairwise_append.mp h.recent).2.2 _ before _ List.mem_cons_self
      rw [Option.some.inj (held.symm.trans held')] at older
      exact Nat.lt_irrefl _ older
    · rintro ⟨ne, before | rfl⟩
      · exact before
      · exact absurd rfl ne
  recent := (List.pairwise_append.mp h.recent).1

/-- What is left when the oldest entries are dropped: as many from the front as there is room for. -/
theorem trim (h : c.Shows xs) (coherent : c.Coherent) {fuel : Nat}
    (enough : xs.length ≤ c.capacity + fuel) : (c.trim fuel).Shows (xs.take c.capacity) := by
  induction fuel generalizing c xs with
  | zero =>
    rw [Nat.add_zero] at enough
    rwa [List.take_of_length_le enough]
  | succ fuel ih =>
    unfold Cache.trim
    rw [h.size_eq]
    split
    · next many =>
      -- There are too many entries, so there is a last one.
      obtain rfl | ⟨ys, last, rfl⟩ := List.eq_nil_or_concat xs
      · exact absurd many (Nat.not_lt_zero _)
      rw [List.concat_eq_append] at h many enough ⊢
      rw [List.length_append, List.length_singleton] at many enough
      have dropped := ih h.remove_last (coherent.remove last.1)
        (by rw [remove_capacity]; omega)
      rw [h.dropOldest? coherent, List.take_append_of_le_length (Nat.le_of_lt_succ many)]
      rwa [remove_capacity] at dropped
    · next few => rwa [List.take_of_length_le (Nat.le_of_not_lt few)]

variable [DecidableEq κ]

theorem remove (h : c.Shows xs) (key : κ) : (c.remove key).Shows (xs.filter (·.1 ≠ key)) where
  mem k entry := by
    rw [List.mem_filter, h.mem, getElem?_remove_eq_some_iff, and_comm]
    simp
  recent := h.recent.filter _

/-- Touching an entry is removing it and adding it again. -/
theorem touch (h : c.Shows xs) (coherent : c.Coherent) (found : c.entries[key]? = some entry) :
    (c.touch key entry).Shows
      ((key, { entry with use := c.uses + 1 }) :: xs.filter (·.1 ≠ key)) := by
  have again := (h.remove key).add (coherent.remove key) (getElem?_remove_self c key)
    entry.savedAt entry.value
  rw [remove_uses] at again
  refine again.congr fun k => ?_
  by_cases same : k = key
  · subst same
    rw [getElem?_touch_self, getElem?_add_self, remove_uses]
  · rw [getElem?_touch_of_ne same, getElem?_add_of_ne same, remove_of_some found]
    exact (getElem?_erase_of_ne same).symm

end Lawful

end Shows

/-! ### The timeout -/

section Timeout

variable (c)

@[simp] theorem remove_timeout (key : κ) : (c.remove key).timeout = c.timeout := by
  unfold remove
  split <;> rfl

theorem trim_timeout (fuel : Nat) : (c.trim fuel).timeout = c.timeout := by
  obtain ⟨entries, recency, same⟩ := exists_trim_eq c fuel
  rw [same]

@[simp] theorem save_timeout (now : Duration) (key : κ) (value : ν) :
    (c.save now key value).timeout = c.timeout := by
  unfold save
  split
  · rfl
  · exact (trim_timeout ..).trans (remove_timeout c key)

end Timeout

/-! ### Cache and shelf -/

/-- What an entry of the cache is on a shelf. -/
def toItem (x : κ × Entry ν) : Shelf.Item κ ν := ⟨x.1, x.2.value, x.2.savedAt⟩

omit [Ord κ] in
theorem others_eq [DecidableEq κ] {s : Shelf κ ν} (items : s.items = xs.map toItem) (key : κ) :
    s.others key = (xs.filter (·.1 ≠ key)).map toItem := by
  rw [Shelf.others, items, List.filter_map]
  rfl

/-- A cache and a shelf have the same limits and the same entries in the same order. -/
structure Mirrors (c : Cache κ ν) (s : Shelf κ ν) : Prop where
  coherent : c.Coherent
  capacity : s.capacity = c.capacity
  timeout : s.timeout = c.timeout
  bounded : s.items.length ≤ s.capacity
  shown : ∃ xs, c.Shows xs ∧ s.items = xs.map toItem

namespace Mirrors

variable {s : Shelf κ ν}

theorem reset [Std.TransOrd κ] (h : c.Mirrors s) : c.reset.Mirrors { s with items := [] } where
  coherent := .reset c
  capacity := h.capacity
  timeout := h.timeout
  bounded := Nat.zero_le _
  shown := ⟨[], .of_empty rfl, rfl⟩

/-- At first both are empty. -/
theorem initial [Std.TransOrd κ] (capacity : Nat) (timeout : Option Duration) :
    Mirrors ({ capacity, timeout } : Cache κ ν) { capacity, timeout } where
  coherent := .of_empty rfl rfl
  capacity := rfl
  timeout := rfl
  bounded := Nat.zero_le _
  shown := ⟨[], .of_empty rfl, rfl⟩

theorem size_eq [Std.TransOrd κ] [Std.LawfulEqOrd κ] (h : c.Mirrors s) :
    c.size = s.items.length := by
  obtain ⟨xs, shows, items⟩ := h.shown
  rw [shows.size_eq, items, List.length_map]

theorem isFresh_toItem (h : c.Mirrors s) (now : Duration) (x : κ × Entry ν) :
    s.isFresh now (toItem x) = !c.isExpired now x.2 := by
  rw [Shelf.isFresh, isExpired, h.timeout]
  cases c.timeout with
  | none => rfl
  | some timeout =>
    show decide (_ < timeout.nanoseconds) = !decide (timeout.nanoseconds ≤ _)
    rw [← decide_not]
    exact decide_eq_decide.mpr Nat.not_le.symm

variable [DecidableEq κ]

theorem find?_eq (shows : c.Shows xs) (items : s.items = xs.map toItem) (key : κ) :
    s.items.find? (·.key = key) = c.entries[key]?.map fun entry => toItem (key, entry) := by
  have found := shows.find?_eq key
  rw [items, List.find?_map]
  show (xs.find? (·.1 = key)).map toItem = _
  rw [found, Option.map_map]
  rfl

variable [Std.TransOrd κ] [Std.LawfulEqOrd κ]

theorem save (h : c.Mirrors s) (now : Duration) (key : κ) (value : ν) :
    (c.save now key value).Mirrors (s.save now key value) := by
  obtain ⟨xs, shows, items⟩ := h.shown
  refine ⟨h.coherent.save now key value, ?_, ?_, List.length_take_le .., ?_⟩
  · rw [save_capacity]
    exact h.capacity
  · rw [save_timeout]
    exact h.timeout
  · refine ⟨((key, ⟨value, now, c.uses + 1⟩) :: xs.filter (·.1 ≠ key)).take c.capacity, ?_, ?_⟩
    · by_cases room : c.capacity = 0
      · -- Without room nothing is saved, and nothing is there either.
        have none : xs = [] := by
          have bounded := h.bounded
          rw [items, List.length_map, h.capacity, room] at bounded
          exact List.length_eq_zero_iff.mp (Nat.le_zero.mp bounded)
        rw [Cache.save, if_pos room, room, List.take_zero, ← none]
        exact shows
      · have coherent := h.coherent.remove key
        have absent := getElem?_remove_self c key
        have added := (shows.remove key).add coherent absent now value
        have trimmed := added.trim (coherent.add absent now value)
          (Nat.le_trans (Nat.le_of_eq added.size_eq.symm) (Nat.le_add_left _ _))
        have same : ((c.remove key).add now key value).capacity = c.capacity :=
          remove_capacity c key
        rw [remove_uses, same] at trimmed
        rw [Cache.save, if_neg room]
        exact trimmed
    · rw [Shelf.save, others_eq items, h.capacity, List.map_take]
      rfl

theorem lookup (h : c.Mirrors s) (now : Duration) (key : κ) :
    (c.lookup now key).1 = (s.lookup now key).1 ∧
      (c.lookup now key).2.Mirrors (s.lookup now key).2 := by
  obtain ⟨xs, shows, items⟩ := h.shown
  have search := find?_eq shows items key
  have fewer : (s.others key).length ≤ s.capacity :=
    Nat.le_trans (List.length_filter_le ..) h.bounded
  cases found : c.entries[key]? with
  | none =>
    rw [found] at search
    rw [lookup_of_none found, Shelf.lookup, search]
    exact ⟨rfl, h⟩
  | some entry =>
    rw [found] at search
    rw [lookup_of_some found, Shelf.lookup, search]
    simp only [Option.map_some, h.isFresh_toItem]
    cases expired : c.isExpired now entry with
    | true =>
      refine ⟨rfl, h.coherent.remove key, ?_, ?_, fewer, _, shows.remove key, others_eq items key⟩
      · exact h.capacity.trans (remove_capacity c key).symm
      · exact h.timeout.trans (remove_timeout c key).symm
    | false =>
      refine ⟨rfl, h.coherent.touch found, h.capacity, h.timeout, ?_, _,
        shows.touch h.coherent found, ?_⟩
      · -- The item that moves to the front has left its place behind.
        have member : toItem (key, entry) ∈ s.items := List.mem_of_find?_eq_some search
        exact Nat.le_trans (Shelf.length_others_lt member) h.bounded
      · rw [List.map_cons, ← others_eq items]
        rfl

end Mirrors

section

variable [DecidableEq κ] [Std.TransOrd κ] [Std.LawfulEqOrd κ]

theorem related_shelf :
    Keeper.Related (keeper : Keeper (Cache κ ν) κ ν) Shelf.keeper Mirrors where
  size h := h.size_eq
  save now key value h := h.save now key value
  lookup now key h := h.lookup now key
  reset h := h.reset

end

/-- Whatever is asked of a cache and however time passes in between, every look-up finds what it finds
on a shelf of the same capacity with the same timeout, and the number of entries is always the same.
Without room there are never any entries. -/
theorem run_eq_shelf [DecidableEq κ] [Std.TransOrd κ] [Std.LawfulEqOrd κ] (capacity : Nat)
    (timeout : Option Duration) (start : Duration) (requests : List (Keeper.Request κ ν)) :
    keeper.run start ({ capacity, timeout } : Cache κ ν) requests =
        Shelf.keeper.run start { capacity, timeout } requests ∧
      keeper.run start ({ capacity := 0, timeout } : Cache κ ν) requests =
        requests.map fun _ => (none, 0) := by
  refine ⟨Keeper.run_eq related_shelf (.initial capacity timeout) start requests, ?_⟩
  rw [← Shelf.run_of_no_room timeout start]
  exact Keeper.run_eq related_shelf (.initial 0 timeout) start requests

/-- The number that was looked up stays when there is no room for a third one, and it is found until it is
too old. -/
theorem run_eq_shelf_two_places :
    keeper.run .none ({ capacity := 2, timeout := some ⟨10⟩ } : Cache Nat String)
        [.save 1 "a", .save 2 "b", .advance ⟨9⟩, .lookup 1, .save 3 "c", .lookup 2, .lookup 1,
          .advance ⟨1⟩, .lookup 1] =
      [(none, 1), (none, 2), (none, 2), (some "a", 2), (none, 2), (none, 2), (some "a", 2),
        (none, 2), (none, 1)] := by
  rw [(run_eq_shelf 2 (some ⟨10⟩) .none _).1]
  decide

end Cache

end Targeting.Platform
