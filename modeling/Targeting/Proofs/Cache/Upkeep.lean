import Targeting.Proofs.Cache.Recency

/-!
# How the two maps are kept

A use of an entry changes three things one after another: the counter, the keys by the numbers of their
last use, and the entry itself. In between, the two maps of a cache do not fit together. Whatever is asked
of a cache, they do once it is done: each entry has a number of its own that the counter has reached, this
number leads to the key of the entry, and there are no more entries than places.

This is why nothing can go wrong on the way. A look-up looks for its entry twice, and it finds it again.
Saving makes room in rounds, and there is at most one: a place was free or one entry is too many, and then a
number is left to find it by, which is not the number of what was just saved.

## Main definitions

* `Keeper.after` — what is kept after a run of requests
* `Cache.WellKept` — how the two maps of a cache stand between two requests
* `Cache.MakesRoom` — the rounds in which entries are dropped
* `Cache.lookupInSteps` — a look-up with both of its looks

## Main results

* `Cache.MakesRoom.trim_eq` — the rounds are those of `Cache.trim`
* `Cache.Coherent.exists_makesRoom` — where one entry is too many, the one used last is not dropped
* `Cache.WellKept.exists_round` — saving makes room in at most one round and keeps what it saves
* `Cache.wellKept_after` — a cache is well kept after every run of requests
-/

namespace Targeting.Platform

namespace Keeper

variable {σ κ ν : Type}

/-- The time after a run of requests, and what is kept then. -/
def after (k : Keeper σ κ ν) (now : Duration) (s : σ) : List (Request κ ν) → Duration × σ
  | [] => (now, s)
  | request :: requests =>
    let (_, now, s) := k.serve now s request
    k.after now s requests

/-- What holds at the start and is kept by every request holds after a run. It may speak of the number of
requests. -/
theorem after_induction {k : Keeper σ κ ν} {motive : Nat → σ → Prop} {s : σ} (start : motive 0 s)
    (step : ∀ n now s request, motive n s → motive (n + 1) (k.serve now s request).2.2)
    (now : Duration) (requests : List (Request κ ν)) :
    motive requests.length (k.after now s requests).2 := by
  -- The run begins in the middle of another one, with any number of requests before it.
  suffices ∀ n s now, motive n s → motive (n + requests.length) (k.after now s requests).2 by
    simpa using this 0 s now start
  induction requests with
  | nil => exact fun n s now h => h
  | cons request requests ih =>
    intro n s now h
    have rest := ih (n + 1) _ (k.serve now s request).2.1 (step n now s request h)
    rwa [Nat.add_assoc, Nat.add_comm 1] at rest

end Keeper

namespace Cache

variable {κ ν : Type} [Ord κ] {c d e : Cache κ ν} {now : Duration} {key k : κ} {value : ν}
  {entry : Entry ν} {keys keys' : List κ}

/-- The two maps of a cache describe the same entries, of which no two have the same number, and there are
no more of them than places. -/
structure WellKept (c : Cache κ ν) : Prop extends Coherent c where
  apart : ∀ {j k : κ} {first second : Entry ν}, c.entries[j]? = some first →
    c.entries[k]? = some second → first.use = second.use → j = k
  bounded : c.size ≤ c.capacity

/-! ### Making room in rounds -/

/-- While there are more entries than places, the smallest number is taken out, and the entry under its key
with it. No round is without a number to take. -/
inductive MakesRoom : Cache κ ν → List κ → Cache κ ν → Prop
  | done {c : Cache κ ν} (enough : c.size ≤ c.capacity) : MakesRoom c [] c
  | drop {c d : Cache κ ν} {use : Nat} {key : κ} {keys : List κ} (many : c.capacity < c.size)
      (least : c.recency.minKey? = some use) (owner : c.recency[use]? = some key)
      (rest : MakesRoom { c with
        entries := c.entries.erase key
        recency := c.recency.erase use } keys d) : MakesRoom c (key :: keys) d

namespace MakesRoom

theorem size_le (h : MakesRoom c keys d) : d.size ≤ d.capacity := by
  induction h with
  | done enough => exact enough
  | drop _ _ _ _ ih => exact ih

/-- There is one way to make room. -/
theorem unique (h : MakesRoom c keys d) (h' : MakesRoom c keys' e) : keys' = keys ∧ e = d := by
  -- Each round is possible or not, and the smallest number and its key are given.
  induction h generalizing keys' with
  | done enough =>
    cases h' with
    | done => exact ⟨rfl, rfl⟩
    | drop many => exact absurd many (Nat.not_lt.mpr enough)
  | drop many least owner _ ih =>
    cases h' with
    | done enough => exact absurd many (Nat.not_lt.mpr enough)
    | drop _ least' owner' rest' =>
      obtain rfl := Option.some.inj (least.symm.trans least')
      obtain rfl := Option.some.inj (owner.symm.trans owner')
      obtain ⟨rfl, rfl⟩ := ih rest'
      exact ⟨rfl, rfl⟩

/-- With fuel for all rounds, trimming a cache goes through these rounds. -/
theorem trim_eq (h : MakesRoom c keys d) {fuel : Nat} (enough : keys.length ≤ fuel) :
    c.trim fuel = d := by
  induction h generalizing fuel with
  | done few =>
    cases fuel with
    | zero => rfl
    | succ => rw [trim, if_neg (Nat.not_lt.mpr few)]
  | @drop c d use key keys many least owner _ ih =>
    cases fuel with
    | zero => exact absurd enough (Nat.not_succ_le_zero _)
    | succ fuel =>
      have dropped : c.dropOldest? = some { c with
          entries := c.entries.erase key
          recency := c.recency.erase use } := by
        rw [dropOldest?, least, Option.bind_some, Std.TreeMap.get?_eq_getElem?, owner,
          Option.map_some]
      rw [trim, if_pos many, dropped]
      exact ih (Nat.le_of_succ_le_succ enough)

end MakesRoom

/-! ### Sizes and the counter -/

section Sizes

theorem size_remove_le [Std.TransOrd κ] (c : Cache κ ν) (key : κ) :
    (c.remove key).size ≤ c.size := by
  cases found : c.entries[key]? with
  | none => exact Nat.le_of_eq (congrArg size (remove_of_none found))
  | some entry =>
    rw [remove_of_some found]
    exact Nat.le_trans (Nat.le_of_eq (size_erase_of_some found)) (Nat.sub_le ..)

theorem size_add [Std.TransOrd κ] (absent : c.entries[key]? = none) (now : Duration) (value : ν) :
    (c.add now key value).size = c.size + 1 :=
  size_insert_of_none absent _

theorem size_touch [Std.TransOrd κ] (found : c.entries[key]? = some entry) :
    (c.touch key entry).size = c.size :=
  size_insert_of_some found _

theorem trim_uses (c : Cache κ ν) (fuel : Nat) : (c.trim fuel).uses = c.uses := by
  obtain ⟨entries, recency, same⟩ := exists_trim_eq c fuel
  rw [same]

/-- No request draws more than one number. -/
theorem uses_serve_le (c : Cache κ ν) (now : Duration) (request : Keeper.Request κ ν) :
    (keeper.serve now c request).2.2.uses ≤ c.uses + 1 := by
  cases request with
  | save key value =>
    show (c.save now key value).uses ≤ c.uses + 1
    unfold save
    split
    · exact Nat.le_succ _
    · rw [trim_uses]
      exact Nat.succ_le_succ (Nat.le_of_eq (remove_uses c key))
  | lookup key =>
    show (c.lookup now key).2.uses ≤ c.uses + 1
    cases found : c.entries[key]? with
    | none =>
      rw [lookup_of_none found]
      exact Nat.le_succ _
    | some entry =>
      rw [lookup_of_some found]
      split
      · exact Nat.le_trans (Nat.le_of_eq (remove_uses c key)) (Nat.le_succ _)
      · exact Nat.le_refl _
  | reset => exact Nat.le_succ _
  | advance time => exact Nat.le_succ _

end Sizes

/-! ### A look-up in its steps -/

/-- A cache in the middle of a look-up: the key has the next number, and its entry still has the old one. -/
def renumber (c : Cache κ ν) (key : κ) (entry : Entry ν) : Cache κ ν :=
  { c with
    recency := (c.recency.erase entry.use).insert (c.uses + 1) key
    uses := c.uses + 1 }

/-- A look-up in its steps. The key of an entry that is young enough gets the next number, and then the entry
is looked for again, to have the number too. Were it not there any more, nothing would be found. -/
def lookupInSteps (c : Cache κ ν) (now : Duration) (key : κ) : Option ν × Cache κ ν :=
  match c.entries[key]? with
  | none => (none, c)
  | some entry =>
    if c.isExpired now entry then (none, c.remove key)
    else
      let d := c.renumber key entry
      match d.entries[key]? with
      | none => (none, d)
      | some entry =>
        (some entry.value, { d with entries := d.entries.insert key { entry with use := d.uses } })

/-- The second look finds what the first one has found. -/
theorem lookupInSteps_eq (c : Cache κ ν) (now : Duration) (key : κ) :
    c.lookupInSteps now key = c.lookup now key := by
  rw [lookupInSteps]
  cases found : c.entries[key]? with
  | none => exact (lookup_of_none found).symm
  | some entry =>
    have again : (c.renumber key entry).entries[key]? = some entry := found
    simp only [again]
    exact (lookup_of_some found).symm

/-! ### Between two requests -/

theorem Coherent.eq_of_use_eq (h : c.Coherent) {first second : Entry ν}
    (hk : c.entries[key]? = some first) (hj : c.entries[k]? = some second)
    (same : first.use = second.use) : key = k :=
  -- A number leads to one key.
  Option.some.inj ((h.getElem?_use hk).symm.trans (same ▸ h.getElem?_use hj))

/-- Where at most one entry is too many, room is made in at most one round, and the entry used last stays. -/
theorem Coherent.exists_makesRoom (h : c.Coherent) [Std.TransOrd κ] [Std.LawfulEqOrd κ]
    (held : c.entries[key]? = some entry) (last : entry.use = c.uses) (room : c.capacity ≠ 0)
    (excess : c.size ≤ c.capacity + 1) :
    ∃ dropped d, MakesRoom c dropped d ∧ dropped.length ≤ 1 ∧ key ∉ dropped := by
  by_cases many : c.capacity < c.size
  · -- The one that is too many is not the only one, so it is not the one used last.
    obtain ⟨use, k, ne, least, owner⟩ := h.exists_oldest held last (by omega)
    obtain ⟨old, there, -⟩ := (h.linked use k).mp owner
    refine ⟨[k], _, .drop many least owner (.done ?_), Nat.le_refl 1, by simpa using Ne.symm ne⟩
    calc (c.entries.erase k).size
        = c.size - 1 := size_erase_of_some there
      _ ≤ c.capacity := Nat.sub_le_of_le_add excess
  · exact ⟨[], c, .done (Nat.le_of_not_lt many), Nat.zero_le 1, List.not_mem_nil⟩

theorem WellKept.of_coherent (h : c.Coherent) (bounded : c.size ≤ c.capacity) : c.WellKept :=
  { h with
    apart := h.eq_of_use_eq
    bounded }

namespace WellKept

/-- An empty cache is well kept. -/
theorem of_empty [Std.TransOrd κ] (entries : c.entries = ∅) (recency : c.recency = ∅) :
    c.WellKept := by
  refine .of_coherent (.of_empty entries recency) ?_
  rw [size, entries, Std.TreeMap.size_emptyc]
  exact Nat.zero_le _

variable [Std.TransOrd κ] [Std.LawfulEqOrd κ] (h : c.WellKept)
include h

theorem lookup (now : Duration) (key : κ) : (c.lookup now key).2.WellKept := by
  refine .of_coherent (h.toCoherent.lookup now key) ?_
  rw [lookup_capacity]
  cases found : c.entries[key]? with
  | none =>
    rw [lookup_of_none found]
    exact h.bounded
  | some entry =>
    rw [lookup_of_some found]
    split
    · exact Nat.le_trans (size_remove_le c key) h.bounded
    · exact Nat.le_trans (Nat.le_of_eq (size_touch found)) h.bounded

/-- With a place at all, saving makes room in one way: no entry has to go, or one other than that which is
saved. -/
theorem exists_round (room : c.capacity ≠ 0) (now : Duration) (key : κ) (value : ν) :
    ∃ dropped, MakesRoom ((c.remove key).add now key value) dropped (c.save now key value) ∧
      dropped.length ≤ 1 ∧ key ∉ dropped := by
  have absent := getElem?_remove_self c key
  have coherent := (h.toCoherent.remove key).add absent now value
  have places : ((c.remove key).add now key value).capacity = c.capacity := remove_capacity c key
  have size : ((c.remove key).add now key value).size = (c.remove key).size + 1 :=
    size_add absent now value
  have excess : ((c.remove key).add now key value).size ≤ c.capacity + 1 := by
    rw [size]
    exact Nat.succ_le_succ (Nat.le_trans (size_remove_le c key) h.bounded)
  obtain ⟨dropped, d, makes, few, other⟩ := coherent.exists_makesRoom
    (getElem?_add_self (c.remove key) now key value) rfl (places ▸ room) (places.symm ▸ excess)
  -- There is an entry at least, and so there is fuel for the round.
  have saved : c.save now key value = d := by
    rw [save, if_neg room]
    exact makes.trim_eq (by omega)
  exact ⟨dropped, saved ▸ makes, few, other⟩

theorem save (now : Duration) (key : κ) (value : ν) : (c.save now key value).WellKept := by
  refine .of_coherent (h.toCoherent.save now key value) ?_
  by_cases room : c.capacity = 0
  · rw [Cache.save, if_pos room]
    exact h.bounded
  · obtain ⟨dropped, makes, -⟩ := h.exists_round room now key value
    exact makes.size_le

/-- Whatever is asked of a cache, it is well kept afterwards. -/
theorem serve (now : Duration) (request : Keeper.Request κ ν) :
    (keeper.serve now c request).2.2.WellKept := by
  cases request with
  | save key value => exact h.save now key value
  | lookup key => exact h.lookup now key
  | reset => exact .of_empty rfl rfl
  | advance time => exact h

end WellKept

section Runs

theorem serve_capacity (c : Cache κ ν) (now : Duration) (request : Keeper.Request κ ν) :
    (keeper.serve now c request).2.2.capacity = c.capacity := by
  cases request with
  | save key value => exact save_capacity c now key value
  | lookup key => exact lookup_capacity c now key
  | reset => rfl
  | advance time => rfl

/-- After every run of requests the two maps describe the same entries, each with a number of its own that
is at most the counter, which has gone up by one for each request at most, and there are no more entries
than places. Whatever is saved then, room is made in at most one round, which does not drop what was saved,
and without places nothing happens. Whatever is looked up then and young enough is found. -/
theorem wellKept_after [Std.TransOrd κ] [Std.LawfulEqOrd κ] (capacity : Nat)
    (timeout : Option Duration) (start : Duration) (requests : List (Keeper.Request κ ν)) :
    let c := (keeper.after start ({ capacity, timeout } : Cache κ ν) requests).2
    (c.WellKept ∧ c.capacity = capacity ∧ c.uses ≤ requests.length) ∧
    (∀ now key value, capacity = 0 ∧ c.save now key value = c ∨
      capacity ≠ 0 ∧ ∃ dropped,
        (∀ keys d, MakesRoom ((c.remove key).add now key value) keys d ↔
          keys = dropped ∧ d = c.save now key value) ∧
        dropped.length ≤ 1 ∧ key ∉ dropped) ∧
    ∀ now key, c.lookup now key = c.lookupInSteps now key ∧
      ∀ entry, c.entries[key]? = some entry → c.isExpired now entry = false →
        (c.lookup now key).1 = some entry.value := by
  intro c
  -- Along the run the counter is held against the number of requests.
  obtain ⟨kept, places, counted⟩ :
      c.WellKept ∧ c.capacity = capacity ∧ c.uses ≤ requests.length := by
    refine Keeper.after_induction (k := keeper)
      (motive := fun n (c : Cache κ ν) => c.WellKept ∧ c.capacity = capacity ∧ c.uses ≤ n)
      ⟨.of_empty rfl rfl, rfl, Nat.zero_le 0⟩ ?_ start requests
    rintro n now c request ⟨kept, places, counted⟩
    exact ⟨kept.serve now request, (serve_capacity c now request).trans places,
      Nat.le_trans (uses_serve_le c now request) (Nat.succ_le_succ counted)⟩
  refine ⟨⟨kept, places, counted⟩, fun now key value => ?_, fun now key => ⟨?_, ?_⟩⟩
  · by_cases room : capacity = 0
    · exact .inl ⟨room, if_pos (places.trans room)⟩
    · obtain ⟨dropped, makes, few, other⟩ := kept.exists_round (places ▸ room) now key value
      refine .inr ⟨room, dropped, fun keys d => ⟨makes.unique, ?_⟩, few, other⟩
      rintro ⟨rfl, rfl⟩
      exact makes
  · exact (lookupInSteps_eq c now key).symm
  · intro entry found fresh
    rw [lookup_of_some found, fresh]
    rfl

/-- Of two numbers that there is room for, the one that was looked up has the greater number, so the other
one makes room for a third one. -/
theorem wellKept_after_two_places :
    let c := (keeper.after .none ({ capacity := 2, timeout := none } : Cache Nat String)
      [.save 1 "a", .save 2 "b", .lookup 1]).2
    (c.WellKept ∧ c.recency.toList = [(2, 2), (3, 1)]) ∧
      ∃ dropped, MakesRoom ((c.remove 3).add .none 3 "c") dropped (c.save .none 3 "c") ∧
        dropped.length ≤ 1 ∧ (c.save .none 3 "c").recency.toList = [(3, 1), (4, 3)] := by
  intro c
  obtain ⟨⟨kept, -⟩, saves, -⟩ := wellKept_after 2 none .none
    [.save 1 "a", .save 2 "b", .lookup (1 : Nat)]
  obtain ⟨none, -⟩ | ⟨-, dropped, makes, few, -⟩ := saves .none 3 "c"
  · exact absurd none (by decide)
  · exact ⟨⟨kept, by decide⟩, dropped, (makes dropped _).mpr ⟨rfl, rfl⟩, few, by cbv⟩

end Runs

end Cache

end Targeting.Platform
