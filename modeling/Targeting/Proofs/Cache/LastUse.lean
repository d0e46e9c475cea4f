import Mathlib.Data.Finset.Card
import Targeting.Proofs.Cache.Recency

/-!
# What least recently used means

Whether a cache without a timeout finds a key can be read off what has happened to the cache, without
looking at what is kept. The key has to have been saved since the last reset, and the keys used after the
key's own last use have to be fewer than there are places, where a use is a save or a look-up that has found
something. Then the value is the one saved last.

The proof follows the shelf that a cache mirrors. Wherever an item stands, the items before it are those
whose keys were used after its own key, and whatever does not stand on the shelf has had at least as many
keys used after it as there are places.

## Main definitions

* `Keeper.Served`, `Keeper.history` — a request with what it has found, and these in a run
* `Served.lastValue?`, `Served.usedSince` — the value saved last under a key, and the keys used since then
* `Served.FollowsLastUse` — what is found follows from the last uses
* `Shelf.Recalls` — a shelf stands as the past demands

## Main results

* `Shelf.Recalls.use` — using a key keeps the shelf in order
* `Shelf.Recalls.lookup_eq_some_iff` — what a look-up finds
* `Cache.followsLastUse_history` — what a cache finds follows from the last uses
-/

namespace Targeting.Platform

namespace Keeper

variable {σ τ κ ν : Type}

/-- A request that was served, and what it has found. -/
structure Served (κ ν : Type) where
  request : Request κ ν
  found : Option ν

/-- What has happened in a run of requests. -/
def history (k : Keeper σ κ ν) (now : Duration) (s : σ) : List (Request κ ν) → List (Served κ ν)
  | [] => []
  | request :: requests =>
    let (found, now, s) := k.serve now s request
    ⟨request, found⟩ :: k.history now s requests

theorem history_cons (k : Keeper σ κ ν) (now : Duration) (s : σ) (request : Request κ ν)
    (requests : List (Request κ ν)) :
    k.history now s (request :: requests) =
      ⟨request, (k.serve now s request).1⟩ ::
        k.history (k.serve now s request).2.1 (k.serve now s request).2.2 requests := rfl

/-- Keepers that are related have the same history. -/
theorem history_eq {k : Keeper σ κ ν} {l : Keeper τ κ ν} {R : σ → τ → Prop} {s : σ} {t : τ}
    (h : Related k l R) (related : R s t) (now : Duration) (requests : List (Request κ ν)) :
    k.history now s requests = l.history now t requests := by
  induction requests generalizing now s t with
  | nil => rfl
  | cons request requests ih =>
    obtain ⟨found, later, after⟩ := h.serve related now request
    rw [history_cons, history_cons, found, later, ih after]

namespace Served

/-- Whether everything was dropped. -/
def isReset : Served κ ν → Bool
  | ⟨.reset, _⟩ => true
  | _ => false

/-- The key that was used: one that was saved, or looked up and found. -/
def used? : Served κ ν → Option κ
  | ⟨.save key _, _⟩ => some key
  | ⟨.lookup key, some _⟩ => some key
  | _ => none

variable [DecidableEq κ]

/-- The value that was saved under a key. -/
def saved? (key : κ) : Served κ ν → Option ν
  | ⟨.save other value, _⟩ => if other = key then some value else none
  | _ => none

/-- The value saved last under a key, if one was saved since the last reset. -/
def lastValue? (past : List (Served κ ν)) (key : κ) : Option ν :=
  (past.reverse.takeWhile fun served => !served.isReset).findSome? (saved? key)

/-- The keys that were used since the last use of a key. -/
def usedSince (past : List (Served κ ν)) (key : κ) : Finset κ :=
  ((past.reverse.takeWhile fun served => served.used? ≠ some key).filterMap used?).toFinset

/-- Every look-up finds something exactly if the key was saved since the last reset and fewer keys than
there are places were used since the last use of the key, and it finds the value saved last. -/
def FollowsLastUse (capacity : Nat) (history : List (Served κ ν)) : Prop :=
  ∀ past key found later, history = past ++ ⟨.lookup key, found⟩ :: later →
    (found.isSome ↔ (lastValue? past key).isSome ∧ (usedSince past key).card < capacity) ∧
    ∀ value, found = some value → lastValue? past key = some value

variable {past : List (Served κ ν)} {served : Served κ ν} {key other : κ}

/-! ### One thing more -/

theorem lastValue?_of_reset (reset : served.isReset = true) :
    lastValue? (past ++ [served]) key = none := by
  simp [lastValue?, reset]

theorem lastValue?_of_saved {value : ν} (saved : served.saved? key = some value)
    (still : served.isReset = false) : lastValue? (past ++ [served]) key = some value := by
  simp [lastValue?, still, saved]

theorem lastValue?_of_unsaved (unsaved : served.saved? key = none) (still : served.isReset = false) :
    lastValue? (past ++ [served]) key = lastValue? past key := by
  simp [lastValue?, still, unsaved]

theorem usedSince_of_unused (unused : served.used? = none) :
    usedSince (past ++ [served]) key = usedSince past key := by
  simp [usedSince, unused]

theorem usedSince_of_self (used : served.used? = some key) :
    usedSince (past ++ [served]) key = ∅ := by
  simp [usedSince, used]

theorem usedSince_of_ne (used : served.used? = some key) (ne : other ≠ key) :
    usedSince (past ++ [served]) other = insert key (usedSince past other) := by
  simp [usedSince, used, Ne.symm ne]

end Served

end Keeper

namespace Shelf

open Keeper (Served)
open Keeper.Served (lastValue? usedSince)

variable {κ ν : Type} [DecidableEq κ] {s : Shelf κ ν} {past : List (Served κ ν)}
  {served : Served κ ν} {key : κ}

/-- A shelf without a timeout stands as the past demands: the items before an item are those whose keys were
used after its key, and what is not there has no value or has had too many keys used after it. -/
structure Recalls (s : Shelf κ ν) (past : List (Served κ ν)) : Prop where
  lasting : s.timeout = none
  bounded : s.items.length ≤ s.capacity
  nodup : (s.items.map Item.key).Nodup
  held : ∀ newer item older, s.items = newer ++ item :: older →
    lastValue? past item.key = some item.value ∧
      usedSince past item.key = (newer.map Item.key).toFinset
  gone : ∀ key, key ∉ s.items.map Item.key →
    lastValue? past key = none ∨ s.capacity ≤ (usedSince past key).card

namespace Recalls

theorem initial (capacity : Nat) : Recalls ({ capacity, timeout := none } : Shelf κ ν) [] where
  lasting := rfl
  bounded := Nat.zero_le _
  nodup := .nil
  held newer item older h := by simp at h
  gone _ _ := .inl rfl

omit [DecidableEq κ] in
theorem exists_split (member : key ∈ s.items.map Item.key) :
    ∃ newer item older, s.items = newer ++ item :: older ∧ item.key = key := by
  obtain ⟨item, there, rfl⟩ := List.mem_map.mp member
  obtain ⟨newer, older, items⟩ := List.append_of_mem there
  exact ⟨newer, item, older, items, rfl⟩

section Held

variable (h : s.Recalls past) {newer older : List (Item κ ν)} {item : Item κ ν}
  (items : s.items = newer ++ item :: older)
include h items

/-- An item on the shelf is found, since items do not get too old. -/
theorem lookup_of_held (now : Duration) :
    s.lookup now item.key = (some item.value, { s with items := item :: s.others item.key }) := by
  have nodup := h.nodup
  rw [items, List.map_append, List.nodup_append] at nodup
  have first : s.items.find? (·.key = item.key) = some item := by
    rw [items, List.find?_append, List.find?_eq_none.mpr]
    · simp
    · intro other before same
      exact nodup.2.2 _ (List.mem_map_of_mem before) _ (by simp) (of_decide_eq_true same)
  have fresh : s.isFresh now item = true := by simp [isFresh, h.lasting]
  rw [lookup, first]
  simp [fresh]

/-- The key of an item has had as many keys used after it as there are items before it. -/
theorem card_usedSince : (usedSince past item.key).card = newer.length := by
  have nodup := h.nodup
  rw [items, List.map_append, List.nodup_append] at nodup
  rw [(h.held newer item older items).2, List.toFinset_card_of_nodup nodup.1, List.length_map]

end Held

theorem lookup_of_gone (absent : key ∉ s.items.map Item.key) (now : Duration) :
    s.lookup now key = (none, s) := by
  have missing : s.items.find? (·.key = key) = none := by
    rw [List.find?_eq_none]
    intro item there same
    exact absent (of_decide_eq_true same ▸ List.mem_map_of_mem there)
  rw [lookup, missing]

/-- A look-up finds the value saved last, unless too many keys were used since the last use. -/
theorem lookup_eq_some_iff (h : s.Recalls past) (now : Duration) (value : ν) :
    (s.lookup now key).1 = some value ↔
      lastValue? past key = some value ∧ (usedSince past key).card < s.capacity := by
  by_cases member : key ∈ s.items.map Item.key
  · obtain ⟨newer, item, older, items, rfl⟩ := exists_split member
    have fewer : newer.length < s.capacity := by
      have bounded := h.bounded
      rw [items, List.length_append, List.length_cons] at bounded
      omega
    rw [h.lookup_of_held items, h.card_usedSince items, (h.held newer item older items).1]
    exact (and_iff_left fewer).symm
  · rw [lookup_of_gone member]
    refine iff_of_false nofun ?_
    rintro ⟨saved, fewer⟩
    rcases h.gone key member with none | many
    · exact Option.some_ne_none value (saved.symm.trans none)
    · exact absurd fewer (Nat.not_lt.mpr many)

/-! ### Steps -/

/-- Something that is no use, no save and no reset leaves all as it is. -/
theorem idle (h : s.Recalls past) (unused : served.used? = none)
    (unsaved : ∀ key, served.saved? key = none) (still : served.isReset = false) :
    s.Recalls (past ++ [served]) where
  lasting := h.lasting
  bounded := h.bounded
  nodup := h.nodup
  held newer item older items := by
    rw [Served.lastValue?_of_unsaved (unsaved _) still, Served.usedSince_of_unused unused]
    exact h.held newer item older items
  gone key absent := by
    rw [Served.lastValue?_of_unsaved (unsaved _) still, Served.usedSince_of_unused unused]
    exact h.gone key absent

/-- A reset leaves nothing to remember. -/
theorem reset (h : s.Recalls past) (reset : served.isReset = true) :
    ({ s with items := [] } : Shelf κ ν).Recalls (past ++ [served]) where
  lasting := h.lasting
  bounded := Nat.zero_le _
  nodup := .nil
  held newer item older items := by simp at items
  gone _ _ := .inl (Served.lastValue?_of_reset reset)

/-- Of the others in their order, those before an item are those before it on the shelf. -/
theorem exists_of_others {item : Item κ ν} {newer older : List (Item κ ν)}
    (others : s.others key = newer ++ item :: older) :
    ∃ before after, s.items = before ++ item :: after ∧ before.filter (·.key ≠ key) = newer ∧
      item.key ≠ key := by
  obtain ⟨first, rest, items, rfl, kept⟩ := List.filter_eq_append_iff.mp others
  obtain ⟨dropped, after, rfl, none, keeps, -⟩ := List.filter_eq_cons_iff.mp kept
  refine ⟨first ++ dropped, after, by rw [items, List.append_assoc], ?_, of_decide_eq_true keeps⟩
  rw [List.filter_append, List.filter_eq_nil_iff.mpr none, List.append_nil]

/-- Putting an item at the front of others adds its key to theirs. -/
theorem toFinset_front (item : Item κ ν) (newer : List (Item κ ν)) :
    ((item :: newer.filter (·.key ≠ item.key)).map Item.key).toFinset =
      insert item.key (newer.map Item.key).toFinset := by
  ext key
  by_cases same : key = item.key
  · simp [same]
  · simp [same]
    grind

section Use

variable (h : s.Recalls past) (item : Item κ ν) (used : served.used? = some item.key)
include h

theorem nodup_front : ((item :: s.others item.key).map Item.key).Nodup := by
  rw [List.map_cons, List.nodup_cons]
  refine ⟨?_, h.nodup.sublist (List.filter_sublist.map _)⟩
  intro member
  obtain ⟨other, there, same⟩ := List.mem_map.mp member
  exact of_decide_eq_true (List.mem_filter.mp there).2 same

include used

/-- Using a key puts its item at the front. Every other key has had one more key used after it then, unless
this one was among those already, and this is how its item moves back or stays. -/
theorem use (saved : lastValue? (past ++ [served]) item.key = some item.value)
    (others : ∀ key, key ≠ item.key → lastValue? (past ++ [served]) key = lastValue? past key) :
    ({ s with items := (item :: s.others item.key).take s.capacity } : Shelf κ ν).Recalls
      (past ++ [served]) where
  lasting := h.lasting
  bounded := List.length_take_le ..
  nodup := (h.nodup_front item).sublist ((List.take_sublist ..).map _)
  held newer found older items := by
    have whole : item :: s.others item.key =
        newer ++ found :: (older ++ (item :: s.others item.key).drop s.capacity) := by
      rw [← List.cons_append, ← List.append_assoc, ← items, List.take_append_drop]
    cases newer with
    | nil =>
      obtain ⟨rfl, -⟩ := List.cons.inj whole
      exact ⟨saved, Served.usedSince_of_self used⟩
    | cons front newer =>
      obtain ⟨rfl, rest⟩ := List.cons.inj whole
      obtain ⟨before, after, split, rfl, ne⟩ := exists_of_others rest
      obtain ⟨value, since⟩ := h.held before found after split
      rw [others _ ne, Served.usedSince_of_ne used ne, since, toFinset_front]
      exact ⟨value, rfl⟩
  gone key absent := by
    by_cases same : key = item.key
    · -- The item at the front is cut off only if there is no room at all.
      subst same
      cases room : s.capacity with
      | zero => exact .inr (Nat.zero_le _)
      | succ room' => simp [room] at absent
    · rw [others key same, Served.usedSince_of_ne used same]
      by_cases there : key ∈ s.items.map Item.key
      · obtain ⟨newer, found, older, split, rfl⟩ := exists_split there
        let front := item :: newer.filter (·.key ≠ item.key)
        have moved : item :: s.others item.key =
            front ++ found :: older.filter (·.key ≠ item.key) := by
          simp [Shelf.others, split, same, front]
        have count : (insert item.key (usedSince past found.key)).card = front.length := by
          have nodup := h.nodup_front item
          rw [moved, List.map_append, List.nodup_append] at nodup
          rw [(h.held newer found older split).2, ← toFinset_front,
            List.toFinset_card_of_nodup nodup.1, List.length_map]
        -- Were there room for it behind those at the front, it would still stand there.
        refine .inr (count ▸ Nat.le_of_not_lt fun room : front.length < s.capacity =>
          absent (List.mem_map_of_mem ?_))
        obtain ⟨rest, behind⟩ : ∃ rest, s.capacity - front.length = rest + 1 :=
          ⟨s.capacity - front.length - 1, by omega⟩
        rw [moved, List.take_append, behind, List.take_succ_cons]
        exact List.mem_append_right _ List.mem_cons_self
      · refine (h.gone key there).imp_right fun many => many.trans ?_
        exact Finset.card_le_card (Finset.subset_insert ..)

end Use

/-- Whatever is asked of a shelf, it stands afterwards as the past demands. -/
theorem serve (h : s.Recalls past) (now : Duration) (request : Keeper.Request κ ν) :
    (keeper.serve now s request).2.2.Recalls
      (past ++ [⟨request, (keeper.serve now s request).1⟩]) := by
  cases request with
  | save key value =>
    exact h.use ⟨key, value, now⟩ rfl
      (Served.lastValue?_of_saved (by simp [Served.saved?]) rfl)
      fun other ne => Served.lastValue?_of_unsaved (by simp [Served.saved?, Ne.symm ne]) rfl
  | lookup key =>
    by_cases member : key ∈ s.items.map Item.key
    · obtain ⟨newer, item, older, items, rfl⟩ := exists_split member
      have found := h.lookup_of_held items now
      let served : Served κ ν := ⟨.lookup item.key, some item.value⟩
      have uses : served.used? = some item.key := rfl
      have used := h.use item uses
        ((Served.lastValue?_of_unsaved rfl rfl).trans (h.held newer item older items).1)
        fun other _ => Served.lastValue?_of_unsaved rfl rfl
      -- The item has only changed its place, so nothing is cut off.
      have there : item ∈ s.items := items ▸ List.mem_append_right _ List.mem_cons_self
      have whole : (item :: s.others item.key).length ≤ s.capacity :=
        Nat.le_trans (length_others_lt there) h.bounded
      rw [List.take_of_length_le whole] at used
      simpa only [Keeper.serve, keeper, found] using used
    · have missed := lookup_of_gone member now
      simpa only [Keeper.serve, keeper, missed] using h.idle rfl (fun _ => rfl) rfl
  | reset => exact h.reset rfl
  | advance time => exact h.idle rfl (fun _ => rfl) rfl

theorem serve_capacity (now : Duration) (request : Keeper.Request κ ν) :
    (keeper.serve now s request).2.2.capacity = s.capacity := by
  cases request with
  | lookup key =>
    show (s.lookup now key).2.capacity = s.capacity
    unfold lookup
    split
    · rfl
    · split <;> rfl
  | _ => rfl

/-- What a look-up finds at some point of a run, given what had happened before the run and what has
happened in it up to there. -/
theorem found_eq_some_iff (h : s.Recalls past) {now : Duration} {requests : List (Keeper.Request κ ν)}
    {before later : List (Served κ ν)} {found : Option ν}
    (split : keeper.history now s requests = before ++ ⟨.lookup key, found⟩ :: later) (value : ν) :
    found = some value ↔ lastValue? (past ++ before) key = some value ∧
      (usedSince (past ++ before) key).card < s.capacity := by
  induction requests generalizing past s now before with
  | nil => simp [Keeper.history] at split
  | cons request requests ih =>
    rw [Keeper.history_cons] at split
    rcases List.cons_eq_append_iff.mp split with ⟨rfl, first⟩ | ⟨before, rfl, rest⟩
    · obtain ⟨same, -⟩ := List.cons.inj first
      obtain ⟨rfl, rfl⟩ := Served.mk.inj same
      rw [List.append_nil]
      exact h.lookup_eq_some_iff now value
    · have answer := ih (h.serve now request) rest
      rwa [serve_capacity, List.append_assoc] at answer

/-- What a shelf finds follows from the last uses. -/
theorem followsLastUse (h : s.Recalls []) (now : Duration) (requests : List (Keeper.Request κ ν)) :
    Served.FollowsLastUse s.capacity (keeper.history now s requests) := by
  intro past key found later split
  have answer := h.found_eq_some_iff split
  rw [List.nil_append] at answer
  constructor
  · simp only [Option.isSome_iff_exists, answer, exists_and_right]
  · intro value same
    exact ((answer value).mp same).1

end Recalls

end Shelf

namespace Cache

variable {κ ν : Type} [Ord κ] [DecidableEq κ] [Std.TransOrd κ] [Std.LawfulEqOrd κ]

/-- Whatever is asked of a cache without a timeout, a look-up finds something if and only if the key was saved
since the last reset and fewer other keys than there are places were saved, or looked up and found, since the
last time that the key was. What it finds is the value saved last. -/
theorem followsLastUse_history (capacity : Nat) (start : Duration)
    (requests : List (Keeper.Request κ ν)) :
    Keeper.Served.FollowsLastUse capacity
      (keeper.history start ({ capacity, timeout := none } : Cache κ ν) requests) := by
  rw [Keeper.history_eq related_shelf (.initial capacity none) start requests]
  exact (Shelf.Recalls.initial capacity).followsLastUse start requests

/-- Of two numbers that there is room for, the one that was looked up is used last, and it stays when a third
one comes. -/
theorem followsLastUse_history_two_places :
    let history := keeper.history .none ({ capacity := 2, timeout := none } : Cache Nat String)
      [.save 1 "a", .save 2 "b", .lookup 1, .save 3 "c", .lookup 2, .lookup 1]
    Keeper.Served.FollowsLastUse 2 history ∧
      history.map Keeper.Served.found = [none, none, some "a", none, none, some "a"] := by
  refine ⟨followsLastUse_history 2 .none _, ?_⟩
  rw [Keeper.history_eq related_shelf (.initial 2 none)]
  decide

end Cache

end Targeting.Platform
