import Mathlib.Data.List.Nodup
import Targeting.Proofs.Outbox.Admission

/-!
# Events in the form in which they are sent

An event is not sent as it came. It gets a type if it has none, the other spellings of the customer's main
identifier give way to the standard one, and an id and the data that all events share are added. In all this
nothing that the event said is lost: its own data win over shared ones, its identifiers other than the main
one stay, and the main one keeps the value under its standard name or, without one, a value that it has under
another spelling. Identifiers and data may be listed in any order, so none of this depends on the order.

## Main definitions

* `Event.IsSpelling` — the names that stand for the main identifier
* `Outbox.Faithful` — the form in which an event is sent, without saying how it is come by

## Main results

* `Event.mem_canonical_iff` — the identifiers of an event that was normalized
* `Event.normalize_normalize` — normalizing twice is normalizing once
* `Outbox.faithful_prepared` — the form of an event that is accepted
* `Outbox.System.faithful_of_run` — the events in the queue, in batches and on their way
-/

namespace Targeting.Platform

namespace Event

/-! ### Named values -/

section Named

variable {α : Type} {xs common : List (String × α)} {x : String × α} {name : String} {v : α}

theorem lookup_isSome_iff : (xs.lookup name).isSome = true ↔ name ∈ xs.map Prod.fst := by
  rw [List.lookup_isSome_iff, List.mem_map]
  exact exists_congr fun x => and_congr_right fun _ => beq_iff_eq.trans eq_comm

theorem mem_addMissing_iff :
    x ∈ addMissing name v xs ↔ x ∈ xs ∨ name ∉ xs.map Prod.fst ∧ x = (name, v) := by
  unfold addMissing
  split
  · next present => simp [-List.mem_map, lookup_isSome_iff.mp present]
  · next absent => simp [-List.mem_map, mt lookup_isSome_iff.mpr absent]

theorem names_addMissing : (addMissing name v xs).map Prod.fst =
    if name ∈ xs.map Prod.fst then xs.map Prod.fst else xs.map Prod.fst ++ [name] := by
  unfold addMissing
  simp only [lookup_isSome_iff]
  split <;> simp

theorem nodup_addMissing (h : (xs.map Prod.fst).Nodup) :
    ((addMissing name v xs).map Prod.fst).Nodup := by
  rw [names_addMissing]
  split
  · exact h
  · next absent => exact h.append (List.nodup_singleton name) (List.disjoint_singleton.mpr absent)

/-- Adds several values, each unless there is one of its name already. -/
def addAll (common xs : List (String × α)) : List (String × α) :=
  common.foldl (fun xs (name, v) => addMissing name v xs) xs

theorem mem_addAll_of_mem (h : x ∈ xs) : x ∈ addAll common xs := by
  induction common generalizing xs with
  | nil => exact h
  | cons first common ih => exact ih (mem_addMissing_iff.mpr (.inl h))

theorem mem_names_addAll_iff :
    name ∈ (addAll common xs).map Prod.fst ↔ name ∈ xs.map Prod.fst ∨ name ∈ common.map Prod.fst := by
  induction common generalizing xs with
  | nil => simp [addAll]
  | cons first common ih =>
    have added : name ∈ (addMissing first.1 first.2 xs).map Prod.fst ↔
        name ∈ xs.map Prod.fst ∨ name = first.1 := by
      rw [names_addMissing]
      split
      · next present => exact (or_iff_left_of_imp fun same => same ▸ present).symm
      · rw [List.mem_append, List.mem_singleton]
    rw [addAll, List.foldl_cons]
    exact ih.trans (by rw [added, List.map_cons, List.mem_cons, or_assoc])

theorem mem_or_of_mem_addAll (h : x ∈ addAll common xs) :
    x ∈ xs ∨ x.1 ∉ xs.map Prod.fst ∧ x ∈ common := by
  induction common generalizing xs with
  | nil => exact .inl h
  | cons first common ih =>
    rcases ih h with before | ⟨absent, later⟩
    · refine (mem_addMissing_iff.mp before).imp_right ?_
      rintro ⟨absent, rfl⟩
      exact ⟨absent, List.mem_cons_self⟩
    · refine .inr ⟨fun present => absent ?_, List.mem_cons_of_mem _ later⟩
      obtain ⟨y, member, same⟩ := List.mem_map.mp present
      exact same ▸ List.mem_map_of_mem (mem_addMissing_iff.mpr (.inl member))

theorem nodup_addAll (h : (xs.map Prod.fst).Nodup) : ((addAll common xs).map Prod.fst).Nodup := by
  induction common generalizing xs with
  | nil => exact h
  | cons first common ih => exact ih (nodup_addMissing h)

end Named

/-! ### The main identifier -/

/-- Whether a name stands for the main identifier: up to the case of its letters it is one of two
spellings. -/
def IsSpelling (name : String) : Prop :=
  lowered name = "fs-user-id".toList ∨ lowered name = "fs_user_id".toList

theorem isSpelling_userKey : IsSpelling userKey := .inr (by decide)

theorem isAlias_iff {name : String} : isAlias name = true ↔ IsSpelling name ∧ name ≠ userKey := by
  simp only [isAlias, IsSpelling, userKey, Bool.and_eq_true, Bool.or_eq_true, bne_iff_ne, beq_iff_eq]
  exact and_comm

variable {identifiers : List (String × String)} {i : String × String}

theorem mem_others_iff : i ∈ identifiers.filter (!isAlias ·.1) ↔
    i ∈ identifiers ∧ (IsSpelling i.1 → i.1 = userKey) := by
  rw [List.mem_filter, Bool.not_eq_true', ← Bool.not_eq_true, isAlias_iff]
  exact and_congr_right fun _ => not_and_not_right

theorem mem_names_others_iff :
    userKey ∈ (identifiers.filter (!isAlias ·.1)).map Prod.fst ↔ userKey ∈ identifiers.map Prod.fst := by
  simp only [List.mem_map, mem_others_iff]
  exact exists_congr fun i => ⟨fun h => ⟨h.1.1, h.2⟩, fun h => ⟨⟨h.1, fun _ => h.2⟩, h.2⟩⟩

/-- What becomes of the identifiers: other spellings of the main one are left out, and if its standard name is
missing, it gets the value of the first of them. -/
theorem mem_canonical_iff : i ∈ canonical identifiers ↔
    i ∈ identifiers ∧ (IsSpelling i.1 → i.1 = userKey) ∨
    userKey ∉ identifiers.map Prod.fst ∧
      ∃ j, identifiers.find? (isAlias ·.1) = some j ∧ i = (userKey, j.2) := by
  unfold canonical
  split
  · next j value found =>
    rw [mem_addMissing_iff, mem_others_iff, mem_names_others_iff, found]
    simp
  · next missing =>
    rw [mem_others_iff, missing]
    simp

/-- The main identifier is there exactly if it was there under some spelling. -/
theorem userKey_mem_canonical_iff : userKey ∈ (canonical identifiers).map Prod.fst ↔
    ∃ i ∈ identifiers, IsSpelling i.1 := by
  constructor
  · intro h
    obtain ⟨i, member, same⟩ := List.mem_map.mp h
    rcases mem_canonical_iff.mp member with ⟨before, -⟩ | ⟨-, j, found, -⟩
    · exact ⟨i, before, same ▸ isSpelling_userKey⟩
    · have other : isAlias j.1 = true := by simpa using List.find?_some found
      exact ⟨j, List.mem_of_find?_eq_some found, (isAlias_iff.mp other).1⟩
  · rintro ⟨i, member, spelling⟩
    by_cases present : userKey ∈ identifiers.map Prod.fst
    · obtain ⟨j, before, same⟩ := List.mem_map.mp present
      exact List.mem_map.mpr ⟨j, mem_canonical_iff.mpr (.inl ⟨before, fun _ => same⟩), same⟩
    · -- Without the standard name the spelling is an alias, so that there is a first one.
      have other : i.1 ≠ userKey := fun same => present (same ▸ List.mem_map_of_mem member)
      have found : (identifiers.find? (isAlias ·.1)).isSome = true :=
        List.find?_isSome.mpr ⟨i, member, isAlias_iff.mpr ⟨spelling, other⟩⟩
      obtain ⟨j, found⟩ := Option.isSome_iff_exists.mp found
      exact List.mem_map.mpr ⟨(userKey, j.2), mem_canonical_iff.mpr (.inr ⟨present, j, found, rfl⟩), rfl⟩

theorem canonical_ne_nil (h : identifiers ≠ []) : canonical identifiers ≠ [] := by
  obtain ⟨i, member⟩ := List.exists_mem_of_ne_nil _ h
  by_cases spelling : IsSpelling i.1
  · have main := userKey_mem_canonical_iff.mpr ⟨i, member, spelling⟩
    exact fun empty => absurd main (by simp [empty])
  · exact List.ne_nil_of_mem (mem_canonical_iff.mpr (.inl ⟨member, fun h => absurd h spelling⟩))

theorem nodup_canonical (h : (identifiers.map Prod.fst).Nodup) :
    ((canonical identifiers).map Prod.fst).Nodup := by
  have others : ((identifiers.filter (!isAlias ·.1)).map Prod.fst).Nodup :=
    h.sublist (List.filter_sublist.map _)
  unfold canonical
  split
  · exact nodup_addMissing others
  · exact others

/-- Identifiers without other spellings of the main one stay as they are. -/
theorem canonical_eq_self (h : ∀ i ∈ identifiers, IsSpelling i.1 → i.1 = userKey) :
    canonical identifiers = identifiers := by
  have standard : ∀ i ∈ identifiers, isAlias i.1 = false := fun i member => by
    rw [← Bool.not_eq_true, isAlias_iff]
    exact not_and_not_right.mpr (h i member)
  have missing : identifiers.find? (isAlias ·.1) = none :=
    List.find?_eq_none.mpr fun i member => by simp [standard i member]
  simp only [canonical, missing]
  exact List.filter_eq_self.mpr fun i member => by simp [standard i member]

theorem eq_userKey_of_mem_canonical (member : i ∈ canonical identifiers) (spelling : IsSpelling i.1) :
    i.1 = userKey := by
  rcases mem_canonical_iff.mp member with ⟨-, standard⟩ | ⟨-, j, -, rfl⟩
  · exact standard spelling
  · rfl

theorem normalize_kind_ne (e : Event) : e.normalize.kind ≠ "" := by
  simp only [normalize]
  split
  · decide
  · next present => simpa using present

/-- An event with a type and without other spellings of the main identifier stays as it is. -/
theorem normalize_eq_self {e : Event} (kind : e.kind ≠ "")
    (standard : ∀ i ∈ e.identifiers, IsSpelling i.1 → i.1 = userKey) : e.normalize = e := by
  simp [normalize, canonical_eq_self standard, kind]

/-- Normalizing twice is normalizing once. -/
theorem normalize_normalize (e : Event) : e.normalize.normalize = e.normalize :=
  normalize_eq_self e.normalize_kind_ne fun _ => eq_userKey_of_mem_canonical

/-! ### Added data -/

theorem complete_data (common : List (String × Json)) (id : String) (e : Event) :
    (e.complete common id).data = addAll ((idKey, .str id) :: common) e.data := by
  rw [addAll, List.foldl_cons, complete]

theorem isScalar_of_mem_commonData {sender : Sender} {device : Option Device} {d : String × Json}
    (h : d ∈ commonData sender device) : d.2.isScalar = true := by
  have known (name : String) (value : Option String) :
      ∀ d ∈ value.toList.map fun s => (name, Json.str s), d.2.isScalar = true := by
    simp [Json.isScalar]
  simp only [commonData, List.mem_append, List.mem_cons, List.not_mem_nil, or_false] at h
  rcases h with ((((rfl | rfl | rfl) | h) | h) | h) | h
  · rfl
  · rfl
  · rfl
  all_goals exact known _ _ d h

end Event

namespace Outbox

open Event (IsSpelling userKey idKey)

/-! ### The form in which an event is sent -/

/-- The form `queued` in which `event` is sent. It can be sent: it has a type, an action, an identifier, and
only scalars for its data. It says what the event says: what the event has is there, and what is there is
from the event or, under names that it does not use, from the data that all events share. -/
structure Faithful (settings : OutboxSettings) (id : String) (event queued : Event) : Prop where
  kind : queued.kind ≠ ""
  kind_kept : event.kind ≠ "" → queued.kind = event.kind
  action : queued.action ≠ ""
  action_kept : queued.action = event.action
  identified : queued.identifiers ≠ []
  /-- The main identifier has no name but its standard one. -/
  standard : ∀ i ∈ queued.identifiers, IsSpelling i.1 → i.1 = userKey
  others_kept : ∀ i, ¬ IsSpelling i.1 → (i ∈ queued.identifiers ↔ i ∈ event.identifiers)
  main : userKey ∈ queued.identifiers.map Prod.fst ↔ ∃ i ∈ event.identifiers, IsSpelling i.1
  main_kept : userKey ∈ event.identifiers.map Prod.fst →
    ∀ value, (userKey, value) ∈ queued.identifiers ↔ (userKey, value) ∈ event.identifiers
  /-- Without the standard name, the value is one that stands under another spelling. -/
  main_found : userKey ∉ event.identifiers.map Prod.fst →
    ∀ value, (userKey, value) ∈ queued.identifiers →
      ∃ name, IsSpelling name ∧ (name, value) ∈ event.identifiers
  scalar : ∀ d ∈ queued.data, d.2.isScalar = true
  data_kept : ∀ d ∈ event.data, d ∈ queued.data
  data_added : ∀ d ∈ queued.data, d ∈ event.data ∨ d.1 ∉ event.data.map Prod.fst ∧
    d ∈ (idKey, .str id) :: Event.commonData settings.sender settings.device
  shared : ∀ d ∈ (idKey, .str id) :: Event.commonData settings.sender settings.device,
    d.1 ∈ queued.data.map Prod.fst
  /-- No name is used twice, if the event does not. -/
  distinct : (event.identifiers.map Prod.fst).Nodup → (event.data.map Prod.fst).Nodup →
    (queued.identifiers.map Prod.fst).Nodup ∧ (queued.data.map Prod.fst).Nodup
  normal : queued.normalize = queued

variable {settings : OutboxSettings} {o : Outbox} {event : Event}

theorem prepared_data (settings : OutboxSettings) (id : String) (event : Event) :
    (prepared settings id event).data =
      Event.addAll ((idKey, .str id) :: Event.commonData settings.sender settings.device) event.data :=
  Event.complete_data _ id event.normalize

/-- An event that is accepted is prepared faithfully. -/
theorem faithful_prepared (id : String) (h : Admissible settings o event) :
    Faithful settings id event (prepared settings id event) where
  kind := event.normalize_kind_ne
  kind_kept present := by simp [prepared, Event.complete, Event.normalize, present]
  action := h.named
  action_kept := rfl
  identified := Event.canonical_ne_nil h.identified
  standard _ := Event.eq_userKey_of_mem_canonical
  others_kept i other := by
    refine Event.mem_canonical_iff.trans ⟨?_, fun member => .inl ⟨member, fun h => absurd h other⟩⟩
    rintro (⟨member, -⟩ | ⟨-, j, -, rfl⟩)
    · exact member
    · exact absurd Event.isSpelling_userKey other
  main := Event.userKey_mem_canonical_iff
  main_kept present value := by
    refine Event.mem_canonical_iff.trans ⟨?_, fun member => .inl ⟨member, fun _ => rfl⟩⟩
    rintro (⟨member, -⟩ | ⟨absent, -⟩)
    · exact member
    · exact absurd present absent
  main_found absent value member := by
    rcases Event.mem_canonical_iff.mp member with ⟨member, -⟩ | ⟨-, j, found, same⟩
    · exact absurd (List.mem_map_of_mem member) absent
    · have other : Event.isAlias j.1 = true := by simpa using List.find?_some found
      obtain ⟨-, rfl⟩ := Prod.mk.inj same
      exact ⟨j.1, (Event.isAlias_iff.mp other).1, List.mem_of_find?_eq_some found⟩
  scalar d member := by
    rw [prepared_data] at member
    rcases Event.mem_or_of_mem_addAll member with own | ⟨-, added⟩
    · exact h.scalar d own
    · rcases List.mem_cons.mp added with rfl | common
      · rfl
      · exact Event.isScalar_of_mem_commonData common
  data_kept d member := prepared_data settings id event ▸ Event.mem_addAll_of_mem member
  data_added d member := Event.mem_or_of_mem_addAll (prepared_data settings id event ▸ member)
  shared d member := by
    rw [prepared_data]
    exact Event.mem_names_addAll_iff.mpr (.inr (List.mem_map_of_mem member))
  distinct identifiers data :=
    ⟨Event.nodup_canonical identifiers, prepared_data settings id event ▸ Event.nodup_addAll data⟩
  normal := Event.normalize_eq_self event.normalize_kind_ne fun _ => Event.eq_userKey_of_mem_canonical

/-- Two other spellings of the main identifier, of which the first one counts. -/
example : Event.canonical [("FS-User-ID", "a"), ("vuid", "v"), ("Fs_User_Id", "b")] =
    [("vuid", "v"), ("fs_user_id", "a")] := by decide

/-! ### Runs -/

theorem map_fst_entries (o : Outbox) : o.entries.map Prod.fst = o.queue := by
  simp [entries, Function.comp_def]

theorem map_fst_shipped (effects : List Effect) :
    (shipped effects).map Prod.fst = (handovers effects).flatMap (·.2.2) := by
  simp [shipped, entriesOf, List.map_flatMap, Function.comp_def]

namespace System

variable {s t : System} {c : Label} {reports : List Report} {queued : Event}

/-- What was accepted in a run is what was handed over, followed by what is queued. -/
theorem acceptances_of_run (settings : OutboxSettings) (labels : List Label) :
    let run := Run.steps next? { settings } labels
    acceptances (effectsIn run) = (handovers (effectsIn run)).flatMap (·.2.2) ++
      (Run.final next? { settings } labels).outbox.queue := by
  intro run
  have settles := settles_of_run settings labels
  have balance := congrArg (List.map Prod.fst) settles.balance
  rw [List.map_append, map_fst_shipped, map_fst_entries] at balance
  exact settles.accepted.trans balance.symm

theorem mem_acceptances_effectsIn {run : List (Step System Label Report)} :
    queued ∈ acceptances (effectsIn run) ↔ ∃ x ∈ run, queued ∈ acceptances (effectsOf x.reports) := by
  simp only [acceptances, effectsIn, List.filterMap_flatMap, List.mem_flatMap]

theorem admits_iff {settings : OutboxSettings} {o : Outbox} {event : Event} :
    o.admits settings event = true ↔ Admissible settings o event :=
  refusal?_eq_none_iff.symm.trans admissible_iff.symm

/-- An event that is sent and can be accepted is all that is accepted. -/
theorem Ordered.acceptances_of_admissible (h : s.Ordered) {id : String} {event : Event}
    (step : s.Moves (.send id event) t reports) (admissible : Admissible s.settings s.outbox event) :
    acceptances (effectsOf reports) = [prepared s.settings id event] := by
  rw [(h.settles step).accepted, admitted?, admission?, if_pos (admits_iff.mpr admissible)]
  rfl

/-- A step of a run is taken in good order and under the settings of the run. -/
theorem ordered_of_mem_run {settings : OutboxSettings} {labels : List Label}
    {x : Step System Label Report} (h : x ∈ Run.steps next? { settings } labels) :
    x.before.Ordered ∧ x.before.settings = settings ∧ x.before.Moves x.choice x.after x.reports := by
  obtain ⟨past, -, -, state, taken⟩ := Run.exists_of_mem_steps h
  have punctual := punctual_of_run settings past
  rw [state] at punctual
  exact ⟨punctual.ordered, punctual.settled, moves_of_next? taken⟩

/-- Whatever happens and in whatever order: an event that can be accepted when it is sent is accepted in a
form that is faithful to it, and no event is accepted otherwise. What was accepted is what was handed over,
batch by batch, followed by what is queued. So what is queued, what is in a batch that was handed over, and
what is on its way was accepted in the form that it has there. -/
theorem faithful_of_run (settings : OutboxSettings) (labels : List Label) :
    let run := Run.steps next? { settings } labels
    let s := Run.final next? { settings } labels
    let sent := acceptances (effectsIn run)
    (∀ x ∈ run, ∀ id event, x.choice = .send id event → Admissible settings x.before.outbox event →
      ∃ queued, acceptances (effectsOf x.reports) = [queued] ∧ Faithful settings id event queued) ∧
    (∀ queued ∈ sent, ∃ x ∈ run, ∃ id event, x.choice = .send id event ∧
      Admissible settings x.before.outbox event ∧ Faithful settings id event queued) ∧
    sent = (handovers (effectsIn run)).flatMap (·.2.2) ++ s.outbox.queue ∧
    (∀ queued ∈ s.outbox.queue, queued ∈ sent) ∧
    (∀ batch ∈ handovers (effectsIn run), ∀ queued ∈ batch.2.2, queued ∈ sent) ∧
    (∀ batch d, (batch, .active d) ∈ s.deliveries → ∀ queued ∈ d.batch, queued ∈ sent) ∧
    ∀ event : Event, event.normalize.normalize = event.normalize := by
  intro run s sent
  have account : sent = (handovers (effectsIn run)).flatMap (·.2.2) ++ s.outbox.queue :=
    acceptances_of_run settings labels
  have handed : ∀ batch ∈ handovers (effectsIn run), ∀ queued ∈ batch.2.2, queued ∈ sent := by
    intro batch hb queued member
    rw [account]
    exact List.mem_append_left _ (List.mem_flatMap.mpr ⟨batch, hb, member⟩)
  refine ⟨?_, ?_, account, ?_, handed, ?_, Event.normalize_normalize⟩
  · intro x hx id event choice admissible
    obtain ⟨ordered, rfl, step⟩ := ordered_of_mem_run hx
    exact ⟨_, ordered.acceptances_of_admissible (choice ▸ step) admissible,
      faithful_prepared id admissible⟩
  · intro queued accepted
    obtain ⟨x, hx, accepted⟩ := mem_acceptances_effectsIn.mp accepted
    obtain ⟨ordered, settled, step⟩ := ordered_of_mem_run hx
    obtain ⟨id, event, choice, admits, rfl⟩ := ordered.exists_of_accepted step accepted
    have admissible := admits_iff.mp admits
    rw [settled] at admissible ⊢
    exact ⟨x, hx, id, event, choice, admissible, faithful_prepared id admissible⟩
  · intro queued member
    rw [account]
    exact List.mem_append_right _ member
  · intro batch d hd
    exact handed _ ((punctual_of_run settings labels).carried batch d hd)

end System

end Outbox

end Targeting.Platform
