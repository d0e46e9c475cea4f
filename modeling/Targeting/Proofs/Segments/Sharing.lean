import Mathlib.Data.Set.Basic
import Targeting.Proofs.Segments.Epoch

/-!
# Customers who share an entry

A customer is known by the name of an identifier and by the identifier itself, and an entry of the cache is
found under one text, made of both with a separator between them. Nothing keeps the separator out of a name
or of an identifier. So the name of one customer may go on where that of the other has ended, with the
separator or with its first two characters, and if the identifier of the other makes up for it then the two
have the same key. The platform is asked about one of them, and the cache answers for both.

This cannot happen among customers none of whom absorbs another one in this way. In particular it cannot
happen where all names are of visitors or of known customers.

## Main definitions

* `Customer`, `Customer.Absorbs` — customers, and when one has the key of another
* `System.Call`, `System.oneByOne` — calls that are made one after another under one configuration
* `System.KeepsApart` — what a customer gets from the cache was asked for about this customer
* `System.KeptApart` — this holds of all calls about some customers

## Main results

* `Customer.cacheKey_eq_iff` — which customers have the same key
* `System.keptApart_iff` — which customers are kept apart
* `System.not_keptApart_univ` — not all customers are
-/

namespace Targeting.Platform.Segments

/-! ### Keys -/

/-- Somebody whose segments are fetched: the name of an identifier, and the identifier. -/
structure Customer where
  userKey : String
  userValue : String

namespace Customer

variable {u v : Customer}

/-- The customer whom a question is about. -/
def ofQuery (query : SegmentQuery) : Customer := ⟨query.userKey, query.userValue⟩

/-- The key under which the segments of a customer are cached. -/
def cacheKey (u : Customer) : String := Segments.cacheKey u.userKey u.userValue

/-- The name of one customer goes on where that of another has ended, with the separator or with its
first two characters, and the identifier of the other begins with what is left. -/
inductive Absorbs (u v : Customer) : Prop
  | whole (middle : String) (key : v.userKey = u.userKey ++ "-$-" ++ middle)
      (value : u.userValue = middle ++ "-$-" ++ v.userValue)
  | part (key : v.userKey = u.userKey ++ "-$") (value : u.userValue = "$-" ++ v.userValue)

theorem cacheKey_toList (u : Customer) :
    u.cacheKey.toList = u.userKey.toList ++ '-' :: '$' :: '-' :: u.userValue.toList := by
  simp [cacheKey, Segments.cacheKey]

theorem Absorbs.cacheKey_eq (h : u.Absorbs v) : u.cacheKey = v.cacheKey := by
  rw [← String.toList_inj, cacheKey_toList, cacheKey_toList]
  cases h with
  | whole middle key value => simp [key, value]
  | part key value => simp [key, value]

/-- A customer who absorbs another one has the shorter name. -/
theorem Absorbs.length_lt (h : u.Absorbs v) : u.userKey.length < v.userKey.length := by
  cases h with
  | whole middle key =>
    have separator : "-$-".length = 3 := rfl
    rw [key, String.length_append, String.length_append]
    omega
  | part key =>
    have separator : "-$".length = 2 := rfl
    rw [key, String.length_append]
    omega

/-- The name of a customer who is absorbed holds a part of the separator. -/
theorem Absorbs.mem_userKey (h : u.Absorbs v) : '-' ∈ v.userKey.toList := by
  cases h with
  | whole middle key => simp [key]
  | part key => simp [key]

theorem Absorbs.ne (h : u.Absorbs v) : u ≠ v := by
  rintro rfl
  exact absurd h.length_lt (Nat.lt_irrefl _)

/-- Where the second of two texts with a separator begins, the first one may have the whole separator, two
characters of it, or nothing more. -/
theorem cases_of_separator {x b d : List Char}
    (h : '-' :: '$' :: '-' :: b = x ++ '-' :: '$' :: '-' :: d) :
    x = [] ∧ b = d ∨ x = ['-', '$'] ∧ b = '$' :: '-' :: d ∨
      ∃ middle, x = '-' :: '$' :: '-' :: middle ∧ b = middle ++ '-' :: '$' :: '-' :: d := by
  match x with
  | [] => exact .inl ⟨rfl, by simpa using h⟩
  | [_] => simp at h
  | [_, _] =>
    obtain ⟨rfl, rfl, -, rfl⟩ : '-' = _ ∧ '$' = _ ∧ '-' = '-' ∧ b = _ := by simpa using h
    exact .inr (.inl ⟨rfl, rfl⟩)
  | _ :: _ :: _ :: middle =>
    obtain ⟨rfl, rfl, rfl, rfl⟩ : '-' = _ ∧ '$' = _ ∧ '-' = _ ∧ b = _ := by simpa using h
    exact .inr (.inr ⟨middle, rfl, rfl⟩)

/-- Of two customers with the same key, the one with the shorter name absorbs the other. -/
theorem eq_or_absorbs {x : List Char} (key : v.userKey.toList = u.userKey.toList ++ x)
    (rest : '-' :: '$' :: '-' :: u.userValue.toList
      = x ++ '-' :: '$' :: '-' :: v.userValue.toList) : u = v ∨ u.Absorbs v := by
  rcases cases_of_separator rest with ⟨rfl, value⟩ | ⟨rfl, value⟩ | ⟨middle, rfl, value⟩
  · rw [List.append_nil] at key
    have same : v.userKey = u.userKey ∧ u.userValue = v.userValue :=
      ⟨String.toList_inj.mp key, String.toList_inj.mp value⟩
    exact .inl (Customer.mk.injEq .. ▸ ⟨same.1.symm, same.2⟩)
  · exact .inr (.part (String.toList_inj.mp (by simp [key])) (String.toList_inj.mp (by simp [value])))
  · exact .inr (.whole (.ofList middle) (String.toList_inj.mp (by simp [key]))
      (String.toList_inj.mp (by simp [value])))

/-- Two customers have the same key exactly if they are the same or one absorbs the other. -/
theorem cacheKey_eq_iff : u.cacheKey = v.cacheKey ↔ u = v ∨ u.Absorbs v ∨ v.Absorbs u := by
  constructor
  · intro same
    rw [← String.toList_inj, cacheKey_toList, cacheKey_toList] at same
    rcases List.append_eq_append_iff.mp same with ⟨x, key, rest⟩ | ⟨x, key, rest⟩
    · exact (eq_or_absorbs key rest).imp_right .inl
    · exact (eq_or_absorbs key rest).imp Eq.symm .inr
  · rintro (rfl | absorbs | absorbs)
    · rfl
    · exact absorbs.cacheKey_eq
    · exact absorbs.cacheKey_eq.symm

end Customer

/-- What becomes of beginning to fetch: it is settled without a look at the cache, the cache holds segments of
this customer, or the platform is asked about this customer. -/
inductive Begins (s : Segments) (u : Customer) (options : FetchOptions) : Begun → List Notice → Prop
  | settled (result : Option (List String)) (said : List Notice)
      (apart : ∀ userKey userValue, said ≠ [.cached userKey userValue]) :
      Begins s u options (.done result) said
  | found (names : List String) (held : s.cache.Holds u.cacheKey names) :
      Begins s u options (.done (some names)) [.cached u.userKey u.userValue]
  | asks (config : Config) : Begins s u options
      (.ask ⟨queryFor config u.userKey u.userValue, options⟩) [.fetching u.userKey u.userValue]

theorem begins_beginFetch (s : Segments) (now : Duration) (u : Customer) (options : FetchOptions) :
    Begins s u options (s.beginFetch now u.userKey u.userValue options).1
      (s.beginFetch now u.userKey u.userValue options).2.2 := by
  unfold beginFetch
  split
  · exact .settled none _ (by simp)
  · exact .settled none _ (by simp)
  · next config _ =>
    split
    · exact .settled (some []) _ (by simp)
    · have key : Pending.key ⟨queryFor config u.userKey u.userValue, options⟩ = u.cacheKey := rfl
      simp only [beginAsking, key]
      rcases looked : s.lookup now u.cacheKey options with ⟨_ | names, t⟩
      · exact .asks config
      · exact .found names (holds_of_lookup (congrArg Prod.fst looked))

namespace System

variable {s t : System} {reports : List Report} {c : Label} {x : Step System Label Report}
  {past : List (Step System Label Report)} {u v : Customer} {names : List String}
  {customers : Set Customer}

/-! ### Calls one after another -/

/-- A fetch from its beginning to its end, with what the platform answers if it is asked. -/
structure Call where
  customer : Customer
  options : FetchOptions := {}
  begins : Duration := .none
  ends : Duration := .none
  answer : Option (List String)
  said : List SegmentQuery.Notice := []

/-- The choices of a call. The answer is passed over if the platform is not asked. -/
def Call.labels (call : Call) : List Label :=
  [.fetch 0 call.begins call.customer.userKey call.customer.userValue call.options,
    .answer 0 call.ends call.answer call.said]

/-- The choices of calls that are made one after another under one configuration. -/
def oneByOne (integration : Integration) (calls : List Call) : List Label :=
  .update integration :: calls.flatMap Call.labels

/-- The customer who gets some segments from the cache, and these. -/
def servedTo? (step : Step System Label Report) : Option (Customer × List String) :=
  match step.choice, step.reports with
  | .fetch _ _ userKey userValue _, [.said (.cached _ _), .returned _ (some names)] =>
    some (⟨userKey, userValue⟩, names)
  | _, _ => none

/-- What a customer gets from the cache is what the platform has answered before to a question about this
very customer. -/
def KeepsApart (run : List (Step System Label Report)) : Prop :=
  ∀ past step rest, run = past ++ step :: rest → ∀ u names, servedTo? step = some (u, names) →
    ∃ earlier ∈ past, ∃ d, deposit? earlier = some d ∧ .ofQuery d.query = u ∧ d.names = names

/-- Whatever is fetched about some customers, one call after another under one configuration, the cache
keeps these customers apart. -/
def KeptApart (customers : Set Customer) : Prop :=
  ∀ (capacity : Nat) (timeout : Option Duration) (integration : Integration) (calls : List Call),
    (∀ call ∈ calls, call.customer ∈ customers) →
      KeepsApart (Run.steps next? (fresh capacity timeout) (oneByOne integration calls))

/-! ### Where answers come from -/

/-- The customer whom a choice is about. -/
def Label.customer? : Label → Option Customer
  | .fetch _ _ userKey userValue _ => some ⟨userKey, userValue⟩
  | _ => none

theorem mem_of_oneByOne {integration : Integration} {calls : List Call}
    (about : ∀ call ∈ calls, call.customer ∈ customers) :
    ∀ c ∈ oneByOne integration calls, ∀ u, c.customer? = some u → u ∈ customers := by
  intro c hc u fetched
  rcases List.mem_cons.mp hc with rfl | hc
  · cases fetched
  · obtain ⟨call, member, hc⟩ := List.mem_flatMap.mp hc
    rcases List.mem_cons.mp hc with rfl | hc
    · exact Option.some.inj fetched ▸ about call member
    · rw [List.mem_singleton.mp hc] at fetched
      cases fetched

/-- Whoever waits after a step has waited before, or is the customer whom the step is about. -/
theorem mem_pending_of_next? (h : s.next? c = some (t, reports)) {entry : Nat × Pending}
    (waits : entry ∈ t.pending) :
    entry ∈ s.pending ∨ c.customer? = some (.ofQuery entry.2.query) := by
  cases c with
  | update integration =>
    obtain ⟨rfl, -⟩ := Prod.mk.inj (Option.some.inj h)
    exact .inl waits
  | answer n now result said =>
    obtain ⟨pending, -, h⟩ := Option.bind_eq_some_iff.mp h
    obtain ⟨rfl, -⟩ := Prod.mk.inj (Option.some.inj h)
    exact .inl (List.mem_filter.mp waits).1
  | fetch n now userKey userValue options =>
    have begins := begins_beginFetch s.segments now ⟨userKey, userValue⟩ options
    rcases begun : s.segments.beginFetch now userKey userValue options
      with ⟨result | pending, segments, said⟩ <;> simp only [next?, begun] at h <;>
        obtain ⟨rfl, -⟩ := Prod.mk.inj (Option.some.inj h)
    · exact .inl waits
    · rcases List.mem_append.mp waits with waits | waits
      · exact .inl waits
      · obtain rfl := List.mem_singleton.mp waits
        rw [begun] at begins
        cases begins
        exact .inr rfl

/-- What is put into the cache lies under the key of the customer whom the question was about, and this
customer has waited for the answer. -/
theorem exists_of_deposit? {d : Deposit} (h : deposit? x = some d) :
    d.key = (Customer.ofQuery d.query).cacheKey ∧
      ∃ entry ∈ x.before.pending, entry.2.query = d.query := by
  unfold deposit? at h
  split at h
  · split at h
    · next pending found =>
      split at h
      · cases h
      · obtain rfl := Option.some.inj h
        obtain ⟨before, after, same, -⟩ := List.lookup_eq_some_iff.mp found
        have waits : (_, pending) ∈ x.before.pending :=
          same ▸ List.mem_append_right before List.mem_cons_self
        exact ⟨rfl, _, waits, rfl⟩
    · cases h
  · cases h

theorem customer_of_servedTo? (served : servedTo? x = some (u, names)) :
    x.choice.customer? = some u := by
  unfold servedTo? at served
  split at served
  · next choice said =>
    obtain ⟨rfl, -⟩ := Prod.mk.inj (Option.some.inj served)
    rw [choice]
    rfl
  · cases served

/-- What a fetch gets from the cache was there under the key of this customer. -/
theorem holds_of_servedTo? (h : s.next? c = some (t, reports))
    (served : servedTo? ⟨s, c, t, reports⟩ = some (u, names)) :
    s.segments.cache.Holds u.cacheKey names := by
  unfold servedTo? at served
  split at served
  · next n now userKey userValue options foundKey foundValue m found choice said =>
    obtain ⟨rfl, rfl⟩ := Prod.mk.inj (Option.some.inj served)
    obtain rfl : c = _ := choice
    replace said : reports = [.said (.cached foundKey foundValue)] ++ [.returned m (some found)] := said
    have begins := begins_beginFetch s.segments now ⟨userKey, userValue⟩ options
    rcases begun : s.segments.beginFetch now userKey userValue options with ⟨b, segments, notices⟩
    rw [begun] at begins
    simp only [next?, begun] at h
    cases begins with
    | settled result _ apart =>
      obtain ⟨-, rfl⟩ := Prod.mk.inj (Option.some.inj h)
      obtain ⟨notice, -⟩ := List.append_inj' said rfl
      obtain ⟨_, rfl, cached⟩ := List.map_eq_singleton_iff.mp notice
      exact absurd (congrArg ([·]) (Report.said.inj cached)) (apart foundKey foundValue)
    | found names held =>
      obtain ⟨-, rfl⟩ := Prod.mk.inj (Option.some.inj h)
      obtain ⟨-, returned⟩ := List.append_inj' said rfl
      obtain ⟨-, same⟩ := Report.returned.inj (List.singleton_inj.mp returned)
      rwa [← Option.some.inj same]
    | asks config =>
      obtain ⟨-, rfl⟩ := Prod.mk.inj (Option.some.inj h)
      simp at said
  · cases served

/-! ### Runs -/

/-- Along a run about some customers, whoever waits is one of them, and all that the cache holds was put
there after one of them had waited for it. -/
structure Attributed (customers : Set Customer) (past : List (Step System Label Report)) (s : System) :
    Prop where
  coherent : s.segments.cache.Coherent
  waiting : ∀ entry ∈ s.pending, .ofQuery entry.2.query ∈ customers
  deposits : ∀ x ∈ past, ∀ d, deposit? x = some d → .ofQuery d.query ∈ customers
  held : ∀ key names, s.segments.cache.Holds key names →
    ∃ x ∈ past, ∃ d, deposit? x = some d ∧ d.key = key ∧ d.names = names

namespace Attributed

theorem initial (capacity : Nat) (timeout : Option Duration) :
    Attributed customers [] (fresh capacity timeout) where
  coherent := coherent_fresh capacity timeout
  waiting := List.forall_mem_nil _
  deposits := List.forall_mem_nil _
  held key names held := absurd held (not_holds_fresh capacity timeout key names)

theorem next (h : Attributed customers past s) (step : s.next? c = some (t, reports))
    (about : ∀ u, c.customer? = some u → u ∈ customers) :
    Attributed customers (past ++ [⟨s, c, t, reports⟩]) t := by
  have turn := turn_of_next? step
  refine ⟨turn.coherent h.coherent, fun entry waits => ?_, ?_, fun key names held => ?_⟩
  · rcases mem_pending_of_next? step waits with before | asked
    · exact h.waiting entry before
    · exact about _ asked
  · refine List.forall_mem_append.mpr ⟨h.deposits, List.forall_mem_singleton.mpr fun d deposit => ?_⟩
    obtain ⟨-, entry, waited, same⟩ := exists_of_deposit? deposit
    exact same ▸ h.waiting entry waited
  · rcases turn.origin h.coherent held with ⟨d, deposit, key, names⟩ | ⟨before, -⟩
    · exact ⟨_, List.mem_append_right past List.mem_cons_self, d, deposit, key, names⟩
    · obtain ⟨x, hx, origin⟩ := h.held key names before
      exact ⟨x, List.mem_append_left _ hx, origin⟩

end Attributed

theorem attributed_of_run (capacity : Nat) (timeout : Option Duration) {labels : List Label}
    (about : ∀ c ∈ labels, ∀ u, c.customer? = some u → u ∈ customers) :
    Attributed customers (Run.steps next? (fresh capacity timeout) labels)
      (Run.final next? (fresh capacity timeout) labels) := by
  have taken : ∀ x ∈ Run.steps next? (fresh capacity timeout) labels,
      ∀ u, x.choice.customer? = some u → u ∈ customers := by
    intro x hx
    obtain ⟨before, later, rfl, -⟩ := Run.exists_of_mem_steps hx
    exact about _ (List.mem_append_right before List.mem_cons_self)
  revert taken
  refine Run.induction (motive := fun past s =>
    (∀ x ∈ past, ∀ u, x.choice.customer? = some u → u ∈ customers) →
      Attributed customers past s) (fun _ => .initial capacity timeout) ?_ labels
  intro past s c t reports attributed step taken
  obtain ⟨taken, last⟩ := List.forall_mem_append.mp taken
  exact (attributed taken).next step (List.forall_mem_singleton.mp last)

/-- If no customer of a run absorbs another one, the cache keeps them apart. -/
theorem keepsApart_of_not_absorbs (capacity : Nat) (timeout : Option Duration) {labels : List Label}
    (about : ∀ c ∈ labels, ∀ u, c.customer? = some u → u ∈ customers)
    (apart : ∀ u ∈ customers, ∀ v ∈ customers, ¬ u.Absorbs v) :
    KeepsApart (Run.steps next? (fresh capacity timeout) labels) := by
  intro past step rest split u names served
  obtain ⟨before, later, rfl, rfl, state, taken⟩ := Run.exists_of_steps_eq split
  obtain ⟨about, now⟩ := List.forall_mem_append.mp about
  have attributed := attributed_of_run capacity timeout about
  rw [state] at attributed
  obtain ⟨x, hx, d, deposit, key, rfl⟩ :=
    attributed.held u.cacheKey names (holds_of_servedTo? taken served)
  refine ⟨x, hx, d, deposit, ?_, rfl⟩
  -- The question was about somebody with the same key.
  have mine : u ∈ customers := now step.choice List.mem_cons_self u (customer_of_servedTo? served)
  have theirs := attributed.deposits x hx d deposit
  rw [(exists_of_deposit? deposit).1, Customer.cacheKey_eq_iff] at key
  rcases key with same | absorbs | absorbs
  · exact same
  · exact absurd absorbs (apart _ theirs u mine)
  · exact absurd absorbs (apart u mine _ theirs)

/-! ### Customers with the same key -/

/-- A configuration that asks for one segment. -/
def goldConfig : Config := ⟨"key", "https://api.zaius.com", "", ["gold"]⟩

/-- The system after a call about a customer that was answered, where the cache has room for one entry. -/
def answeredOnce (u : Customer) (names : List String) : System where
  segments := {
    integration := some (.integrated goldConfig)
    cache := (fresh 1 none).segments.cache.reset.save .none u.cacheKey names }

theorem final_of_answered (u : Customer) (names : List String) :
    Run.final next? (fresh 1 none)
        (oneByOne (.integrated goldConfig) [{ customer := u, answer := some names }]) =
      answeredOnce u names := rfl

theorem holds_answeredOnce (u : Customer) (names : List String) :
    (answeredOnce u names).segments.cache.Holds u.cacheKey names :=
  (Cache.Coherent.reset _).holds_save (by decide) .none u.cacheKey names

/-- The next fetch of a customer with the same key is served from the cache. -/
theorem exists_next?_answeredOnce (same : u.cacheKey = v.cacheKey) (names : List String) :
    ∃ t, (answeredOnce u names).next? (.fetch 0 .none v.userKey v.userValue {})
      = some (t, [.said (.cached v.userKey v.userValue), .returned 0 (some names)]) := by
  obtain ⟨entry, found, rfl⟩ := same ▸ holds_answeredOnce u names
  let s := (answeredOnce u entry.value).segments
  let after : Segments := { s with cache := s.cache.touch v.cacheKey entry }
  -- Entries do not expire here, so what is held is found.
  have looked : s.lookup .none v.cacheKey {} = (some entry.value, after) := by
    rw [lookup_of_used rfl]
    simp only [opened, Bool.false_eq_true, if_false]
    rw [Cache.lookup_of_some found]
    rfl
  have begun : s.beginFetch .none v.userKey v.userValue {}
      = (.done (some entry.value), after, [.cached v.userKey v.userValue]) := by
    have key : Pending.key ⟨queryFor goldConfig v.userKey v.userValue, {}⟩ = v.cacheKey := rfl
    have asked : s.beginFetch .none v.userKey v.userValue {}
        = s.beginAsking .none (queryFor goldConfig v.userKey v.userValue) {} := rfl
    simp only [asked, beginAsking, key, looked]
    rfl
  refine ⟨{ answeredOnce u entry.value with segments := after }, ?_⟩
  simp only [next?]
  rw [begun]
  rfl

/-- The second of two customers with the same key gets what was asked for about the first one. -/
theorem not_keptApart_of_absorbs (hu : u ∈ customers) (hv : v ∈ customers) (absorbs : u.Absorbs v) :
    ¬ KeptApart customers := by
  intro kept
  let first : Call := { customer := u, answer := some ["gold"] }
  let second : Call := { customer := v, answer := none }
  have apart := kept 1 none (.integrated goldConfig) [first, second]
    (List.forall_mem_cons.mpr ⟨hu, List.forall_mem_singleton.mpr hv⟩)
  have calls : oneByOne (.integrated goldConfig) [first, second]
      = oneByOne (.integrated goldConfig) [first] ++ second.labels := rfl
  obtain ⟨t, served⟩ := exists_next?_answeredOnce absorbs.cacheKey_eq ["gold"]
  rw [calls, Run.steps_append, final_of_answered, Call.labels, Run.steps_cons_of_some served] at apart
  obtain ⟨x, hx, d, deposit, about, -⟩ := apart _ _ _ rfl v ["gold"] rfl
  -- So far there was no question but the one about the first customer.
  have sole : ∀ call ∈ [first], call.customer ∈ ({u} : Set Customer) :=
    List.forall_mem_singleton.mpr rfl
  have asked := (attributed_of_run 1 none (mem_of_oneByOne sole)).deposits x hx d deposit
  exact absorbs.ne (about.symm.trans asked).symm

/-- Customers are kept apart by the cache, in all calls about them that are made one after another under
one configuration, if and only if none of them absorbs another one. -/
theorem keptApart_iff (customers : Set Customer) :
    KeptApart customers ↔ ∀ u ∈ customers, ∀ v ∈ customers, ¬ u.Absorbs v := by
  constructor
  · intro kept u hu v hv absorbs
    exact not_keptApart_of_absorbs hu hv absorbs kept
  · intro apart capacity timeout integration calls about
    exact keepsApart_of_not_absorbs capacity timeout (mem_of_oneByOne about) apart

/-- Visitors and known customers, whatever their identifiers. -/
theorem keptApart_visitors_and_users :
    KeptApart {u | u.userKey = "vuid" ∨ u.userKey = "fs_user_id"} := by
  refine (keptApart_iff _).mpr fun u _ v hv absorbs => ?_
  have separator := absorbs.mem_userKey
  rcases hv with key | key <;> rw [key] at separator <;> exact absurd separator (by decide)

/-- A customer whose identifier has the separator in it, and one whose name has. -/
theorem not_keptApart_univ : ¬ KeptApart Set.univ := by
  have absorbs : Customer.Absorbs ⟨"a", "b-$-c"⟩ ⟨"a-$-b", "c"⟩ := .whole "b" rfl rfl
  exact not_keptApart_of_absorbs (Set.mem_univ _) (Set.mem_univ _) absorbs

end System

end Targeting.Platform.Segments
