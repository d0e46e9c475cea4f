import Mathlib.Logic.Function.Basic
import Mathlib.Logic.Relation
import Targeting.Proofs.Audience.Answer
import Targeting.Proofs.Condition.Rules

/-!
# Answers when more becomes known

An answer that is not open is given for good: it stays the same when an attribute that was missing or
null gets a value, and when an audience that was missing is added. For this every condition has to leave
open what it cannot decide. Two sorts of conditions do not: one that asks whether an attribute exists
answers no for a missing one, and a registered judge may answer anything.

## Main definitions

* `Truth.KeptBy` — a later answer that keeps an earlier one
* `User.KnownIn`, `Knowledge.KnownIn` — knowledge that is part of other knowledge
* `Knowledge.Learns` — a step by which more becomes known
* `Evaluator.IsSteady` — the conditions that leave open what they cannot decide

## Main results

* `Tree.value_keptBy` — a tree keeps its answer if its leaves do
* `Evaluator.answer_keptBy`, `Evaluator.audienceAnswer_keptBy` — conditions and audiences keep theirs
* `Evaluator.answers_of_learning` — answers are kept however much is learned
-/

namespace Targeting

/-! ### Answers and trees -/

namespace Truth

/-- An answer is kept by a later one: unless it was open, the later one is the same. -/
def KeptBy (earlier later : Truth) : Prop := earlier ≠ unknown → later = earlier

instance (earlier later : Truth) : Decidable (earlier.KeptBy later) :=
  inferInstanceAs (Decidable (_ → _))

namespace KeptBy

variable {a b c d : Truth}

theorem refl (a : Truth) : a.KeptBy a := fun _ => rfl

theorem of_unknown : unknown.KeptBy b := fun definite => absurd rfl definite

theorem unknown_or_eq (h : a.KeptBy b) : a = unknown ∨ b = a :=
  or_iff_not_imp_left.mpr h

theorem and (h : a.KeptBy b) (k : c.KeptBy d) : (a.and c).KeptBy (b.and d) := by
  rcases h.unknown_or_eq with rfl | rfl <;> rcases k.unknown_or_eq with rfl | rfl
  · exact of_unknown
  · cases d with
    | no => simpa using refl no
    | yes => exact of_unknown
    | unknown => exact of_unknown
  · cases b with
    | no => simpa using refl no
    | yes => exact of_unknown
    | unknown => exact of_unknown
  · exact refl _

theorem or (h : a.KeptBy b) (k : c.KeptBy d) : (a.or c).KeptBy (b.or d) := by
  rcases h.unknown_or_eq with rfl | rfl <;> rcases k.unknown_or_eq with rfl | rfl
  · exact of_unknown
  · cases d with
    | yes => simpa using refl yes
    | no => exact of_unknown
    | unknown => exact of_unknown
  · cases b with
    | yes => simpa using refl yes
    | no => exact of_unknown
    | unknown => exact of_unknown
  · exact refl _

theorem not (h : a.KeptBy b) : a.not.KeptBy b.not := by
  rcases h.unknown_or_eq with rfl | rfl
  · exact of_unknown
  · exact refl _

theorem holds (h : a.KeptBy b) (yes : a.holds = true) : b.holds = true := by
  obtain rfl : a = .yes := eq_of_beq yes
  rw [h (by decide)]
  rfl

end KeptBy

end Truth

theorem Operator.combine_keptBy {γ : Type} {f g : γ → Truth} {xs : List γ}
    (h : ∀ x ∈ xs, (f x).KeptBy (g x)) (op : Operator) :
    (op.combine (xs.map f)).KeptBy (op.combine (xs.map g)) := by
  cases op with
  | and =>
    rw [combine_and, combine_and]
    induction xs with
    | nil => exact .refl _
    | cons x xs ih =>
      exact (h x List.mem_cons_self).and (ih fun y hy => h y (List.mem_cons_of_mem x hy))
  | or =>
    rw [combine_or, combine_or]
    induction xs with
    | nil => exact .refl _
    | cons x xs ih =>
      exact (h x List.mem_cons_self).or (ih fun y hy => h y (List.mem_cons_of_mem x hy))
  | not =>
    by_cases sole : xs.length = 1
    · obtain ⟨x, rfl⟩ := List.length_eq_one_iff.mp sole
      exact (h x List.mem_cons_self).not
    · rw [combine_not (by rwa [List.length_map])]
      exact .of_unknown

theorem Tree.value_keptBy {α : Type} {f g : α → Truth} {t : Tree α}
    (h : ∀ a ∈ t.leaves, (f a).KeptBy (g a)) : (t.value f).KeptBy (t.value g) := by
  induction t with
  | leaf a => exact h a List.mem_cons_self
  | node op ts ih =>
    rw [value_node, value_node]
    exact Operator.combine_keptBy
      (fun t ht => ih t ht fun a ha => h a (mem_leaves_node ht ha)) op

/-! ### What is known -/

namespace User

/-- What is known of a user is part of what is known of another: the segments are the same, and every
attribute with a value has this value. -/
structure KnownIn (user more : User) : Prop where
  segments : more.segments = user.segments
  attributes : ∀ name value, user.attribute? name = some value → value ≠ .null →
    more.attribute? name = some value

theorem KnownIn.refl (user : User) : KnownIn user user := ⟨rfl, fun _ _ found _ => found⟩

theorem KnownIn.trans {user more most : User} (h : user.KnownIn more) (k : more.KnownIn most) :
    user.KnownIn most where
  segments := k.segments.trans h.segments
  attributes name value found valued :=
    k.attributes name value (h.attributes name value found valued) valued

theorem attribute?_withAttribute_of_ne {user : User} {name other : String} (h : other ≠ name)
    (value : Attribute) : (user.withAttribute name value).attribute? other =
      user.attribute? other := by
  rw [attribute?, withAttribute, List.lookup_cons, beq_eq_false_iff_ne.mpr h, attribute?]
  exact lookup_filter (p := (·.1 != name)) (fun _ => bne_iff_ne.mpr h) user.attributes

/-- An attribute that is missing or null may get a value. -/
theorem KnownIn.withAttribute {user : User} {name : String} (value : Attribute)
    (unset : user.attribute? name = none ∨ user.attribute? name = some .null) :
    user.KnownIn (user.withAttribute name value) where
  segments := rfl
  attributes other found known valued := by
    by_cases same : other = name
    · subst same
      rcases unset with missing | null
      · exact absurd (known.symm.trans missing) (Option.some_ne_none found)
      · exact absurd (Option.some.inj (known.symm.trans null)) valued
    · rw [attribute?_withAttribute_of_ne same, known]

end User

/-- What answers depend on: a user, and the audiences. -/
structure Knowledge where
  user : User
  catalogue : Catalogue

namespace Knowledge

/-- A step by which more becomes known. -/
inductive Learns : Knowledge → Knowledge → Prop
  /-- An attribute that is missing or null gets a value. -/
  | setAttribute {known : Knowledge} (name : String) (value : Attribute)
      (unset : known.user.attribute? name = none ∨ known.user.attribute? name = some .null) :
      Learns known { known with user := known.user.withAttribute name value }
  /-- A missing audience is added. -/
  | addAudience {known : Knowledge} (id : String) (audience : Audience)
      (missing : known.catalogue id = none) :
      Learns known
        { known with catalogue := Function.update known.catalogue id (some audience) }

/-- All that is known is part of other knowledge. -/
structure KnownIn (known more : Knowledge) : Prop where
  user : known.user.KnownIn more.user
  audiences : ∀ id audience, known.catalogue id = some audience →
    more.catalogue id = some audience

variable {known more most : Knowledge}

theorem KnownIn.refl (known : Knowledge) : KnownIn known known := ⟨.refl _, fun _ _ found => found⟩

theorem KnownIn.trans (h : known.KnownIn more) (k : more.KnownIn most) : known.KnownIn most where
  user := h.user.trans k.user
  audiences id audience found := k.audiences id audience (h.audiences id audience found)

/-- One step forgets nothing. -/
theorem Learns.knownIn (h : known.Learns more) : known.KnownIn more := by
  cases h with
  | setAttribute name value unset => exact ⟨.withAttribute value unset, fun _ _ found => found⟩
  | addAudience id audience missing =>
    refine ⟨.refl _, fun other found known => ?_⟩
    have differs : other ≠ id := by
      rintro rfl
      exact Option.some_ne_none found (known.symm.trans missing)
    exact (Function.update_of_ne differs ..).trans known

/-- Any number of steps forget nothing. -/
theorem knownIn_of_learning (h : Relation.ReflTransGen Learns known more) : known.KnownIn more := by
  induction h with
  | refl => exact .refl known
  | tail _ step ih => exact ih.trans step.knownIn

end Knowledge

/-! ### Conditions -/

namespace Condition

/-- A null value decides nothing but whether the attribute exists. -/
theorem judgeValue_null {op : Operator} (h : op ≠ .exists) (c : Condition) :
    ∃ problem, c.judgeValue op .null = .error problem := by
  by_cases fits : Admits op.text c.value
  · exact ⟨_, judgeValue_of_mismatch fits (Value.kind?_ne_null fits)⟩
  · exact ⟨_, judgeValue_of_unfit h fits⟩

/-- A comparison that can be made at all has the same result when more is known. -/
theorem judgeAttribute_of_knownIn {user more : User} (known : user.KnownIn more) {c : Condition}
    (comparing : c.operator? ≠ some .exists) :
    (∃ problem, c.judgeAttribute user = .error problem) ∨
      c.judgeAttribute more = c.judgeAttribute user := by
  cases named : c.operator? with
  | none => exact .inl ⟨_, by rw [judgeAttribute, named]⟩
  | some op =>
    have compares : op ≠ .exists := by
      rintro rfl
      exact comparing named
    cases found : user.attribute? c.name with
    | none => exact .inl ⟨_, judgeAttribute_of_missing named compares found⟩
    | some value =>
      by_cases null : value = .null
      · obtain ⟨problem, failed⟩ := judgeValue_null compares c
        exact .inl ⟨problem, by rw [judgeAttribute_of_present named found, null, failed]⟩
      · have still := known.attributes c.name value found null
        exact .inr (by rw [judgeAttribute_of_present named found, judgeAttribute_of_present named still])

theorem judgeSegment_of_knownIn {user more : User} (known : user.KnownIn more) {c : Condition} :
    c.judgeSegment more = c.judgeSegment user := by
  have qualified : more.isQualifiedFor = user.isQualifiedFor := by
    funext segment
    rw [User.isQualifiedFor, User.isQualifiedFor, known.segments]
  rw [judgeSegment, judgeSegment, qualified]

end Condition

namespace Evaluator

open Audience (Notice)

/-- A condition that leaves open what it cannot decide: nobody is registered to judge it, and it does
not ask whether an attribute exists. -/
structure IsSteady (e : Evaluator) (c : Condition) : Prop where
  unregistered : ∀ kind, Condition.Kind.ofText c.kind = .other kind → e.judges.lookup kind = none
  comparing : Condition.Kind.ofText c.kind = .userAttribute → c.operator? ≠ some .exists

variable {e : Evaluator}

/-- A steady condition that is judged at all is judged in the same way when more is known. -/
theorem judge_of_knownIn {user more : User} (known : user.KnownIn more) {c : Condition}
    (steady : e.IsSteady c) :
    (∃ problem, e.judge user c = .error problem) ∨ e.judge more c = e.judge user c := by
  cases kind : Condition.Kind.ofText c.kind with
  | userAttribute =>
    rcases Condition.judgeAttribute_of_knownIn known (steady.comparing kind) with
      ⟨problem, failed⟩ | same
    · exact .inl ⟨problem, by simp only [judge, kind, failed, Except.map]⟩
    · exact .inr (by simp only [judge, kind, same])
  | userSegment =>
    exact .inr (by simp only [judge, kind, Condition.judgeSegment_of_knownIn known])
  | other word => exact .inl ⟨_, by simp only [judge, kind, steady.unregistered word kind]; rfl⟩

theorem answer_keptBy {user more : User} (known : user.KnownIn more) {c : Condition}
    (steady : e.IsSteady c) : (e.answer user c).KeptBy (e.answer more c) := by
  unfold answer
  rcases judge_of_knownIn known steady with ⟨problem, failed⟩ | same
  · rw [failed]
    exact .of_unknown
  · rw [same]
    exact .refl _

theorem audienceAnswer_keptBy {known more : Knowledge} (h : known.KnownIn more)
    (steady : ∀ id audience, known.catalogue id = some audience →
      ∀ c ∈ audience.conditions.leaves, e.IsSteady c) (id : String) :
    (e.audienceAnswer known.catalogue known.user id).KeptBy
      (e.audienceAnswer more.catalogue more.user id) := by
  cases found : known.catalogue id with
  | none =>
    simp only [audienceAnswer, found]
    exact .of_unknown
  | some audience =>
    simp only [audienceAnswer, found, h.audiences id audience found]
    exact Tree.value_keptBy fun c hc => answer_keptBy h.user (steady id audience found c hc)

/-- However much is learned, an answer that is not open stays the same, both for an audience and for a
targeting, and whoever belongs to the targeted audiences goes on to belong to them. The conditions of
the audiences that are known from the start have to be steady; those of added audiences need not be,
since an audience that was missing had an open answer. -/
theorem answers_of_learning (e : Evaluator) (known more : Knowledge)
    (steady : ∀ id audience, known.catalogue id = some audience →
      ∀ c ∈ audience.conditions.leaves, e.IsSteady c)
    (learning : Relation.ReflTransGen Knowledge.Learns known more) (log log' : List Notice) :
    (∀ id, (e.askAudience known.catalogue known.user id log).1.KeptBy
      (e.askAudience more.catalogue more.user id log').1) ∧
    (∀ targeting : Tree String,
      (targeting.evaluate (e.askAudience known.catalogue known.user) log).1.KeptBy
        (targeting.evaluate (e.askAudience more.catalogue more.user) log').1) ∧
    ∀ targeting : Option (Tree String),
      (e.evaluate targeting known.catalogue known.user log).1 = true →
        (e.evaluate targeting more.catalogue more.user log').1 = true := by
  have audiences := audienceAnswer_keptBy (Knowledge.knownIn_of_learning learning) steady
  have targetings (targeting : Tree String) :
      (targeting.value (e.audienceAnswer known.catalogue known.user)).KeptBy
        (targeting.value (e.audienceAnswer more.catalogue more.user)) :=
    Tree.value_keptBy fun id _ => audiences id
  refine ⟨fun id => ?_, fun targeting => ?_, fun targeting belongs => ?_⟩
  · rw [askAudience_fst, askAudience_fst]
    exact audiences id
  · rw [evaluateTargeting_fst, evaluateTargeting_fst]
    exact targetings targeting
  · rw [evaluate_fst] at belongs ⊢
    cases targeting with
    | none => rfl
    | some targeting => exact (targetings targeting).holds belongs

/-- A user abroad whose plan is null, and an audience for those who have a plan or are abroad. -/
def abroad : Knowledge where
  user := { id := "u", attributes := [("country", .text "NL"), ("plan", .null)] }
  catalogue := Function.update (fun _ => none) "members" <| some
    { id := "members", name := "Members", conditions := .node .or
        [.leaf { name := "plan", kind := "custom_attribute", value := .text "gold" },
          .node .not [.leaf { name := "country", kind := "custom_attribute", value := .text "BE" }]] }

/-- An audience for those who have no plan. Its condition is not steady. -/
def guests : Audience where
  id := "guests"
  name := "Guests"
  conditions := .node .not
    [.leaf { name := "plan", kind := "custom_attribute", operator := some "exists" }]

/-- What is known when the user has told the plan and the audience for guests has been added. -/
def abroadLater : Knowledge where
  user := abroad.user.withAttribute "plan" (.text "free")
  catalogue := Function.update abroad.catalogue "guests" (some guests)

/-- The user belonged to the members and still does. -/
theorem answers_of_learning_plan_and_guests :
    (Evaluator.evaluate {} (some (.node .or [.leaf "guests", .leaf "members"]))
      abroadLater.catalogue abroadLater.user []).1 = true := by
  have steady : ∀ id audience, abroad.catalogue id = some audience →
      ∀ c ∈ audience.conditions.leaves, IsSteady {} c := by
    intro id audience found
    by_cases members : id = "members"
    · subst members
      obtain rfl := Option.some.inj found
      intro c hc
      refine ⟨fun _ _ => rfl, fun _ => ?_⟩
      revert c
      decide
    · have missing : abroad.catalogue id = none := by simp [abroad, members]
      exact absurd (found.symm.trans missing) (Option.some_ne_none audience)
  have learning : Relation.ReflTransGen Knowledge.Learns abroad abroadLater :=
    .tail (.single (.setAttribute "plan" (.text "free") (.inr rfl)))
      (.addAudience "guests" guests (by decide))
  exact (answers_of_learning {} abroad abroadLater steady learning [] []).2.2 _ (by decide)

end Evaluator

end Targeting
