import RecurringPayments.Proofs.Result
import RecurringPayments.Rule.Record

/-!
The shape of rule records. A reader of records goes through the places of a document in order and
blames the first that holds something of another shape than it should; where there is none it
succeeds, with a rule for each record and a condition and an action for each item of its lists.
-/
namespace RecurringPayments

open Result

variable {α : Type}

/-! ### Places -/

def Shape.fits : Shape → Value α → Bool
  | .aList, .null | .aList, .list _ | .aMapping, .mapping _ => true
  | _, _ => false

namespace Value

def items : Value α → List (Value α)
  | .list items => items
  | _ => []

def item? (v : Value α) : Nat → Option (Value α)
  | 0 => none
  | i + 1 => v.items[i]?

def under? (v : Value α) (key : String) : Option (Value α) :=
  match v with
  | .mapping entries => some (Record.get entries key .null)
  | _ => none

end Value

namespace RulePlace

def shape : RulePlace → Shape
  | rules | conditions _ | actions _ => .aList
  | rule _ | condition _ _ | action _ _ => .aMapping

def at? (v : Value α) : RulePlace → Option (Value α)
  | rules => some v
  | rule n => v.item? n
  | conditions n => (v.item? n).bind (·.under? "conditions")
  | condition n i => (v.item? n).bind fun r => (r.under? "conditions").bind (·.item? i)
  | actions n => (v.item? n).bind (·.under? "actions")
  | action n i => (v.item? n).bind fun r => (r.under? "actions").bind (·.item? i)

/-- The numbers by which places are ordered in a document, lexicographically: the list comes first,
then rule by rule the record, its conditions and its actions, and each list before its items. -/
def position : RulePlace → List Nat
  | rules => []
  | rule n => [n]
  | conditions n => [n, 0]
  | condition n i => [n, 0, i]
  | actions n => [n, 1]
  | action n i => [n, 1, i]

/-- A place of the value holds something of another shape than it should. -/
structure IsMalformed (place : RulePlace) (v found : Value α) : Prop where
  holds : place.at? v = some found
  unfit : place.shape.fits found = false

structure IsFirstMalformed (place : RulePlace) (v found : Value α) : Prop extends
    place.IsMalformed v found where
  first : ∀ other w, other.IsMalformed v w → other = place ∨ place.position < other.position

end RulePlace

namespace Value

def IsMappings (v : Value α) : Prop :=
  v = .null ∨ ∃ items, v = .list items ∧ ∀ w ∈ items, ∃ entries, w = .mapping entries

/-- A record of a rule: a mapping whose conditions and actions are absent, null or lists of
mappings. -/
def IsRuleRecord (v : Value α) : Prop :=
  ∃ entries, v = .mapping entries ∧ ∀ key ∈ ["conditions", "actions"],
    ∀ w, Value.entry? key entries = some w → w.IsMappings

def IsRuleList (v : Value α) : Prop :=
  v = .null ∨ ∃ records, v = .list records ∧ ∀ r ∈ records, r.IsRuleRecord

end Value

namespace Record

/-! ### The places of a document, in order -/

def itemPlaces (place : Nat → RulePlace) : (n : Nat) → List (Value α) → List (RulePlace × Value α)
  | _, [] => []
  | n, v :: rest => (place n, v) :: itemPlaces place (n + 1) rest

def partPlaces (list : RulePlace) (item : Nat → RulePlace) (v : Value α) :
    List (RulePlace × Value α) :=
  (list, v) :: itemPlaces item 1 v.items

def rulePlaces (n : Nat) (v : Value α) : List (RulePlace × Value α) :=
  (.rule n, v) ::
    ((v.under? "conditions").toList.flatMap (partPlaces (.conditions n) (.condition n)) ++
      (v.under? "actions").toList.flatMap (partPlaces (.actions n) (.action n)))

def recordPlaces : (n : Nat) → List (Value α) → List (RulePlace × Value α)
  | _, [] => []
  | n, v :: rest => rulePlaces n v ++ recordPlaces (n + 1) rest

def places (v : Value α) : List (RulePlace × Value α) :=
  (.rules, v) :: recordPlaces 1 v.items

theorem mem_itemPlaces {place : Nat → RulePlace} {n : Nat} {vs : List (Value α)}
    {p : RulePlace × Value α} :
    p ∈ itemPlaces place n vs ↔ ∃ i, vs[i]? = some p.2 ∧ p.1 = place (n + i) := by
  induction vs generalizing n with
  | nil => simp [itemPlaces]
  | cons v rest ih =>
    rw [itemPlaces, List.mem_cons, ih]
    constructor
    · rintro (rfl | ⟨i, here, named⟩)
      · exact ⟨0, rfl, rfl⟩
      · exact ⟨i + 1, here, by rw [named, Nat.add_right_comm]; rfl⟩
    · rintro ⟨_ | i, here, named⟩
      · exact .inl (Prod.ext named (Option.some.inj here).symm)
      · exact .inr ⟨i, here, by rw [named, Nat.add_right_comm]; rfl⟩

theorem mem_recordPlaces {n : Nat} {vs : List (Value α)} {p : RulePlace × Value α} :
    p ∈ recordPlaces n vs ↔ ∃ i v, vs[i]? = some v ∧ p ∈ rulePlaces (n + i) v := by
  induction vs generalizing n with
  | nil => simp [recordPlaces]
  | cons v rest ih =>
    rw [recordPlaces, List.mem_append, ih]
    constructor
    · rintro (first | ⟨i, w, here, listed⟩)
      · exact ⟨0, v, rfl, first⟩
      · exact ⟨i + 1, w, here, by rwa [Nat.add_right_comm] at listed⟩
    · rintro ⟨_ | i, w, here, listed⟩
      · cases here
        exact .inl listed
      · exact .inr ⟨i, w, here, by rwa [Nat.add_right_comm]⟩

theorem exists_item?_iff {v : Value α} {P : Nat → Value α → Prop} :
    (∃ i w, v.items[i]? = some w ∧ P (1 + i) w) ↔ ∃ n w, v.item? n = some w ∧ P n w := by
  constructor
  · rintro ⟨i, w, here, holds⟩
    exact ⟨i + 1, w, here, by rwa [Nat.add_comm]⟩
  · rintro ⟨_ | i, w, here, holds⟩
    · cases here
    · exact ⟨i, w, here, by rwa [Nat.add_comm]⟩

theorem mem_partPlaces {list : RulePlace} {item : Nat → RulePlace} {v w : Value α}
    {place : RulePlace} :
    (place, w) ∈ partPlaces list item v ↔
      place = list ∧ v = w ∨ ∃ i, v.item? i = some w ∧ place = item i := by
  have items := @exists_item?_iff _ v fun i u => u = w ∧ place = item i
  rw [partPlaces, List.mem_cons, mem_itemPlaces, Prod.mk.injEq, eq_comm (a := w)]
  simpa using or_congr_right items

theorem mem_rulePlaces {n : Nat} {v : Value α} {p : RulePlace × Value α} :
    p ∈ rulePlaces n v ↔ p = (.rule n, v) ∨
      (∃ w, v.under? "conditions" = some w ∧ p ∈ partPlaces (.conditions n) (.condition n) w) ∨
      ∃ w, v.under? "actions" = some w ∧ p ∈ partPlaces (.actions n) (.action n) w := by
  simp only [rulePlaces, List.mem_cons, List.mem_append, List.mem_flatMap, Option.mem_toList]

theorem mem_places {v w : Value α} {place : RulePlace} :
    (place, w) ∈ places v ↔ place.at? v = some w := by
  have records := @exists_item?_iff _ v fun n r => (place, w) ∈ rulePlaces n r
  rw [places, List.mem_cons, mem_recordPlaces, records, Prod.mk.injEq, eq_comm (a := w)]
  simp only [mem_rulePlaces, mem_partPlaces, Prod.mk.injEq]
  cases place <;> simp [RulePlace.at?, Option.bind_eq_some_iff]

theorem pairwise_itemPlaces {place : Nat → RulePlace}
    (ascends : ∀ i j, i < j → (place i).position < (place j).position) (n : Nat)
    (vs : List (Value α)) :
    (itemPlaces place n vs).Pairwise fun p q => p.1.position < q.1.position := by
  induction vs generalizing n with
  | nil => exact .nil
  | cons v rest ih =>
    refine .cons (fun p hp => ?_) (ih (n + 1))
    obtain ⟨i, -, named⟩ := mem_itemPlaces.mp hp
    rw [named]
    exact ascends _ _ (by omega)

theorem pairwise_partPlaces {list : RulePlace} {item : Nat → RulePlace}
    (first : ∀ i, list.position < (item i).position)
    (ascends : ∀ i j, i < j → (item i).position < (item j).position) (part : Option (Value α)) :
    (part.toList.flatMap (partPlaces list item)).Pairwise fun p q =>
      p.1.position < q.1.position := by
  cases part with
  | none => exact .nil
  | some v =>
    rw [Option.toList_some, List.flatMap_singleton, partPlaces]
    refine .cons (fun p hp => ?_) (pairwise_itemPlaces ascends 1 v.items)
    obtain ⟨i, -, named⟩ := mem_itemPlaces.mp hp
    rw [named]
    exact first _

theorem of_mem_partPlaces {list : RulePlace} {item : Nat → RulePlace} {part : Option (Value α)}
    {p : RulePlace × Value α} (hp : p ∈ part.toList.flatMap (partPlaces list item)) :
    p.1 = list ∨ ∃ i, p.1 = item i := by
  obtain ⟨v, -, hp⟩ := List.mem_flatMap.mp hp
  exact (mem_partPlaces.mp hp).imp And.left fun ⟨i, _, named⟩ => ⟨i, named⟩

theorem pairwise_rulePlaces (n : Nat) (v : Value α) :
    (rulePlaces n v).Pairwise fun p q => p.1.position < q.1.position := by
  refine .cons (fun p hp => ?below) (List.pairwise_append.mpr ⟨?conditions, ?actions, ?across⟩)
  case below =>
    rcases List.mem_append.mp hp with hp | hp <;>
      rcases of_mem_partPlaces hp with named | ⟨i, named⟩ <;>
      simp [named, RulePlace.position]
  case conditions =>
    exact pairwise_partPlaces (by simp [RulePlace.position])
      (by simp [RulePlace.position, List.cons_lt_cons_iff]) _
  case actions =>
    exact pairwise_partPlaces (by simp [RulePlace.position])
      (by simp [RulePlace.position, List.cons_lt_cons_iff]) _
  case across =>
    intro p hp q hq
    rcases of_mem_partPlaces hp with named | ⟨i, named⟩ <;>
      rcases of_mem_partPlaces hq with named' | ⟨j, named'⟩ <;>
      simp [named, named', RulePlace.position, List.cons_lt_cons_iff]

theorem position_of_mem_rulePlaces {n : Nat} {v : Value α} {p : RulePlace × Value α}
    (hp : p ∈ rulePlaces n v) : ∃ rest, p.1.position = n :: rest := by
  rcases List.mem_cons.mp hp with rfl | hp
  · exact ⟨_, rfl⟩
  rcases List.mem_append.mp hp with hp | hp <;>
    rcases of_mem_partPlaces hp with named | ⟨i, named⟩ <;>
    simp [named, RulePlace.position]

theorem pairwise_recordPlaces (n : Nat) (vs : List (Value α)) :
    (recordPlaces n vs).Pairwise fun p q => p.1.position < q.1.position := by
  induction vs generalizing n with
  | nil => exact .nil
  | cons v rest ih =>
    refine List.pairwise_append.mpr ⟨pairwise_rulePlaces n v, ih (n + 1), fun p hp q hq => ?_⟩
    obtain ⟨i, w, -, hq⟩ := mem_recordPlaces.mp hq
    obtain ⟨first, numbered⟩ := position_of_mem_rulePlaces hp
    obtain ⟨second, numbered'⟩ := position_of_mem_rulePlaces hq
    rw [numbered, numbered', List.cons_lt_cons_iff]
    exact .inl (by omega)

theorem pairwise_places (v : Value α) :
    (places v).Pairwise fun p q => p.1.position < q.1.position := by
  refine .cons (fun p hp => ?_) (pairwise_recordPlaces 1 v.items)
  obtain ⟨i, w, -, hp⟩ := mem_recordPlaces.mp hp
  obtain ⟨rest, numbered⟩ := position_of_mem_rulePlaces hp
  rw [numbered]
  exact List.nil_lt_cons _ _

/-! ### Reading -/

def misfits (p : RulePlace × Value α) : Bool := !p.1.shape.fits p.2

def blame (p : RulePlace × Value α) : Fault :=
  .input (.wrongShape p.1 p.1.shape p.2.kindName)

/-- A reading goes through places in order: it blames the first that is malformed, and succeeds
where none is. -/
structure Checks {β : Type} (ps : List (RulePlace × Value α)) (x : Except Fault β) : Prop where
  blames : ∀ p, ps.find? misfits = some p → x = .error (blame p)
  succeeds : ps.find? misfits = none → ∃ b, x = .ok b

namespace Checks

variable {β γ : Type} {ps qs : List (RulePlace × Value α)} {x : Except Fault β}

theorem ok (b : β) : Checks ([] : List (RulePlace × Value α)) (.ok b : Except Fault β) :=
  ⟨nofun, fun _ => ⟨b, rfl⟩⟩

theorem bind {f : β → Except Fault γ} (first : Checks ps x)
    (next : ∀ b, x = .ok b → Checks qs (f b)) : Checks (ps ++ qs) (x >>= f) := by
  cases found : ps.find? misfits with
  | some p =>
    have both : (ps ++ qs).find? misfits = some p := by
      rw [List.find?_append, found, Option.some_or]
    rw [first.blames p found, error_bind]
    refine ⟨fun q hq => ?_, fun none => ?_⟩
    · rw [both, Option.some_inj] at hq
      rw [hq]
    · rw [both] at none
      cases none
  | none =>
    obtain ⟨b, done⟩ := first.succeeds found
    obtain ⟨blames, succeeds⟩ := next b done
    have both : (ps ++ qs).find? misfits = qs.find? misfits := by
      rw [List.find?_append, found, Option.none_or]
    rw [done, ok_bind]
    exact ⟨fun q hq => blames q (both.symm.trans hq), fun none => succeeds (both.symm.trans none)⟩

theorem map (first : Checks ps x) (g : β → γ) : Checks ps (x >>= fun b => .ok (g b)) := by
  have whole : Checks (ps ++ []) (x >>= fun b => .ok (g b)) := first.bind fun b _ => ok (g b)
  rwa [List.append_nil] at whole

end Checks

theorem asMapping_checks {place : RulePlace} (shape : place.shape = .aMapping) (v : Value α) :
    Checks [(place, v)] (asMapping place v) := by
  cases v <;> constructor <;> simp [misfits, blame, shape, Shape.fits, asMapping]

theorem asList_checks {place : RulePlace} (shape : place.shape = .aList) (v : Value α) :
    Checks [(place, v)] (asList place v) := by
  cases v <;> constructor <;> simp [misfits, blame, shape, Shape.fits, asList]

theorem items_checks {β : Type} {place : Nat → RulePlace} (shape : ∀ i, (place i).shape = .aMapping)
    (read : Record α → β) (n : Nat) (vs : List (Value α)) :
    Checks (itemPlaces place n vs) (items place read n vs) := by
  induction vs generalizing n with
  | nil => exact .ok []
  | cons v rest ih =>
    exact (asMapping_checks (shape n) v).bind fun r _ => (ih (n + 1)).map (read r :: ·)

theorem items_of_asList {place : RulePlace} {v : Value α} {vs : List (Value α)}
    (read : asList place v = .ok vs) : vs = v.items := by
  cases v <;> cases read <;> rfl

theorem part_checks {β : Type} {list : RulePlace} {item : Nat → RulePlace}
    (shape : list.shape = .aList) (shapes : ∀ i, (item i).shape = .aMapping) (read : Record α → β)
    (v : Value α) :
    Checks (partPlaces list item v) (asList list v >>= items item read 1) := by
  refine (asList_checks shape v).bind fun vs listed => ?_
  rw [items_of_asList listed]
  exact items_checks shapes read 1 _

theorem eq_mapping_of_asMapping {place : RulePlace} {v : Value α} {r : Record α}
    (read : asMapping place v = .ok r) : v = .mapping r := by
  cases v <;> cases read
  rfl

section

variable [Scalar α]

theorem rule_checks (n : Nat) (v : Value α) : Checks (rulePlaces n v) (rule n v) := by
  refine (asMapping_checks rfl v).bind fun r mapping => ?_
  have part (key : String) : v.under? key = some (Record.get r key .null) := by
    rw [eq_mapping_of_asMapping mapping, Value.under?]
  rw [part, part, Option.toList_some, Option.toList_some, List.flatMap_singleton,
    List.flatMap_singleton, ← bind_assoc]
  refine (part_checks rfl (fun _ => rfl) condition _).bind fun conditions _ => ?_
  rw [← bind_assoc]
  exact (part_checks rfl (fun _ => rfl) action _).map _

theorem rulesFrom_checks (n : Nat) (vs : List (Value α)) :
    Checks (recordPlaces n vs) (rulesFrom n vs) := by
  induction vs generalizing n with
  | nil => exact .ok []
  | cons v rest ih => exact (rule_checks n v).bind fun r _ => (ih (n + 1)).map (r :: ·)

theorem ofRecords_checks (v : Value α) : Checks (places v) (Rule.ofRecords v) := by
  refine (asList_checks rfl v).bind fun vs listed => ?_
  rw [items_of_asList listed]
  exact rulesFrom_checks 1 _

/-! ### What is read -/

def IsReadBy {β : Type} (read : Record α → β) (v : Value α) (item : β) : Prop :=
  ∃ entries, v = .mapping entries ∧ item = read entries

structure IsRuleOf (n : Nat) (v : Value α) (r : Rule α) : Prop where
  own : rule n v = .ok r
  conditions : ∃ part, v.under? "conditions" = some part ∧
    List.Forall₂ (IsReadBy condition) part.items r.conditions
  actions : ∃ part actions, v.under? "actions" = some part ∧ r.actions = some actions ∧
    List.Forall₂ (IsReadBy action) part.items actions

structure AreRulesOf (vs : List (Value α)) (rules : List (Rule α)) : Prop where
  length : rules.length = vs.length
  each : ∀ i v, vs[i]? = some v → ∃ r, rules[i]? = some r ∧ IsRuleOf (i + 1) v r

omit [Scalar α] in
theorem forall₂_of_items {β : Type} {place : Nat → RulePlace} {read : Record α → β} {n : Nat}
    {vs : List (Value α)} {ys : List β} (done : items place read n vs = .ok ys) :
    List.Forall₂ (IsReadBy read) vs ys := by
  induction vs generalizing n ys with
  | nil =>
    cases done
    exact .nil
  | cons v rest ih =>
    obtain ⟨r, mapping, done⟩ := bind_eq_ok_iff.mp done
    obtain ⟨later, rested, done⟩ := bind_eq_ok_iff.mp done
    cases done
    exact .cons ⟨r, eq_mapping_of_asMapping mapping, rfl⟩ (ih rested)

theorem isRuleOf_of_rule {n : Nat} {v : Value α} {r : Rule α} (done : rule n v = .ok r) :
    IsRuleOf n v r := by
  have own := done
  obtain ⟨entries, mapping, done⟩ := bind_eq_ok_iff.mp done
  obtain ⟨listed, some, done⟩ := bind_eq_ok_iff.mp done
  obtain ⟨conditions, eachCondition, done⟩ := bind_eq_ok_iff.mp done
  obtain ⟨listed', some', done⟩ := bind_eq_ok_iff.mp done
  obtain ⟨actions, eachAction, done⟩ := bind_eq_ok_iff.mp done
  cases done
  obtain rfl := eq_mapping_of_asMapping mapping
  rw [items_of_asList some] at eachCondition
  rw [items_of_asList some'] at eachAction
  exact ⟨own, ⟨_, rfl, forall₂_of_items eachCondition⟩, _, _, rfl, rfl, forall₂_of_items eachAction⟩

theorem of_rulesFrom {n : Nat} {vs : List (Value α)} {rules : List (Rule α)}
    (done : rulesFrom n vs = .ok rules) : rules.length = vs.length ∧
      ∀ i v, vs[i]? = some v → ∃ r, rules[i]? = some r ∧ IsRuleOf (n + i) v r := by
  induction vs generalizing n rules with
  | nil =>
    cases done
    exact ⟨rfl, nofun⟩
  | cons v rest ih =>
    obtain ⟨r, first, done⟩ := bind_eq_ok_iff.mp done
    obtain ⟨later, rested, done⟩ := bind_eq_ok_iff.mp done
    cases done
    obtain ⟨length, each⟩ := ih rested
    refine ⟨by rw [List.length_cons, List.length_cons, length], fun i w here => ?_⟩
    cases i with
    | zero =>
      cases here
      exact ⟨r, rfl, isRuleOf_of_rule first⟩
    | succ i =>
      have own := each i w here
      rw [Nat.add_assoc, Nat.add_comm 1] at own
      exact own

theorem areRulesOf_of_ofRecords {v : Value α} {rules : List (Rule α)}
    (done : Rule.ofRecords v = .ok rules) : AreRulesOf v.items rules := by
  obtain ⟨vs, listed, done⟩ := bind_eq_ok_iff.mp done
  obtain rfl := items_of_asList listed
  obtain ⟨length, each⟩ := of_rulesFrom done
  refine ⟨length, fun i w here => ?_⟩
  rw [Nat.add_comm]
  exact each i w here

end

/-! ### Well-shaped records -/

def AllFit (ps : List (RulePlace × Value α)) : Prop := ∀ p ∈ ps, p.1.shape.fits p.2 = true

theorem find?_misfits_eq_none {ps : List (RulePlace × Value α)} :
    ps.find? misfits = none ↔ AllFit ps := by
  simp [misfits, AllFit]

theorem allFit_cons {p : RulePlace × Value α} {ps : List (RulePlace × Value α)} :
    AllFit (p :: ps) ↔ p.1.shape.fits p.2 = true ∧ AllFit ps := List.forall_mem_cons

theorem allFit_append {ps qs : List (RulePlace × Value α)} :
    AllFit (ps ++ qs) ↔ AllFit ps ∧ AllFit qs := List.forall_mem_append

theorem allFit_itemPlaces {place : Nat → RulePlace} (shape : ∀ i, (place i).shape = .aMapping)
    (n : Nat) (vs : List (Value α)) :
    AllFit (itemPlaces place n vs) ↔ ∀ w ∈ vs, ∃ entries, w = .mapping entries := by
  induction vs generalizing n with
  | nil => simp [itemPlaces, AllFit]
  | cons v rest ih =>
    rw [itemPlaces, allFit_cons, ih, List.forall_mem_cons, shape]
    refine and_congr_left' ?_
    cases v <;> simp [Shape.fits]

theorem allFit_partPlaces {list : RulePlace} {item : Nat → RulePlace}
    (shape : list.shape = .aList) (shapes : ∀ i, (item i).shape = .aMapping) (v : Value α) :
    AllFit (partPlaces list item v) ↔ v.IsMappings := by
  rw [partPlaces, allFit_cons, allFit_itemPlaces shapes, shape]
  cases v <;> simp [Shape.fits, Value.items, Value.IsMappings]

theorem isMappings_get {entries : Record α} {key : String} :
    (Record.get entries key .null).IsMappings ↔
      ∀ w, Value.entry? key entries = some w → w.IsMappings := by
  rw [Record.get]
  cases Value.entry? key entries with
  | none => simp [Value.IsMappings]
  | some w => simp

theorem allFit_rulePlaces (n : Nat) (v : Value α) : AllFit (rulePlaces n v) ↔ v.IsRuleRecord := by
  have conditions := @allFit_partPlaces α (.conditions n) (.condition n) rfl fun _ => rfl
  have actions := @allFit_partPlaces α (.actions n) (.action n) rfl fun _ => rfl
  rw [rulePlaces, allFit_cons]
  cases v with
  | mapping entries =>
    simp [Value.under?, allFit_append, conditions, actions, isMappings_get, Value.IsRuleRecord,
      RulePlace.shape, Shape.fits]
  | _ => simp [RulePlace.shape, Shape.fits, Value.IsRuleRecord]

theorem allFit_recordPlaces (n : Nat) (vs : List (Value α)) :
    AllFit (recordPlaces n vs) ↔ ∀ r ∈ vs, r.IsRuleRecord := by
  induction vs generalizing n with
  | nil => simp [recordPlaces, AllFit]
  | cons v rest ih => rw [recordPlaces, allFit_append, allFit_rulePlaces, ih, List.forall_mem_cons]

theorem allFit_places (v : Value α) : AllFit (places v) ↔ v.IsRuleList := by
  rw [places, allFit_cons, allFit_recordPlaces]
  cases v <;> simp [RulePlace.shape, Shape.fits, Value.items, Value.IsRuleList]

theorem isFirstMalformed_of_find? {v found : Value α} {place : RulePlace}
    (first : (places v).find? misfits = some (place, found)) : place.IsFirstMalformed v found := by
  obtain ⟨misfit, before, after, split, fit⟩ := List.find?_eq_some_iff_append.mp first
  have unfit {p : RulePlace × Value α} (h : misfits p = true) : p.1.shape.fits p.2 = false := by
    simpa [misfits] using h
  have listed : (place, found) ∈ places v := by rw [split]; simp
  refine ⟨⟨mem_places.mp listed, unfit misfit⟩, fun other w malformed => ?_⟩
  have ascending := pairwise_places v
  have here := mem_places.mpr malformed.holds
  rw [split] at ascending here
  rcases List.mem_append.mp here with earlier | later
  · have fits := fit _ earlier
    simp [misfits, malformed.unfit] at fits
  · rcases List.mem_cons.mp later with same | later
    · exact .inl (Prod.ext_iff.mp same).1
    · exact .inr ((List.pairwise_cons.mp (List.pairwise_append.mp ascending).2.1).1 _ later)

end Record

/-- Reading records succeeds on well-shaped ones alone, and gives a rule for each; on others it
blames the first malformed place and says what stands there. -/
theorem Rule.ofRecords_isShaped [Scalar α] (v : Value α) :
    ((∃ rules, Rule.ofRecords v = .ok rules) ↔ v.IsRuleList) ∧
      (∀ rules, Rule.ofRecords v = .ok rules → Record.AreRulesOf v.items rules) ∧
      ∀ fault, Rule.ofRecords v = .error fault → ∃ place found, place.IsFirstMalformed v found ∧
        fault = .input (.wrongShape place place.shape found.kindName) ∧
        fault.message? = some (place.text ++ ": expected " ++ place.shape.text ++ ", got " ++
          found.kindName) := by
  obtain ⟨blames, succeeds⟩ := Record.ofRecords_checks v
  refine ⟨⟨?shaped, ?read⟩, fun _ => Record.areRulesOf_of_ofRecords, ?blamed⟩
  case shaped =>
    rintro ⟨rules, done⟩
    rw [← Record.allFit_places, ← Record.find?_misfits_eq_none]
    refine Option.eq_none_iff_forall_ne_some.mpr fun p found => ?_
    rw [blames p found] at done
    cases done
  case read =>
    intro shaped
    exact succeeds (Record.find?_misfits_eq_none.mpr ((Record.allFit_places v).mpr shaped))
  case blamed =>
    intro fault failed
    cases first : (Record.places v).find? Record.misfits with
    | none =>
      obtain ⟨rules, done⟩ := succeeds first
      rw [failed] at done
      cases done
    | some p =>
      rw [blames p first] at failed
      cases failed
      exact ⟨p.1, p.2, Record.isFirstMalformed_of_find? first, rfl, rfl⟩

example [Scalar α] :
    Rule.ofRecords (.list [
      .mapping [(.text "actions", .int 1), (.text "conditions", .list [.mapping [], .text "x"])],
      .null] : Value α) = .error (.input (.wrongShape (.condition 1 2) .aMapping "str")) := rfl

end RecurringPayments
