import RecurringPayments.Proofs.List.FirstAppearance
import RecurringPayments.Proofs.Value.Equality
import RecurringPayments.Subscription.Projection

/-!
Subscriptions by category, where every category is a text. The groups and the charges are collected
by two different folds; both go through the categories in the order of their first appearance, and
both give each category the subscriptions that name it.
-/
namespace RecurringPayments

variable {α : Type} [Scalar α]

namespace Subscription

def IsNamed (s : Subscription α) : Prop := ∃ c, s.category = .text c

def categoryName (s : Subscription α) : String := s.category.plain

def categoryNames (subs : List (Subscription α)) : List String := (subs.map categoryName).eraseDups

def ofCategory (c : String) (subs : List (Subscription α)) : List (Subscription α) :=
  subs.filter fun s => s.categoryName = c

def firstPlace (c : String) (subs : List (Subscription α)) : Nat :=
  subs.findIdx fun s => s.category.same (.text c)

theorem IsNamed.category_eq {s : Subscription α} (named : s.IsNamed) :
    s.category = .text s.categoryName := by
  obtain ⟨c, text⟩ := named
  rw [categoryName, text]
  rfl

theorem IsNamed.same_iff {s : Subscription α} (named : s.IsNamed) (c : String) :
    s.category.same (.text c) = true ↔ s.categoryName = c := by
  rw [Value.same_text_iff, named.category_eq, Value.text.injEq]

theorem mem_categoryNames {subs : List (Subscription α)} {s : Subscription α} (hs : s ∈ subs) :
    s.categoryName ∈ categoryNames subs := List.mem_eraseDups.mpr (List.mem_map_of_mem hs)

theorem nodup_categoryNames (subs : List (Subscription α)) : (categoryNames subs).Nodup :=
  FirstAppearance.nodup_eraseDups _

theorem firstPlace_eq {subs : List (Subscription α)} (named : ∀ s ∈ subs, s.IsNamed) (c : String) :
    firstPlace c subs = (subs.map categoryName).idxOf c := by
  rw [firstPlace]
  induction subs with
  | nil => rfl
  | cons s subs ih =>
    rw [List.forall_mem_cons] at named
    have own : s.category.same (.text c) = (s.categoryName == c) := by
      rw [Bool.eq_iff_iff, named.1.same_iff, beq_iff_eq]
    rw [List.findIdx_cons, ih named.2, List.map_cons, List.idxOf_cons, own]

theorem pairwise_firstPlace {subs : List (Subscription α)} (named : ∀ s ∈ subs, s.IsNamed) :
    (categoryNames subs).Pairwise fun a b => firstPlace a subs < firstPlace b subs := by
  simp only [firstPlace_eq named]
  exact FirstAppearance.pairwise_eraseDups _

theorem categoryNames_concat (subs : List (Subscription α)) (s : Subscription α) :
    categoryNames (subs ++ [s]) = if s.categoryName ∈ categoryNames subs then categoryNames subs
      else categoryNames subs ++ [s.categoryName] := by
  rw [categoryNames, List.map_append, List.map_singleton, FirstAppearance.eraseDups_concat]
  simp only [categoryNames, List.mem_eraseDups]

theorem ofCategory_concat (c : String) (subs : List (Subscription α)) (s : Subscription α) :
    ofCategory c (subs ++ [s]) =
      if s.categoryName = c then ofCategory c subs ++ [s] else ofCategory c subs := by
  rw [ofCategory, List.filter_append, List.filter_singleton]
  by_cases own : s.categoryName = c <;> simp [own, ofCategory]

omit [Scalar α] in
theorem map_of_not_mem {name : String} {names : List String} (new : name ∉ names)
    (joined own : String → List (Subscription α)) :
    (names.map fun c => ((.text c : Value α), if name = c then joined c else own c)) =
      names.map fun c => (.text c, own c) :=
  List.map_congr_left fun c hc => by rw [if_neg fun same : name = c => new (same ▸ hc)]

theorem addToCategory_map {s : Subscription α} (named : s.IsNamed) {names : List String}
    (distinct : names.Nodup) (own : String → List (Subscription α)) :
    addToCategory s (names.map fun c => (.text c, own c)) =
      if s.categoryName ∈ names then
        names.map fun c => (.text c, if s.categoryName = c then own c ++ [s] else own c)
      else names.map (fun c => (.text c, own c)) ++ [(.text s.categoryName, [s])] := by
  induction names with
  | nil =>
    rw [List.map_nil, addToCategory, named.category_eq, if_neg List.not_mem_nil, List.nil_append]
  | cons c names ih =>
    rw [List.nodup_cons] at distinct
    have sameGroup : (Value.text c : Value α).same s.category = decide (c = s.categoryName) := by
      rw [Bool.eq_iff_iff, named.category_eq, Value.same_text_iff, Value.text.injEq,
        decide_eq_true_iff]
    rw [List.map_cons, addToCategory, sameGroup, ih distinct.2]
    by_cases first : c = s.categoryName
    · subst first
      rw [decide_eq_true rfl, if_pos rfl, if_pos List.mem_cons_self, List.map_cons, if_pos rfl,
        map_of_not_mem distinct.1]
    · have later : s.categoryName ∈ c :: names ↔ s.categoryName ∈ names := by
        rw [List.mem_cons, or_iff_right (Ne.symm first)]
      simp only [decide_eq_false first, Bool.false_eq_true, if_false, later, List.map_cons,
        if_neg (Ne.symm first)]
      split <;> rfl

theorem byCategory_eq {subs : List (Subscription α)} (named : ∀ s ∈ subs, s.IsNamed) :
    byCategory subs = .ok ((categoryNames subs).map fun c => (.text c, ofCategory c subs)) := by
  have hashable : (subs.all fun s => s.category.isHashable) = true := by
    rw [List.all_eq_true]
    intro s hs
    rw [(named s hs).category_eq]
    rfl
  rw [byCategory, if_pos hashable]
  congr 1
  induction subs using List.reverseRecOn with
  | nil => rfl
  | append_singleton subs s ih =>
    rw [List.forall_mem_append, List.forall_mem_singleton] at named
    rw [List.foldl_append, List.foldl_cons, List.foldl_nil,
      ih named.1 (by rw [List.all_append, Bool.and_eq_true] at hashable; exact hashable.1),
      addToCategory_map named.2 (nodup_categoryNames subs), categoryNames_concat]
    simp only [ofCategory_concat]
    split
    · rfl
    · rename_i new
      have none : ofCategory s.categoryName subs = [] := by
        rw [ofCategory, List.filter_eq_nil_iff]
        intro t ht same
        rw [decide_eq_true_iff] at same
        exact new (same ▸ mem_categoryNames ht)
      rw [List.map_append, List.map_singleton, if_pos rfl, none, List.nil_append,
        map_of_not_mem new]

end Subscription

namespace Projector

theorem categoriesOf_eq {charges : List (CategoryCharge α)} {names : List String}
    (named : charges.map (·.category) = names.map .text) :
    categoriesOf charges = names.eraseDups.map .text := by
  rw [categoriesOf, named]
  clear named
  induction names using List.reverseRecOn with
  | nil => rfl
  | append_singleton names c ih =>
    have listed :
        ((names.eraseDups.map Value.text : List (Value α)).any fun v => v.same (.text c)) =
        decide (c ∈ names) := by
      rw [Bool.eq_iff_iff, decide_eq_true_iff, List.any_eq_true]
      simp only [Value.same_text_iff, exists_eq_right, List.mem_map, Value.text.injEq,
        List.mem_eraseDups]
    rw [List.map_append, List.foldl_append, ih, List.map_singleton, List.foldl_cons, List.foldl_nil,
      listed, FirstAppearance.eraseDups_concat]
    by_cases old : c ∈ names <;> simp [old, Column.isGap]

end Projector

end RecurringPayments
