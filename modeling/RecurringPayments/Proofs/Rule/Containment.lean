import RecurringPayments.Number.Binary64
import RecurringPayments.Rule.Matching
import RecurringPayments.Proofs.Text.Lower

/-!
What a search without regard to case finds. A text that occurs letter for letter is found, unless
one of its capital sigmas ends a word in the search text and not in the field, or the reverse: the
two are put in lower case apart, and the sigma at the end of a word has a form of its own.
-/
namespace RecurringPayments

theorem Text.isInfix_iff (needle s : List Char) : isInfix needle s = true ↔ needle <:+: s := by
  induction s with
  | nil => rw [isInfix, List.isEmpty_iff, List.infix_nil]
  | cons c cs ih =>
    rw [isInfix, Bool.or_eq_true, List.isPrefixOf_iff_prefix, ih, List.infix_cons_iff]

theorem Text.isInfix_lower {before s after : List Char} (keeps : KeepsSigmas before s after) :
    isInfix (lower s) (lower (before ++ s ++ after)) = true := by
  rw [isInfix_iff, lower_append_append, lowerWithin_eq_lower_iff.mpr keeps]
  exact List.infix_append _ _ _

namespace Condition

variable {α : Type} [Scalar α] {t : Transaction α}

def search (operator field needle : String) (kind : ConditionKind) (id : Value α) : Condition α :=
  ⟨kind, .text field, .text operator, .text needle, id⟩

theorem holds_contains {field text : String} (actual : t.field? field = some (.text text))
    (needle : String) (kind : ConditionKind) (id : Value α) :
    (search "contains" field needle kind id).holds t =
      Text.isInfix (Text.lower needle.toList) (Text.lower text.toList) := by
  simp [search, holds, actual, compare, Value.contains?]

theorem holds_notContains {field text : String} (actual : t.field? field = some (.text text))
    (needle : String) (kind : ConditionKind) (id : Value α) :
    (search "notContains" field needle kind id).holds t =
      !Text.isInfix (Text.lower needle.toList) (Text.lower text.toList) := by
  simp [search, holds, actual, compare, Value.contains?]

/-- What occurs letter for letter is found wherever it keeps its sigmas. -/
theorem holds_search_of_occurs {field text needle : String}
    (actual : t.field? field = some (.text text)) {before after : List Char}
    (occurs : text.toList = before ++ needle.toList ++ after)
    (keeps : Text.KeepsSigmas before needle.toList after) (kind : ConditionKind) (id : Value α) :
    (search "contains" field needle kind id).holds t = true ∧
      (search "notContains" field needle kind id).holds t = false := by
  have found := Text.isInfix_lower keeps
  rw [holds_contains actual, holds_notContains actual, occurs, found]
  exact ⟨rfl, rfl⟩

def astroTransaction : Transaction Float where
  id := .text "astro"
  date := .never
  amount := .real 5
  merchant := .text "ΟΔΟΣ ΑΣΤΡΟ"
  category := .text "Books"
  account := .text "main"
  type := .text "debit"
  status := .text "posted"

theorem holds_search_of_occurs_street :
    astroTransaction.field? "merchant" = some (.text "ΟΔΟΣ ΑΣΤΡΟ") ∧
    "ΟΔΟΣ ΑΣΤΡΟ".toList = [] ++ "ΟΔΟΣ".toList ++ " ΑΣΤΡΟ".toList ∧
    Text.KeepsSigmas [] "ΟΔΟΣ".toList " ΑΣΤΡΟ".toList ∧
    (search "contains" "merchant" "ΟΔΟΣ" .text (.text "")).holds astroTransaction = true ∧
    (search "notContains" "merchant" "ΟΔΟΣ" .text (.text "")).holds astroTransaction = false := by
  have keeps : Text.KeepsSigmas [] "ΟΔΟΣ".toList " ΑΣΤΡΟ".toList :=
    Text.lowerWithin_eq_lower_iff.mp (by decide +kernel)
  exact ⟨rfl, rfl, keeps, holds_search_of_occurs rfl rfl keeps .text (.text "")⟩

/-- The first two letters of a word by themselves end with a sigma, which the word does not. -/
theorem holds_search_loses_sigma :
    astroTransaction.field? "merchant" = some (.text "ΟΔΟΣ ΑΣΤΡΟ") ∧
    "ΟΔΟΣ ΑΣΤΡΟ".toList = "ΟΔΟΣ ".toList ++ "ΑΣ".toList ++ "ΤΡΟ".toList ∧
    (search "contains" "merchant" "ΑΣ" .text (.text "")).holds astroTransaction = false ∧
    (search "notContains" "merchant" "ΑΣ" .text (.text "")).holds astroTransaction = true := by
  refine ⟨rfl, rfl, ?_, ?_⟩ <;> decide +kernel

end Condition

end RecurringPayments
