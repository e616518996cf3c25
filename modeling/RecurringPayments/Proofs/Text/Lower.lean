import RecurringPayments.Text.Lower
import Mathlib

/-!
Lower case, place by place. The text around a character matters to the capital sigma alone, so a
part of a text has in it the lower case that it has by itself, `lower_append_append`, exactly when
each of its capital sigmas ends a word in both of them or in neither.
-/
namespace RecurringPayments.Text

def casedPrecedes (s : List Char) : Bool := casedFollows s.reverse

/-- Whether a word ends between what comes before a character and what comes after it. -/
def endsWord (before after : List Char) : Bool := casedPrecedes before && !casedFollows after

def lowerAt (before : List Char) (c : Char) (after : List Char) : List Char :=
  if c == 'Σ' then [if endsWord before after then 'ς' else 'σ']
  else if c == 'İ' then ['i', '\u0307']
  else [lowerChar c]

def lowerWithin (before : List Char) : (s after : List Char) → List Char
  | [], _ => []
  | c :: cs, after => lowerAt before c (cs ++ after) ++ lowerWithin (before ++ [c]) cs after

/-- The capital sigmas of a part end words where they do in the part by itself, and nowhere else. -/
def KeepsSigmas (before s after : List Char) : Prop :=
  ∀ x y, s = x ++ 'Σ' :: y → endsWord (before ++ x) (y ++ after) = endsWord x y

theorem casedPrecedes_concat (s : List Char) (c : Char) :
    casedPrecedes (s ++ [c]) = if isCaseSkipped c then casedPrecedes s else isCased c := by
  rw [casedPrecedes, List.reverse_append, List.reverse_singleton, List.singleton_append,
    casedFollows, casedPrecedes]

/-! ### Parts of a text -/

theorem lowerFrom_append (before s after : List Char) :
    lowerFrom (casedPrecedes before) (s ++ after) =
      lowerWithin before s after ++ lowerFrom (casedPrecedes (before ++ s)) after := by
  induction s generalizing before with
  | nil => rw [List.append_nil, lowerWithin, List.nil_append, List.nil_append]
  | cons c cs ih =>
    have next := ih (before ++ [c])
    rw [casedPrecedes_concat, List.append_assoc, List.singleton_append] at next
    rw [List.cons_append, lowerFrom, lowerWithin, List.append_assoc, ← next, lowerAt, endsWord]
    by_cases sigma : c = 'Σ'
    · have cased : (if isCaseSkipped 'Σ' then casedPrecedes before else isCased 'Σ') = true := by
        rw [if_neg (by decide +kernel)]
        decide +kernel
      simp [sigma, cased]
    · by_cases dotted : c = 'İ'
      · have cased : (if isCaseSkipped 'İ' then casedPrecedes before else isCased 'İ') = true := by
          rw [if_neg (by decide +kernel)]
          decide +kernel
        simp [dotted, cased]
      · simp [sigma, dotted]

theorem lower_eq_lowerWithin (s : List Char) : lower s = lowerWithin [] s [] := by
  have whole := lowerFrom_append [] s []
  rwa [List.append_nil, lowerFrom, List.append_nil] at whole

theorem lower_append_append (before s after : List Char) :
    lower (before ++ s ++ after) =
      lowerWithin [] before (s ++ after) ++ lowerWithin before s after ++
        lowerWithin (before ++ s) after [] := by
  have first := lowerFrom_append [] before (s ++ after)
  have second := lowerFrom_append before s after
  have third := lowerFrom_append (before ++ s) after []
  rw [List.append_nil, lowerFrom, List.append_nil] at third
  rw [List.nil_append] at first
  rw [List.append_assoc, lower, ← third, List.append_assoc, ← second]
  exact first

/-! ### The same part in two places -/

theorem lowerAt_eq_iff {before before' after after' : List Char} {c : Char} :
    lowerAt before c after = lowerAt before' c after' ↔
      (c = 'Σ' → endsWord before after = endsWord before' after') := by
  by_cases sigma : c = 'Σ'
  · cases h : endsWord before after <;> cases h' : endsWord before' after' <;>
      simp [lowerAt, sigma, h, h']
  · simp [lowerAt, sigma]

theorem length_lowerAt (before before' : List Char) (c : Char) (after after' : List Char) :
    (lowerAt before c after).length = (lowerAt before' c after').length := by
  unfold lowerAt
  split
  · rfl
  · split <;> rfl

theorem lowerWithin_eq_iff (before done s after : List Char) :
    lowerWithin (before ++ done) s after = lowerWithin done s [] ↔
      ∀ x y, s = x ++ 'Σ' :: y →
        endsWord (before ++ done ++ x) (y ++ after) = endsWord (done ++ x) y := by
  induction s generalizing done with
  | nil => simp [lowerWithin]
  | cons c cs ih =>
    have rest := ih (done ++ [c])
    rw [← List.append_assoc] at rest
    have parts : lowerWithin (before ++ done) (c :: cs) after = lowerWithin done (c :: cs) [] ↔
        lowerAt (before ++ done) c (cs ++ after) = lowerAt done c (cs ++ []) ∧
          lowerWithin (before ++ done ++ [c]) cs after = lowerWithin (done ++ [c]) cs [] := by
      rw [lowerWithin, lowerWithin]
      exact ⟨fun same => List.append_inj same (length_lowerAt _ _ _ _ _),
        fun ⟨first, later⟩ => by rw [first, later]⟩
    rw [parts, lowerAt_eq_iff, rest, List.append_nil]
    constructor
    · rintro ⟨first, later⟩ x y cut
      cases x with
      | nil =>
        obtain ⟨rfl, rfl⟩ := List.cons.inj cut
        simpa using first rfl
      | cons d x =>
        obtain ⟨rfl, inside⟩ := List.cons.inj cut
        simpa using later x y inside
    · intro all
      refine ⟨fun sigma => ?_, fun x y cut => ?_⟩
      · simpa using all [] cs (by rw [sigma, List.nil_append])
      · simpa using all (c :: x) y (by rw [cut, List.cons_append])

theorem lowerWithin_eq_lower_iff {before s after : List Char} :
    lowerWithin before s after = lower s ↔ KeepsSigmas before s after := by
  have here := lowerWithin_eq_iff before [] s after
  rw [List.append_nil, ← lower_eq_lowerWithin] at here
  exact here

end RecurringPayments.Text
