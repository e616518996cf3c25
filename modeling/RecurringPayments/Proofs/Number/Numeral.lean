import RecurringPayments.Number.Binary64
import RecurringPayments.Number.Reading
import Mathlib

/-!
Every written figure is an amount to the reader of tables: digits, with a point or an exponent where
they need one, and nothing that the reader stops at.
-/
namespace RecurringPayments

namespace Decimal

def AllDigits (s : List Char) : Prop := ∀ c ∈ s, c.isDigit = true

def IsFraction (s : List Char) : Prop := s = [] ∨ ∃ ds, AllDigits ds ∧ s = '.' :: ds

def IsExponent (s : List Char) : Prop := s = [] ∨ ∃ e, s = 'e' :: exponentText e

/-- An unsigned decimal: digits, then a fraction and an exponent if there are any. -/
def IsNumeral (s : List Char) : Prop :=
  ∃ whole fraction exponent, s = whole ++ (fraction ++ exponent) ∧ whole ≠ [] ∧ AllDigits whole ∧
    IsFraction fraction ∧ IsExponent exponent

/-! ### Digits -/

theorem AllDigits.append {s t : List Char} (hs : AllDigits s) (ht : AllDigits t) :
    AllDigits (s ++ t) := List.forall_mem_append.mpr ⟨hs, ht⟩

theorem allDigits_digitsOf (n : Nat) : AllDigits (digitsOf n) := fun _ hc =>
  Nat.isDigit_of_mem_toDigits (b := 10) (by decide) (by decide) hc

theorem allDigits_zeros (n : Nat) : AllDigits (zeros n) := by
  intro c hc
  rw [List.eq_of_mem_replicate hc]
  rfl

theorem allDigits_dropTrailingZeros {s : List Char} (h : AllDigits s) :
    AllDigits (dropTrailingZeros s) := by
  intro c hc
  rw [dropTrailingZeros, List.mem_reverse] at hc
  exact h c (List.mem_reverse.mp (List.dropWhile_subset _ hc))

theorem exists_exponentText (e : Int) :
    ∃ sign ds, exponentText e = sign :: ds ∧ (sign = '-' ∨ sign = '+') ∧
      ds ≠ [] ∧ AllDigits ds := by
  have digits := allDigits_digitsOf e.natAbs
  refine ⟨if e < 0 then '-' else '+', _, rfl, by split <;> simp, ?_, ?_⟩
  · split
    · exact List.cons_ne_nil _ _
    · exact Nat.toDigits_ne_nil
  · split
    · exact List.forall_mem_cons.mpr ⟨rfl, digits⟩
    · exact digits

/-! ### Writing -/

theorem isNumeral_pointed {whole fraction : List Char} (some : whole ≠ [])
    (hwhole : AllDigits whole)
    (hfraction : AllDigits fraction) : IsNumeral (whole ++ '.' :: fraction) :=
  ⟨whole, '.' :: fraction, [], by rw [List.append_nil],
    some, hwhole, .inr ⟨_, hfraction, rfl⟩, .inl rfl⟩

theorem isNumeral_write (l : Layout) (mark : l.wholeMark = ['.', '0']) (digits : Nat) (g : Int) :
    IsNumeral (l.write digits g) := by
  have shown := allDigits_dropTrailingZeros (allDigits_digitsOf digits)
  rw [Layout.write]
  generalize dropTrailingZeros (digitsOf digits) = ds at shown
  generalize ((digitsOf digits).length + g : Int) = point
  split
  · split
    case isTrue =>
      exact isNumeral_pointed (List.cons_ne_nil '0' []) (by simp [AllDigits])
        ((allDigits_zeros _).append shown)
    case isFalse positive =>
      split
      case isTrue whole =>
        rw [mark]
        refine isNumeral_pointed (fun nothing => ?_) (shown.append (allDigits_zeros _))
          (by simp [AllDigits])
        have length := congrArg List.length nothing
        rw [List.length_append, zeros, List.length_replicate, List.length_nil] at length
        omega
      case isFalse longer =>
        refine isNumeral_pointed (fun nothing => ?_) (fun c hc => shown c (List.mem_of_mem_take hc))
          (fun c hc => shown c (List.mem_of_mem_drop hc))
        have length := congrArg List.length nothing
        rw [List.length_take, List.length_nil] at length
        omega
  · cases ds with
    | nil => exact ⟨['0'], [], [], rfl, List.cons_ne_nil _ _,
      by simp [AllDigits], .inl rfl, .inl rfl⟩
    | cons d rest =>
      obtain ⟨first, later⟩ := List.forall_mem_cons.mp shown
      have one : AllDigits [d] := by
        rintro c (_ | ⟨_, ⟨⟩⟩)
        exact first
      cases rest with
      | nil => exact ⟨[d], [], _, rfl, List.cons_ne_nil _ _, one, .inl rfl, .inr ⟨_, rfl⟩⟩
      | cons d' rest =>
        exact ⟨[d], '.' :: d' :: rest, _, rfl, List.cons_ne_nil _ _, one, .inr ⟨_, later, rfl⟩,
          .inr ⟨_, rfl⟩⟩

end Decimal

/-! ### Reading -/

namespace Number

open Decimal

theorem takeWhile_digits {ds rest : List Char} (digits : AllDigits ds)
    (stop : ∀ c ∈ rest.head?, c.isDigit = false) :
    (ds ++ rest).takeWhile Char.isDigit = ds ∧ (ds ++ rest).dropWhile Char.isDigit = rest := by
  rw [List.takeWhile_append_of_pos digits, List.dropWhile_append_of_pos digits]
  cases rest with
  | nil => simp
  | cons c rest =>
    have last := stop c rfl
    simp [last]

theorem isDigit_head_of_isExponent {s : List Char} (h : IsExponent s) :
    ∀ c ∈ s.head?, c.isDigit = false := by
  rcases h with rfl | ⟨e, rfl⟩
  · simp
  · simp [Char.isDigit]

theorem isDigit_head_of_isFraction {s t : List Char} (hs : IsFraction s) (ht : IsExponent t) :
    ∀ c ∈ (s ++ t).head?, c.isDigit = false := by
  rcases hs with rfl | ⟨ds, -, rfl⟩
  · exact isDigit_head_of_isExponent ht
  · simp [Char.isDigit]

theorem splitSign_exponentText (e : Int) :
    ∃ negative ds, splitSign (exponentText e) = (negative, ds) ∧ ds.isEmpty = false ∧
      ds.all Char.isDigit = true := by
  obtain ⟨sign, ds, text, signed, some, digits⟩ := exists_exponentText e
  have digits : ds.all Char.isDigit = true := List.all_eq_true.mpr digits
  rw [text]
  rcases signed with rfl | rfl
  · exact ⟨true, ds, rfl, List.isEmpty_eq_false_iff.mpr some, digits⟩
  · exact ⟨false, ds, rfl, List.isEmpty_eq_false_iff.mpr some, digits⟩

theorem isSome_decimal? {s : List Char} (numeral : IsNumeral s) : (decimal? s).isSome = true := by
  obtain ⟨whole, fraction, exponent, rfl, some, digits, hfraction, hexponent⟩ := numeral
  obtain ⟨taken, dropped⟩ :=
    takeWhile_digits digits (isDigit_head_of_isFraction hfraction hexponent)
  have filled : whole.isEmpty = false := List.isEmpty_eq_false_iff.mpr some
  rw [decimal?]
  simp only [taken, dropped, filled, Bool.false_and]
  rcases hfraction with rfl | ⟨ds, hds, rfl⟩
  · rcases hexponent with rfl | ⟨e, rfl⟩
    · rfl
    · obtain ⟨negative, es, signed, more, hes⟩ := splitSign_exponentText e
      simp [signed, more, hes]
  · obtain ⟨taken, dropped⟩ := takeWhile_digits hds (isDigit_head_of_isExponent hexponent)
    simp only [List.cons_append, taken, dropped]
    rcases hexponent with rfl | ⟨e, rfl⟩
    · rfl
    · obtain ⟨negative, es, signed, more, hes⟩ := splitSign_exponentText e
      simp [signed, more, hes]

/-! ### Amounts -/

theorem isAmountBlank_of_isDigit {c : Char} (digit : c.isDigit = true) :
    isAmountBlank c = false := by
  rw [Char.isDigit, Bool.and_eq_true, decide_eq_true_iff, decide_eq_true_iff] at digit
  have large : 48 ≤ c.toNat := UInt32.le_iff_toNat_le.mp digit.1
  have other : c ≠ ' ' := by
    rintro rfl
    exact absurd large (by decide)
  simp [isAmountBlank, other]
  omega

theorem not_blank_of_isNumeral {s : List Char} (numeral : IsNumeral s) :
    ∀ c ∈ s, isAmountBlank c = false := by
  have digits {ds : List Char} (h : AllDigits ds) : ∀ c ∈ ds, isAmountBlank c = false :=
    fun c hc => isAmountBlank_of_isDigit (h c hc)
  obtain ⟨whole, fraction, exponent, rfl, -, hwhole, hfraction, hexponent⟩ := numeral
  rw [List.forall_mem_append, List.forall_mem_append]
  refine ⟨digits hwhole, ?_, ?_⟩
  · rcases hfraction with rfl | ⟨ds, hds, rfl⟩
    · simp
    · exact List.forall_mem_cons.mpr ⟨rfl, digits hds⟩
  · rcases hexponent with rfl | ⟨e, rfl⟩
    · simp
    · obtain ⟨sign, ds, text, signed, -, hds⟩ := exists_exponentText e
      rw [text, List.forall_mem_cons, List.forall_mem_cons]
      exact ⟨rfl, by rcases signed with rfl | rfl <;> rfl, digits hds⟩

theorem splitSign_of_isNumeral {s : List Char} (numeral : IsNumeral s) :
    splitSign s = (false, s) := by
  obtain ⟨whole, rest, tail, rfl, some, digits, -⟩ := numeral
  obtain ⟨d, ds, rfl⟩ := List.exists_cons_of_ne_nil some
  have first : d.isDigit = true := digits d (.head ds)
  rw [List.cons_append, splitSign]
  · rintro _ ⟨⟩
    cases first
  · rintro _ ⟨⟩
    cases first

theorem dropWhile_blanks {s : List Char} (unblank : ∀ c ∈ s, isAmountBlank c = false) :
    s.dropWhile isAmountBlank = s := by
  cases s with
  | nil => rfl
  | cons c s => exact List.dropWhile_cons_of_neg (by simp [unblank c (.head s)])

theorem isSome_ofText?_of_isNumeral {body : List Char} (numeral : IsNumeral body)
    (negative : Bool) :
    (Amount.ofText? ((if negative then ['-'] else []) ++ body)).isSome = true := by
  have split : splitSign ((if negative then ['-'] else []) ++ body) = (negative, body) := by
    cases negative with
    | false => exact splitSign_of_isNumeral numeral
    | true => rfl
  have unblank : ∀ c ∈ (if negative then ['-'] else []) ++ body, isAmountBlank c = false :=
    List.forall_mem_append.mpr
      ⟨by cases negative <;> simp [isAmountBlank], not_blank_of_isNumeral numeral⟩
  generalize (if negative then ['-'] else []) ++ body = s at split unblank
  have bare : ((s.dropWhile isAmountBlank).reverse.dropWhile isAmountBlank).reverse = s := by
    rw [dropWhile_blanks unblank, dropWhile_blanks, List.reverse_reverse]
    exact fun c hc => unblank c (List.mem_reverse.mp hc)
  obtain ⟨read, hread⟩ := Option.isSome_iff_exists.mp (isSome_decimal? numeral)
  rw [Amount.ofText?]
  simp only [bare, split, hread, beq_self_eq_true, if_true]
  split <;> rfl

end Number

theorem Binary64.isSome_ofText?_write {b : Binary64} (defined : b ≠ .undefined) :
    (Number.Amount.ofText? b.write).isSome = true := by
  cases b with
  | undefined => exact absurd rfl defined
  | infinite negative => cases negative <;> decide +kernel
  | finite negative m e =>
    refine Number.isSome_ofText?_of_isNumeral ?_ negative
    split
    · exact Decimal.isNumeral_pointed (List.cons_ne_nil '0' [])
        (by simp [Decimal.AllDigits]) (by simp [Decimal.AllDigits])
    · exact Decimal.isNumeral_write Binary64.layout rfl _ _

end RecurringPayments
