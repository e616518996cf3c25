import RecurringPayments.Calendar.Layout
import RecurringPayments.Proofs.Calendar.Civil

/-!
Written dates read back: a date in the form year, month, day, all digits of the year written, gives
the same date again.
-/
namespace RecurringPayments

namespace Calendar

/-! ### Digits -/

theorem digitValue?_digitChar {n : Nat} (h : n < 10) : digitValue? n.digitChar = some n := by
  have digit : n.digitChar.isDigit = true := by simp [h]
  rw [digitValue?, if_pos digit, Nat.toNat_digitChar_sub_48_of_lt_ten h]

theorem twoDigits_eq {n : Nat} (h : n < 100) :
    twoDigits n = [(n / 10).digitChar, (n % 10).digitChar] := by
  rw [twoDigits, Text.padded]
  by_cases small : n < 10
  · rw [Nat.toDigits_of_lt_base small, Nat.div_eq_of_lt small, Nat.mod_eq_of_lt small]
    rfl
  · rw [Nat.toDigits_of_base_le (by decide) (not_lt.mp small),
      Nat.toDigits_of_lt_base (Nat.div_lt_of_lt_mul h)]
    rfl

theorem toDigits_year {n : Nat} (low : 1000 ≤ n) (high : n ≤ 9999) :
    Nat.toDigits 10 n =
      [(n / 1000).digitChar, (n / 100 % 10).digitChar, (n / 10 % 10).digitChar,
        (n % 10).digitChar] := by
  have thousands : n / 10 / 10 / 10 < 10 := by omega
  rw [Nat.toDigits_of_base_le (by decide) (by omega),
    Nat.toDigits_of_base_le (by decide) (by omega),
    Nat.toDigits_of_base_le (by decide) (by omega), Nat.toDigits_of_lt_base thousands,
    Nat.div_div_eq_div_mul n 10 10, Nat.div_div_eq_div_mul n (10 * 10) 10]
  rfl

theorem fixedNumber_two {a b : Nat} (ha : a < 10) (hb : b < 10) (s : List Char) :
    fixedNumber 2 0 (a.digitChar :: b.digitChar :: s) = [(a * 10 + b, s)] := by
  simp only [fixedNumber, digitValue?_digitChar ha, digitValue?_digitChar hb, Nat.zero_mul,
    Nat.zero_add]

theorem readYear_toDigits {n : Nat} (low : 1000 ≤ n) (high : n ≤ 9999) (s : List Char) :
    readYear (Nat.toDigits 10 n ++ s) = [(n, s)] := by
  have sum : ((n / 1000 * 10 + n / 100 % 10) * 10 + n / 10 % 10) * 10 + n % 10 = n := by omega
  rw [toDigits_year low high, readYear]
  simp only [List.cons_append, List.nil_append, fixedNumber,
    digitValue?_digitChar (show n / 1000 < 10 by omega),
    digitValue?_digitChar (show n / 100 % 10 < 10 by omega),
    digitValue?_digitChar (show n / 10 % 10 < 10 by omega),
    digitValue?_digitChar (show n % 10 < 10 by omega), Nat.zero_mul, Nat.zero_add, sum]

theorem shortNumber_twoDigits {low high n : Nat} (hl : low ≤ n) (hh : n ≤ high) (small : high < 100)
    (s : List Char) :
    ∃ later, shortNumber low high (twoDigits n ++ s) = (n, s) :: later ∧
      ∀ r ∈ later, r.2 = (n % 10).digitChar :: s := by
  have tens : n / 10 < 10 := by omega
  have ones : n % 10 < 10 := by omega
  have sum : n / 10 * 10 + n % 10 = n := by omega
  have inside : (decide (low ≤ n) && decide (n ≤ high)) = true := by simp [hl, hh]
  refine ⟨(fixedNumber 1 0 (twoDigits n ++ s)).filter fun r => low ≤ r.1 && r.1 ≤ high, ?_, ?_⟩
  · rw [shortNumber, List.filter_append, twoDigits_eq (by omega), List.cons_append,
      List.cons_append,
      List.nil_append, fixedNumber_two tens ones, sum, List.filter_cons, if_pos inside]
    rfl
  · intro r hr
    have one : fixedNumber 1 0 (twoDigits n ++ s) = [(n / 10, (n % 10).digitChar :: s)] := by
      rw [twoDigits_eq (by omega), List.cons_append, List.cons_append, List.nil_append]
      simp only [fixedNumber, digitValue?_digitChar tens, Nat.zero_mul, Nat.zero_add]
    rw [one] at hr
    rw [List.mem_singleton.mp (List.mem_filter.mp hr).1]

/-! ### Layouts -/

theorem mark_self (c : Char) (s : List Char) : mark c (c :: s) = [((), s)] := by simp [mark]

theorem mark_digitChar (n : Nat) (s : List Char) : mark '-' (n.digitChar :: s) = [] := by
  have other : ('-' == n.digitChar) = false :=
    beq_false_of_ne (Nat.digitChar_ne '-' (by decide)).symm
  rw [mark, other, if_neg Bool.false_ne_true]

theorem Readings.andThen_first {β γ : Type} {first : β × List Char} {later : Readings β}
    {next : β → List Char → Readings γ} (nowhere : ∀ r ∈ later, next r.1 r.2 = []) :
    Readings.andThen (first :: later) next = next first.1 first.2 := by
  rw [Readings.andThen, List.flatMap_cons, List.flatMap_eq_nil_iff.mpr nowhere, List.append_nil]

def plainLayout : Layout := ⟨.yearMonthDay '-', .none, false⟩

theorem year_le (d : Date) : d.year ≤ 9999 := by
  have days := d.civil.2.2.2
  have inCalendar : d.days < 3652059 := d.inCalendar
  rw [daysBeforeYear] at days
  omega

theorem ofCivil?_civil (d : Date) : Date.ofCivil? d.year d.month d.day = some d := by
  obtain ⟨year, ⟨monthLow, monthHigh⟩, ⟨dayLow, dayHigh⟩, days⟩ := d.civil
  rw [Date.ofCivil?, if_pos ⟨year, year_le d, monthLow, monthHigh, dayLow, dayHigh⟩, days]
  exact Date.ofDays?_eq_some_iff.mpr rfl

theorem toList_shortText (d : Date) :
    d.shortText.toList = Nat.toDigits 10 d.year ++ '-' :: (twoDigits d.month ++
      '-' :: (twoDigits d.day ++ [])) := by
  rw [Date.shortText, String.toList_ofList, List.append_nil]
  simp only [List.append_assoc, List.cons_append]

theorem read_plainLayout {d : Date} (low : 1000 ≤ d.year) :
    ∃ later, plainLayout.order.read d.shortText.toList = ((d.year, d.month, d.day), []) :: later ∧
      ∀ r ∈ later, r.2.isEmpty = false := by
  obtain ⟨-, ⟨monthLow, monthHigh⟩, ⟨dayLow, dayHigh⟩, -⟩ := d.civil
  have dayShort : d.day ≤ 31 := dayHigh.trans (monthLength_bounds _ _).2
  obtain ⟨others, months, otherMonths⟩ :=
    shortNumber_twoDigits monthLow monthHigh (by decide) ('-' :: (twoDigits d.day ++ []))
  obtain ⟨later, days, laterDays⟩ := shortNumber_twoDigits dayLow dayShort (by decide) []
  have noMonth : ∀ r ∈ others, mark '-' r.2 = [] := fun r hr => by
    rw [otherMonths r hr]
    exact mark_digitChar _ _
  refine ⟨later.map fun r => ((d.year, d.month, r.1), r.2), ?_, ?_⟩
  · have order : plainLayout.order = .yearMonthDay '-' := rfl
    rw [toList_shortText, order, DateOrder.read, readYear_toDigits low (year_le d),
      Readings.andThen_first (by simp)]
    simp only [mark_self]
    rw [Readings.andThen_first (by simp)]
    simp only [readMonth, months]
    rw [Readings.andThen_first (fun r hr => by rw [noMonth r hr]; rfl)]
    simp only [mark_self]
    rw [Readings.andThen_first (by simp)]
    simp only [readDay, days, Readings.andThen, List.flatMap_cons, List.singleton_append,
      List.map_eq_flatMap]
  · intro r hr
    obtain ⟨unread, hunread, rfl⟩ := List.mem_map.mp hr
    rw [laterDays unread hunread]
    rfl

theorem read?_shortText {d : Date} (low : 1000 ≤ d.year) :
    plainLayout.read? d.shortText.toList = some ⟨d, 0, none⟩ := by
  obtain ⟨later, read, unfinished⟩ := read_plainLayout low
  have nowhere : ∀ r ∈ later, (Readings.andThen (Clock.none.read r.2) fun t s =>
      (readZone false s).andThen fun zone s => [((r.1, t, zone), s)]) = [] := fun r hr => by
    simp only [Clock.read, readZone, Readings.andThen, List.flatMap_cons, unfinished r hr]
    rfl
  rw [Layout.read?, read, Readings.andThen_first nowhere]
  change (Date.ofCivil? d.year d.month d.day).map _ = _
  rw [ofCivil?_civil]
  rfl

theorem of?_shortText {d : Date} (low : 1000 ≤ d.year) :
    Layout.of? d.shortText.toList = some plainLayout := by
  have fits : plainLayout.fits d.shortText.toList = true := by
    rw [Layout.fits, read?_shortText low]
    rfl
  exact List.find?_cons_of_pos fits

end Calendar

end RecurringPayments
