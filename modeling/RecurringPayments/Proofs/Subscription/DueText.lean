import RecurringPayments.Proofs.Subscription.Distance
import RecurringPayments.Proofs.Text.Pieces

/-!
The wording of a due date, and what it tells: a date in the past only that it is past, one that is
eight to thirty days ahead the number of weeks, any other the date itself.
-/
namespace RecurringPayments

open Calendar Result

theorem toDigits_injective : Function.Injective (Nat.toDigits 10) := fun _ _ same =>
  Nat.repr_inj.mp (congrArg String.ofList same)

theorem notMem_toDigits {c : Char} (noDigit : c.isDigit = false) (n : Nat) :
    c ∉ Nat.toDigits 10 n := by
  intro listed
  rw [Nat.isDigit_of_mem_toDigits (by decide) le_rfl listed] at noDigit
  cases noDigit

/-- What the wording of a due date tells. Months count from zero. -/
inductive DueLabel where
  | overdue
  | today
  | tomorrow
  | days (count : Nat)
  | weeks (count : Nat)
  | on (month : Fin 12) (day : Nat) (year : Option Nat)

namespace DueLabel

def monthOf (d : Date) : Fin 12 :=
  ⟨d.month - 1, by
    have month := d.civil.2.1
    omega⟩

def ofDate (target now : Date) : DueLabel :=
  let distance := now.daysTo target
  if distance < 0 then overdue
  else if distance = 0 then today
  else if distance = 1 then tomorrow
  else if distance ≤ 7 then days distance.toNat
  else if distance ≤ 30 then weeks ((distance + 6) / 7).toNat
  else on (monthOf target) target.day (if target.year = now.year then none else some target.year)

def monthWord (month : Fin 12) : List Char := (monthNames.get month).toList

def words : DueLabel → List (List Char)
  | overdue => ["Overdue".toList]
  | today => ["Today".toList]
  | tomorrow => ["Tomorrow".toList]
  | days count => ["In".toList, Nat.toDigits 10 count, "days".toList]
  | weeks count => ["In".toList, Nat.toDigits 10 count, "weeks".toList]
  | on month day none => [monthWord month, Nat.toDigits 10 day]
  | on month day (some year) =>
    [monthWord month, Nat.toDigits 10 day ++ [','], Nat.toDigits 10 year]

def text (l : DueLabel) : String := String.ofList (Text.joinWith [' '] l.words)

/-! ### The wording tells what it says -/

theorem monthWord_injective : Function.Injective monthWord := by
  have distinct : monthNames.Nodup := by decide
  intro m n same
  exact List.nodup_iff_injective_get.mp distinct (String.toList_inj.mp same)

theorem monthWord_ne_in (month : Fin 12) : monthWord month ≠ ['I', 'n'] := by
  revert month
  decide

/-- Labels of different kinds differ in the number of their words or in a word that is fixed. -/
theorem words_injective : Function.Injective words := by
  intro l l' same
  rcases l with _ | _ | _ | n | n | ⟨m, d, _ | y⟩ <;>
    rcases l' with _ | _ | _ | n' | n' | ⟨m', d', _ | y'⟩ <;>
    simp [words, toDigits_injective.eq_iff, monthWord_injective.eq_iff, monthWord_ne_in,
      (monthWord_ne_in _).symm] at same ⊢ <;>
    exact same

theorem words_ne_nil (l : DueLabel) : l.words ≠ [] := by
  unfold words
  split <;> exact List.cons_ne_nil _ _

theorem notMem_words (l : DueLabel) : ∀ word ∈ l.words, ' ' ∉ word := by
  have month : ∀ m, ' ' ∉ monthWord m := by decide
  have number := notMem_toDigits (c := ' ') rfl
  rcases l with _ | _ | _ | n | n | ⟨m, d, _ | y⟩ <;> simp [words, number, month]

theorem text_injective : Function.Injective text := by
  intro l l' same
  have joined := String.ofList_injective same
  apply words_injective
  rw [← Text.splitAt_joinWith l.words_ne_nil l.notMem_words, joined,
    Text.splitAt_joinWith l'.words_ne_nil l'.notMem_words]

theorem toList_monthName (d : Date) : (monthName d.month).toList = monthWord (monthOf d) := by
  have inside : d.month - 1 < monthNames.length := (monthOf d).isLt
  rw [monthName, List.getD_eq_getElem _ _ inside]
  rfl

theorem toList_intText {n : Int} (nonneg : 0 ≤ n) :
    (Value.intText n).toList = Nat.toDigits 10 n.toNat := by
  have size : n.natAbs = n.toNat := by omega
  rw [Value.intText, if_neg (not_lt.mpr nonneg), size, Value.numberText, String.toList_ofList]

theorem text_ofDate (target now : Date) :
    (ofDate target now).text = Schedule.dueText target now := by
  rw [← String.toList_inj, text, String.toList_ofList, ofDate, Schedule.dueText]
  simp only [beq_iff_eq]
  split_ifs with past same next week month year
  · rfl
  · rfl
  · rfl
  · rw [String.toList_append, String.toList_append, toList_intText (by omega)]
    simp [words, Text.joinWith]
  · rw [String.toList_append, String.toList_append, toList_intText (by omega)]
    simp [words, Text.joinWith]
  · simp [Schedule.dayText, year, words, Text.joinWith, toList_monthName, Value.numberText]
  · simp [Schedule.dayText, year, words, Text.joinWith, toList_monthName, Value.numberText]

/-! ### Dates that share a label -/

def Tells (now target : Date) : DueLabel → Prop
  | overdue => now.daysTo target < 0
  | today => now.daysTo target = 0
  | tomorrow => now.daysTo target = 1
  | days count => now.daysTo target = count
  | weeks count => 8 ≤ now.daysTo target ∧ now.daysTo target ≤ 30 ∧
      ⌈(now.daysTo target : ℚ) / 7⌉ = count
  | on month day year => target.name = ⟨year.getD now.year, month + 1, day⟩

theorem ceil_weeks (days : Int) : ⌈(days : ℚ) / 7⌉ = (days + 6) / 7 := by
  have up := Rat.ceil_intCast_div_natCast days 7
  push_cast at up
  rw [up]
  omega

theorem tells_ofDate (target now : Date) : Tells now target (ofDate target now) := by
  rw [ofDate]
  split_ifs with past same next week month year
  · exact past
  · exact same
  · exact next
  · change now.daysTo target = ((now.daysTo target).toNat : Int)
    omega
  · refine ⟨by omega, month, ?_⟩
    rw [ceil_weeks]
    omega
  · have january := target.civil.2.1.1
    change target.name = ⟨now.year, target.month - 1 + 1, target.day⟩
    rw [← year, Nat.sub_add_cancel january]
    rfl
  · have january := target.civil.2.1.1
    change target.name = ⟨target.year, target.month - 1 + 1, target.day⟩
    rw [Nat.sub_add_cancel january]
    rfl

theorem ofDate_of_weeks {target now : Date} (low : 8 ≤ now.daysTo target)
    (high : now.daysTo target ≤ 30) :
    ofDate target now = weeks ⌈(now.daysTo target : ℚ) / 7⌉.toNat := by
  rw [ofDate, if_neg (by omega), if_neg (by omega), if_neg (by omega), if_neg (by omega),
    if_pos high, ceil_weeks]

theorem ofDate_eq_overdue_iff (target now : Date) :
    ofDate target now = overdue ↔ now.daysTo target < 0 := by
  refine ⟨fun label => ?_, fun past => if_pos past⟩
  have told := tells_ofDate target now
  rwa [label] at told

theorem ofDate_eq_iff (a b now : Date) : ofDate a now = ofDate b now ↔
    a = b ∨ (now.daysTo a < 0 ∧ now.daysTo b < 0) ∨
      (8 ≤ now.daysTo a ∧ now.daysTo a ≤ 30) ∧ (8 ≤ now.daysTo b ∧ now.daysTo b ≤ 30) ∧
        ⌈(now.daysTo a : ℚ) / 7⌉ = ⌈(now.daysTo b : ℚ) / 7⌉ := by
  constructor
  · intro same
    have first := tells_ofDate a now
    have second := tells_ofDate b now
    rw [← same] at second
    cases label : ofDate a now <;> rw [label] at first second
    case overdue => exact .inr (.inl ⟨first, second⟩)
    case today => exact .inl (Date.daysTo_inj.mp (first.trans second.symm))
    case tomorrow => exact .inl (Date.daysTo_inj.mp (first.trans second.symm))
    case days count => exact .inl (Date.daysTo_inj.mp (first.trans second.symm))
    case weeks count =>
      exact .inr (.inr ⟨⟨first.1, first.2.1⟩, ⟨second.1, second.2.1⟩,
        first.2.2.trans second.2.2.symm⟩)
    case on month day year => exact .inl (Date.name_inj.mp (first.trans second.symm))
  · rintro (rfl | ⟨pastA, pastB⟩ | ⟨⟨lowA, highA⟩, ⟨lowB, highB⟩, weeks⟩)
    · rfl
    · rw [(ofDate_eq_overdue_iff a now).mpr pastA, (ofDate_eq_overdue_iff b now).mpr pastB]
    · rw [ofDate_of_weeks lowA highA, ofDate_of_weeks lowB highB, weeks]

end DueLabel

namespace Schedule

theorem dueText_eq_iff (a b now : Date) :
    dueText a now = dueText b now ↔ DueLabel.ofDate a now = DueLabel.ofDate b now := by
  rw [← DueLabel.text_ofDate, ← DueLabel.text_ofDate, DueLabel.text_injective.eq_iff]

theorem dueText_eq_overdue_iff (target now : Date) :
    dueText target now = "Overdue" ↔ target.name.Precedes now.name := by
  have word : DueLabel.text .overdue = "Overdue" := rfl
  rw [← word, ← DueLabel.text_ofDate, DueLabel.text_injective.eq_iff,
    DueLabel.ofDate_eq_overdue_iff, (now.isAway_daysTo target).precedes_iff]

theorem nextBillingText_eq {target today : When} {due now : Date}
    (htarget : target.toDate = .ok due)
    (htoday : today.toDate = .ok now) : nextBillingText target today = .ok (dueText due now) := by
  rw [nextBillingText, htarget, ok_bind, htoday, ok_bind, pure_eq]

/-- Two due dates are worded alike when they are one date, both past, or as many weeks ahead. -/
theorem nextBillingText_alike_iff {target other today : When} {a b now : Date}
    (htarget : target.toDate = .ok a) (hother : other.toDate = .ok b)
    (htoday : today.toDate = .ok now) :
    ∃ wording wording', nextBillingText target today = .ok wording ∧
      nextBillingText other today = .ok wording' ∧
      (wording = wording' ↔ a = b ∨ (now.daysTo a < 0 ∧ now.daysTo b < 0) ∨
        (8 ≤ now.daysTo a ∧ now.daysTo a ≤ 30) ∧ (8 ≤ now.daysTo b ∧ now.daysTo b ≤ 30) ∧
          ⌈(now.daysTo a : ℚ) / 7⌉ = ⌈(now.daysTo b : ℚ) / 7⌉) ∧
      (30 < now.daysTo a → 30 < now.daysTo b → a ≠ b → wording ≠ wording') := by
  refine ⟨_, _, nextBillingText_eq htarget htoday, nextBillingText_eq hother htoday, ?_, ?_⟩
  · rw [dueText_eq_iff, DueLabel.ofDate_eq_iff]
  · intro farA farB different same
    rw [dueText_eq_iff, DueLabel.ofDate_eq_iff] at same
    rcases same with equal | ⟨past, -⟩ | ⟨⟨-, near⟩, -⟩
    · exact different equal
    · omega
    · omega

theorem nextBillingText_alike_iff_christmas :
    ∃ wording wording' : String,
      nextBillingText (.day ⟨739609, by decide⟩) (.day ⟨739543, by decide⟩) = .ok wording ∧
      nextBillingText (.day ⟨739974, by decide⟩) (.day ⟨739543, by decide⟩) = .ok wording' ∧
      wording ≠ wording' := by
  obtain ⟨wording, wording', first, second, -, apart⟩ :=
    nextBillingText_alike_iff (When.toDate_day ⟨739609, by decide⟩)
      (When.toDate_day ⟨739974, by decide⟩) (When.toDate_day ⟨739543, by decide⟩)
  exact ⟨wording, wording', first, second, apart (by decide) (by decide) (by decide)⟩

end Schedule

end RecurringPayments
