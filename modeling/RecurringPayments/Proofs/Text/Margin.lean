import RecurringPayments.Text.Word
import RecurringPayments.Proofs.Text.Lower
import RecurringPayments.Proofs.Text.Words

/-!
The margins of a text, the blanks around it. They have no case and make no word, so they stay as
they are in lower case and leave the text between them alone.
-/
namespace RecurringPayments.Text

/-! ### Blanks one by one -/

theorem Ranges.of_has (rs : Ranges) (check : Char → Bool)
    (each : ∀ n ∈ rs.flatMap fun r => List.range' r.1 (r.2 + 1 - r.1), check (Char.ofNat n) = true)
    {c : Char} (inside : rs.has c = true) : check c = true := by
  obtain ⟨r, hr, bounds⟩ := List.any_eq_true.mp inside
  rw [Bool.and_eq_true, decide_eq_true_iff, decide_eq_true_iff] at bounds
  have listed : c.toNat ∈ List.range' r.1 (r.2 + 1 - r.1) := by
    rw [List.mem_range'_1]
    omega
  have found := each c.toNat (List.mem_flatMap.mpr ⟨r, hr, listed⟩)
  rwa [Char.ofNat_toNat] at found

/-- Without case, no part of a word, and the same in lower case. -/
structure IsPlain (c : Char) : Prop where
  seen : isCaseSkipped c = false
  uncased : isCased c = false
  apart : isWordChar c = false
  lower : ∀ before after, lowerAt before c after = [c]

theorem isPlain_of_blank {c : Char} (blank : isBlank c = true) : IsPlain c := by
  have check : (!isCaseSkipped c && !isCased c && !isWordChar c && c != 'Σ' && c != 'İ' &&
      lowerChar c == c) = true := by
    refine Ranges.of_has blankRanges (fun c => !isCaseSkipped c && !isCased c &&
      !isWordChar c && c != 'Σ' && c != 'İ' && lowerChar c == c) ?_ blank
    decide +kernel
  simp only [Bool.and_eq_true, Bool.not_eq_true', bne_iff_ne, beq_iff_eq] at check
  obtain ⟨⟨⟨⟨⟨seen, uncased⟩, apart⟩, sigma⟩, dotted⟩, same⟩ := check
  exact ⟨seen, uncased, apart, fun before after => by simp [lowerAt, sigma, dotted, same]⟩

/-! ### Lower case -/

theorem casedFollows_append_blank (s : List Char) {v : List Char}
    (blank : ∀ c ∈ v, isBlank c = true) : casedFollows (s ++ v) = casedFollows s := by
  induction s with
  | nil =>
    cases v with
    | nil => rfl
    | cons c v =>
      have plain := isPlain_of_blank (blank c (.head v))
      simp [casedFollows, plain.seen, plain.uncased]
  | cons c s ih => rw [List.cons_append, casedFollows, casedFollows, ih]

theorem casedPrecedes_blank_append {u : List Char} (blank : ∀ c ∈ u, isBlank c = true)
    (s : List Char) : casedPrecedes (u ++ s) = casedPrecedes s := by
  rw [casedPrecedes, List.reverse_append, casedFollows_append_blank, casedPrecedes]
  exact fun c hc => blank c (List.mem_reverse.mp hc)

theorem lowerWithin_blank (before : List Char) {u : List Char}
    (blank : ∀ c ∈ u, isBlank c = true) (after : List Char) : lowerWithin before u after = u := by
  induction u generalizing before with
  | nil => rfl
  | cons c u ih =>
    rw [List.forall_mem_cons] at blank
    rw [lowerWithin, (isPlain_of_blank blank.1).lower, ih _ blank.2, List.singleton_append]

variable {u v : List Char} (hu : ∀ c ∈ u, isBlank c = true) (hv : ∀ c ∈ v, isBlank c = true)
include hu hv

theorem keepsSigmas_surrounded (s : List Char) : KeepsSigmas u s v := by
  rintro x y -
  rw [endsWord, endsWord, casedPrecedes_blank_append hu, casedFollows_append_blank y hv]

theorem lower_surrounded (s : List Char) : lower (u ++ s ++ v) = u ++ lower s ++ v := by
  rw [lower_append_append, lowerWithin_blank [] hu, lowerWithin_blank _ hv,
    lowerWithin_eq_lower_iff.mpr (keepsSigmas_surrounded hu hv s)]

theorem spaced_surrounded (s : List Char) : spaced (u ++ s ++ v) = spaced s := by
  rw [spaced, words_append_blank _ hv, words_blank_append hu, spaced]

end RecurringPayments.Text
