import RecurringPayments.Number.Binary64
import RecurringPayments.Proofs.Detection.Membership
import RecurringPayments.Proofs.Text.Margin
import RecurringPayments.Proofs.Transaction.CompanyForm

/-!
Blanks around a merchant. The key is trimmed after its company form is taken off, so blanks in
front of a merchant never matter, and blanks behind it matter to companies only: with more than a
line feed behind it, a form is not at the end and stays in the key.
-/
namespace RecurringPayments.MerchantKey

/-- Nothing stands behind the last word, or a single line feed. -/
def EndsCleanly (s : List Char) : Prop :=
  Text.rightMargin s = [] ∨ Text.rightMargin s = ['\n']

instance (s : List Char) : Decidable (EndsCleanly s) :=
  inferInstanceAs (Decidable (Text.rightMargin s = [] ∨ Text.rightMargin s = ['\n']))

def IsCompany (s : List Char) : Prop := ∃ head, EndsInForm (Text.trimRight s) head

/-- Further blanks behind a company leave its form as visible as it was. -/
def Tolerates (s v : List Char) : Prop :=
  IsCompany s → (EndsCleanly (s ++ v) ↔ EndsCleanly s)

/-! ### Forms have no blanks -/

theorem IsForm.ink {form : List Char} (named : IsForm form) :
    ∀ c ∈ form, Text.isBlank c = false := by
  have check : (spellings.flatten ++ ['.']).all (!Text.isBlank ·) = true := by decide +kernel
  rw [List.all_eq_true] at check
  obtain ⟨letters, hl, same⟩ := named
  intro c hc
  have listed : c ∈ spellings.flatten ++ ['.'] := by
    rw [List.mem_append, List.mem_flatten]
    rcases same with rfl | rfl
    · exact .inl ⟨form, hl, hc⟩
    · exact (List.mem_append.mp hc).imp_left fun hc => ⟨letters, hl, hc⟩
  simpa using check c listed

theorem IsForm.ne_nil {form : List Char} (named : IsForm form) : form ≠ [] := by
  rintro rfl
  obtain ⟨letters, hl, same⟩ := named
  have empty : letters = [] := by rcases same with same | same <;> simp_all
  simp [spellings, empty] at hl

theorem EndsInForm.trimRight_eq {s head : List Char} (ends : EndsInForm s head) :
    Text.trimRight s = s := by
  obtain ⟨form, named, rfl⟩ := ends.cut
  refine Text.trimRight_eq_self fun c hc => named.ink c ?_
  rw [List.getLast?_append_of_ne_nil head named.ne_nil] at hc
  exact List.mem_of_getLast? hc

theorem not_endsInForm_nil (head : List Char) : ¬ EndsInForm [] head := by
  rintro ⟨⟨form, named, cut⟩, -⟩
  exact named.ne_nil (List.append_eq_nil_iff.mp cut.symm).2

/-! ### Blanks behind a form -/

theorem withoutLineEnd_cases (s : List Char) :
    s = withoutLineEnd s ∨ s = withoutLineEnd s ++ ['\n'] := by
  rcases s.eq_nil_or_concat with rfl | ⟨s, c, rfl⟩
  · exact .inl rfl
  · by_cases lineEnd : c = '\n' <;> simp [withoutLineEnd, lineEnd]

theorem withoutLineEnd_of_endsCleanly {s : List Char} (clean : EndsCleanly s) :
    withoutLineEnd s = Text.trimRight s := by
  have whole := Text.trimRight_append_rightMargin s
  rcases clean with margin | margin
  · rw [margin, List.append_nil] at whole
    have last : s.getLast? ≠ some '\n' := by
      intro lineEnd
      have ink := Text.getLast_trimRight s '\n' (by rwa [whole])
      cases ink
    rw [withoutLineEnd, if_neg last, whole]
  · rw [margin] at whole
    conv_lhs => rw [← whole]
    simp [withoutLineEnd]

theorem endsInForm_withoutLineEnd_iff {s head : List Char} :
    EndsInForm (withoutLineEnd s) head ↔
      EndsCleanly s ∧ EndsInForm (Text.trimRight s) head := by
  constructor
  · intro ends
    have whole := Text.trimRight_append_rightMargin s
    rcases withoutLineEnd_cases s with same | same
    · have trimmed : Text.trimRight s = withoutLineEnd s := by
        conv_lhs => rw [same]
        exact ends.trimRight_eq
      rw [trimmed, ← same] at whole
      exact ⟨.inl (List.self_eq_append_right.mp whole.symm), trimmed ▸ ends⟩
    · have trimmed : Text.trimRight s = withoutLineEnd s := by
        conv_lhs => rw [same]
        rw [Text.trimRight_append_blank _ (List.forall_mem_singleton.mpr rfl), ends.trimRight_eq]
      rw [trimmed] at whole
      exact ⟨.inr (List.append_cancel_left (whole.trans same)), trimmed ▸ ends⟩
  · rintro ⟨clean, ends⟩
    rwa [withoutLineEnd_of_endsCleanly clean]

section Surrounded

variable {u v : List Char} (hu : ∀ c ∈ u, Text.isBlank c = true)
  (hv : ∀ c ∈ v, Text.isBlank c = true)

/-! ### Blanks in front of a form -/

include hu in
theorem endsInForm_blank_append_iff {s head' : List Char} :
    EndsInForm (u ++ s) head' ↔ ∃ head, head' = u ++ head ∧ EndsInForm s head := by
  constructor
  · rintro ⟨⟨form, named, cut⟩, apart⟩
    obtain ⟨head, rfl, rfl⟩ : ∃ head, head' = u ++ head ∧ s = head ++ form := by
      rcases List.append_eq_append_iff.mp cut with ⟨head, front, back⟩ | ⟨shared, front, back⟩
      · exact ⟨head, front, back⟩
      · -- What the blanks and the form have in common is nothing.
        have nothing : shared = [] := by
          rw [List.eq_nil_iff_forall_not_mem]
          intro c hc
          have blank := hu c (by simp [front, hc])
          rw [named.ink c (by simp [back, hc])] at blank
          cases blank
        subst nothing
        exact ⟨[], by simpa using front.symm, by simpa using back.symm⟩
    refine ⟨head, rfl, ⟨form, named, rfl⟩, fun c hc => apart c ?_⟩
    rw [List.getLast?_append, hc]
    rfl
  · rintro ⟨head, rfl, ⟨form, named, rfl⟩, apart⟩
    refine ⟨⟨form, named, (List.append_assoc u head form).symm⟩, fun c hc => ?_⟩
    rw [List.getLast?_append] at hc
    rcases Option.or_eq_some_iff.mp hc with hc | ⟨-, hc⟩
    · exact apart c hc
    · exact (Text.isPlain_of_blank (hu c (List.mem_of_getLast? hc))).apart

include hu hv

theorem endsInForm_surrounded_iff {s head' : List Char} :
    EndsInForm (withoutLineEnd (u ++ s ++ v)) head' ↔
      EndsCleanly (s ++ v) ∧ ∃ head, head' = u ++ head ∧ EndsInForm (Text.trimRight s) head := by
  rw [endsInForm_withoutLineEnd_iff, Text.trimRight_append_blank _ hv]
  by_cases nothing : Text.trimRight s = []
  · have blank : Text.trimRight (u ++ s) = [] :=
      (Text.trimRight_append_of_eq_nil u nothing).trans (Text.trimRight_append_blank [] hu)
    simp [blank, nothing, not_endsInForm_nil]
  · have trimmed := Text.trimRight_append_blank s hv
    rw [EndsCleanly, List.append_assoc, Text.rightMargin_append u (trimmed ▸ nothing),
      ← EndsCleanly, Text.trimRight_append u nothing, endsInForm_blank_append_iff hu]

theorem spaced_withoutForm_of_company {s head : List Char}
    (company : EndsInForm (Text.trimRight s) head) :
    (EndsCleanly (s ++ v) → Text.spaced (withoutForm (u ++ s ++ v)) = Text.spaced head) ∧
      (¬ EndsCleanly (s ++ v) → Text.spaced (withoutForm (u ++ s ++ v)) = Text.spaced s) := by
  constructor
  · intro clean
    rw [withoutForm_of_endsInForm ((endsInForm_surrounded_iff hu hv).mpr
        ⟨clean, head, rfl, company⟩),
      Text.spaced_trimRight, Text.spaced, Text.words_blank_append hu, Text.spaced]
  · intro dirty
    rw [withoutForm_of_none fun head' ends =>
        dirty ((endsInForm_surrounded_iff hu hv).mp ends).1,
      Text.spaced_surrounded hu hv]

theorem spaced_withoutForm_of_not_company {s : List Char} (none : ¬ IsCompany s) :
    Text.spaced (withoutForm (u ++ s ++ v)) = Text.spaced s := by
  rw [withoutForm_of_none, Text.spaced_surrounded hu hv]
  intro head' ends
  obtain ⟨-, head, -, company⟩ := (endsInForm_surrounded_iff hu hv).mp ends
  exact none ⟨head, company⟩

end Surrounded

theorem spaced_head_ne {s head : List Char} (company : EndsInForm (Text.trimRight s) head) :
    Text.spaced head ≠ Text.spaced s := by
  intro same
  obtain ⟨form, named, cut⟩ := company.cut
  rw [← Text.spaced_trimRight s, cut] at same
  have inks := congrArg (List.filter (!Text.isBlank ·)) same
  rw [Text.filter_spaced, Text.filter_spaced, List.filter_append,
    List.self_eq_append_right, List.filter_eq_nil_iff] at inks
  obtain ⟨c, form, rfl⟩ := List.exists_cons_of_ne_nil named.ne_nil
  exact inks c (.head form) (by simp [named.ink c (.head form)])

/-! ### Keys -/

theorem ofText_surrounded_iff {u v : List Char} (hu : ∀ c ∈ u, Text.isBlank c = true)
    (hv : ∀ c ∈ v, Text.isBlank c = true) (s : List Char) :
    ofText (u ++ s ++ v) = ofText s ↔ Tolerates (Text.lower s) v := by
  rw [ofText_eq_spaced, ofText_eq_spaced, Text.lower_surrounded hu hv]
  generalize Text.lower s = s
  have bare : ∀ c ∈ ([] : List Char), Text.isBlank c = true := List.forall_mem_nil _
  by_cases company : IsCompany s
  · have ⟨head, ends⟩ := company
    have around := spaced_withoutForm_of_company hu hv ends
    have alone := spaced_withoutForm_of_company bare bare ends
    have differ := spaced_head_ne ends
    rw [List.nil_append, List.append_nil] at alone
    rw [Tolerates, imp_iff_right company]
    by_cases clean' : EndsCleanly (s ++ v) <;> by_cases clean : EndsCleanly s
    · rw [around.1 clean', alone.1 clean]
      exact iff_of_true rfl (iff_of_true clean' clean)
    · rw [around.1 clean', alone.2 clean]
      exact iff_of_false differ fun same => clean (same.mp clean')
    · rw [around.2 clean', alone.1 clean]
      exact iff_of_false differ.symm fun same => clean' (same.mpr clean)
    · rw [around.2 clean', alone.2 clean]
      exact iff_of_true rfl (iff_of_false clean' clean)
  · have around := spaced_withoutForm_of_not_company hu hv company
    have alone := spaced_withoutForm_of_not_company bare bare company
    rw [List.nil_append, List.append_nil] at alone
    rw [around, alone]
    exact iff_of_true rfl fun named => absurd named company

variable {α : Type} [Scalar α]

theorem ofValue_text_surrounded_iff {u s v : String} (hu : ∀ c ∈ u.toList, Text.isBlank c = true)
    (hv : ∀ c ∈ v.toList, Text.isBlank c = true) :
    ofValue (.text (u ++ s ++ v) : Value α) = ofValue (.text s : Value α) ↔
      Tolerates (Text.lower s.toList) v.toList := by
  rw [← String.toList_inj, toList_ofValue_text, toList_ofValue_text, String.toList_append,
    String.toList_append, ofText_surrounded_iff hu hv]

/-- Blanks around a merchant leave its key as it is, and its transactions together, whenever they
are tolerated, and else they part them. -/
theorem key_surrounded {t t' : Transaction α} {u s v : String}
    (hu : ∀ c ∈ u.toList, Text.isBlank c = true) (hv : ∀ c ∈ v.toList, Text.isBlank c = true)
    (ht : t.merchant = .text s) (ht' : t'.merchant = .text (u ++ s ++ v)) :
    (t'.key = t.key ↔ Tolerates (Text.lower s.toList) v.toList) ∧
      ∀ (d : Detector α) (ts : List (Transaction α)) (groups : List (RecurringGroup α)),
        d.detect ts = .ok groups → t ∈ ts → t' ∈ ts → ∀ g ∈ groups,
          (Tolerates (Text.lower s.toList) v.toList →
            (Member.ofTransaction t ∈ g.members ↔ Member.ofTransaction t' ∈ g.members)) ∧
          (Member.ofTransaction t ∈ g.members → Member.ofTransaction t' ∈ g.members →
            Tolerates (Text.lower s.toList) v.toList) := by
  have keys : t'.key = t.key ↔ Tolerates (Text.lower s.toList) v.toList := by
    rw [Transaction.key, Transaction.key, ht, ht', ofValue_text_surrounded_iff hu hv]
  refine ⟨keys, fun d ts groups detected mem mem' g hg => ?_⟩
  rw [Detector.mem_members_iff detected hg mem, Detector.mem_members_iff detected hg mem', ← keys]
  exact ⟨fun same => by rw [same], fun named named' => named'.trans named.symm⟩

def acmeTransaction (merchant : String) : Transaction Float where
  id := .text "acme"
  date := .never
  amount := .real 5
  merchant := .text merchant
  category := .text "Tools"
  account := .text "main"
  type := .text "debit"
  status := .text "posted"

theorem key_surrounded_acme :
    (∀ c ∈ " ".toList, Text.isBlank c = true) ∧ (∀ c ∈ "\n".toList, Text.isBlank c = true) ∧
    (acmeTransaction "Acme Inc.").merchant = .text "Acme Inc." ∧
    (acmeTransaction " Acme Inc.\n").merchant = .text (" " ++ "Acme Inc." ++ "\n") ∧
    IsCompany (Text.lower "Acme Inc.".toList) ∧
    (acmeTransaction " Acme Inc.\n").key = (acmeTransaction "Acme Inc.").key := by
  have space : ∀ c ∈ " ".toList, Text.isBlank c = true := List.forall_mem_singleton.mpr rfl
  have lineEnd : ∀ c ∈ "\n".toList, Text.isBlank c = true := List.forall_mem_singleton.mpr rfl
  have company : IsCompany (Text.lower "Acme Inc.".toList) :=
    ⟨"acme ".toList, endsInForm_iff.mpr (by decide +kernel)⟩
  have clean : EndsCleanly (Text.lower "Acme Inc.".toList ++ "\n".toList) := by decide +kernel
  have clean' : EndsCleanly (Text.lower "Acme Inc.".toList) := by decide +kernel
  have merchant : (acmeTransaction "Acme Inc.").merchant = .text "Acme Inc." := rfl
  have merchant' : (acmeTransaction " Acme Inc.\n").merchant =
      .text (" " ++ "Acme Inc." ++ "\n") := rfl
  have same := (key_surrounded space lineEnd merchant merchant').1.mpr fun _ =>
    iff_of_true clean clean'
  exact ⟨space, lineEnd, merchant, merchant', company, same⟩

theorem key_parted_by_blank :
    (∀ c ∈ " ".toList, Text.isBlank c = true) ∧
    (acmeTransaction "Acme Inc.").key = "acme" ∧
    (acmeTransaction ("" ++ "Acme Inc." ++ " ")).key = "acme inc." := by
  refine ⟨List.forall_mem_singleton.mpr rfl, ?_, ?_⟩ <;> decide +kernel

end RecurringPayments.MerchantKey
