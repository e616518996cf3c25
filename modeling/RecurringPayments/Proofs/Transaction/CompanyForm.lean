import RecurringPayments.Transaction.MerchantKey
import RecurringPayments.Proofs.Text.Words

/-!
The key of a merchant, said without reference to how it is made. It consists of the words of the
merchant's text in lower case, a single space between two of them, but for one company form that
stands at the end as a word of its own.
-/
namespace RecurringPayments.MerchantKey

def spellings : List (List Char) :=
  [['i', 'n', 'c'], ['ı', 'n', 'c'], ['l', 'l', 'c'], ['c', 'o', 'r', 'p'], ['l', 't', 'd']]

def IsForm (s : List Char) : Prop := ∃ form ∈ spellings, s = form ∨ s = form ++ ['.']

/-- A company form follows the head of a text, and begins the text or comes after a character that
makes no word. -/
structure EndsInForm (s head : List Char) : Prop where
  cut : ∃ form, IsForm form ∧ s = head ++ form
  apart : ∀ c ∈ head.getLast?, Text.isWordChar c = false

def withoutLineEnd (s : List Char) : List Char :=
  if s.getLast? = some '\n' then s.dropLast else s

/-- What stays of a text: the head before its company form, or else the whole of it. -/
def Leaves (s rest : List Char) : Prop :=
  EndsInForm (withoutLineEnd s) rest ∨ (∀ head, ¬ EndsInForm (withoutLineEnd s) head) ∧ rest = s

/-! ### Taking a form off the end -/

theorem dropLetters?_eq_some_iff {form s rest : List Char} :
    dropLetters? form s = some rest ↔
      ∃ written, List.Forall₂ (fun e c => isLetter c e = true) form written ∧
        s = written ++ rest := by
  induction form generalizing s with
  | nil =>
    have whole : dropLetters? [] s = some s := by cases s <;> rfl
    rw [whole, Option.some_inj]
    simp only [List.forall₂_nil_left_iff, exists_eq_left, List.nil_append]
  | cons e form ih =>
    cases s with
    | nil => simp [dropLetters?, List.forall₂_cons_left_iff]
    | cons c s =>
      by_cases letter : isLetter c e = true
      · simp [dropLetters?, letter, ih, List.forall₂_cons_left_iff]
      · simp [dropLetters?, letter, List.forall₂_cons_left_iff]

theorem exists_dropLetters?_iff {s rest : List Char} :
    (∃ form ∈ companyForms, dropLetters? form.reverse s = some rest) ↔
      ∃ form ∈ spellings, s = form.reverse ++ rest := by
  simp [companyForms, spellings, dropLetters?_eq_some_iff, List.forall₂_cons_left_iff, isLetter,
    or_assoc]

theorem rest_unique {form form' rest rest' : List Char} (hf : form ∈ spellings)
    (hf' : form' ∈ spellings) (same : form.reverse ++ rest = form'.reverse ++ rest') :
    rest = rest' := by
  simp only [spellings, List.mem_cons, List.not_mem_nil, or_false] at hf hf'
  rcases hf with rfl | rfl | rfl | rfl | rfl <;> rcases hf' with rfl | rfl | rfl | rfl | rfl <;>
    simp_all

theorem dropForm?_eq_some_iff {form s rest : List Char} :
    ((dropLetters? form s).bind fun rest =>
      if rest.head?.any Text.isWordChar then none else some rest) = some rest ↔
        dropLetters? form s = some rest ∧ ∀ c ∈ rest.head?, Text.isWordChar c = false := by
  rw [Option.bind_eq_some_iff]
  constructor
  · rintro ⟨found, letters, kept⟩
    split at kept
    · cases kept
    · rename_i apart
      cases kept
      refine ⟨letters, fun c hc => ?_⟩
      rw [hc] at apart
      simpa using apart
  · rintro ⟨letters, apart⟩
    refine ⟨rest, letters, if_neg ?_⟩
    cases first : rest.head? with
    | none => simp
    | some c => simp [apart c first]

theorem dropFormBackwards?_eq_some_iff {s rest : List Char} :
    dropFormBackwards? s = some rest ↔
      (∃ form ∈ spellings, s = form.reverse ++ rest) ∧
        ∀ c ∈ rest.head?, Text.isWordChar c = false := by
  rw [← exists_dropLetters?_iff]
  constructor
  · intro dropped
    obtain ⟨form, hf, dropped⟩ := List.exists_of_findSome?_eq_some dropped
    obtain ⟨letters, apart⟩ := dropForm?_eq_some_iff.mp dropped
    exact ⟨⟨form, hf, letters⟩, apart⟩
  · rintro ⟨⟨form, hf, letters⟩, apart⟩
    -- The search may end at another form, but two forms cannot both be at the end.
    cases found : dropFormBackwards? s with
    | none =>
      have none := List.findSome?_eq_none_iff.mp found form hf
      rw [dropForm?_eq_some_iff.mpr ⟨letters, apart⟩] at none
      cases none
    | some other =>
      obtain ⟨form', hf', dropped⟩ := List.exists_of_findSome?_eq_some found
      obtain ⟨letters', -⟩ := dropForm?_eq_some_iff.mp dropped
      obtain ⟨w, hw, cut⟩ := exists_dropLetters?_iff.mp ⟨form, hf, letters⟩
      obtain ⟨w', hw', cut'⟩ := exists_dropLetters?_iff.mp ⟨form', hf', letters'⟩
      rw [rest_unique hw hw' (cut.symm.trans cut')]

/-! ### Forms at the end of a text -/

theorem dropFirst_cases (c : Char) (s : List Char) :
    s = c :: dropFirst c s ∨ dropFirst c s = s := by
  cases s with
  | nil => simp [dropFirst]
  | cons d s => by_cases same : d = c <;> simp [dropFirst, same]

theorem dropFirst_reverse (s : List Char) :
    dropFirst '\n' s.reverse = (withoutLineEnd s).reverse := by
  rcases s.eq_nil_or_concat with rfl | ⟨s, c, rfl⟩
  · rfl
  · by_cases lineEnd : c = '\n' <;> simp [withoutLineEnd, dropFirst, lineEnd]

theorem exists_isForm_iff {s head : List Char} :
    (∃ form, IsForm form ∧ s = head ++ form) ↔
      ∃ form ∈ spellings, dropFirst '.' s.reverse = form.reverse ++ head.reverse := by
  constructor
  · rintro ⟨written, ⟨form, hf, same⟩, rfl⟩
    refine ⟨form, hf, ?_⟩
    rcases same with same | same
    · rw [same]
      simp only [spellings, List.mem_cons, List.not_mem_nil, or_false] at hf
      rcases hf with rfl | rfl | rfl | rfl | rfl <;> simp [dropFirst]
    · simp [same, dropFirst]
  · rintro ⟨form, hf, same⟩
    rcases dropFirst_cases '.' s.reverse with period | none
    · rw [same] at period
      exact ⟨form ++ ['.'], ⟨form, hf, .inr rfl⟩, by simpa using congrArg List.reverse period⟩
    · rw [same] at none
      exact ⟨form, ⟨form, hf, .inl rfl⟩, by simpa using (congrArg List.reverse none).symm⟩

theorem endsInForm_iff {s head : List Char} : EndsInForm s head ↔
    dropFormBackwards? (dropFirst '.' s.reverse) = some head.reverse := by
  rw [dropFormBackwards?_eq_some_iff, ← exists_isForm_iff, List.head?_reverse]
  exact ⟨fun ends => ⟨ends.cut, ends.apart⟩, fun ⟨cut, apart⟩ => ⟨cut, apart⟩⟩

theorem EndsInForm.unique {s head head' : List Char} (ends : EndsInForm s head)
    (ends' : EndsInForm s head') : head = head' := by
  rw [endsInForm_iff] at ends ends'
  exact List.reverse_injective (Option.some_inj.mp (ends.symm.trans ends'))

theorem withoutForm_of_endsInForm {s head : List Char} (ends : EndsInForm (withoutLineEnd s) head) :
    withoutForm s = Text.trimRight head := by
  rw [endsInForm_iff, ← dropFirst_reverse] at ends
  rw [withoutForm, ends, Text.trimRight]

theorem withoutForm_of_none {s : List Char} (none : ∀ head, ¬ EndsInForm (withoutLineEnd s) head) :
    withoutForm s = s := by
  rw [withoutForm]
  split
  · rename_i rest found
    refine absurd (endsInForm_iff.mpr ?_) (none rest.reverse)
    rw [← dropFirst_reverse, found, List.reverse_reverse]
  · rfl

theorem exists_leaves (s : List Char) :
    ∃ rest, (∀ r, Leaves s r ↔ r = rest) ∧ Text.spaced (withoutForm s) = Text.spaced rest := by
  by_cases ends : ∃ head, EndsInForm (withoutLineEnd s) head
  · obtain ⟨head, ends⟩ := ends
    refine ⟨head, fun r => ⟨?_, ?_⟩, ?_⟩
    · rintro (ends' | ⟨none, -⟩)
      · exact ends'.unique ends
      · exact absurd ends (none head)
    · rintro rfl
      exact .inl ends
    · rw [withoutForm_of_endsInForm ends, Text.spaced_trimRight]
  · rw [not_exists] at ends
    refine ⟨s, fun r => ⟨?_, ?_⟩, ?_⟩
    · rintro (ends' | ⟨-, whole⟩)
      · exact absurd ends' (ends r)
      · exact whole
    · rintro rfl
      exact .inr ⟨ends, rfl⟩
    · rw [withoutForm_of_none ends]

/-! ### Keys -/

theorem ofText_eq_spaced (s : List Char) :
    ofText s = Text.spaced (withoutForm (Text.lower s)) := Text.trim_collapse _

variable {α : Type} [Scalar α]

theorem toList_ofValue_text (s : String) :
    (ofValue (.text s : Value α)).toList = ofText s.toList := by
  rw [ofValue]
  split
  · rename_i nothing
    obtain rfl : s = "" := by simpa [Value.isEmpty] using nothing
    rfl
  · rw [String.toList_ofList, Value.plain]

/-- The key of a text: the words of what its one company form leaves of it in lower case, with
single spaces between them and nothing around them. -/
theorem ofValue_text_spaced (s : String) :
    ∃ rest, (∀ r, Leaves (Text.lower s.toList) r ↔ r = rest) ∧
      (ofValue (.text s : Value α)).toList = Text.spaced rest ∧
      Text.IsTidy (ofValue (.text s : Value α)).toList := by
  obtain ⟨rest, settled, same⟩ := exists_leaves (Text.lower s.toList)
  have key : (ofValue (.text s : Value α)).toList = Text.spaced rest := by
    rw [toList_ofValue_text, ofText_eq_spaced, same]
  refine ⟨rest, settled, key, ?_⟩
  rw [key]
  exact Text.isTidy_spaced rest

example : ofText "Globex  Corp.\tLLC.\n".toList = "globex corp.".toList := by decide +kernel

end RecurringPayments.MerchantKey
