import RecurringPayments.Text.Blank
import Mathlib

/-!
The words of a text are its pieces between blanks. A text that is collapsed and trimmed consists of
its words and of single spaces between them, `trim_collapse`, so blanks around a text, and how many
there are in a run, leave no trace.
-/
namespace RecurringPayments.Text

def words (s : List Char) : List (List Char) := (s.splitOnP isBlank).filter (!·.isEmpty)

/-- No blank at either end, and no two of them side by side. -/
structure IsTidy (s : List Char) : Prop where
  front : ∀ c ∈ s.head?, isBlank c = false
  back : ∀ c ∈ s.getLast?, isBlank c = false
  inside : s.IsChain fun a b => isBlank a = true → isBlank b = false

/-! ### Words -/

theorem words_append_cons_blank {c : Char} (blank : isBlank c = true) (s v : List Char) :
    words (s ++ c :: v) = words s ++ words v := by
  rw [words, List.splitOnP_append_cons s v blank, List.filter_append, words, words]

theorem words_cons_blank {c : Char} (blank : isBlank c = true) (s : List Char) :
    words (c :: s) = words s :=
  words_append_cons_blank blank [] s

theorem words_singleton {c : Char} (ink : isBlank c = false) : words [c] = [[c]] := by
  simp [words, List.splitOnP_cons_eq_if_modifyHead, ink]

theorem words_cons_cons_ink {c d : Char} (ink : isBlank c = false) (ink' : isBlank d = false)
    (s : List Char) :
    ∃ w rest, words (d :: s) = w :: rest ∧ words (c :: d :: s) = (c :: w) :: rest := by
  obtain ⟨piece, pieces, split⟩ := List.exists_cons_of_ne_nil (List.splitOnP_ne_nil isBlank s)
  refine ⟨d :: piece, pieces.filter (!·.isEmpty), ?_, ?_⟩
  · simp [words, List.splitOnP_cons_eq_if_modifyHead, ink', split]
  · simp [words, List.splitOnP_cons_eq_if_modifyHead, ink, ink', split]

theorem words_eq_nil_of_blank {s : List Char} (blank : ∀ c ∈ s, isBlank c = true) :
    words s = [] := by
  induction s with
  | nil => rfl
  | cons c s ih =>
    rw [List.forall_mem_cons] at blank
    rw [words_cons_blank blank.1, ih blank.2]

theorem words_blank_append {u : List Char} (blank : ∀ c ∈ u, isBlank c = true) (s : List Char) :
    words (u ++ s) = words s := by
  induction u with
  | nil => rfl
  | cons c u ih =>
    rw [List.forall_mem_cons] at blank
    rw [List.cons_append, words_cons_blank blank.1, ih blank.2]

theorem words_append_blank (s : List Char) {v : List Char} (blank : ∀ c ∈ v, isBlank c = true) :
    words (s ++ v) = words s := by
  cases v with
  | nil => rw [List.append_nil]
  | cons c v =>
    rw [List.forall_mem_cons] at blank
    rw [words_append_cons_blank blank.1, words_eq_nil_of_blank blank.2, List.append_nil]

/-! ### Trimmed and collapsed texts -/

theorem trimRight_cons (c : Char) (s : List Char) : trimRight (c :: s) =
    if trimRight s = [] ∧ isBlank c = true then [] else c :: trimRight s := by
  rw [trimRight, List.reverse_cons, List.dropWhile_append, trimRight]
  by_cases nothing : List.dropWhile isBlank s.reverse = []
  · by_cases blank : isBlank c = true <;> simp [nothing, blank]
  · simp [nothing]

theorem joinWith_cons_word (separator : List Char) (c : Char) (w : List Char)
    (rest : List (List Char)) :
    joinWith separator ((c :: w) :: rest) = c :: joinWith separator (w :: rest) := by
  cases rest with
  | nil => rfl
  | cons next rest => simp [joinWith]

def spaced (s : List Char) : List Char := joinWith [' '] (words s)

theorem spaced_eq_nil_iff (s : List Char) : spaced s = [] ↔ words s = [] := by
  have pieces : ∀ w ∈ words s, w ≠ [] := by simp [words]
  rw [spaced]
  cases listed : words s with
  | nil => simp [joinWith]
  | cons w rest =>
    rw [listed, List.forall_mem_cons] at pieces
    obtain ⟨c, w, rfl⟩ := List.exists_cons_of_ne_nil pieces.1
    simp [joinWith_cons_word]

theorem spaced_cons_cons_blank {c d : Char} (ink : isBlank c = false) (blank : isBlank d = true)
    (s : List Char) :
    spaced (c :: d :: s) = c :: if spaced s = [] then [] else ' ' :: spaced s := by
  have apart := words_append_cons_blank blank [c] s
  rw [words_singleton ink, List.singleton_append, List.singleton_append] at apart
  simp only [spaced_eq_nil_iff]
  rw [spaced, apart, spaced]
  cases words s with
  | nil => rfl
  | cons w rest => simp [joinWith]

theorem spaced_cons_cons_ink {c d : Char} (ink : isBlank c = false) (ink' : isBlank d = false)
    (s : List Char) : spaced (c :: d :: s) = c :: spaced (d :: s) := by
  obtain ⟨w, rest, tail, whole⟩ := words_cons_cons_ink ink ink' s
  rw [spaced, whole, joinWith_cons_word, ← tail, spaced]

theorem trimRight_cons_ink {c : Char} (ink : isBlank c = false) (s : List Char) :
    trimRight (c :: s) = c :: trimRight s := by
  simp [trimRight_cons, ink]

theorem trimRight_collapseFrom (s : List Char) :
    trimRight (collapseFrom true s) = spaced s ∧
      ∀ c, isBlank c = false → c :: trimRight (collapseFrom false s) = spaced (c :: s) := by
  induction s with
  | nil => exact ⟨rfl, fun c ink => by rw [spaced, words_singleton ink]; rfl⟩
  | cons d s ih =>
    by_cases blank : isBlank d = true
    · constructor
      · rw [collapseFrom, if_pos blank, if_pos rfl, ih.1, spaced, spaced, words_cons_blank blank]
      · intro c ink
        have space : isBlank ' ' = true := rfl
        rw [collapseFrom, if_pos blank, if_neg Bool.false_ne_true, trimRight_cons, ih.1,
          spaced_cons_cons_blank ink blank]
        simp only [space, and_true]
    · have ink' : isBlank d = false := by simpa using blank
      constructor
      · rw [collapseFrom, if_neg blank, trimRight_cons_ink ink', ih.2 d ink']
      · intro c ink
        rw [collapseFrom, if_neg blank, trimRight_cons_ink ink', ih.2 d ink',
          spaced_cons_cons_ink ink ink']

theorem head_collapseFrom_true (s : List Char) :
    ∀ c ∈ (collapseFrom true s).head?, isBlank c = false := by
  induction s with
  | nil => simp [collapseFrom]
  | cons d s ih =>
    by_cases blank : isBlank d = true
    · simpa [collapseFrom, blank] using ih
    · simp [collapseFrom, blank]

theorem trimLeft_eq_self {s : List Char} (ink : ∀ c ∈ s.head?, isBlank c = false) :
    trimLeft s = s := by
  cases s with
  | nil => rfl
  | cons c s =>
    have first : isBlank c = false := ink c rfl
    simp [trimLeft, first]

theorem trimRight_eq_self {s : List Char} (ink : ∀ c ∈ s.getLast?, isBlank c = false) :
    trimRight s = s := by
  rw [← List.head?_reverse] at ink
  have left := trimLeft_eq_self ink
  rw [trimLeft] at left
  rw [trimRight, left, List.reverse_reverse]

theorem trim_collapse (s : List Char) : trim (collapse s) = spaced s := by
  cases s with
  | nil => rfl
  | cons c s =>
    by_cases blank : isBlank c = true
    · have inRun := trimLeft_eq_self (head_collapseFrom_true s)
      have space : isBlank ' ' = true := rfl
      rw [trimLeft] at inRun
      rw [collapse, collapseFrom, if_pos blank, if_neg Bool.false_ne_true, trim, trimLeft,
        List.dropWhile_cons_of_pos space, inRun, (trimRight_collapseFrom s).1, spaced, spaced,
        words_cons_blank blank]
    · have ink : isBlank c = false := by simpa using blank
      rw [collapse, collapseFrom, if_neg blank, trim, trimLeft, List.dropWhile_cons_of_neg blank,
        trimRight_cons_ink ink, (trimRight_collapseFrom s).2 c ink]

/-! ### What is left of a text -/

theorem isChain_collapseFrom (s : List Char) (inRun : Bool) :
    (collapseFrom inRun s).IsChain fun a b => isBlank a = true → isBlank b = false := by
  induction s generalizing inRun with
  | nil => exact .nil
  | cons c s ih =>
    by_cases blank : isBlank c = true
    · cases inRun with
      | true => simpa [collapseFrom, blank] using ih true
      | false =>
        rw [collapseFrom, if_pos blank, if_neg Bool.false_ne_true, List.isChain_cons]
        exact ⟨fun d hd _ => head_collapseFrom_true s d hd, ih true⟩
    · rw [collapseFrom, if_neg blank, List.isChain_cons]
      exact ⟨fun d _ blank' => absurd blank' blank, ih false⟩

theorem head_dropWhile_blank (s : List Char) :
    ∀ c ∈ (s.dropWhile isBlank).head?, isBlank c = false := by
  intro c hc
  have first := List.head?_dropWhile_not isBlank s
  rwa [hc] at first

theorem getLast_trimRight (s : List Char) : ∀ c ∈ (trimRight s).getLast?, isBlank c = false := by
  intro c hc
  rw [trimRight, List.getLast?_reverse] at hc
  exact head_dropWhile_blank _ c hc

theorem trim_prefix (s : List Char) : trim s <+: trimLeft s := List.rdropWhile_prefix isBlank _

theorem head_trim (s : List Char) : ∀ c ∈ (trim s).head?, isBlank c = false := by
  intro c hc
  obtain ⟨blanks, cut⟩ := trim_prefix s
  have first : (trim s ++ blanks).head? = some c := by rw [List.head?_append, hc, Option.some_or]
  rw [cut] at first
  exact head_dropWhile_blank s c first

theorem trim_trim (s : List Char) : trim (trim s) = trim s := by
  have left : trimLeft (trim s) = trim s := trimLeft_eq_self (head_trim s)
  rw [trim, left]
  exact trimRight_eq_self (getLast_trimRight _)

theorem isTidy_spaced (s : List Char) : IsTidy (spaced s) := by
  rw [← trim_collapse]
  obtain ⟨blanks, cut⟩ := trim_prefix (collapse s)
  refine ⟨head_trim _, fun c hc => getLast_trimRight _ c hc, ?_⟩
  · have left : (trimLeft (collapse s)).IsChain fun a b =>
      isBlank a = true → isBlank b = false := by
      obtain ⟨start, whole⟩ := List.dropWhile_suffix isBlank (l := collapse s)
      have chain := isChain_collapseFrom s false
      rw [collapse] at whole
      rw [← whole] at chain
      exact chain.right_of_append
    rw [← cut] at left
    exact left.left_of_append

theorem filter_spaced (s : List Char) :
    (spaced s).filter (!isBlank ·) = s.filter (!isBlank ·) := by
  have space : isBlank ' ' = true := rfl
  induction s with
  | nil => rfl
  | cons c s ih =>
    by_cases blank : isBlank c = true
    · rw [spaced, words_cons_blank blank, ← spaced, ih]
      simp [blank]
    · have ink : isBlank c = false := by simpa using blank
      cases s with
      | nil => rw [spaced, words_singleton ink, joinWith]
      | cons d s =>
        by_cases blank' : isBlank d = true
        · rw [spaced, words_cons_blank blank', ← spaced] at ih
          rw [spaced_cons_cons_blank ink blank', List.filter_cons, List.filter_cons, ← ih]
          by_cases nothing : spaced s = [] <;> simp [nothing, space]
        · have ink' : isBlank d = false := by simpa using blank'
          rw [spaced_cons_cons_ink ink ink', List.filter_cons, ih, List.filter_cons (x := c)]

/-! ### The blanks at the end -/

def rightMargin (s : List Char) : List Char := s.rtakeWhile isBlank

theorem trimRight_append_rightMargin (s : List Char) : trimRight s ++ rightMargin s = s :=
  List.rdropWhile_append_rtakeWhile

theorem isBlank_of_mem_rightMargin {s : List Char} : ∀ c ∈ rightMargin s, isBlank c = true :=
  fun _ => List.mem_rtakeWhile_imp

theorem trimRight_append_blank (s : List Char) {v : List Char}
    (blank : ∀ c ∈ v, isBlank c = true) : trimRight (s ++ v) = trimRight s := by
  have reversed : ∀ c ∈ v.reverse, isBlank c = true := fun c hc => blank c (List.mem_reverse.mp hc)
  rw [trimRight, List.reverse_append, List.dropWhile_append_of_pos reversed, trimRight]

theorem trimRight_append (u : List Char) {s : List Char} (some : trimRight s ≠ []) :
    trimRight (u ++ s) = u ++ trimRight s := by
  rw [trimRight, ne_eq, List.reverse_eq_nil_iff] at some
  rw [trimRight, List.reverse_append, List.dropWhile_append, if_neg (by simpa using some),
    List.reverse_append, List.reverse_reverse, trimRight]

theorem trimRight_append_of_eq_nil (u : List Char) {s : List Char} (nothing : trimRight s = []) :
    trimRight (u ++ s) = trimRight u := by
  have margin := trimRight_append_rightMargin s
  rw [nothing, List.nil_append] at margin
  rw [← margin, trimRight_append_blank u isBlank_of_mem_rightMargin]

theorem rightMargin_append (u : List Char) {s : List Char} (some : trimRight s ≠ []) :
    rightMargin (u ++ s) = rightMargin s := by
  have whole := trimRight_append_rightMargin (u ++ s)
  rw [trimRight_append u some, List.append_assoc, List.append_cancel_left_eq] at whole
  exact List.append_cancel_left (whole.trans (trimRight_append_rightMargin s).symm)

theorem spaced_trimRight (s : List Char) : spaced (trimRight s) = spaced s := by
  rw [spaced, ← words_append_blank (trimRight s) isBlank_of_mem_rightMargin,
    trimRight_append_rightMargin, spaced]

end RecurringPayments.Text
