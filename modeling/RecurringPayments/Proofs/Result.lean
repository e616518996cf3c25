import Mathlib

/-!
Steps that may fail: when a sequence of them succeeds, and with what.
-/
namespace RecurringPayments.Result

variable {ε α β γ δ : Type}

@[simp] theorem pure_eq (a : α) : (pure a : Except ε α) = .ok a := rfl

@[simp] theorem throw_eq (e : ε) : (throw e : Except ε α) = .error e := rfl

@[simp] theorem ok_bind (a : α) (f : α → Except ε β) : (Except.ok a >>= f) = f a := rfl

@[simp] theorem error_bind (e : ε) (f : α → Except ε β) : (Except.error e >>= f) = .error e := rfl

@[simp] theorem mapError_ok (a : α) (f : ε → δ) :
    (Except.ok a : Except ε α).mapError f = .ok a := rfl

@[simp] theorem mapError_error (e : ε) (f : ε → δ) :
    (Except.error e : Except ε α).mapError f = .error (f e) := rfl

theorem mapError_eq_ok_iff {x : Except ε α} {f : ε → δ} {a : α} :
    x.mapError f = .ok a ↔ x = .ok a := by
  cases x with
  | error e => exact ⟨nofun, nofun⟩
  | ok b => simp

theorem bind_eq_ok_iff {x : Except ε α} {f : α → Except ε β} {b : β} :
    x >>= f = .ok b ↔ ∃ a, x = .ok a ∧ f a = .ok b := by
  cases x with
  | error e => simp
  | ok a => simp

theorem exists_of_map_eq {x y : Except ε α} {f : α → β} (alike : x.map f = y.map f) {b : α}
    (done : y = .ok b) : ∃ a, x = .ok a ∧ f a = f b := by
  subst done
  cases x with
  | error e => cases alike
  | ok a => exact ⟨a, rfl, Except.ok.inj alike⟩

theorem map_bind_eq (x : Except ε α) (f : α → Except ε β) (g : β → γ) :
    (x >>= f).map g = x >>= fun a => (f a).map g := by
  cases x <;> rfl

theorem mapM_eq_map {f : α → Except ε β} {g : α → β} {xs : List α}
    (h : ∀ x ∈ xs, f x = .ok (g x)) : xs.mapM f = .ok (xs.map g) := by
  induction xs with
  | nil => rfl
  | cons x xs ih =>
    rw [List.forall_mem_cons] at h
    rw [List.mapM_cons, h.1, ih h.2]
    rfl

theorem mapM_eq_ok_iff {f : α → Except ε β} {xs : List α} {ys : List β} :
    xs.mapM f = .ok ys ↔ List.Forall₂ (fun x y => f x = .ok y) xs ys := by
  induction xs generalizing ys with
  | nil => simp [eq_comm]
  | cons x xs ih =>
    simp only [List.mapM_cons, bind_eq_ok_iff, pure_eq, Except.ok.injEq, List.forall₂_cons_left_iff,
      ih]
    constructor
    · rintro ⟨y, hy, ys, hys, rfl⟩
      exact ⟨y, ys, hy, hys, rfl⟩
    · rintro ⟨y, ys, hy, hys, rfl⟩
      exact ⟨y, hy, ys, hys, rfl⟩

theorem exists_of_mem_mapM {f : α → Except ε β} {xs : List α} {ys : List β}
    (h : xs.mapM f = .ok ys) {y : β} (hy : y ∈ ys) : ∃ x ∈ xs, f x = .ok y := by
  have each := mapM_eq_ok_iff.mp h
  clear h
  induction each with
  | nil => cases hy
  | cons first _ ih =>
    rcases List.mem_cons.mp hy with rfl | later
    · exact ⟨_, .head _, first⟩
    · obtain ⟨x, hx, found⟩ := ih later
      exact ⟨x, .tail _ hx, found⟩

theorem exists_mapM {f : α → Except ε β} {xs : List α} (h : ∀ x ∈ xs, ∃ y, f x = .ok y) :
    ∃ ys, xs.mapM f = .ok ys := by
  induction xs with
  | nil => exact ⟨[], rfl⟩
  | cons x xs ih =>
    rw [List.forall_mem_cons] at h
    obtain ⟨y, hy⟩ := h.1
    obtain ⟨ys, hys⟩ := ih h.2
    exact ⟨y :: ys, by rw [List.mapM_cons, hy, ok_bind, hys]; rfl⟩

theorem foldlM_eq_foldl {f : β → α → Except ε β} {g : β → α → β} {xs : List α}
    (h : ∀ x ∈ xs, ∀ b, f b x = .ok (g b x)) (b : β) : xs.foldlM f b = .ok (xs.foldl g b) := by
  induction xs generalizing b with
  | nil => rfl
  | cons x xs ih =>
    rw [List.forall_mem_cons] at h
    rw [List.foldlM_cons, h.1 b, List.foldl_cons]
    exact ih h.2 _

theorem map_mapM (f : α → Except ε β) (g : β → γ) (xs : List α) :
    (xs.mapM f).map (List.map g) = xs.mapM fun x => (f x).map g := by
  induction xs with
  | nil => rfl
  | cons x xs ih =>
    rw [List.mapM_cons, List.mapM_cons, ← ih]
    cases f x with
    | error e => rfl
    | ok y => cases xs.mapM f <;> rfl

theorem filterAuxM_map (f : β → Except ε Bool) (g : α → β) (xs kept : List α) :
    (xs.map g).filterAuxM f (kept.map g) =
      (xs.filterAuxM (fun x => f (g x)) kept).map (List.map g) := by
  induction xs generalizing kept with
  | nil => rfl
  | cons x xs ih =>
    rw [List.map_cons, List.filterAuxM, List.filterAuxM, map_bind_eq]
    refine bind_congr fun keep => ?_
    rw [← ih]
    cases keep <;> rfl

theorem filterM_map (f : β → Except ε Bool) (g : α → β) (xs : List α) :
    (xs.map g).filterM f = (xs.filterM fun x => f (g x)).map (List.map g) := by
  have kept := filterAuxM_map f g xs []
  rw [List.map_nil] at kept
  rw [List.filterM, List.filterM, kept]
  cases xs.filterAuxM (fun x => f (g x)) [] with
  | error e => rfl
  | ok reversed => exact congrArg Except.ok List.map_reverse.symm

theorem filterM_eq_filter {f : α → Except ε Bool} {g : α → Bool} {xs : List α}
    (h : ∀ x ∈ xs, f x = .ok (g x)) : xs.filterM f = .ok (xs.filter g) := by
  have aux (kept : List α) : xs.filterAuxM f kept = .ok ((xs.filter g).reverse ++ kept) := by
    induction xs generalizing kept with
    | nil => rfl
    | cons x xs ih =>
      rw [List.forall_mem_cons] at h
      rw [List.filterAuxM, h.1, ok_bind, List.filter_cons]
      cases g x with
      | true => exact (ih h.2 _).trans (by simp)
      | false => exact ih h.2 _
  rw [List.filterM, aux [], ok_bind, List.append_nil, List.reverse_reverse]
  rfl

theorem filterMapM_eq_filterMap {f : α → Except ε (Option β)} {g : α → Option β} {xs : List α}
    (h : ∀ x ∈ xs, f x = .ok (g x)) : xs.filterMapM f = .ok (xs.filterMap g) := by
  induction xs with
  | nil => rfl
  | cons x xs ih =>
    rw [List.forall_mem_cons] at h
    rw [List.filterMapM_cons, h.1, ok_bind, ih h.2, List.filterMap_cons]
    cases g x <;> rfl

theorem filterMapM_map (f : β → Except ε (Option γ)) (g : α → β) (xs : List α) :
    (xs.map g).filterMapM f = xs.filterMapM fun x => f (g x) := by
  induction xs with
  | nil => rfl
  | cons x xs ih =>
    rw [List.map_cons, List.filterMapM_cons, List.filterMapM_cons, ih]

theorem map_filterMapM (f : α → Except ε (Option β)) (g : β → γ) (xs : List α) :
    (xs.filterMapM f).map (List.map g) = xs.filterMapM fun x => (f x).map (Option.map g) := by
  induction xs with
  | nil => rfl
  | cons x xs ih =>
    rw [List.filterMapM_cons, List.filterMapM_cons, ← ih]
    cases f x with
    | error e => rfl
    | ok found => cases found <;> cases xs.filterMapM f <;> rfl

theorem exists_filterMapM_iff {f : α → Except ε (Option β)} {xs : List α} :
    (∃ ys, xs.filterMapM f = .ok ys) ↔ ∀ x ∈ xs, ∃ found, f x = .ok found := by
  induction xs with
  | nil => simp
  | cons x xs ih =>
    rw [List.forall_mem_cons, ← ih, List.filterMapM_cons]
    cases f x with
    | error e => simp
    | ok found => cases found <;> cases xs.filterMapM f <;> simp

theorem mem_filterMapM {f : α → Except ε (Option β)} {xs : List α} {ys : List β}
    (h : xs.filterMapM f = .ok ys) (y : β) : y ∈ ys ↔ ∃ x ∈ xs, f x = .ok (some y) := by
  induction xs generalizing ys with
  | nil =>
    cases h
    simp
  | cons x xs ih =>
    rw [List.filterMapM_cons] at h
    obtain ⟨found, hx, h⟩ := bind_eq_ok_iff.mp h
    rw [List.exists_mem_cons_iff, hx]
    cases found with
    | none =>
      rw [ih h]
      simp
    | some z =>
      obtain ⟨rest, hrest, same⟩ := bind_eq_ok_iff.mp h
      cases same
      rw [List.mem_cons, ih hrest]
      simp [eq_comm]

/-- The results are those of some entries, in the order of these. -/
theorem sublist_of_filterMapM {f : α → Except ε (Option β)} {g : β → γ} {k : α → γ} {xs : List α}
    {ys : List β} (h : xs.filterMapM f = .ok ys)
    (origin : ∀ x y, f x = .ok (some y) → g y = k x) : (ys.map g).Sublist (xs.map k) := by
  induction xs generalizing ys with
  | nil =>
    cases h
    exact .slnil
  | cons x xs ih =>
    rw [List.filterMapM_cons] at h
    obtain ⟨found, hx, h⟩ := bind_eq_ok_iff.mp h
    cases found with
    | none => exact (ih h).cons _
    | some y =>
      obtain ⟨rest, hrest, same⟩ := bind_eq_ok_iff.mp h
      cases same
      rw [List.map_cons, List.map_cons, origin x y hx]
      exact (ih hrest).cons_cons _

/-! ### Two runs -/

/-- Two runs end alike: with the same error, or with results that are related. -/
inductive Alike (R : α → β → Prop) : Except ε α → Except ε β → Prop
  | ok {a : α} {b : β} (related : R a b) : Alike R (.ok a) (.ok b)
  | error (e : ε) : Alike R (.error e) (.error e)

namespace Alike

variable {R : α → β → Prop} {S : γ → δ → Prop} {x : Except ε α} {y : Except ε β}

theorem refl {R : α → α → Prop} (related : ∀ a, x = .ok a → R a a) : Alike R x x := by
  cases x with
  | error e => exact error e
  | ok a => exact ok (related a rfl)

theorem imp {S : α → β → Prop} (alike : Alike R x y) (weaker : ∀ a b, R a b → S a b) :
    Alike S x y := by
  cases alike with
  | ok related => exact ok (weaker _ _ related)
  | error e => exact error e

theorem bind {f : α → Except ε γ} {g : β → Except ε δ} (first : Alike R x y)
    (next : ∀ a b, R a b → Alike S (f a) (g b)) : Alike S (x >>= f) (y >>= g) := by
  cases first with
  | ok related => exact next _ _ related
  | error e => exact error e

theorem filterMapM {f : γ → Except ε (Option α)} {g : γ → Except ε (Option β)} {xs : List γ}
    (each : ∀ x ∈ xs, Alike (Option.Rel R) (f x) (g x)) :
    Alike (List.Forall₂ R) (xs.filterMapM f) (xs.filterMapM g) := by
  induction xs with
  | nil => exact ok .nil
  | cons x xs ih =>
    rw [List.forall_mem_cons] at each
    rw [List.filterMapM_cons, List.filterMapM_cons]
    refine each.1.bind fun found found' related => ?_
    cases related with
    | none => exact ih each.2
    | some first => exact (ih each.2).bind fun rest rest' related => ok (.cons first related)

theorem exists_ok (alike : Alike R x y) {a : α} (done : x = .ok a) : ∃ b, y = .ok b ∧ R a b := by
  subst done
  obtain ⟨related⟩ := alike
  exact ⟨_, rfl, related⟩

end Alike
/-! ### Possible errors -/

/-- Errors that come up are of this kind. -/
def FailsOnlyBy (p : ε → Prop) (x : Except ε α) : Prop := ∀ e, x = .error e → p e

namespace FailsOnlyBy

variable {p : ε → Prop} {x : Except ε α}

theorem ok (a : α) : FailsOnlyBy p (.ok a) := by rintro e ⟨⟩

theorem error {e : ε} (h : p e) : FailsOnlyBy p (.error e : Except ε α) := by
  rintro e' ⟨⟩
  exact h

theorem bind {f : α → Except ε β} (first : FailsOnlyBy p x)
    (next : ∀ a, x = .ok a → FailsOnlyBy p (f a)) : FailsOnlyBy p (x >>= f) := by
  cases x with
  | error e => exact error (first e rfl)
  | ok a => exact next a rfl

theorem filterMapM {f : α → Except ε (Option β)} {xs : List α}
    (each : ∀ x ∈ xs, FailsOnlyBy p (f x)) : FailsOnlyBy p (xs.filterMapM f) := by
  induction xs with
  | nil => exact ok []
  | cons x xs ih =>
    rw [List.forall_mem_cons] at each
    rw [List.filterMapM_cons]
    refine each.1.bind fun found _ => ?_
    cases found with
    | none => exact ih each.2
    | some y => exact (ih each.2).bind fun rest _ => ok (y :: rest)

theorem foldlM {P : β → Prop} {f : β → α → Except ε β} {xs : List α}
    (each : ∀ x ∈ xs, ∀ b, P b → FailsOnlyBy p (f b x) ∧ ∀ b', f b x = .ok b' → P b') {b : β}
    (start : P b) : FailsOnlyBy p (xs.foldlM f b) := by
  induction xs generalizing b with
  | nil => exact ok b
  | cons x xs ih =>
    rw [List.forall_mem_cons] at each
    obtain ⟨fails, kept⟩ := each.1 b start
    rw [List.foldlM_cons]
    exact fails.bind fun b' made => ih each.2 (kept b' made)

end FailsOnlyBy

end RecurringPayments.Result
