import RecurringPayments.Session.Settings
import RecurringPayments.Proofs.Result

/-!
The configuration in force along a run of requests. It is the first document since the latest reset
that holds something, among those that the requests could read; while there is one, no other is
read.
-/
namespace RecurringPayments

open Result

variable {α : Type}

/-! ### Entries of a mapping -/

namespace Value

variable {key : String} {entries : List (Value α × Value α)}

theorem entry?_cons_self (v : Value α) : entry? key ((.text key, v) :: entries) = some v := by
  rw [Value.entry?, if_pos (beq_self_eq_true key)]

theorem entry?_cons_of_ne {e : Value α × Value α} (other : e.1 ≠ .text key) :
    entry? key (e :: entries) = entry? key entries := by
  obtain ⟨k, v⟩ := e
  cases k with
  | text k =>
    have different : k ≠ key := fun same => other (congrArg Value.text same)
    rw [Value.entry?, if_neg (by simpa using different)]
  | _ => rfl

theorem entry?_eq_some_iff {v : Value α} : entry? key entries = some v ↔
    ∃ before after, entries = before ++ (.text key, v) :: after ∧
      ∀ e ∈ before, e.1 ≠ .text key := by
  constructor
  · intro found
    induction entries with
    | nil => cases found
    | cons e rest ih =>
      by_cases same : e.1 = .text key
      · obtain ⟨k, w⟩ := e
        subst same
        rw [entry?_cons_self, Option.some_inj] at found
        exact ⟨[], rest, by rw [found]; rfl, by simp⟩
      · rw [entry?_cons_of_ne same] at found
        obtain ⟨before, after, rfl, others⟩ := ih found
        exact ⟨e :: before, after, rfl, List.forall_mem_cons.mpr ⟨same, others⟩⟩
  · rintro ⟨before, after, rfl, others⟩
    induction before with
    | nil => exact entry?_cons_self v
    | cons e before ih =>
      rw [List.forall_mem_cons] at others
      rw [List.cons_append, entry?_cons_of_ne others.1, ih others.2]

theorem entry?_eq_none_iff : entry? key entries = none ↔ ∀ e ∈ entries, e.1 ≠ .text key := by
  induction entries with
  | nil => simp [Value.entry?]
  | cons e rest ih =>
    rw [List.forall_mem_cons]
    by_cases same : e.1 = .text key
    · obtain ⟨k, v⟩ := e
      subst same
      simp [entry?_cons_self]
    · rw [entry?_cons_of_ne same, ih]
      exact ⟨fun others => ⟨same, others⟩, And.right⟩

end Value

variable [Scalar α]

/-! ### What requests offer -/

def ConfigSource.document? : ConfigSource → Option (Value α)
  | standard => some Settings.defaultDocument
  | missing _ => none
  | text content => (Yaml.read content).toOption

namespace SettingsRequest

def isReset : SettingsRequest α → Bool
  | reset => true
  | load _ | block _ | detector => false

/-- What a request reads while nothing is in force. Whoever asks for a block needs a configuration,
and the default one is at hand. -/
def source? : SettingsRequest α → Option ConfigSource
  | load source => some source
  | block _ | detector => some .standard
  | reset => none

def offer? (r : SettingsRequest α) : Option (Value α) :=
  (r.source?.bind ConfigSource.document?).filter fun v => !v.isEmpty

def sinceReset (requests : List (SettingsRequest α)) : List (SettingsRequest α) :=
  (requests.reverse.takeWhile fun r => !r.isReset).reverse

omit [Scalar α] in
theorem sinceReset_concat (requests : List (SettingsRequest α)) (r : SettingsRequest α) :
    sinceReset (requests ++ [r]) = if r.isReset then [] else sinceReset requests ++ [r] := by
  rw [sinceReset, List.reverse_concat, List.takeWhile_cons]
  cases r.isReset with
  | true => rfl
  | false => exact List.reverse_cons

theorem isEmpty_of_offer? {r : SettingsRequest α} {v : Value α} (offered : r.offer? = some v) :
    v.isEmpty = false := by
  simpa using (Option.filter_eq_some_iff.mp offered).2

end SettingsRequest

namespace Settings

open SettingsRequest

/-- What is in force once there is a document, or while there is none. -/
def holding (document : Option (Value α)) : Settings α :=
  match document with
  | some v => ⟨v⟩
  | .none => none

/-! ### One request -/

theorem load_of_inForce {s : Settings α} (held : s.document.isEmpty = false)
    (source : ConfigSource) :
    s.load source = .ok s := by
  unfold load
  rw [held]
  rfl

theorem load_eq_error_iff {s : Settings α} {source : ConfigSource} {fault : Fault} :
    s.load source = .error fault ↔ s.document.isEmpty = true ∧
      ((∃ path, source = .missing path ∧ fault = .missingFile .configuration path) ∨
        ∃ content cause, source = .text content ∧ Yaml.read (α := α) content = .error cause ∧
          fault = .malformedDocument cause) := by
  cases held : s.document.isEmpty with
  | false => simp [load_of_inForce held]
  | true =>
    unfold load
    rw [held]
    cases source with
    | standard => simp
    | missing path => simp [eq_comm]
    | text content =>
      simp only [Bool.not_true, Bool.false_eq_true, if_false]
      cases read : Yaml.read (α := α) content with
      | ok v => simp [read]
      | error cause => simp [read, eq_comm]

theorem inForce_of_inForce {s : Settings α} (held : s.document.isEmpty = false) :
    s.inForce = s := by
  rw [inForce, held]
  rfl

theorem after_of_inForce {s : Settings α} (held : s.document.isEmpty = false)
    {r : SettingsRequest α} (kept : r.isReset = false) : s.after r = s := by
  cases r with
  | load source => rw [after, load_of_inForce held]
  | reset => cases kept
  | block name => exact inForce_of_inForce held
  | detector => exact inForce_of_inForce held

theorem after_none {r : SettingsRequest α} (kept : r.isReset = false) :
    (none : Settings α).after r = holding r.offer? := by
  cases r with
  | reset => cases kept
  | block name => rfl
  | detector => rfl
  | load source =>
    cases source with
    | standard => rfl
    | missing path => rfl
    | text content =>
      have nothing : (none : Settings α).document.isEmpty = true := rfl
      rw [after, offer?, source?, Option.bind_some, ConfigSource.document?]
      unfold load
      rw [nothing]
      cases read : Yaml.read (α := α) content with
      | error cause => simp only [read]; rfl
      | ok v =>
        simp only [read]
        change ofDocument v = holding ((some v).filter _)
        rw [ofDocument, Option.filter_some]
        cases v.isEmpty <;> rfl

/-! ### A run -/

theorem afterAll_none (requests : List (SettingsRequest α)) :
    (none : Settings α).afterAll requests = holding ((sinceReset requests).findSome? offer?) := by
  induction requests using List.reverseRecOn with
  | nil => rfl
  | append_singleton requests r ih =>
    rw [afterAll] at ih ⊢
    rw [List.foldl_append, ih, sinceReset_concat]
    change (holding _).after r = _
    cases kept : r.isReset with
    | true =>
      cases r with
      | reset => rfl
      | _ => cases kept
    | false =>
      rw [if_neg Bool.false_ne_true, List.findSome?_append]
      cases first : (sinceReset requests).findSome? offer? with
      | none =>
        rw [Option.none_or, List.findSome?_singleton]
        exact after_none kept
      | some v =>
        obtain ⟨earlier, -, offered⟩ := List.exists_of_findSome?_eq_some first
        exact after_of_inForce (s := ⟨v⟩) (isEmpty_of_offer? offered) kept

/-- What the configuration owes to the requests made of it so far. -/
structure IsInForceAfter (s : Settings α) (requests : List (SettingsRequest α)) : Prop where
  first : s = holding ((sinceReset requests).findSome? offer?)
  kept : s.document.isEmpty = false → ∀ source,
    s.answer (.load source) = .ok (.value s.document) ∧ s.after (.load source) = s
  failed : ∀ source fault, s.answer (.load source) = .error fault ↔ s.document.isEmpty = true ∧
    ((∃ path, source = .missing path ∧ fault = .missingFile .configuration path) ∨
      ∃ content cause, source = .text content ∧ Yaml.read (α := α) content = .error cause ∧
        fault = .malformedDocument cause)
  unchanged : ∀ source fault, s.answer (.load source) = .error fault →
    s.after (.load source) = s
  block : ∀ name entries, (s.after (.block name)).document = .mapping entries →
    ∀ v, s.answer (.block name) = .ok (.value v) ↔ ∃ before after,
      entries = before ++ (.text name, v) :: after ∧ ∀ e ∈ before, e.1 ≠ .text name
  noBlock : ∀ name entries, (s.after (.block name)).document = .mapping entries →
    ∀ fault, s.answer (.block name) = .error fault ↔
      (∀ e ∈ entries, e.1 ≠ .text name) ∧ fault = .missingBlock name (entries.map (·.1.quoted))

theorem answer_load_eq_error_iff {s : Settings α} {source : ConfigSource} {fault : Fault} :
    s.answer (.load source) = .error fault ↔ s.load source = .error fault := by
  rw [answer]
  cases s.load source <;> simp

theorem answer_block {s : Settings α} {name : String} {entries : List (Value α × Value α)}
    (mapping : (s.after (.block name)).document = .mapping entries) :
    s.answer (.block name) =
      match Value.entry? name entries with
      | some v => .ok (.value v)
      | .none => .error (.missingBlock name (entries.map (·.1.quoted))) := by
  have document : s.inForce.document = .mapping entries := mapping
  rw [answer, get, document, blockOf]
  cases Value.entry? name entries <;> rfl

/-- After any run of requests to a configuration that was empty, the first document read since the
latest reset is in force, loads and blocks answer by it, and loads that fail change nothing. -/
theorem afterAll_isInForceAfter (requests : List (SettingsRequest α)) :
    ((none : Settings α).afterAll requests).IsInForceAfter requests where
  first := afterAll_none requests
  kept held source := by
    rw [answer, load_of_inForce held]
    exact ⟨rfl, after_of_inForce held rfl⟩
  failed source fault := answer_load_eq_error_iff.trans load_eq_error_iff
  unchanged source fault failed := by
    rw [after, answer_load_eq_error_iff.mp failed]
  block name entries mapping v := by
    rw [← Value.entry?_eq_some_iff, answer_block mapping]
    cases Value.entry? name entries <;> simp
  noBlock name entries mapping fault := by
    rw [← Value.entry?_eq_none_iff, answer_block mapping]
    cases Value.entry? name entries <;> simp [eq_comm]

example : ((none : Settings α).afterAll
    [.load (.missing "a.yaml"), .block "rule_engine", .load (.missing "b.yaml")]).document =
      defaultDocument := rfl

end Settings

end RecurringPayments
