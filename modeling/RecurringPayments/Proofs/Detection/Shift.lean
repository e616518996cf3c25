import RecurringPayments.Proofs.Detection.Order

/-!
Payments that all lie so many days later, or earlier. Between neighbours nothing changes, so the
same merchants are reported as surely as before; their groups lie as many days later, and only the
day of the month has to be read off the calendar again.
-/
namespace RecurringPayments

open Result

variable {α : Type}

/-! ### Dates moved by days -/

/-- So many days later, at the same time of day. Beyond the calendar there is no date. -/
def When.moved (days : Int) : When → When
  | .never => .never
  | .day d => (d.addDays? days).elim .never .day
  | .moment m => (m.date.addDays? days).elim .never fun d => .moment { m with date := d }
  | .text s => .text s

def Transaction.moved (days : Int) (t : Transaction α) : Transaction α :=
  { t with date := t.date.moved days }

def Member.moved (days : Int) (m : Member α) : Member α := { m with date := m.date.moved days }

def Member.lastDate? (members : List (Member α)) : Option Date :=
  members.getLast?.bind (·.date.date?)

/-- The weekday goes on with the days; the day of the month is that of the moved last date. -/
def Pattern.moved (days : Int) (last? : Option Date) (p : Pattern α) : Pattern α :=
  { p with
    nextDate := p.nextDate.moved days
    dayOfWeek := p.dayOfWeek.map fun weekday => (weekday + days) % 7
    dayOfMonth := p.dayOfMonth.bind fun _ => last?.map fun last => (last.day : Int) }

def RecurringGroup.moved (days : Int) (g : RecurringGroup α) : RecurringGroup α :=
  let members := g.members.map (Member.moved days)
  { g with
    pattern := g.pattern.moved days (Member.lastDate? members)
    members }

/-- A group foretells a date. By its frequency it is bound to the weekday of its last payment, to
its day of the month, or to neither. -/
structure RecurringGroup.IsAnchored (g : RecurringGroup α) : Prop where
  foretells : ∃ next, g.pattern.nextDate = .day next
  anchors : ∃ last, Member.lastDate? g.members = some last ∧
    g.pattern.dayOfWeek =
      (if g.pattern.frequency ∈ ["weekly", "biweekly"] then some (last.weekday : Int) else none) ∧
    g.pattern.dayOfMonth =
      (if g.pattern.frequency ∈ ["monthly", "quarterly", "yearly"] then some (last.day : Int)
        else none)

namespace Date

variable {d e : Date} {n : Int}

theorem days_of_addDays? (after : d.addDays? n = some e) : (e.days : Int) = d.days + n :=
  ofDays?_eq_some_iff.mp after

theorem weekday_of_addDays? (after : d.addDays? n = some e) :
    (e.weekday : Int) = (d.weekday + n) % 7 := by
  have days := days_of_addDays? after
  rw [weekday, weekday]
  omega

end Date

namespace When

variable {w : When} {days : Int}

theorem date?_moved (w : When) (days : Int) :
    (w.moved days).date? = w.date?.bind (·.addDays? days) := by
  cases w with
  | never => rfl
  | text s => rfl
  | day d =>
    rw [moved, date?, Option.bind_some]
    cases d.addDays? days <;> rfl
  | moment m =>
    rw [moved, date?, Option.bind_some]
    cases m.date.addDays? days <;> rfl

theorem instant?_moved {e : Date} (inside : (w.moved days).date? = some e) :
    (w.moved days).instant? = w.instant?.map (· + days * microsPerDay) := by
  rw [date?_moved] at inside
  obtain ⟨d, own, after⟩ := Option.bind_eq_some_iff.mp inside
  have later := Date.days_of_addDays? after
  cases w with
  | never => cases own
  | text s => cases own
  | day d' =>
    cases own
    rw [moved, after, Option.elim_some, instant?, instant?, Option.map_some, Moment.instant,
      Moment.instant, later]
    congr 1
    ring
  | moment m =>
    cases own
    rw [moved, after, Option.elim_some, instant?, instant?]
    split_ifs
    · rw [Option.map_some, Moment.instant, Moment.instant, later]
      congr 1
      ring
    · rfl

end When

namespace Transaction

variable [Scalar α] {t : Transaction α} {payments : List (Transaction α)} {days : Int}

theorem key_moved (t : Transaction α) : (t.moved days).key = t.key := rfl

theorem instant_moved (readable : (t.moved days).IsReadable) :
    (t.moved days).instant = t.instant + days * microsPerDay := by
  obtain ⟨e, i, inside, later, -⟩ := readable.date.spec
  have moved : (t.moved days).date.instant? = t.date.instant?.map (· + days * microsPerDay) :=
    When.instant?_moved inside
  rw [later] at moved
  obtain ⟨j, own, after⟩ := Option.map_eq_some_iff.mp moved.symm
  rw [instant, instant, later, own, Option.getD_some, Option.getD_some, after]

theorem instants_moved (readable : ∀ t ∈ payments, (t.moved days).IsReadable) :
    (payments.map (moved days)).map (·.instant) =
      (payments.map (·.instant)).map (· + days * microsPerDay) := by
  rw [List.map_map, List.map_map]
  exact List.map_congr_left fun t ht => instant_moved (readable t ht)

omit [Scalar α] in
theorem members_moved (payments : List (Transaction α)) (days : Int) :
    (payments.map (moved days)).map Member.ofTransaction =
      (payments.map Member.ofTransaction).map (Member.moved days) := by
  rw [List.map_map, List.map_map]
  rfl

theorem exists_lastDate? (readable : ∀ t ∈ payments, t.IsReadable) {last : Int}
    (ends : (payments.map (·.instant)).getLast? = some last) :
    ∃ day, Member.lastDate? (payments.map Member.ofTransaction) = some day ∧
      (day.days : Int) = Int.fdiv last microsPerDay := by
  rw [List.getLast?_map] at ends
  obtain ⟨t, final, rfl⟩ := Option.map_eq_some_iff.mp ends
  have era := (readable t (List.mem_of_getLast? final)).date
  obtain ⟨day, i, date, instant, -, days, -⟩ := era.spec
  refine ⟨day, ?_, ?_⟩
  · rw [Member.lastDate?, List.getLast?_map, final, Option.map_some, Option.bind_some]
    exact date
  · rw [Transaction.instant, instant, Option.getD_some, days]

end Transaction

/-! ### Moved patterns -/

namespace Cadence

variable (shift : Int) (instants : List Int)

theorem dayGaps_map_add : dayGaps (instants.map (· + shift)) = dayGaps instants := by
  induction instants with
  | nil => rfl
  | cons a rest ih =>
    cases rest with
    | nil => rfl
    | cons b rest =>
      rw [List.map_cons] at ih
      rw [List.map_cons, List.map_cons, dayGaps, ih, dayGaps, add_sub_add_right_eq_sub]

variable [Scalar α]

theorem gapFigures_map_add :
    (gapFigures (instants.map (· + shift)) : List α) = gapFigures instants := by
  rw [gapFigures, gapFigures, dayGaps_map_add]

theorem meanGap_map_add : (meanGap (instants.map (· + shift)) : α) = meanGap instants := by
  rw [meanGap, meanGap, gapFigures_map_add]

theorem timing_map_add : (timing (instants.map (· + shift)) : α) = timing instants := by
  rw [timing, timing, meanGap_map_add, gapFigures_map_add]

end Cadence

section

variable [Scalar α] [LawfulScalar α] {h : Thresholds}

/-- The patterns of instants and of the instants moved by days. -/
theorem Pattern.IsOf.eq_moved {p p' : Pattern α} {instants : List Int} {days : Int}
    (hp : p.IsOf h instants) (hp' : p'.IsOf h (instants.map (· + days * microsPerDay)))
    {last' : Date} (onLast : ∀ i, (instants.map (· + days * microsPerDay)).getLast? = some i →
      (last'.days : Int) = Int.fdiv i microsPerDay) :
    p' = p.moved days (some last') := by
  obtain ⟨i, n, day, next, ends, onDay, rounded, foretold, nextDate, week, month⟩ := hp.dates
  obtain ⟨i', n', day', next', ends', onDay', rounded', foretold', nextDate', week', month'⟩ :=
    hp'.dates
  obtain rfl : day' = last' :=
    Date.eq_of_days (by exact_mod_cast onDay'.trans (onLast i' ends').symm)
  rw [List.getLast?_map, ends, Option.map_some, Option.some_inj] at ends'
  rw [Cadence.meanGap_map_add, rounded, Option.some_inj] at rounded'
  -- Whole days were added, so the time of day still falls away when the last day is counted.
  have lastDays : (day'.days : Int) = day.days + days := by
    rw [onDay', onDay, ← ends', Int.add_mul_fdiv_right _ _ (by decide)]
  have afterLast : day.addDays? days = some day' := Date.ofDays?_eq_some_iff.mpr lastDays
  have afterNext : next.addDays? days = some next' := Date.ofDays?_eq_some_iff.mpr (by omega)
  have frequency : p'.frequency = p.frequency := by
    have named := hp'.frequency
    rw [Cadence.meanGap_map_add, hp.frequency, Option.some_inj] at named
    exact named.symm
  have confidence : p'.confidence = p.confidence := by
    rw [hp'.confidence, hp.confidence, Cadence.timing_map_add]
  have later : p'.nextDate = p.nextDate.moved days := by
    rw [nextDate', nextDate, When.moved, afterNext, Option.elim_some]
  have weekday : p'.dayOfWeek = p.dayOfWeek.map fun weekday => (weekday + days) % 7 := by
    rw [week', week, frequency, Date.weekday_of_addDays? afterLast]
    split <;> rfl
  have monthday : p'.dayOfMonth = p.dayOfMonth.bind fun _ => some (day'.day : Int) := by
    rw [month', month, frequency]
    split <;> rfl
  calc p' = ⟨p'.frequency, p'.interval, p'.nextDate, p'.confidence, p'.dayOfWeek,
        p'.dayOfMonth⟩ := rfl
    _ = p.moved days (some day') := by
      rw [frequency, hp'.interval, ← hp.interval, later, confidence, weekday, monthday]
      rfl

end

/-! ### Moved groups -/

namespace Detector

section

variable [Scalar α]

theorem variation_moved (payments : List (Transaction α)) (days : Int) :
    variation (payments.map (Transaction.moved days)) = variation payments := by
  rw [variation, variation, List.map_map]
  rfl

theorem looksSteady_moved (d : Detector α) (payments : List (Transaction α)) (pattern : Pattern α)
    (days : Int) (last? : Option Date) :
    d.looksSteady (payments.map (Transaction.moved days)) (pattern.moved days last?) =
      d.looksSteady payments pattern := by
  rw [looksSteady, looksSteady, variation_moved]
  rfl

theorem describe_moved (key : String) (payments : List (Transaction α)) (days : Int)
    (pattern : Pattern α) (isSubscription : Bool) :
    describe key (payments.map (Transaction.moved days)) (pattern.moved days
        (Member.lastDate? ((payments.map (Transaction.moved days)).map Member.ofTransaction)))
        isSubscription =
      (describe key payments pattern isSubscription).moved days := by
  have sizes : (payments.map (Transaction.moved days)).map (fun t => Scalar.abs t.amountFigure) =
      payments.map fun t => Scalar.abs t.amountFigure := by
    rw [List.map_map]
    rfl
  have category : (payments.map (Transaction.moved days)).head?.map (·.category) =
      payments.head?.map (·.category) := by
    rw [List.head?_map, Option.map_map]
    rfl
  rw [describe, sizes, category, variation_moved, Transaction.members_moved]
  rfl

end

section

variable [Scalar α] [LawfulScalar α] {d : Detector α} {h : Thresholds} (hd : d.HasThresholds h)
  (bounded : ∀ w ∈ h.windows, w.high ≤ 20000) {payments : List (Transaction α)} {days : Int}
  (readable : ∀ t ∈ payments, t.IsReadable)
  (readable' : ∀ t ∈ payments, (t.moved days).IsReadable)

section

variable (ascending : (payments.map (·.instant)).Pairwise (· ≤ ·))
include hd bounded readable readable' ascending

theorem inferPattern_moved :
    d.inferPattern (((payments.map (Transaction.moved days)).map (·.instant)).map some) =
      (d.inferPattern ((payments.map (·.instant)).map some)).map (Option.map (Pattern.moved days
        (Member.lastDate? ((payments.map (Transaction.moved days)).map
          Member.ofTransaction)))) := by
  have era := era_instants readable
  have moved : ∀ t ∈ payments.map (Transaction.moved days), t.IsReadable :=
    List.forall_mem_map.mpr readable'
  have era' := era_instants moved
  have shifted := Transaction.instants_moved readable'
  have ascending' : ((payments.map (Transaction.moved days)).map (·.instant)).Pairwise (· ≤ ·) := by
    rw [shifted]
    exact ascending.map _ fun i j before => add_le_add_left before _
  -- The mean gaps are one figure, so both runs fall into the same window, or both into none.
  by_cases absent : (payments.map (·.instant)).length < 2 ∨
      h.windowOf? (Cadence.meanGap (payments.map (·.instant)) : α) = none
  · have absent' := absent
    rw [← Cadence.meanGap_map_add (days * microsPerDay), ← shifted, List.length_map,
      ← List.length_map (Transaction.moved days), ← List.length_map (·.instant)] at absent'
    rw [inferPattern_of_none hd era ascending absent,
      inferPattern_of_none hd era' ascending' absent']
    rfl
  · rw [not_or, not_lt] at absent
    obtain ⟨two, window⟩ := absent
    obtain ⟨w, hw⟩ := Option.ne_none_iff_exists'.mp window
    have hw' := hw
    rw [← Cadence.meanGap_map_add (days * microsPerDay), ← shifted] at hw'
    have within := bounded w (Thresholds.windowOf?_eq_some hw).1
    obtain ⟨p, found, hp⟩ := inferPattern_of_window hd era ascending two hw within
    obtain ⟨p', found', hp'⟩ :=
      inferPattern_of_window hd era' ascending' (by simpa using two) hw' within
    obtain ⟨last, -, -, -, ends, -⟩ := hp'.dates
    obtain ⟨day, lastDate, onDay⟩ := Transaction.exists_lastDate? moved ends
    rw [shifted] at hp' ends
    have same := hp.eq_moved hp' fun i final => by
      rw [onDay, Option.some_inj.mp (ends.symm.trans final)]
    rw [found, found', lastDate, same]
    rfl

theorem report_moved (key : String) :
    d.report key (payments.map (Transaction.moved days)) =
      (d.report key payments).map (Option.map (RecurringGroup.moved days)) := by
  have count : ((payments.map (Transaction.moved days)).map (·.instant)).length =
      (payments.map (·.instant)).length := by
    rw [List.length_map, List.length_map, List.length_map]
  rw [report, report, map_bind_eq, map_verdict count
    (inferPattern_moved hd bounded readable readable' ascending) fun _ => rfl]
  cases d.verdict (payments.map (·.instant)) with
  | error fault => rfl
  | ok found =>
    cases found with
    | none => rfl
    | some p =>
      change d.groupIn key _ (some (p.moved days _)) = (d.groupIn key payments (some p)).map _
      rw [groupIn, groupIn, looksSteady_moved, map_bind_eq]
      refine bind_congr fun isSubscription => ?_
      rw [describe_moved]
      rfl

end

variable {ts : List (Transaction α)} (listed : ∀ t ∈ ts, t.IsReadable)
  (listed' : ∀ t ∈ ts, (t.moved days).IsReadable)
include listed listed'

omit [LawfulScalar α] listed in
theorem timeline_moved (key : String) :
    timeline (ts.map (Transaction.moved days)) key =
      (timeline ts key).map (Transaction.moved days) := by
  refine timeline_map Transaction.key_moved (fun s hs t ht => ?_) key
  rw [Transaction.instant_moved (listed' s hs), Transaction.instant_moved (listed' t ht),
    add_le_add_iff_right]

include hd bounded in
theorem detect_map_moved :
    d.detect (ts.map (Transaction.moved days)) =
      (d.detect ts).map (List.map (RecurringGroup.moved days)) := by
  have each (key : String) : d.report key (timeline (ts.map (Transaction.moved days)) key) =
      (d.report key (timeline ts key)).map (Option.map (RecurringGroup.moved days)) := by
    rw [timeline_moved listed']
    exact report_moved hd bounded (fun t ht => listed t (mem_timeline.mp ht).1)
      (fun t ht => listed' t (mem_timeline.mp ht).1) (instants_ascending ts key) key
  have sure (g : RecurringGroup α) : (g.moved days).pattern.confidence = g.pattern.confidence := rfl
  have moved := Transaction.forall_isLegible (List.forall_mem_map.mpr listed')
  rw [map_detect (Transaction.forall_isLegible listed) sure, detect_eq_reports moved,
    merchants_map Transaction.key_moved]
  simp only [each]

end

end Detector

section

variable [Scalar α] [LawfulScalar α]

theorem RecurringGroup.IsOf.isAnchored {g : RecurringGroup α} {h : Thresholds} {key : String}
    {payments : List (Transaction α)} (hg : g.IsOf h key payments)
    (readable : ∀ t ∈ payments, t.IsReadable) : g.IsAnchored := by
  obtain ⟨last, n, day, next, ends, onDay, -, -, nextDate, week, month⟩ := hg.pattern.dates
  obtain ⟨day', lastDate, onDay'⟩ := Transaction.exists_lastDate? readable ends
  obtain rfl : day' = day := Date.eq_of_days (by exact_mod_cast onDay'.trans onDay.symm)
  refine ⟨⟨next, nextDate⟩, day', by rw [hg.members, lastDate], ?_, ?_⟩
  · simpa [isWeekAnchored] using week
  · simpa [isMonthAnchored] using month

namespace Detector

theorem isAnchored_of_detect {d : Detector α} {h : Thresholds} (hd : d.HasThresholds h)
    (bounded : ∀ w ∈ h.windows, w.high ≤ 20000) {ts : List (Transaction α)}
    (readable : ∀ t ∈ ts, t.IsReadable) {groups : List (RecurringGroup α)}
    (detected : d.detect ts = .ok groups) : ∀ g ∈ groups, g.IsAnchored := by
  obtain ⟨groups', detected', report⟩ := exists_report hd bounded readable
  obtain rfl : groups' = groups := Except.ok.inj (detected'.symm.trans detected)
  intro g hg
  exact (report.described g hg).isAnchored fun t ht => readable t (mem_timeline.mp ht).1

end Detector

end

namespace Detector

/-- In floating point, under the standard configuration: when readable payments are all moved by so
many days, earlier or later, and stay readable, then detection gives the same groups in the same
order, moved by as many days; and each group is bound to its last payment. -/
theorem detect_moved {d : Detector Float} (standard : Detector.ofSettings Settings.none = .ok d)
    {days : Int} {ts : List (Transaction Float)} (readable : ∀ t ∈ ts, t.IsReadable)
    (readable' : ∀ t ∈ ts, (t.moved days).IsReadable) :
    ∃ groups, d.detect ts = .ok groups ∧
      d.detect (ts.map (Transaction.moved days)) = .ok (groups.map (RecurringGroup.moved days)) ∧
      ∀ g ∈ groups, g.IsAnchored ∧ (g.moved days).IsAnchored := by
  obtain rfl : Detector.standard = d := Except.ok.inj (ofSettings_none.symm.trans standard)
  obtain ⟨c, hd⟩ := floatStandard_hasThresholds
  have bounded := Thresholds.standard_bounded c
  obtain ⟨groups, detected, -⟩ := exists_report hd bounded readable
  have moved := detect_map_moved hd bounded readable readable'
  rw [detected] at moved
  have anchored := isAnchored_of_detect hd bounded readable detected
  have anchored' := isAnchored_of_detect hd bounded (List.forall_mem_map.mpr readable') moved
  exact ⟨groups, detected, moved, fun g hg => ⟨anchored g hg, anchored' _ (List.mem_map_of_mem hg)⟩⟩

theorem detect_moved_monthlyPayments :
    ∃ groups, (standard : Detector Float).detect monthlyPayments = .ok groups ∧
      standard.detect (monthlyPayments.map (Transaction.moved 758)) =
        .ok (groups.map (RecurringGroup.moved 758)) ∧
      ∃ g ∈ groups, g.merchantKey = "netflix" ∧ g.IsAnchored ∧ (g.moved 758).IsAnchored := by
  have readable' : ∀ t ∈ monthlyPayments, (t.moved 758).IsReadable := by
    simp only [monthlyPayments, List.forall_mem_cons]
    refine ⟨payment_isReadable ?_ _ rfl, payment_isReadable ?_ _ rfl, payment_isReadable ?_ _ rfl,
      payment_isReadable ?_ _ rfl, by simp⟩
    all_goals decide
  obtain ⟨groups, detected, moved, anchored⟩ :=
    detect_moved ofSettings_none readable_monthlyPayments readable'
  obtain ⟨g, hg, key⟩ := exists_group_monthlyPayments detected
  exact ⟨groups, detected, moved, g, hg, key, anchored g hg⟩

end Detector

end RecurringPayments
