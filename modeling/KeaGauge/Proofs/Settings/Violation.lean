import KeaGauge.Settings.Source
import Mathlib.Data.List.TakeWhile
import Mathlib.Tactic.Common
/-!
# The first rule that settings break

Settings have rules for the numbers that must not be zero, and three rules for
each of their targets. The rules stand in an order (`Rule.rank`): that of the
sections, then target by target, and within a target address, port and timeout.
Which of them are broken, and what is said of each, is told here from the
settings alone (`Breaks`), without regard to how a broken one is searched for.

Settings are accepted just when they can be used, and otherwise they are refused
with what is said of the first rule that they break (`validated_exact`). Between
rules of two targets the places of the targets decide, so a target that breaks
nothing hides none behind it.
-/

namespace KeaGauge

/-- Nothing is left of a text just when it is all blank. -/
theorem Text.trim_eq_nil_iff {cs : List Char} :
    trim cs = [] ↔ ∀ c ∈ cs, isBlank c = true := by
  rw [trim, trimEnd, List.reverse_eq_nil_iff, List.dropWhile_eq_nil_iff]
  simp only [List.mem_reverse]
  constructor
  · intro hrest c hc
    -- a character is one of those that the text starts with, or is behind them
    rw [← List.takeWhile_append_dropWhile (p := isBlank) (l := cs), List.mem_append] at hc
    rcases hc with hc | hc
    · exact List.all_eq_true.1 List.all_takeWhile c hc
    · exact hrest c hc
  · intro hall c hc
    exact hall c ((List.dropWhile_sublist isBlank).subset hc)

theorem Text.trim_ne_nil_iff {cs : List Char} :
    trim cs ≠ [] ↔ ∃ c ∈ cs, isBlank c = false := by
  rw [ne_eq, trim_eq_nil_iff]
  simp

namespace Settings

/-! ## Settings that can be used -/

variable {s : Settings} {t : Target}

/-- **Settings that can be used**: no number is zero that must not be, and each
target has an address, a port and a timeout. -/
structure Usable (s : Settings) : Prop where
  interval : s.polling.interval ≠ 0
  parallel : s.polling.parallel ≠ 0
  concurrency : s.collecting.concurrency ≠ 0
  receiverPort : s.carbon.port ≠ 0
  receiverTimeout : s.carbon.timeout ≠ 0
  address : ∀ t ∈ s.targets, (Text.trim t.address.toList) ≠ []
  port : ∀ t ∈ s.targets, t.port ≠ 0
  timeout : ∀ t ∈ s.targets, t.timeout ≠ 0

theorem Target.violation?_eq_none_iff {t : Target} :
    t.violation? = none ↔ Text.trim t.address.toList ≠ [] ∧ t.port ≠ 0 ∧ t.timeout ≠ 0 := by
  unfold Target.violation?
  split_ifs with haddress hport htimeout
  · simp_all
  · simp_all
  · simp_all
  · simp_all

/-- **No rule is violated** just by settings that can be used. -/
theorem violation?_eq_none_iff : s.violation? = none ↔ s.Usable := by
  have htargets : s.targets.findSome? Target.violation? = none ↔ ∀ t ∈ s.targets,
      Text.trim t.address.toList ≠ [] ∧ t.port ≠ 0 ∧ t.timeout ≠ 0 := by
    simp only [List.findSome?_eq_none_iff, Target.violation?_eq_none_iff]
  constructor
  · intro h
    unfold violation? at h
    split_ifs at h with hinterval hparallel hconcurrency hcarbon
    have heach := htargets.1 h
    rw [not_or] at hcarbon
    exact ⟨hinterval, hparallel, hconcurrency, hcarbon.1, hcarbon.2, fun t ht => (heach t ht).1,
      fun t ht => (heach t ht).2.1, fun t ht => (heach t ht).2.2⟩
  · intro h
    have hcarbon : ¬ (s.carbon.port = 0 ∨ s.carbon.timeout = 0) :=
      not_or.2 ⟨h.receiverPort, h.receiverTimeout⟩
    rw [violation?, if_neg h.interval, if_neg h.parallel, if_neg h.concurrency, if_neg hcarbon]
    exact htargets.2 fun t ht => ⟨h.address t ht, h.port t ht, h.timeout t ht⟩

/-- An address will do when it holds anything but blanks. -/
theorem usable_iff :
    s.Usable ↔ s.polling.interval ≠ 0 ∧ s.polling.parallel ≠ 0 ∧ s.collecting.concurrency ≠ 0 ∧
      s.carbon.port ≠ 0 ∧ s.carbon.timeout ≠ 0 ∧
      ∀ t ∈ s.targets,
        (∃ c ∈ t.address.toList, Text.isBlank c = false) ∧ t.port ≠ 0 ∧ t.timeout ≠ 0 := by
  simp only [← Text.trim_ne_nil_iff]
  constructor
  · intro h
    exact ⟨h.interval, h.parallel, h.concurrency, h.receiverPort, h.receiverTimeout,
      fun t ht => ⟨h.address t ht, h.port t ht, h.timeout t ht⟩⟩
  · rintro ⟨hinterval, hparallel, hconcurrency, hport, htimeout, heach⟩
    exact ⟨hinterval, hparallel, hconcurrency, hport, htimeout, fun t ht => (heach t ht).1,
      fun t ht => (heach t ht).2.1, fun t ht => (heach t ht).2.2⟩

/-! ## Rules and their order -/

/-- The parts of a target that there are rules for. -/
inductive Target.Part where
  | address
  | port
  | timeout
deriving DecidableEq, Repr

/-- The parts of a target in the order of their rules. -/
def Target.Part.rank : Target.Part → Nat
  | address => 0
  | port => 1
  | timeout => 2

/-- A rule of settings: one for each of the poller's numbers, one for the
collector's and one for those of the receiver, and one for each part of the
target at a place in their list. -/
inductive Rule where
  | interval
  | parallel
  | concurrency
  | receiver
  | target (place : Nat) (part : Target.Part)
deriving DecidableEq, Repr

/-- **The order of the rules**: those of the sections, then target by target. -/
def Rule.rank : Rule → Nat
  | interval => 0
  | parallel => 1
  | concurrency => 2
  | receiver => 3
  | target place part => 4 + 3 * place + part.rank

theorem Target.Part.rank_lt (part : Target.Part) : part.rank < 3 := by
  cases part <;> decide

theorem Target.Part.rank_inj {part other : Target.Part} :
    part.rank = other.rank ↔ part = other := by
  cases part <;> cases other <;> decide

/-- No two rules stand at one place of the order. -/
theorem Rule.rank_inj {rule other : Rule} : rule.rank = other.rank ↔ rule = other := by
  refine ⟨fun h => ?_, congrArg rank⟩
  cases rule with
  | target place part =>
    cases other with
    | target place' part' =>
      have hlt := part.rank_lt
      have hlt' := part'.rank_lt
      simp only [rank] at h
      obtain rfl : place = place' := by omega
      obtain rfl := Target.Part.rank_inj.1 (Nat.add_left_cancel h)
      rfl
    | _ =>
      simp only [rank] at h
      omega
  | _ =>
    cases other with
    | target place part =>
      simp only [rank] at h
      omega
    | _ => simp_all [rank]

/-! ## Broken rules -/

/-- **What a target is called**: by its name, or without one by its address and
its port. -/
inductive Target.IsCalled (t : Target) : String → Prop where
  | name {name : String} (named : t.name = some name) : IsCalled t name
  | endpoint (unnamed : t.name = none) :
      IsCalled t (t.address ++ ":" ++ Nat.repr t.port.toNat)

/-- **A target breaks the rule for one of its parts**, and what is said of it. -/
inductive Target.Breaks (t : Target) : Target.Part → String → Prop where
  | address (blank : ∀ c ∈ t.address.toList, Text.isBlank c = true) :
      Breaks t .address "target with empty address"
  | port {label : String} (zero : t.port = 0) (called : t.IsCalled label) :
      Breaks t .port ("target " ++ label ++ " has port 0")
  | timeout {label : String} (zero : t.timeout = 0) (called : t.IsCalled label) :
      Breaks t .timeout ("target " ++ label ++ " has a zero timeout")

/-- **Settings break a rule**, and what is said of it. -/
inductive Breaks (s : Settings) : Rule → String → Prop where
  | interval (zero : s.polling.interval = 0) :
      Breaks s .interval "poller.interval_secs must be at least 1"
  | parallel (zero : s.polling.parallel = 0) :
      Breaks s .parallel "poller.max_parallel_targets must be at least 1"
  | concurrency (zero : s.collecting.concurrency = 0) :
      Breaks s .concurrency "collector.statistic_concurrency must be at least 1"
  | receiver (zero : s.carbon.port = 0 ∨ s.carbon.timeout = 0) :
      Breaks s .receiver "carbon port and timeout must be non-zero"
  | target {place : Nat} {t : Target} {part : Target.Part} {message : String}
      (there : s.targets[place]? = some t) (broken : t.Breaks part message) :
      Breaks s (.target place part) message

/-- **The first rule that settings break**, and what is said of it. -/
structure FirstBreaks (s : Settings) (rule : Rule) (message : String) : Prop where
  broken : s.Breaks rule message
  first : ∀ other said, s.Breaks other said → rule.rank ≤ other.rank

variable {part : Target.Part} {rule other : Rule} {label message said : String}
variable {violation : Violation}

theorem Target.isCalled_iff : t.IsCalled label ↔ t.label = label := by
  unfold Target.label
  constructor
  · rintro (named | unnamed)
    · rw [named, Option.getD_some]
    · rw [unnamed, Option.getD_none]
      simp [ToString.toString, String.append_assoc]
  · rintro rfl
    cases hname : t.name with
    | none =>
      have h := Target.IsCalled.endpoint hname
      simpa [ToString.toString, String.append_assoc] using h
    | some name => exact .name hname

theorem Target.isCalled_label (t : Target) : t.IsCalled t.label := Target.isCalled_iff.2 rfl

/-- One thing is said of a target's broken part. -/
theorem Target.Breaks.message_eq (h : t.Breaks part message) (h' : t.Breaks part said) :
    message = said := by
  have hlabel : ∀ {label label'}, t.IsCalled label → t.IsCalled label' → label = label' :=
    fun called called' => (isCalled_iff.1 called).symm.trans (isCalled_iff.1 called')
  cases h with
  | address _ =>
    cases h'
    rfl
  | port _ called =>
    cases h' with
    | port _ called' => rw [hlabel called called']
  | timeout _ called =>
    cases h' with
    | timeout _ called' => rw [hlabel called called']

/-- One thing is said of a broken rule. -/
theorem Breaks.message_eq (h : s.Breaks rule message) (h' : s.Breaks rule said) :
    message = said := by
  cases h with
  | target there broken =>
    cases h' with
    | target there' broken' =>
      obtain rfl := Option.some.inj (there.symm.trans there')
      exact broken.message_eq broken'
  | _ =>
    cases h'
    rfl

/-- **One rule is the first**, and one thing is said of it. -/
theorem FirstBreaks.unique (h : s.FirstBreaks rule message) (h' : s.FirstBreaks other said) :
    rule = other ∧ message = said := by
  obtain rfl := Rule.rank_inj.1 (Nat.le_antisymm (h.first _ _ h'.broken) (h'.first _ _ h.broken))
  exact ⟨rfl, h.broken.message_eq h'.broken⟩

/-! ## The search -/

/-- A target that is passed over breaks nothing. -/
theorem Target.not_breaks (h : t.violation? = none) : ¬ t.Breaks part message := by
  obtain ⟨haddress, hport, htimeout⟩ := Target.violation?_eq_none_iff.1 h
  rintro (blank | ⟨zero, -⟩ | ⟨zero, -⟩)
  · exact haddress (Text.trim_eq_nil_iff.2 blank)
  · exact hport zero
  · exact htimeout zero

/-- Settings in which nothing is found break no rule. -/
theorem not_breaks_of_violation? (h : s.violation? = none) : ¬ s.Breaks rule message := by
  have husable := violation?_eq_none_iff.1 h
  rintro (zero | zero | zero | zero | ⟨there, broken⟩)
  · exact husable.interval zero
  · exact husable.parallel zero
  · exact husable.concurrency zero
  · exact zero.elim husable.receiverPort husable.receiverTimeout
  · have hmem := List.mem_of_getElem? there
    exact Target.not_breaks (Target.violation?_eq_none_iff.2
      ⟨husable.address _ hmem, husable.port _ hmem, husable.timeout _ hmem⟩) broken

/-- **What is found of a target** is the first of its parts that breaks a
rule. -/
theorem Target.breaks_of_violation? (h : t.violation? = some violation) :
    ∃ part, t.Breaks part violation.message ∧
      ∀ other said, t.Breaks other said → part.rank ≤ other.rank := by
  have hblank : (Text.trim t.address.toList).isEmpty = true ↔
      ∀ c ∈ t.address.toList, Text.isBlank c = true :=
    List.isEmpty_iff.trans Text.trim_eq_nil_iff
  unfold Target.violation? at h
  split_ifs at h with haddress hport htimeout
  · obtain rfl := Option.some.inj h
    exact ⟨.address, .address (hblank.1 haddress), fun _ _ _ => Nat.zero_le _⟩
  · obtain rfl := Option.some.inj h
    refine ⟨.port, .port hport t.isCalled_label, fun other said hother => ?_⟩
    cases hother with
    | address blank => exact absurd (hblank.2 blank) haddress
    | port _ _ => exact Nat.le_refl _
    | timeout _ _ => exact Nat.le_succ _
  · obtain rfl := Option.some.inj h
    refine ⟨.timeout, .timeout htimeout t.isCalled_label, fun other said hother => ?_⟩
    cases hother with
    | address blank => exact absurd (hblank.2 blank) haddress
    | port zero _ => exact absurd zero hport
    | timeout _ _ => exact Nat.le_refl _

/-- **What is found among targets** is found of one of them, and nothing of any
before it. -/
theorem exists_first_target {targets : List Target}
    (h : targets.findSome? Target.violation? = some violation) :
    ∃ (place : Nat) (t : Target), targets[place]? = some t ∧ t.violation? = some violation ∧
      ∀ earlier < place, ∀ u : Target, targets[earlier]? = some u → u.violation? = none := by
  obtain ⟨before, t, after, rfl, hfound, hbefore⟩ := List.findSome?_eq_some_iff.1 h
  refine ⟨before.length, t, by simp, hfound, fun earlier hlt u hu => hbefore u ?_⟩
  rw [List.getElem?_append_left hlt] at hu
  exact List.mem_of_getElem? hu

/-- **What is found is said of the first rule that is broken.** -/
theorem exists_firstBreaks (h : s.violation? = some violation) :
    ∃ rule, s.FirstBreaks rule violation.message := by
  unfold violation? at h
  split_ifs at h with hinterval hparallel hconcurrency hreceiver
  · obtain rfl := Option.some.inj h
    exact ⟨.interval, .interval hinterval, fun _ _ _ => Nat.zero_le _⟩
  · obtain rfl := Option.some.inj h
    refine ⟨.parallel, .parallel hparallel, fun other said hother => ?_⟩
    cases hother with
    | interval zero => exact absurd zero hinterval
    | _ => simp only [Rule.rank]; omega
  · obtain rfl := Option.some.inj h
    refine ⟨.concurrency, .concurrency hconcurrency, fun other said hother => ?_⟩
    cases hother with
    | interval zero => exact absurd zero hinterval
    | parallel zero => exact absurd zero hparallel
    | _ => simp only [Rule.rank]; omega
  · obtain rfl := Option.some.inj h
    refine ⟨.receiver, .receiver hreceiver, fun other said hother => ?_⟩
    cases hother with
    | interval zero => exact absurd zero hinterval
    | parallel zero => exact absurd zero hparallel
    | concurrency zero => exact absurd zero hconcurrency
    | _ => simp only [Rule.rank]; omega
  · obtain ⟨place, t, hthere, hfound, hbefore⟩ := exists_first_target h
    obtain ⟨part, hbroken, hleast⟩ := Target.breaks_of_violation? hfound
    refine ⟨.target place part, .target hthere hbroken, fun other said hother => ?_⟩
    cases hother with
    | interval zero => exact absurd zero hinterval
    | parallel zero => exact absurd zero hparallel
    | concurrency zero => exact absurd zero hconcurrency
    | receiver zero => exact absurd zero hreceiver
    | @target place' u part' _ hthere' hbroken' =>
      -- a target before this one was passed over, and of this one the first part was found
      have hplace : place ≤ place' := Nat.le_of_not_lt fun hlt =>
        Target.not_breaks (hbefore place' hlt u hthere') hbroken'
      rcases Nat.lt_or_eq_of_le hplace with hlt | rfl
      · have hpart := part.rank_lt
        simp only [Rule.rank]
        omega
      · obtain rfl := Option.some.inj (hthere.symm.trans hthere')
        exact Nat.add_le_add_left (hleast _ _ hbroken') _

/-! ## Validation -/

theorem validated_eq_ok_iff : validated s = .ok s ↔ s.violation? = none := by
  unfold validated
  cases s.violation? <;> simp

theorem validated_eq_error_iff :
    validated s = .error (.invalid violation) ↔ s.violation? = some violation := by
  unfold validated
  cases s.violation? <;> simp

/-- **Validation is exact.** Settings are accepted just when no number in them is
zero that must not be and each of their targets has an address that is not all
blank, a port and a timeout. Otherwise they are refused, and the message is
that of the first rule that they break, be it of a section or of a target, with
what that target is called. -/
theorem validated_exact (s : Settings) :
    (validated s = .ok s ↔
      s.polling.interval ≠ 0 ∧ s.polling.parallel ≠ 0 ∧ s.collecting.concurrency ≠ 0 ∧
        s.carbon.port ≠ 0 ∧ s.carbon.timeout ≠ 0 ∧
        ∀ t ∈ s.targets,
          (∃ c ∈ t.address.toList, Text.isBlank c = false) ∧ t.port ≠ 0 ∧ t.timeout ≠ 0) ∧
      (validated s ≠ .ok s → ∃ violation, validated s = .error (.invalid violation) ∧
        ∃ rule, s.FirstBreaks rule violation.message) ∧
      ∀ rule message, s.FirstBreaks rule message →
        ∃ violation, validated s = .error (.invalid violation) ∧ violation.message = message := by
  have hrefused : validated s ≠ .ok s → ∃ violation,
      validated s = .error (.invalid violation) ∧ ∃ rule, s.FirstBreaks rule violation.message := by
    intro hne
    obtain ⟨violation, hfound⟩ := Option.ne_none_iff_exists'.1 (mt validated_eq_ok_iff.2 hne)
    exact ⟨violation, validated_eq_error_iff.2 hfound, exists_firstBreaks hfound⟩
  refine ⟨validated_eq_ok_iff.trans (violation?_eq_none_iff.trans usable_iff), hrefused,
    fun rule message hfirst => ?_⟩
  have hne : validated s ≠ .ok s := fun hok =>
    not_breaks_of_violation? (validated_eq_ok_iff.1 hok) hfirst.broken
  obtain ⟨violation, herror, found, hfound⟩ := hrefused hne
  exact ⟨violation, herror, (hfound.unique hfirst).2⟩

/-- Settings of three targets: one that breaks no rule, one without a name that
has neither a port nor a timeout, and one without an address. -/
def faulty : Settings :=
  { standard with targets := [.ofEndpoint "192.0.2.10" 8000,
      { Target.ofEndpoint "2001:db8::10" 0 with timeout := 0 },
      { Target.ofEndpoint " " 8000 with name := some "kea-core" }] }

theorem faulty_firstBreaks :
    faulty.FirstBreaks (.target 1 .port) "target 2001:db8::10:0 has port 0" := by
  refine ⟨.target rfl (.port rfl (.endpoint rfl)), fun other said hother => ?_⟩
  cases hother with
  | interval zero => exact absurd zero (by decide)
  | parallel zero => exact absurd zero (by decide)
  | concurrency zero => exact absurd zero (by decide)
  | receiver zero => exact absurd zero (by decide)
  | @target place u part _ there broken =>
    rcases place with _ | _ | place
    · obtain rfl := Option.some.inj there
      exact absurd broken (Target.not_breaks (by decide))
    · obtain rfl := Option.some.inj there
      cases broken with
      | address blank => exact absurd (blank '2' (by decide)) (by decide)
      | port _ _ => exact Nat.le_refl _
      | timeout _ _ => exact Nat.le_succ _
    · have hport := Target.Part.port.rank_lt
      simp only [Rule.rank]
      omega

/-- Of three rules that two targets break, the message is that of the first. -/
theorem validated_exact_faulty :
    validated faulty ≠ .ok faulty ∧
      faulty.FirstBreaks (.target 1 .port) "target 2001:db8::10:0 has port 0" ∧
      ∃ violation, validated faulty = .error (.invalid violation) ∧
        violation.message = "target 2001:db8::10:0 has port 0" := by
  have hmissing : ¬ ∀ t ∈ faulty.targets, t.port ≠ 0 := by decide
  obtain ⟨haccepted, -, hmessage⟩ := validated_exact faulty
  refine ⟨fun hok => hmissing fun t ht => ?_, faulty_firstBreaks, hmessage _ _ faulty_firstBreaks⟩
  exact ((haccepted.1 hok).2.2.2.2.2 t ht).2.1

end Settings

end KeaGauge
