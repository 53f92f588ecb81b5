import Mathlib.Data.List.Induction
import TextIndex.Engine.Config

/-!
# Settings and the configuration that is built from them

A configuration is built from settings that are made in any order, of which the last of each kind
counts. Workers and places to wait in that are asked for are given, a time is cut to whole
milliseconds, and what is not said is worked out, so that a valid configuration comes of it. But a
capacity that is worked out, and the milliseconds of a time, may be too large for a word. Then only
what is left of them in the word is kept, and that may even be nothing.

* `Setting`, `ConfigBuilder.ofSettings`: settings, and the parts of a configuration after them.
* `Setting.last?`, `ConfigBuilder.ofSettings_eq`: the last setting of a kind, and that it counts.
* `Duration.wholeMilliseconds`: what is to become of a time.
* `Config.Takes`, `Config.Delivers`: what a configuration takes from settings, and what it promises.
* `ConfigBuilder.build_delivers_iff`: the promise is kept exactly if nothing is too large.
* `ConfigBuilder.not_build_delivers`: settings of which no valid configuration comes.
-/

namespace TextIndex

open TextIndex.Time

/-! ### The last setting of a kind -/

/-- What can be said of a configuration. -/
inductive Setting
  | workers (count : UInt64)
  | capacity (count : UInt64)
  | timeout (time : Duration)
  | policy (policy : FailurePolicy)
  | withPlaces (kept : Bool)
  | analyzer (analyzer : Analyzer)
  | fieldAnalyzer (field : String) (analyzer : Analyzer)

namespace Setting

def addTo (builder : ConfigBuilder) : Setting → ConfigBuilder
  | workers count => { builder with workers := some count }
  | capacity count => { builder with capacity := some count }
  | timeout time => builder.withTimeout time
  | policy other => { builder with policy := other }
  | withPlaces kept => { builder with withPlaces := some kept }
  | analyzer other => { builder with analyzer := some other }
  | fieldAnalyzer field own => builder.withFieldAnalyzer field own

def workers? : Setting → Option UInt64
  | workers count => some count
  | _ => none

def capacity? : Setting → Option UInt64
  | capacity count => some count
  | _ => none

def timeout? : Setting → Option Duration
  | timeout time => some time
  | _ => none

def policy? : Setting → Option FailurePolicy
  | policy other => some other
  | _ => none

def withPlaces? : Setting → Option Bool
  | withPlaces kept => some kept
  | _ => none

def analyzer? : Setting → Option Analyzer
  | analyzer other => some other
  | _ => none

def analyzerOf? (field : String) : Setting → Option Analyzer
  | fieldAnalyzer name own => if name = field then some own else none
  | _ => none

/-- A setting that asks for workers, or for places to wait in, asks for at least one. -/
def AsksForSome (setting : Setting) : Prop :=
  setting.workers? ≠ some 0 ∧ setting.capacity? ≠ some 0

variable {α : Type} (choose : Setting → Option α) (settings : List Setting)

/-- The last setting of a kind. -/
def last? : Option α :=
  (settings.filterMap choose).getLast?

variable {choose settings}

theorem last?_concat (settings : List Setting) (setting : Setting) :
    last? choose (settings ++ [setting]) = (choose setting).or (last? choose settings) := by
  unfold last?
  rw [List.filterMap_append, List.getLast?_append]
  cases chosen : choose setting <;> simp [chosen]

theorem exists_of_last? {value : α} (last : last? choose settings = some value) :
    ∃ setting ∈ settings, choose setting = some value :=
  List.mem_filterMap.mp (List.mem_of_getLast? last)

end Setting

namespace ConfigBuilder

/-- The parts of a configuration after some settings. -/
def ofSettings (settings : List Setting) : ConfigBuilder :=
  settings.foldl Setting.addTo {}

/-- **The last setting counts**, for each part that only settings of its kind change. -/
theorem ofSettings_eq {α β : Type} (choose : Setting → Option α) (part : ConfigBuilder → β)
    (make : α → β) (changes : ∀ builder setting,
      part (Setting.addTo builder setting) = ((choose setting).map make).getD (part builder))
    (settings : List Setting) :
    part (ofSettings settings) = ((Setting.last? choose settings).map make).getD (part {}) := by
  unfold ofSettings
  induction settings using List.reverseRecOn with
  | nil => rfl
  | append_singleton settings setting ih =>
    rw [List.foldl_append, List.foldl_cons, List.foldl_nil, changes, ih, Setting.last?_concat]
    cases choose setting <;> rfl

end ConfigBuilder

/-! ### Times in whole milliseconds -/

namespace Time.Duration

/-- A time cut to whole milliseconds, but at least one of them. -/
def wholeMilliseconds (time : Duration) : Duration :=
  if time.milliseconds = 0 then ⟨0, 1000000, by omega⟩
  else ⟨time.seconds, time.nanos / 1000000 * 1000000, by have := time.nanos_lt; omega⟩

theorem milliseconds_wholeMilliseconds (time : Duration) :
    time.wholeMilliseconds.milliseconds = max time.milliseconds 1 := by
  unfold wholeMilliseconds
  split
  · next isZero =>
    rw [isZero]
    rfl
  · next nonzero =>
    unfold milliseconds at nonzero ⊢
    simp only [Nat.mul_div_cancel _ (show 0 < 1000000 by omega)]
    omega

theorem milliseconds_ofMilliseconds (word : UInt64) :
    (ofMilliseconds word).milliseconds = word.toNat := by
  unfold milliseconds ofMilliseconds
  rw [UInt64.toNat_div]
  show word.toNat / 1000 * 1000 + word.toNat % 1000 * 1000000 / 1000000 = word.toNat
  omega

/-- The number of milliseconds tells such a time, if it is not too large for a word. -/
theorem ofMilliseconds_eq {time : Duration} (fits : time.milliseconds < UInt64.size) :
    ofMilliseconds (UInt64.ofNat (max time.milliseconds 1)) = time.wholeMilliseconds := by
  unfold wholeMilliseconds
  split
  · next isZero =>
    rw [isZero]
    rfl
  · next nonzero =>
    have bound := time.nanos_lt
    have kept : (UInt64.ofNat (max time.milliseconds 1)).toNat =
        time.seconds.toNat * 1000 + time.nanos / 1000000 := by
      rw [Nat.max_eq_left (Nat.one_le_iff_ne_zero.mpr nonzero), UInt64.toNat_ofNat_of_lt' fits]
      rfl
    have seconds : UInt64.ofNat (max time.milliseconds 1) / 1000 = time.seconds := by
      refine UInt64.toNat_inj.mp ?_
      rw [UInt64.toNat_div, kept]
      show (time.seconds.toNat * 1000 + time.nanos / 1000000) / 1000 = time.seconds.toNat
      omega
    have nanos : (UInt64.ofNat (max time.milliseconds 1)).toNat % 1000 * 1000000 =
        time.nanos / 1000000 * 1000000 := by
      rw [kept]
      omega
    simp only [ofMilliseconds, seconds, nanos]

end Time.Duration

/-! ### What is built -/

section

open Setting

variable (settings : List Setting) (processors : UInt64)

/-- The capacity that is worked out, and the milliseconds of the time, fit in a word. -/
structure Setting.FitWords : Prop where
  capacity : last? capacity? settings = none →
    16 * ((last? workers? settings).getD (defaultWorkers processors)).toNat < UInt64.size
  timeout : ∀ time, last? timeout? settings = some time → time.milliseconds < UInt64.size

variable (config : Config)

/-- A configuration takes what was set last. What was not set is worked out, in words. -/
structure Config.Takes : Prop where
  workers : config.workers = (last? workers? settings).getD (defaultWorkers processors)
  capacity : config.capacity =
    (last? capacity? settings).getD (config.workers * waitingPerWorker)
  timeout : config.timeout = (last? timeout? settings).map fun time =>
    UInt64.ofNat (max time.milliseconds 1)
  policy : config.policy = (last? policy? settings).getD .reject
  withPlaces : config.withPlaces = (last? withPlaces? settings).getD true
  analyzer : config.analyzer = last? analyzer? settings
  fieldAnalyzers : ∀ field, config.fieldAnalyzers[field]? = last? (analyzerOf? field) settings

/-- A configuration is valid, has the places to wait in that were asked for, or 16 for each worker,
and waits for the time that was asked for, in whole milliseconds. -/
structure Config.Delivers : Prop where
  valid : config.validate = .ok ()
  capacity : config.capacity.toNat =
    ((last? capacity? settings).map UInt64.toNat).getD (16 * config.workers.toNat)
  deadline : config.deadline = (last? timeout? settings).map Duration.wholeMilliseconds

end

namespace ConfigBuilder

open Setting

variable {settings : List Setting} {processors : UInt64}

/-- A part that is not there before it is set. -/
theorem ofSettings_eq_last? {α : Type} (choose : Setting → Option α)
    (part : ConfigBuilder → Option α) (changes : ∀ builder setting,
      part (Setting.addTo builder setting) = ((choose setting).map some).getD (part builder))
    (absent : part {} = none) (settings : List Setting) :
    part (ofSettings settings) = last? choose settings := by
  rw [ofSettings_eq choose part some changes, absent]
  cases last? choose settings <;> rfl

theorem max_one_of_ne_zero {count : UInt64} (nonzero : count ≠ 0) : max count 1 = count := by
  refine UInt64.toNat_inj.mp ?_
  rw [UInt64.toNat_max]
  exact Nat.max_eq_left (UInt64.lt_iff_toNat_lt.mp (UInt64.pos_iff_ne_zero.mpr nonzero))

/-- There are workers, whether they are asked for or not. -/
theorem workers_ne_zero (processors : UInt64) (asked : ∀ setting ∈ settings, setting.AsksForSome) :
    (last? workers? settings).getD (defaultWorkers processors) ≠ 0 := by
  cases last : last? workers? settings with
  | none =>
    refine UInt64.pos_iff_ne_zero.mp (UInt64.lt_iff_toNat_lt.mpr ?_)
    show 0 < (max processors 1).toNat
    rw [UInt64.toNat_max]
    exact Nat.lt_of_lt_of_le Nat.zero_lt_one (Nat.le_max_right _ _)
  | some count =>
    obtain ⟨setting, member, chosen⟩ := exists_of_last? last
    rintro rfl
    exact (asked setting member).1 chosen

/-- **What was set last is taken.** -/
theorem build_takes (processors : UInt64) (asked : ∀ setting ∈ settings, setting.AsksForSome) :
    ((ofSettings settings).build processors).Takes settings processors := by
  have workers : (ofSettings settings).workers = last? workers? settings :=
    ofSettings_eq_last? _ ConfigBuilder.workers
      (fun _ setting => by cases setting <;> rfl) rfl settings
  have capacity : (ofSettings settings).capacity = last? capacity? settings :=
    ofSettings_eq_last? _ ConfigBuilder.capacity
      (fun _ setting => by cases setting <;> rfl) rfl settings
  have withPlaces : (ofSettings settings).withPlaces = last? withPlaces? settings :=
    ofSettings_eq_last? _ ConfigBuilder.withPlaces
      (fun _ setting => by cases setting <;> rfl) rfl settings
  have built : ((ofSettings settings).build processors).workers =
      (last? workers? settings).getD (defaultWorkers processors) := by
    rw [← workers]
    rfl
  constructor
  case workers => exact built
  case capacity =>
    have nonzero : (ofSettings settings).workers.getD (defaultWorkers processors) ≠ 0 := by
      rw [workers]
      exact workers_ne_zero processors asked
    show (ofSettings settings).capacity.getD
      (max ((ofSettings settings).workers.getD (defaultWorkers processors)) 1 *
        waitingPerWorker) = _
    rw [built, ← capacity, ← workers, max_one_of_ne_zero nonzero]
  case timeout =>
    refine (ofSettings_eq timeout? ConfigBuilder.timeout
      (fun time => some (UInt64.ofNat (max time.milliseconds 1)))
      (fun _ setting => by cases setting <;> rfl) settings).trans ?_
    cases last? timeout? settings <;> rfl
  case policy =>
    refine (ofSettings_eq policy? ConfigBuilder.policy id
      (fun _ setting => by cases setting <;> rfl) settings).trans ?_
    rw [Option.map_id]
    rfl
  case withPlaces =>
    rw [← withPlaces]
    rfl
  case analyzer =>
    exact ofSettings_eq_last? _ ConfigBuilder.analyzer
      (fun _ setting => by cases setting <;> rfl) rfl settings
  case fieldAnalyzers =>
    intro field
    refine ofSettings_eq_last? (analyzerOf? field) (·.fieldAnalyzers[field]?)
      (fun builder setting => ?_) Std.ExtTreeMap.getElem?_empty settings
    cases setting with
    | fieldAnalyzer name own =>
      show (builder.fieldAnalyzers.insert name own)[field]? = _
      rw [Std.ExtTreeMap.getElem?_insert]
      by_cases same : name = field
      · simp [analyzerOf?, same]
      · simp [analyzerOf?, same]
    | _ => rfl

end ConfigBuilder

namespace Config

open Setting

variable {settings : List Setting} {processors : UInt64} {config : Config}

theorem validate_eq_ok : config.validate = .ok () ↔
    config.workers ≠ 0 ∧ config.capacity ≠ 0 ∧ config.timeout ≠ some 0 := by
  have noFault : config.validate = .ok () ↔ config.fault? = none := by
    unfold validate
    cases config.fault? <;> simp
  rw [noFault, fault?]
  split_ifs with noWorkers noCapacity zeroTimeout
  · simp [noWorkers]
  · simp [noCapacity]
  · simp [zeroTimeout]
  · simp [noWorkers, noCapacity, zeroTimeout]

/-- The capacity is that of all workers together if it fits in a word. -/
theorem Takes.capacity_iff (takes : config.Takes settings processors) :
    config.capacity.toNat =
        ((last? capacity? settings).map UInt64.toNat).getD (16 * config.workers.toNat) ↔
      (last? capacity? settings = none → 16 * config.workers.toNat < UInt64.size) := by
  rw [takes.capacity]
  cases last? capacity? settings with
  | some count => exact iff_of_true rfl nofun
  | none =>
    show (config.workers * 16).toNat = 16 * config.workers.toNat ↔ _
    refine ⟨fun exact _ => exact ▸ UInt64.toNat_lt _, fun fits => ?_⟩
    rw [UInt64.toNat_mul, Nat.mul_comm]
    exact Nat.mod_eq_of_lt (fits rfl)

/-- The time is that which was asked for if its milliseconds fit in a word. -/
theorem Takes.deadline_iff (takes : config.Takes settings processors) :
    config.deadline = (last? timeout? settings).map Duration.wholeMilliseconds ↔
      ∀ time, last? timeout? settings = some time → time.milliseconds < UInt64.size := by
  unfold deadline
  rw [takes.timeout]
  cases last? timeout? settings with
  | none => exact iff_of_true rfl nofun
  | some time =>
    simp only [Option.map_some, Option.some.injEq, forall_eq']
    refine ⟨fun same => ?_, Duration.ofMilliseconds_eq⟩
    have count := congrArg Duration.milliseconds same
    rw [Duration.milliseconds_ofMilliseconds, Duration.milliseconds_wholeMilliseconds] at count
    exact Nat.lt_of_le_of_lt (Nat.le_max_left _ 1) (count ▸ UInt64.toNat_lt _)

/-- What is delivered is valid. -/
theorem Takes.valid (takes : config.Takes settings processors)
    (asked : ∀ setting ∈ settings, setting.AsksForSome)
    (capacity : config.capacity.toNat =
      ((last? capacity? settings).map UInt64.toNat).getD (16 * config.workers.toNat))
    (deadline : config.deadline = (last? timeout? settings).map Duration.wholeMilliseconds) :
    config.validate = .ok () := by
  have workers : config.workers ≠ 0 := by
    rw [takes.workers]
    exact ConfigBuilder.workers_ne_zero processors asked
  refine validate_eq_ok.mpr ⟨workers, fun isZero => ?_, fun zero => ?_⟩
  · rw [isZero] at capacity
    cases last : last? capacity? settings with
    | none =>
      rw [last] at capacity
      refine workers (UInt64.toNat_inj.mp ?_)
      exact (Nat.mul_eq_zero.mp capacity.symm).resolve_left (Nat.succ_ne_zero _)
    | some count =>
      obtain ⟨setting, member, chosen⟩ := exists_of_last? last
      rw [last] at capacity
      obtain rfl : (0 : UInt64) = count := UInt64.toNat_inj.mp capacity
      exact (asked setting member).2 chosen
  · rw [Config.deadline, zero] at deadline
    obtain ⟨time, -, same⟩ := Option.map_eq_some_iff.mp deadline.symm
    have count := congrArg Duration.milliseconds same
    rw [Duration.milliseconds_ofMilliseconds, Duration.milliseconds_wholeMilliseconds] at count
    have positive := Nat.le_max_right time.milliseconds 1
    rw [count] at positive
    exact Nat.not_succ_le_zero 0 positive

end Config

namespace ConfigBuilder

open Setting

/-- **What was asked for is delivered if nothing is too large for a word, and only then.** -/
theorem build_delivers_iff {settings : List Setting} (processors : UInt64)
    (asked : ∀ setting ∈ settings, setting.AsksForSome) :
    ((ofSettings settings).build processors).Takes settings processors ∧
      (((ofSettings settings).build processors).Delivers settings ↔
        FitWords settings processors) := by
  have takes := build_takes processors asked
  refine ⟨takes, fun delivers => ⟨?_, ?_⟩, fun fits => ?_⟩
  · rw [← takes.workers]
    exact takes.capacity_iff.mp delivers.capacity
  · exact takes.deadline_iff.mp delivers.deadline
  · have capacity := takes.capacity_iff.mpr (takes.workers ▸ fits.capacity)
    have deadline := takes.deadline_iff.mpr fits.timeout
    exact ⟨takes.valid asked capacity deadline, capacity, deadline⟩

/-- Workers and a time are set twice, and the second time is less than a millisecond. -/
def setTwice : List Setting :=
  [.workers 1, .timeout ⟨5, 0, by decide⟩, .workers 4, .timeout ⟨0, 999999, by decide⟩]

theorem build_delivers_setTwice : (∀ setting ∈ setTwice, setting.AsksForSome) ∧
    ((ofSettings setTwice).build 8).Delivers setTwice := by
  have asked : ∀ setting ∈ setTwice, setting.AsksForSome := by
    unfold AsksForSome
    decide
  refine ⟨asked, (build_delivers_iff 8 asked).2.mpr ⟨fun _ => by decide, fun time last => ?_⟩⟩
  obtain rfl : (⟨0, 999999, by decide⟩ : Duration) = time := Option.some.inj last
  decide

/-- So many workers that the places for them are none in a word. -/
def manyWorkers : Setting := .workers 1152921504606846976

/-- A time of `2 ^ 64` milliseconds, and five milliseconds more. -/
def longTime (more : Bool) : Setting :=
  .timeout ⟨18446744073709551, if more then 621000000 else 616000000, by cases more <;> decide⟩

/-- What was asked for need not be delivered: no valid configuration may come of it, or one that
does not wait for long. -/
theorem not_build_delivers :
    (∀ setting ∈ [manyWorkers, longTime false, longTime true],
      setting.AsksForSome ∧ ¬((ofSettings [setting]).build 8).Delivers [setting]) ∧
      ((ofSettings [manyWorkers]).build 8).validate = .error (.config .noCapacity) ∧
      ((ofSettings [longTime false]).build 8).validate = .error (.config .zeroTimeout) ∧
      ((ofSettings [longTime true]).build 8).deadline = some (.ofMilliseconds 5) := by
  have noCapacity : ((ofSettings [manyWorkers]).build 8).validate =
      .error (.config .noCapacity) := rfl
  have zeroTimeout : ((ofSettings [longTime false]).build 8).validate =
      .error (.config .zeroTimeout) := rfl
  have soon : ((ofSettings [longTime true]).build 8).deadline = some (.ofMilliseconds 5) := by
    decide +kernel
  refine ⟨?_, noCapacity, zeroTimeout, soon⟩
  simp only [List.forall_mem_cons, List.not_mem_nil, false_implies, implies_true, and_true]
  refine ⟨⟨⟨by decide, by decide⟩, fun delivers => ?_⟩,
    ⟨⟨by decide, by decide⟩, fun delivers => ?_⟩, ⟨by decide, by decide⟩, fun delivers => ?_⟩
  · cases noCapacity.symm.trans delivers.valid
  · cases zeroTimeout.symm.trans delivers.valid
  · have same := Option.some.inj (soon.symm.trans delivers.deadline)
    revert same
    decide

end ConfigBuilder

end TextIndex
