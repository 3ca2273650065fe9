import DriftGuardX.Foundation.History
import Mathlib.Algebra.Order.Ring.Rat
import Mathlib.Data.List.Dedup
import Mathlib.Data.List.Induction
import Mathlib.Data.List.Nodup
import Mathlib.Data.Rat.Floor

/-!
# The coverage monitor

The monitor looks at a stream of diagnoses. When one arrives that is certified while the calibration
is stale, which means that it has expired or that the latest coverage report shows drift, the
certificate is downgraded. The certificates that have arrived before are not looked at again, and a
diagnosis that is not certified does not lead to a check.

So all certificates are downgraded when the calibration is stale exactly when each has arrived, again
perhaps, while it was (`downgradesOutstanding_iff`).
-/

namespace DriftGuardX.Evaluation

open History

/-- What the monitor and its reports do with floats. `days` is the number of days in a difference of
times, and `fixed` prints with a number of decimals. -/
class CoverageFloat (F : Type) where
  literal : ℚ → F
  ratio : ℕ → ℕ → F
  days : ℤ → F
  sub : F → F → F
  mul : F → F → F
  le : F → F → Bool
  lt : F → F → Bool
  exceeds : F → ℤ → Bool
  fixed : ℕ → F → String

/-! ## Calibration -/

structure CalibrationEpisode (F : Type) where
  lower : F
  upper : F
  groundTruth : F
  faultType : String
  componentLayer : String
  recordedAt : ℤ

structure UndercoverageAlert (F : Type) where
  nominalConfidence : F
  observedCoverage : F
  gap : F
  nEpisodes : ℕ
  message : String

/-- A report, but for the time when it was made. -/
structure CoverageReport (F : Type) where
  schemaVersion : String
  nEpisodes : ℕ
  isValid : Bool
  coverageByLevel : List (F × F)
  alerts : List (UndercoverageAlert F)
  subgroupCoverage : List (String × List (F × F))

section Calibration

variable {F : Type} [CoverageFloat F]

open CoverageFloat

def nominalLevels : List F := [literal (4 / 5), literal (9 / 10), literal (19 / 20), literal (99 / 100)]

def maxUndercoverageGap : F := literal (1 / 20)

def minCalEpisodes : ℕ := 20

/-- `_coverage_for_level`, which is the same at every level. -/
def coverageForLevel (episodes : List (CalibrationEpisode F)) (_nominal : F) : F :=
  if episodes = [] then literal 0
  else
    ratio (episodes.countP fun ep ↦ le ep.lower ep.groundTruth && le ep.groundTruth ep.upper)
      episodes.length

def coverageByLevel (episodes : List (CalibrationEpisode F)) : List (F × F) :=
  nominalLevels.map fun level ↦ (level, coverageForLevel episodes level)

def undercoverageAlert (n : ℕ) (level obs : F) : Option (UndercoverageAlert F) :=
  let gap := sub level obs
  if lt maxUndercoverageGap gap then
    some ⟨level, obs, gap, n, "Undercoverage at " ++ fixed 0 (mul level (literal 100)) ++ "%: observed="
      ++ fixed 3 obs ++ ", gap=" ++ fixed 3 gap ++ " > threshold=0.05"⟩
  else none

/-- The coverage of each group of episodes with one tag. -/
def subgroupCoverage (kind : String) (tag : CalibrationEpisode F → String)
    (episodes : List (CalibrationEpisode F)) : List (String × List (F × F)) :=
  (episodes.map tag).dedup.map fun group ↦
    (kind ++ ":" ++ group, coverageByLevel (episodes.filter fun ep ↦ tag ep = group))

/-- `measure_coverage` -/
def measureCoverage (episodes : List (CalibrationEpisode F)) : CoverageReport F where
  schemaVersion := "v1.0"
  nEpisodes := episodes.length
  isValid := minCalEpisodes ≤ episodes.length
  coverageByLevel := coverageByLevel episodes
  alerts := (coverageByLevel episodes).filterMap fun (level, obs) ↦
    undercoverageAlert episodes.length level obs
  subgroupCoverage := subgroupCoverage "fault" CalibrationEpisode.faultType episodes ++
    subgroupCoverage "layer" CalibrationEpisode.componentLayer episodes

end Calibration

/-! ## The monitor -/

structure DiagnosisEvent where
  runId : String
  certificateStatus : String
  issuedAt : ℤ
  deriving DecidableEq, Repr

structure DowngradeEvent where
  runId : String
  originalStatus : String
  newStatus : String
  reason : String
  downgradedAt : ℤ
  deriving DecidableEq, Repr

/-- The monitor, whose dataset is passed to it with each event. -/
structure CoverageMonitor (F : Type) where
  maxAgeDays : ℤ
  checkInterval : ℕ
  eventCount : ℕ
  lastCoverageReport : Option (CoverageReport F)
  downgradeLog : List DowngradeEvent
  positive : 0 < checkInterval

/-- An event with the episodes of the dataset when it arrives, the time when the calibration is checked
and the time of the downgrade. -/
structure Arrival (F : Type) where
  event : DiagnosisEvent
  episodes : List (CalibrationEpisode F)
  now : ℤ
  downgradedAt : ℤ

def Arrival.certified {F : Type} (a : Arrival F) : Prop := a.event.certificateStatus = "CERTIFIED"

instance {F : Type} (a : Arrival F) : Decidable a.certified := inferInstanceAs (Decidable (_ = _))

namespace CoverageMonitor

variable {F : Type} [CoverageFloat F]

open CoverageFloat

omit [CoverageFloat F] in
def new (maxAgeDays : ℤ) (checkInterval : ℕ) (positive : 0 < checkInterval) : CoverageMonitor F where
  maxAgeDays
  checkInterval
  eventCount := 0
  lastCoverageReport := none
  downgradeLog := []
  positive

/-- `_calibration_expired` -/
def calibrationExpired (m : CoverageMonitor F) (episodes : List (CalibrationEpisode F)) (now : ℤ) :
    Bool :=
  match (episodes.map CalibrationEpisode.recordedAt).max? with
  | none => true
  | some latest => exceeds (days (now - latest) : F) m.maxAgeDays

/-- `_coverage_drifted` -/
def coverageDrifted (m : CoverageMonitor F) : Bool :=
  match m.lastCoverageReport with
  | none => false
  | some report => report.coverageByLevel.any fun (level, obs) ↦ lt maxUndercoverageGap (sub level obs)

/-- The monitor after it has counted an event and perhaps measured the coverage. -/
def measured (m : CoverageMonitor F) (episodes : List (CalibrationEpisode F)) : CoverageMonitor F :=
  let eventCount := m.eventCount + 1
  { m with
    eventCount
    lastCoverageReport :=
      if eventCount % m.checkInterval = 0 ∧ minCalEpisodes ≤ episodes.length then
        some (measureCoverage episodes)
      else m.lastCoverageReport }

def reasons (m : CoverageMonitor F) (episodes : List (CalibrationEpisode F)) (now : ℤ) :
    List String :=
  (if m.calibrationExpired episodes now then
    ["Calibration expired (newest episode older than " ++ toString m.maxAgeDays ++ " days)."]
  else []) ++
  if m.coverageDrifted then ["Coverage drift detected beyond allowed undercoverage gap."] else []

/-- `process_event`: the monitor, and the downgrades that are returned. -/
def processEvent (m : CoverageMonitor F) (a : Arrival F) : CoverageMonitor F × List DowngradeEvent :=
  let m := m.measured a.episodes
  if ¬ a.certified then (m, [])
  else
    let reasons := m.reasons a.episodes a.now
    if reasons ≠ [] then
      let downgrade : DowngradeEvent :=
        ⟨a.event.runId, "CERTIFIED", "UNCERTIFIED", " | ".intercalate reasons, a.downgradedAt⟩
      ({ m with downgradeLog := m.downgradeLog ++ [downgrade] }, [downgrade])
    else (m, [])

/-- The monitor after some events. -/
def processAll (m : CoverageMonitor F) (arrivals : List (Arrival F)) : CoverageMonitor F :=
  arrivals.foldl (fun m a ↦ (m.processEvent a).1) m

/-- The calibration is expired or the latest report shows drift while an event is processed. -/
def Stale (m : CoverageMonitor F) (a : Arrival F) : Prop :=
  (m.measured a.episodes).calibrationExpired a.episodes a.now = true ∨
    (m.measured a.episodes).coverageDrifted = true

/-- A run is downgraded in the log. -/
def Downgraded (m : CoverageMonitor F) (runId : String) : Prop :=
  ∃ d ∈ m.downgradeLog, d.runId = runId

/-- When an event is processed while the calibration is stale, every run that has arrived as certified
is downgraded, and no run is downgraded twice for one event. -/
def DowngradesOutstanding (m : CoverageMonitor F) (arrivals : List (Arrival F)) : Prop :=
  Always (fun before a ↦
    ((m.processAll before).Stale a → ∀ b ∈ before ++ [a], b.certified →
      (m.processAll (before ++ [a])).Downgraded b.event.runId) ∧
    (((m.processAll before).processEvent a).2.map DowngradeEvent.runId).Nodup) arrivals

/-- The run arrives, certified and while the calibration is stale. -/
def ArrivesStale (m : CoverageMonitor F) (runId : String) (before : List (Arrival F)) (a : Arrival F) :
    Prop :=
  a.event.runId = runId ∧ a.certified ∧ (m.processAll before).Stale a

variable {m : CoverageMonitor F} {a : Arrival F} {arrivals : List (Arrival F)} {runId : String}

theorem reasons_ne_nil_iff {episodes : List (CalibrationEpisode F)} {now : ℤ} :
    m.reasons episodes now ≠ [] ↔
      m.calibrationExpired episodes now = true ∨ m.coverageDrifted = true := by
  rw [reasons]
  cases m.calibrationExpired episodes now <;> cases m.coverageDrifted <;> simp

@[simp] theorem measured_downgradeLog (episodes : List (CalibrationEpisode F)) :
    (m.measured episodes).downgradeLog = m.downgradeLog := rfl

/-- What processing an event adds to the log, which is what it returns. -/
theorem processEvent_cases (m : CoverageMonitor F) (a : Arrival F) :
    (a.certified ∧ m.Stale a ∧ ∃ d : DowngradeEvent, d.runId = a.event.runId ∧
      (m.processEvent a).1.downgradeLog = m.downgradeLog ++ [d] ∧ (m.processEvent a).2 = [d]) ∨
    (¬ (a.certified ∧ m.Stale a) ∧ (m.processEvent a).1.downgradeLog = m.downgradeLog ∧
      (m.processEvent a).2 = []) := by
  by_cases hcertified : a.certified
  · by_cases hstale : (m.measured a.episodes).reasons a.episodes a.now = []
    · refine Or.inr ⟨fun h ↦ reasons_ne_nil_iff.mpr h.2 hstale, ?_⟩
      simp [processEvent, hcertified, hstale]
    · refine Or.inl ⟨hcertified, reasons_ne_nil_iff.mp hstale,
        ⟨a.event.runId, "CERTIFIED", "UNCERTIFIED",
          " | ".intercalate ((m.measured a.episodes).reasons a.episodes a.now), a.downgradedAt⟩, rfl, ?_⟩
      simp [processEvent, hcertified, hstale]
  · refine Or.inr ⟨fun h ↦ hcertified h.1, ?_⟩
    simp [processEvent, hcertified]

theorem processAll_concat :
    m.processAll (arrivals ++ [a]) = ((m.processAll arrivals).processEvent a).1 := by
  rw [processAll, List.foldl_append]
  rfl

theorem downgraded_processAll_iff (hlog : m.downgradeLog = []) :
    (m.processAll arrivals).Downgraded runId ↔ Sometime (m.ArrivesStale runId) arrivals := by
  induction arrivals using List.reverseRecOn with
  | nil =>
    refine iff_of_false ?_ not_sometime_nil
    rintro ⟨d, hd, -⟩
    rw [processAll, List.foldl_nil, hlog] at hd
    exact List.not_mem_nil hd
  | append_singleton arrivals a ih =>
    rw [sometime_append_singleton, ← ih, processAll_concat, Downgraded, Downgraded]
    rcases (m.processAll arrivals).processEvent_cases a with
      ⟨hcertified, hstale, d, hd, hlog', -⟩ | ⟨hnone, hlog', -⟩
    · rw [hlog']
      simp only [List.mem_append, List.mem_singleton, or_and_right, exists_or, exists_eq_left, hd]
      rw [ArrivesStale, and_iff_left ⟨hcertified, hstale⟩]
    · rw [hlog', or_iff_left]
      exact fun h ↦ hnone h.2

theorem nodup_processEvent (m : CoverageMonitor F) (a : Arrival F) :
    ((m.processEvent a).2.map DowngradeEvent.runId).Nodup := by
  rcases m.processEvent_cases a with ⟨-, -, d, -, -, heq⟩ | ⟨-, -, heq⟩
  · rw [heq]
    exact List.nodup_singleton _
  · rw [heq]
    exact List.nodup_nil

/-- **Outstanding certificates.** A monitor downgrades all that it has seen as certified whenever the
calibration is stale, exactly when each of these runs has arrived certified while it was. -/
theorem downgradesOutstanding_iff (maxAgeDays : ℤ) (checkInterval : ℕ) (positive : 0 < checkInterval)
    (arrivals : List (Arrival F)) :
    let m : CoverageMonitor F := new maxAgeDays checkInterval positive
    m.DowngradesOutstanding arrivals ↔
      Always (fun before a ↦ (m.processAll before).Stale a → ∀ b ∈ before ++ [a], b.certified →
        Sometime (m.ArrivesStale b.event.runId) (before ++ [a])) arrivals := by
  intro m
  have hlog : ∀ runId before, (m.processAll before).Downgraded runId ↔
      Sometime (m.ArrivesStale runId) before := fun _ _ ↦ downgraded_processAll_iff rfl
  constructor
  · intro h
    refine h.mono fun before a hok hstale b hb hcertified ↦ ?_
    rw [← hlog]
    exact hok.1 hstale b hb hcertified
  · intro h
    refine h.mono fun before a hok ↦ ⟨fun hstale b hb hcertified ↦ ?_, nodup_processEvent _ a⟩
    rw [hlog]
    exact hok hstale b hb hcertified

end CoverageMonitor

/-! ## A calibration that expires -/

instance : CoverageFloat ℚ where
  literal q := q
  ratio m n := (m : ℚ) / n
  days microseconds := microseconds / 86400000000
  sub := (· - ·)
  mul := (· * ·)
  le p q := p ≤ q
  lt p q := p < q
  exceeds p n := (n : ℚ) < p
  fixed _ q := toString q

/-- A diagnosis that arrives some days after the only episode of the dataset was recorded. -/
def sampleArrival (runId status : String) (day : ℕ) : Arrival ℚ where
  event := ⟨runId, status, day⟩
  episodes := [⟨0, 1, 1 / 2, "timeout", "retriever", 0⟩]
  now := day * 86400000000
  downgradedAt := day * 86400000000

/-- A run that is certified while the calibration is fresh, and again when it has expired. -/
def certifiedTwice : List (Arrival ℚ) :=
  [sampleArrival "a" "CERTIFIED" 1, sampleArrival "a" "CERTIFIED" 31]

theorem downgradesOutstanding_certifiedTwice :
    0 < 50 ∧ (CoverageMonitor.new 30 50 (by decide) : CoverageMonitor ℚ).DowngradesOutstanding
      certifiedTwice := by
  refine ⟨by decide, (CoverageMonitor.downgradesOutstanding_iff 30 50 (by decide) _).mpr ?_⟩
  refine always_cons.mpr ⟨fun hstale ↦ ?_, always_cons.mpr ⟨fun _ b hb _ ↦ ?_, always_nil⟩⟩
  · rcases hstale with hexpired | hdrifted
    · exact absurd hexpired (by decide +kernel)
    · exact absurd hdrifted (by decide +kernel)
  -- both arrivals are of the run that arrives stale
  · have hrun : b.event.runId = "a" := by
      rcases List.mem_cons.mp hb with rfl | hb
      · rfl
      · exact List.mem_singleton.mp hb ▸ rfl
    rw [hrun]
    exact ⟨[sampleArrival "a" "CERTIFIED" 1], sampleArrival "a" "CERTIFIED" 31, [], rfl, rfl, rfl,
      .inl (by decide +kernel)⟩

/-- A run is certified while the calibration is fresh and stays so when it has expired. -/
theorem not_downgradesOutstanding_sampleArrival :
    ¬ (CoverageMonitor.new 30 50 (by decide) : CoverageMonitor ℚ).DowngradesOutstanding
      [sampleArrival "a" "CERTIFIED" 1, sampleArrival "b" "CERTIFIED" 31] := by
  intro h
  have hstale : ((CoverageMonitor.new 30 50 (by decide) : CoverageMonitor ℚ).processAll
      [sampleArrival "a" "CERTIFIED" 1]).Stale (sampleArrival "b" "CERTIFIED" 31) :=
    Or.inl (by decide +kernel)
  obtain ⟨d, hd, hrun⟩ := (h [sampleArrival "a" "CERTIFIED" 1] (sampleArrival "b" "CERTIFIED" 31) []
    rfl).1 hstale (sampleArrival "a" "CERTIFIED" 1) List.mem_cons_self rfl
  have hlog : ((CoverageMonitor.new 30 50 (by decide) : CoverageMonitor ℚ).processAll
      ([sampleArrival "a" "CERTIFIED" 1] ++ [sampleArrival "b" "CERTIFIED" 31])).downgradeLog.map
        DowngradeEvent.runId = ["b"] := by
    decide +kernel
  have hmem := List.mem_map_of_mem (f := DowngradeEvent.runId) hd
  rw [hlog, List.mem_singleton, hrun] at hmem
  exact absurd hmem (by decide)

end DriftGuardX.Evaluation
