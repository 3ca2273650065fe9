import DriftGuardX.Json.Literal

/-!
# Quarantine in memory and in the database

An isolator keeps the quarantine rules that were applied through it, and stores them in a table that
the isolators of all tenants share. Removing a rule deactivates it in the memory of the isolator that
is asked and in the table.

The query for the stored rules has `QuarantineRuleORM.active is True` as its second condition. That is
the identity of a column object with `True`, which is false before any row is looked at, so the query
returns nothing and only the memory of the isolator counts. Hence what is quarantined is visible
everywhere exactly when nothing is: no stored rule of the tenant is active, and no isolator of the
tenant has an active rule for a component with stored rules in its memory (`visibleEverywhere_iff`).
-/

namespace DriftGuardX.Isolation

open Json

/-- A 128-bit identifier. -/
abbrev Uuid := BitVec 128

/-- `uuid.UUID` of a text, `str` of an identifier, and which rows the constraints of the table let
in besides that of the primary key. -/
structure IsolationLibrary (Row : Type) where
  parse : String → Option Uuid
  text : Uuid → String
  accepts : Row → Bool
  parse_text : ∀ id, parse (text id) = some id

structure QuarantineRule where
  ruleId : String
  targetComponent : String
  description : String
  enforceNetworkIsolation : Bool
  active : Bool
  deriving DecidableEq, Repr

/-- A row of the table. -/
structure QuarantineRuleORM where
  id : Uuid
  tenantId : Uuid
  targetComponent : String
  description : String
  enforceNetworkIsolation : Bool
  active : Bool
  deriving DecidableEq, Repr

structure CausalIsolator where
  tenantId : String
  activeRules : List QuarantineRule
  deriving DecidableEq, Repr

/-- The exceptions: a text that is no identifier, and a row that the table does not let in. -/
inductive IsolationError where
  | valueError
  | integrityError
  deriving DecidableEq, Repr

/-- The condition `QuarantineRuleORM.active is True`: the column object is not the object `True`. -/
def activeIsTrue : Bool := false

namespace CausalIsolator

variable (lib : IsolationLibrary QuarantineRuleORM)

/-- `async_apply_quarantine`, with the component as its text and the identifier that is drawn for
the rule. The rule stays in memory when it cannot be stored. -/
def applyQuarantine (isolator : CausalIsolator) (rows : List QuarantineRuleORM)
    (rootCauseComponent description : String) (id : Uuid) :
    Except IsolationError QuarantineRule × CausalIsolator × List QuarantineRuleORM :=
  let rule : QuarantineRule := ⟨lib.text id, rootCauseComponent, description, true, true⟩
  let isolator := { isolator with activeRules := isolator.activeRules ++ [rule] }
  match lib.parse rule.ruleId, lib.parse isolator.tenantId with
  | some id, some tenantId =>
    let row : QuarantineRuleORM := ⟨id, tenantId, rootCauseComponent, description, true, true⟩
    if id ∈ rows.map QuarantineRuleORM.id ∨ lib.accepts row = false then
      (.error .integrityError, isolator, rows)
    else (.ok rule, isolator, rows ++ [row])
  | _, _ => (.error .valueError, isolator, rows)

/-- `async_remove_quarantine`. The rule is looked up in the table by its identifier alone. -/
def removeQuarantine (isolator : CausalIsolator) (rows : List QuarantineRuleORM) (ruleId : String) :
    Except IsolationError Unit × CausalIsolator × List QuarantineRuleORM :=
  let isolator := { isolator with
    activeRules := isolator.activeRules.map fun rule ↦
      if rule.ruleId = ruleId then { rule with active := false } else rule }
  match lib.parse ruleId with
  | none => (.error .valueError, isolator, rows)
  | some id =>
    (.ok (), isolator, rows.map fun row ↦ if row.id = id then { row with active := false } else row)

/-- `async_get_quarantined_agents`: the components of the active rules in memory and of the rows that
the query returns. -/
def getQuarantinedAgents (isolator : CausalIsolator) (rows : List QuarantineRuleORM) :
    Except IsolationError (List String) :=
  let quarantined := (isolator.activeRules.filter QuarantineRule.active).map
    QuarantineRule.targetComponent
  match lib.parse isolator.tenantId with
  | none => .error .valueError
  | some tenantId =>
    let result := rows.filter fun row ↦ row.tenantId = tenantId && activeIsTrue
    .ok (quarantined ++ result.map QuarantineRuleORM.targetComponent)

end CausalIsolator

/-! ## Runs -/

/-- The isolators that were made, and the table. -/
structure Quarantines where
  isolators : List CausalIsolator
  rows : List QuarantineRuleORM
  deriving DecidableEq, Repr

/-- A new isolator, or a call on the isolator at a position. -/
inductive QuarantineCall where
  | new (tenantId : String)
  | apply (isolator : ℕ) (rootCauseComponent description : String) (id : Uuid)
  | remove (isolator : ℕ) (ruleId : String)
  deriving DecidableEq, Repr

namespace Quarantines

variable (lib : IsolationLibrary QuarantineRuleORM)

/-- What a call on an isolator leaves. -/
def onIsolator (w : Quarantines) (position : ℕ)
    (f : CausalIsolator → CausalIsolator × List QuarantineRuleORM) : Quarantines :=
  match w.isolators[position]? with
  | none => w
  | some isolator => ⟨w.isolators.set position (f isolator).1, (f isolator).2⟩

def run (w : Quarantines) : QuarantineCall → Quarantines
  | .new tenantId => { w with isolators := w.isolators ++ [⟨tenantId, []⟩] }
  | .apply position rootCauseComponent description id =>
    w.onIsolator position fun isolator ↦
      (isolator.applyQuarantine lib w.rows rootCauseComponent description id).2
  | .remove position ruleId =>
    w.onIsolator position fun isolator ↦ (isolator.removeQuarantine lib w.rows ruleId).2

/-- What calls leave of an empty table. -/
def after (calls : List QuarantineCall) : Quarantines :=
  calls.foldl (run lib) ⟨[], []⟩

/-- The components of the rules that are stored for a tenant and active. -/
def Stored (w : Quarantines) (tenant : Uuid) (component : String) : Prop :=
  ∃ row ∈ w.rows, row.tenantId = tenant ∧ row.targetComponent = component ∧ row.active = true

/-- Rules were stored for the component, and all of them have been removed. -/
def Removed (w : Quarantines) (tenant : Uuid) (component : String) : Prop :=
  (∃ row ∈ w.rows, row.tenantId = tenant ∧ row.targetComponent = component) ∧
    ¬ w.Stored tenant component

/-- A new isolator of the tenant returns the components that are stored, and every other one returns
at least these and none whose rules have all been removed. -/
structure VisibleEverywhere (w : Quarantines) (tenant : Uuid) : Prop where
  fresh : ∀ tenantId, lib.parse tenantId = some tenant → ∃ agents,
    CausalIsolator.getQuarantinedAgents lib ⟨tenantId, []⟩ w.rows = .ok agents ∧
      ∀ component, component ∈ agents ↔ w.Stored tenant component
  older : ∀ isolator ∈ w.isolators, lib.parse isolator.tenantId = some tenant → ∃ agents,
    isolator.getQuarantinedAgents lib w.rows = .ok agents ∧
      (∀ component, w.Stored tenant component → component ∈ agents) ∧
      ∀ component ∈ agents, ¬ w.Removed tenant component

/-- No stored rule of the tenant is active, and no isolator of the tenant has an active rule in memory
for a component that rules are stored for. -/
structure NothingQuarantined (w : Quarantines) (tenant : Uuid) : Prop where
  rows : ∀ row ∈ w.rows, row.tenantId = tenant → row.active = false
  memory : ∀ isolator ∈ w.isolators, lib.parse isolator.tenantId = some tenant →
    ∀ rule ∈ isolator.activeRules, rule.active = true →
      ∀ row ∈ w.rows, row.tenantId = tenant → row.targetComponent ≠ rule.targetComponent

theorem NothingQuarantined.not_stored {lib : IsolationLibrary QuarantineRuleORM} {w : Quarantines}
    {tenant : Uuid} (h : w.NothingQuarantined lib tenant) (component : String) :
    ¬ w.Stored tenant component := by
  rintro ⟨row, hrow, htenant, -, hactive⟩
  rw [h.rows row hrow htenant] at hactive
  exact absurd hactive (by decide)

end Quarantines

section Visible

variable {lib : IsolationLibrary QuarantineRuleORM} {w : Quarantines} {tenant : Uuid}
  {isolator : CausalIsolator}

open Quarantines

theorem getQuarantinedAgents_eq {rows : List QuarantineRuleORM}
    (h : lib.parse isolator.tenantId = some tenant) :
    isolator.getQuarantinedAgents lib rows = .ok ((isolator.activeRules.filter
      QuarantineRule.active).map QuarantineRule.targetComponent) := by
  have hquery : (rows.filter fun row ↦ row.tenantId = tenant && activeIsTrue) = [] := by
    refine List.filter_eq_nil_iff.mpr fun row _ ↦ ?_
    rw [activeIsTrue, Bool.and_false]
    exact Bool.false_ne_true
  rw [CausalIsolator.getQuarantinedAgents, h]
  dsimp only
  rw [hquery, List.map_nil, List.append_nil]

theorem mem_activeComponents {component : String} :
    component ∈ (isolator.activeRules.filter QuarantineRule.active).map
        QuarantineRule.targetComponent
      ↔ ∃ rule ∈ isolator.activeRules, rule.active = true ∧ rule.targetComponent = component := by
  rw [List.mem_map]
  constructor
  · rintro ⟨rule, hmem, hcomponent⟩
    obtain ⟨hrule, hactive⟩ := List.mem_filter.mp hmem
    exact ⟨rule, hrule, hactive, hcomponent⟩
  · rintro ⟨rule, hrule, hactive, hcomponent⟩
    exact ⟨rule, List.mem_filter.mpr ⟨hrule, hactive⟩, hcomponent⟩

theorem visibleEverywhere_of_nothingQuarantined (h : w.NothingQuarantined lib tenant) :
    w.VisibleEverywhere lib tenant := by
  constructor
  · intro tenantId hparse
    refine ⟨_, getQuarantinedAgents_eq hparse, fun component ↦ ?_⟩
    exact iff_of_false List.not_mem_nil (h.not_stored component)
  · intro isolator hisolator hparse
    refine ⟨_, getQuarantinedAgents_eq hparse, fun component hstored ↦ ?_, ?_⟩
    · exact absurd hstored (h.not_stored component)
    · rintro component hmem ⟨⟨row, hrow, htenant, hcomponent⟩, -⟩
      obtain ⟨rule, hrule, hactive, rfl⟩ := mem_activeComponents.mp hmem
      exact h.memory isolator hisolator hparse rule hrule hactive row hrow htenant hcomponent

/-- A new isolator sees nothing, so nothing may be stored as active, and then nothing that is in
memory may have stored rules. -/
theorem nothingQuarantined_of_visibleEverywhere (h : w.VisibleEverywhere lib tenant) :
    w.NothingQuarantined lib tenant := by
  have hstored : ∀ component, ¬ w.Stored tenant component := by
    intro component hstored
    obtain ⟨agents, hagents, hiff⟩ := h.fresh (lib.text tenant) (lib.parse_text tenant)
    have hparse : lib.parse (CausalIsolator.mk (lib.text tenant) []).tenantId = some tenant :=
      lib.parse_text tenant
    rw [getQuarantinedAgents_eq hparse] at hagents
    obtain rfl := Except.ok.inj hagents
    exact absurd ((hiff component).mpr hstored) List.not_mem_nil
  constructor
  · intro row hrow htenant
    rw [← Bool.not_eq_true]
    exact fun hactive ↦ hstored row.targetComponent ⟨row, hrow, htenant, rfl, hactive⟩
  · intro isolator hisolator hparse rule hrule hactive row hrow htenant hcomponent
    obtain ⟨agents, hagents, -, hremoved⟩ := h.older isolator hisolator hparse
    rw [getQuarantinedAgents_eq hparse] at hagents
    obtain rfl := Except.ok.inj hagents
    exact hremoved rule.targetComponent (mem_activeComponents.mpr ⟨rule, hrule, hactive, rfl⟩)
      ⟨⟨row, hrow, htenant, hcomponent⟩, hstored _⟩

/-- After every sequence of calls, what is quarantined for a tenant is visible everywhere if and only
if nothing is. -/
theorem visibleEverywhere_iff (lib : IsolationLibrary QuarantineRuleORM)
    (calls : List QuarantineCall) (tenant : Uuid) :
    (after lib calls).VisibleEverywhere lib tenant
      ↔ (after lib calls).NothingQuarantined lib tenant :=
  ⟨nothingQuarantined_of_visibleEverywhere, visibleEverywhere_of_nothingQuarantined⟩

end Visible

/-! ## An instance -/

/-- A number in hexadecimal, with leading zeros. -/
def hexPadded : ℕ → ℕ → List Char
  | 0, _ => []
  | k + 1, n => hexPadded k (n / 16) ++ [hexChar (n % 16)]

/-- The number of a text in hexadecimal. -/
def ofHex (digits : List Char) : Option ℕ :=
  digits.foldl (fun value c ↦ do return 16 * (← value) + (← hexVal c)) (some 0)

theorem ofHex_hexPadded {k n : ℕ} (h : n < 16 ^ k) : ofHex (hexPadded k n) = some n := by
  induction k generalizing n with
  | zero =>
    obtain rfl : n = 0 := by omega
    rfl
  | succ k ih =>
    have hrest : n / 16 < 16 ^ k := by rw [pow_succ] at h; omega
    have hdigit : hexVal (hexChar (n % 16)) = some (n % 16) := hexVal_hexChar (by omega)
    rw [hexPadded, ofHex, List.foldl_concat, ← ofHex, ih hrest, hdigit]
    exact congrArg some (by omega)

theorem dash_notMem_hexPadded {k n : ℕ} : '-' ∉ hexPadded k n := by
  induction k generalizing n with
  | zero => exact List.not_mem_nil
  | succ k ih =>
    rw [hexPadded, List.mem_append, List.mem_singleton]
    rintro (hmem | hlast)
    · exact ih hmem
    · have hchar : ∀ d < 16, '-' ≠ hexChar d := by decide
      exact hchar (n % 16) (Nat.mod_lt n (by decide)) hlast

/-- A text with a dash after each group of the given lengths. -/
def dashed : List ℕ → List Char → List Char
  | [], digits => digits
  | k :: ks, digits => digits.take k ++ '-' :: dashed ks (digits.drop k)

theorem filter_dashed {groups : List ℕ} {digits : List Char} (h : '-' ∉ digits) :
    (dashed groups digits).filter (· ≠ '-') = digits := by
  induction groups generalizing digits with
  | nil => exact List.filter_eq_self.mpr fun c hc ↦ decide_eq_true fun heq ↦ h (heq ▸ hc)
  | cons k groups ih =>
    have htake : (digits.take k).filter (· ≠ '-') = digits.take k :=
      List.filter_eq_self.mpr fun c hc ↦ decide_eq_true fun heq ↦ h (heq ▸ List.mem_of_mem_take hc)
    have hdrop : (dashed groups (digits.drop k)).filter (· ≠ '-') = digits.drop k :=
      ih fun hmem ↦ h (List.mem_of_mem_drop hmem)
    rw [dashed, List.filter_append, List.filter_cons_of_neg (by simp), htake, hdrop,
      List.take_append_drop]

theorem length_hexPadded {k n : ℕ} : (hexPadded k n).length = k := by
  induction k generalizing n with
  | zero => rfl
  | succ k ih => rw [hexPadded, List.length_append, ih, List.length_singleton]

/-- The usual text of an identifier, read back with or without its dashes, for a table that lets every
row in. -/
def canonicalIds : IsolationLibrary QuarantineRuleORM where
  parse text :=
    let digits := text.toList.filter (· ≠ '-')
    if digits.length = 32 then (ofHex digits).map (BitVec.ofNat 128) else none
  text id := String.ofList (dashed [8, 4, 4, 4] (hexPadded 32 id.toNat))
  accepts _ := true
  parse_text id := by
    have hlt : id.toNat < 16 ^ 32 := id.isLt.trans_eq (by norm_num)
    rw [String.toList_ofList, filter_dashed dash_notMem_hexPadded, if_pos length_hexPadded,
      ofHex_hexPadded hlt, Option.map_some, BitVec.ofNat_toNat, BitVec.setWidth_eq]

/-- An isolator of tenant 1 quarantines a component. -/
def applied : List QuarantineCall :=
  [.new "00000000-0000-0000-0000-000000000001", .apply 0 "retriever" "Data drift" 2]

/-- A new isolator of the tenant does not see it. -/
theorem not_visibleEverywhere_applied :
    ¬ (Quarantines.after canonicalIds applied).VisibleEverywhere canonicalIds 1 := by
  intro h
  have hrows : (Quarantines.after canonicalIds applied).rows
      = [⟨2, 1, "retriever", "Data drift", true, true⟩] := by decide +kernel
  have hstored := (nothingQuarantined_of_visibleEverywhere h).rows
  rw [hrows] at hstored
  exact absurd (hstored _ (List.mem_singleton_self _) rfl) (by decide)

end DriftGuardX.Isolation
