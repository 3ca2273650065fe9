import DriftGuardX.Sandbox.Component
import DriftGuardX.Sandbox.Escrow
import DriftGuardX.Sandbox.Hook

/-!
# Sandboxed workers

A worker runs a function in a child process and hears of it through a pipe: data frames with the
text of the result and the staged actions, or an error frame with the text of the error and the
staged actions. Results are bounded by a number of bytes. An error is cut off at 64 KiB, and what is
cut off cannot be read any more (`parse_truncated`), so that its staged actions are lost.

A run of a worker is what the function is told to be, its result as JSON gives it back, or it is an
error that leaves the coordinator alone (`run_returns`). So over all runs of workers, calls of the
coordinator and decisions of oracles, an action is committed only when a function was refused it and
the first decision about its trace after that clears it (`committed_effects`).

All texts are ASCII, so that characters stand for bytes.
-/

namespace DriftGuardX.Sandbox

open Json Bytes Frames

variable {F : Type} [FloatText F]

/-! ## The child -/

def StagedAction.members (a : StagedAction) : List (String × Val F) :=
  [("trace_id", .str a.traceId), ("type", .str a.type),
    ("payload", .record (a.payload.map fun m ↦ (m.1, .str m.2)))]

def stagedActionsVal (staged : List StagedAction) : Val F :=
  .list (staged.map fun a ↦ .object a.members)

def resultEnvelope (result : Val F) (staged : List StagedAction) : List (String × Val F) :=
  [("result", result), ("staged_actions", stagedActionsVal staged)]

def errorEnvelope (message : String) (staged : List StagedAction) : List (String × Val F) :=
  [("error", .str message), ("staged_actions", stagedActionsVal staged)]

/-- The text of an error, before it is cut off. -/
def errorText (F : Type) [FloatText F] (message : String) (staged : List StagedAction) : Option Text :=
  dumps ⟨true, true⟩ false (.object (errorEnvelope message staged : List (String × Val F)))

/-- The `except` clause. -/
def report (F : Type) [FloatText F] (staged : List StagedAction) : Raised → List (Frame Char)
  | .reported message =>
    match errorText F message staged with
    | none => []
    | some error => [.fail (error.take (64 * 1024))]
  | .other => []

def tooLong (maxOutputBytes : ℕ) : String :=
  "Output size exceeds sandbox bound (" ++ toString maxOutputBytes ++ " bytes)"

/-- `_send_bounded_json`: the frames, and what it raises after them. -/
def sendBoundedJson {v : Val F} (encoding : IterEncode Raised v) (maxOutputBytes : ℕ) :
    List (Frame Char) × Option Raised :=
  sendBounded encoding (.reported (tooLong maxOutputBytes)) maxOutputBytes

/-- The arguments of a run. -/
structure Job (F : Type) where
  enableArc : Bool
  traceId : String
  sandboxWorkDir : String
  func : Func (Val F)
  maxOutputBytes : ℕ

namespace Job

def executed (job : Job F) : Except Raised (Val F) × Child :=
  job.func.exec job.enableArc (Child.start job.traceId job.sandboxWorkDir)

/-- The staged actions of the main thread. -/
def staged (job : Job F) : List StagedAction := (job.executed.2.locals 0).stagedActions

/-- `_sandboxed_execution_wrapper`. -/
def frames (encode : (v : Val F) → IterEncode Raised v) (job : Job F) : List (Frame Char) :=
  match job.executed.1 with
  | .error raised => report F job.staged raised
  | .ok result =>
    let sent := sendBoundedJson (encode (.object (resultEnvelope result job.staged)))
      job.maxOutputBytes
    sent.1 ++ sent.2.elim [] (report F job.staged)

end Job

/-! ## The parent -/

inductive WorkerError (F : Type) where
  | memory (message : String)
  | timeout
  /-- The process ended without a result, or a frame was of no kind. -/
  | runtime (message : String)
  | endOfFile
  | frameTooLong
  | undecodable
  | malformed
  /-- `Sandbox error: ` and what the child reported. -/
  | sandbox (error : Val F)

namespace SandboxedWorker

/-- The envelope that is received. When there is nothing more to find the deadline has passed. -/
def envelope (maxOutputBytes : ℕ) (polls : List (Poll Char (WorkerError F))) :
    Except (WorkerError F) (Val F) :=
  match receive maxOutputBytes (64 * 1024 + 1) [] polls with
  | none => .error .timeout
  | some (.ended reason) => .error reason
  | some .overlong => .error .frameTooLong
  | some .overflow => .error (.memory "Sandbox output exceeded resource bounds")
  | some (.finished payload) =>
    match loads payload with
    | none => .error .undecodable
    | some (.dict members) => .ok (.dict members)
    | some _ => .error (.runtime "Sandbox returned an invalid envelope")
  | some (.failed message) =>
    match loads message with
    | none => .error .undecodable
    | some .none => .error (.runtime "Sandbox returned no result")
    | some decoded => .ok decoded

abbrev Call (F α : Type) := Program (VTICoordinator F) (WorkerError F) α

/-- Staging an action of the envelope. -/
def stageOne (sha256 : List UInt8 → String) : Val F → Call F Unit
  | .dict members =>
    match dictGet members "trace_id", dictGet members "type", dictGet members "payload" with
    | some (.str traceId), some (.str type), some (.dict payload) =>
      Program.mapError (fun _ ↦ .malformed) do
        let _ ← VTICoordinator.stageAction sha256 traceId type payload
    | _, _, _ => Program.raise .malformed
  | _ => Program.raise .malformed

def stageActions (sha256 : List UInt8 → String) (members : List (Key F × Val F)) : Call F Unit :=
  match dictGet members "staged_actions" with
  | none => pure ()
  | some (.list actions) => actions.forM (stageOne sha256)
  | some _ => Program.raise .malformed

def run (sha256 : List UInt8 → String) (maxOutputBytes : ℕ)
    (polls : List (Poll Char (WorkerError F))) : Call F (Val F) := do
  let received ← Program.ofExcept (envelope maxOutputBytes polls)
  match received with
  | .dict members => do
    stageActions sha256 members
    match dictGet members "error" with
    | some error => Program.raise (.sandbox error)
    | none => return (dictGet members "result").getD .none
  | _ => Program.raise .malformed

end SandboxedWorker

/-! ## Envelopes -/

section Envelopes

variable {sha256 : List UInt8 → String} {sort : Bool} {a : StagedAction} {staged : List StagedAction}
  {message : String} {w : VTICoordinator F}

/-- The keys of the payload are different. -/
def StagedAction.Proper (a : StagedAction) : Prop := (a.payload.map Prod.fst).Nodup

theorem proper_of_staging {traceId : String} {e : AuditEvent} (h : staging traceId e = some a) :
    a.Proper := by
  rw [staging] at h
  rw [StagedAction.Proper]
  split_ifs at h
  · obtain rfl := Option.some.inj h
    simp
  · obtain ⟨mode, -, hmode⟩ := Option.bind_eq_some_iff.mp h
    split_ifs at hmode
    obtain rfl := Option.some.inj hmode
    simp
  · obtain rfl := Option.some.inj h
    simp
  · obtain rfl := Option.some.inj h
    simp

/-- The payload as a dictionary, in the order in which it arrives. -/
def StagedAction.payloadAfter (sort : Bool) (a : StagedAction) : List (Key F × Val F) :=
  (arranged sort a.payload).map fun m ↦ (.str m.1, .str m.2)

omit [FloatText F] in
theorem payloadAfter_eq_record : (Val.dict (a.payloadAfter sort) : Val F)
    = .record ((arranged sort a.payload).map fun m ↦ (m.1, .str m.2)) := by
  rw [StagedAction.payloadAfter, Val.record, Val.object, List.map_map, List.map_map]
  rfl

/-- The escrow that is made of an action. -/
def StagedAction.escrow (sha256 : List UInt8 → String) (sort : Bool) (a : StagedAction) :
    CryptographicEscrow F where
  traceId := a.traceId
  actionType := a.type
  payload := a.payloadAfter sort
  payloadHash := sha256 (utf8Chars
    ((dumps ⟨true, false⟩ true (.dict (a.payloadAfter sort) : Val F)).getD []))
  status := .staged

theorem make_eq_escrow (ha : a.Proper) :
    CryptographicEscrow.make sha256 a.traceId a.type (a.payloadAfter sort)
      = .ok (a.escrow sha256 sort : CryptographicEscrow F) := by
  have hnd : (((arranged sort a.payload).map fun m ↦ (m.1, (.str m.2 : Scalar F))).map
      Prod.fst).Nodup := by
    rw [List.map_map]
    exact ((arranged_perm sort a.payload).map Prod.fst).nodup_iff.mpr ha
  obtain ⟨text, -, htext, -⟩ := exists_loads_record ⟨true, false⟩ true hnd
  rw [← payloadAfter_eq_record] at htext
  rw [CryptographicEscrow.make, StagedAction.escrow, htext]
  rfl

theorem exists_decoded_action (ha : a.Proper) : ∃ members : List (Key F × Val F),
    decoded sort (.object a.members) = some (.dict members) ∧
      dictGet members "trace_id" = some (.str a.traceId) ∧
      dictGet members "type" = some (.str a.type) ∧
      dictGet members "payload" = some (.dict (a.payloadAfter sort)) := by
  have hpayload : decoded sort (.record (a.payload.map fun m ↦ (m.1, (.str m.2 : Scalar F))))
      = some (.dict (a.payloadAfter sort)) := by
    rw [decoded_record (by rw [List.map_map]; exact ha), arranged_map, payloadAfter_eq_record]
  have hvalues : ∀ m ∈ (a.members : List (String × Val F)), ∃ w, decoded sort m.2 = some w := by
    simp only [StagedAction.members, List.forall_mem_cons, decoded_scalar, hpayload]
    exact ⟨⟨_, rfl⟩, ⟨_, rfl⟩, ⟨_, rfl⟩, by simp⟩
  have hnd : ((a.members : List (String × Val F)).map Prod.fst).Nodup :=
    show ["trace_id", "type", "payload"].Nodup by decide
  obtain ⟨v, hv⟩ := exists_decoded hvalues
  obtain ⟨members, rfl, hget, -⟩ := exists_decoded_object hnd hv
  simp only [StagedAction.members, List.forall_mem_cons, decoded_scalar, hpayload, Option.some.injEq,
    exists_eq_left'] at hget
  exact ⟨members, hv, hget.1, hget.2.1, hget.2.2.1⟩

/-- One action of an envelope. -/
theorem stageOne_eq {members : List (Key F × Val F)} (ha : a.Proper)
    (htrace : dictGet members "trace_id" = some (.str a.traceId))
    (htype : dictGet members "type" = some (.str a.type))
    (hpayload : dictGet members "payload" = some (.dict (a.payloadAfter sort))) :
    SandboxedWorker.stageOne sha256 (.dict members) w
      = (.ok (), w.addEscrow (a.escrow sha256 sort)) := by
  rw [SandboxedWorker.stageOne, htrace, htype, hpayload]
  refine Program.mapError_of_ok ?_
  rw [VTICoordinator.stageAction, make_eq_escrow ha]
  rfl

/-- The actions, staged one after another. -/
def VTICoordinator.addAll (w : VTICoordinator F) (escrows : List (CryptographicEscrow F)) :
    VTICoordinator F := escrows.foldl addEscrow w

theorem exists_decoded_staged (sha256 : List UInt8 → String) (sort : Bool)
    (hstaged : ∀ a ∈ staged, a.Proper) : ∃ actions : List (Val F),
    decoded sort (stagedActionsVal staged) = some (.list actions) ∧
      ∀ w, actions.forM (SandboxedWorker.stageOne sha256) w
        = (.ok (), w.addAll (staged.map (StagedAction.escrow sha256 sort))) := by
  suffices h : ∃ actions : List (Val F),
      List.Forall₂ (fun x y ↦ decoded sort x = some y)
        (staged.map fun a ↦ (.object a.members : Val F)) actions ∧
      ∀ w, actions.forM (SandboxedWorker.stageOne sha256) w
        = (.ok (), w.addAll (staged.map (StagedAction.escrow sha256 sort))) by
    obtain ⟨actions, hactions, hrun⟩ := h
    exact ⟨actions, decoded_list hactions, hrun⟩
  induction staged with
  | nil => exact ⟨[], .nil, fun _ ↦ rfl⟩
  | cons a staged ih =>
    obtain ⟨ha, hstaged⟩ := List.forall_mem_cons.mp hstaged
    obtain ⟨actions, hactions, hrun⟩ := ih hstaged
    obtain ⟨members, hdecoded, htrace, htype, hpayload⟩ := exists_decoded_action (F := F) ha
    refine ⟨.dict members :: actions, .cons hdecoded hactions, fun w ↦ ?_⟩
    rw [Program.forM_cons_of_ok (stageOne_eq ha htrace htype hpayload), hrun]
    rfl

/-- An envelope of two members, of which the second are the staged actions. -/
theorem exists_decoded_envelope (sha256 : List UInt8 → String) (key : String) {v v' : Val F}
    (hkey : key ≠ "staged_actions") (hv : decoded sort v = some v')
    (hstaged : ∀ a ∈ staged, a.Proper) :
    ∃ members, decoded sort (.object [(key, v), ("staged_actions", stagedActionsVal staged)])
        = some (.dict members) ∧
      dictGet members key = some v' ∧
      (∀ k, k ≠ key → k ≠ "staged_actions" → dictGet members k = none) ∧
      ∀ w, SandboxedWorker.stageActions sha256 members w
        = (.ok (), w.addAll (staged.map (StagedAction.escrow sha256 sort))) := by
  obtain ⟨actions, hactions, hrun⟩ := exists_decoded_staged (F := F) sha256 sort hstaged
  have hvalues : ∀ m ∈ [(key, v), ("staged_actions", stagedActionsVal staged)],
      ∃ w, decoded sort m.2 = some w := by
    simp only [List.forall_mem_cons, hv, hactions]
    exact ⟨⟨_, rfl⟩, ⟨_, rfl⟩, by simp⟩
  have hnd : ([(key, v), ("staged_actions", stagedActionsVal staged)].map Prod.fst).Nodup := by
    simpa using hkey
  obtain ⟨u, hu⟩ := exists_decoded hvalues
  obtain ⟨members, rfl, hget, hnone⟩ := exists_decoded_object hnd hu
  simp only [List.forall_mem_cons, hv, hactions, Option.some.injEq, exists_eq_left'] at hget
  refine ⟨members, hu, hget.1, fun k hk hk' ↦ hnone k (by simp [hk, hk']), fun w ↦ ?_⟩
  rw [SandboxedWorker.stageActions, hget.2.1]
  exact hrun w

end Envelopes

/-! ## What is sent -/

namespace Job

variable {encode : (v : Val F) → IterEncode Raised v} {job : Job F}

/-- What the parent is told: the result, or what was raised. -/
def told (encode : (v : Val F) → IterEncode Raised v) (job : Job F) : Except Raised (Val F) :=
  match job.executed.1 with
  | .error raised => .error raised
  | .ok result =>
    (sendBoundedJson (encode (.object (resultEnvelope result job.staged))) job.maxOutputBytes).2.elim
      (.ok result) .error

/-- The last frames, after the data. -/
def ending (encode : (v : Val F) → IterEncode Raised v) (job : Job F) : List (Frame Char) :=
  match job.told encode with
  | .ok _ => [.finish]
  | .error raised => report F job.staged raised

/-- **What is sent** are pieces within the bound and an ending. The pieces are the text of the
envelope when the parent is told the result. -/
theorem exists_frames (encode : (v : Val F) → IterEncode Raised v) (job : Job F) :
    ∃ us : List Text, job.frames encode = us.map .data ++ job.ending encode ∧
      us.flatten.length ≤ job.maxOutputBytes ∧ (∀ piece ∈ us, piece.length ≤ 64 * 1024) ∧
      ∀ result, job.told encode = .ok result →
        dumps ⟨true, true⟩ true (.object (resultEnvelope result job.staged)) = some us.flatten := by
  rw [frames, ending, told]
  cases job.executed.1 with
  | error raised =>
    refine ⟨[], rfl, Nat.zero_le _, fun _ h ↦ absurd h List.not_mem_nil, fun result h ↦ ?_⟩
    exact absurd h (by simp)
  | ok result =>
    obtain ⟨us, hsent, hlen, hshort, hwhole⟩ :=
      exists_sendBounded (encode (.object (resultEnvelope result job.staged)))
        (.reported (tooLong job.maxOutputBytes)) job.maxOutputBytes
    refine ⟨us, ?_, hlen, hshort, fun result' h ↦ ?_⟩
    · dsimp only
      rw [sendBoundedJson, hsent]
      cases (sendBounded (encode (.object (resultEnvelope result job.staged)))
          (.reported (tooLong job.maxOutputBytes)) job.maxOutputBytes).2 with
      | none => simp
      | some raised => simp
    · change (sendBounded _ _ _).2.elim _ _ = _ at h
      cases hraised : (sendBounded (encode (.object (resultEnvelope result job.staged)))
          (.reported (tooLong job.maxOutputBytes)) job.maxOutputBytes).2 with
      | none =>
        rw [hraised] at h
        obtain rfl := Except.ok.inj h
        exact hwhole hraised
      | some raised =>
        rw [hraised] at h
        exact absurd h (by simp)

/-- The parent is told a result exactly when the function returns it and its text is within the
bound. -/
theorem told_eq_ok_iff {result : Val F} : job.told encode = .ok result ↔
    job.executed.1 = .ok result ∧
      ∃ text, dumps ⟨true, true⟩ true (.object (resultEnvelope result job.staged)) = some text ∧
        text.length ≤ job.maxOutputBytes := by
  rw [told]
  cases job.executed.1 with
  | error raised => simp
  | ok result' =>
    dsimp only
    rw [sendBoundedJson]
    constructor
    · intro h
      cases hraised : (sendBounded (encode (.object (resultEnvelope result' job.staged)))
          (.reported (tooLong job.maxOutputBytes)) job.maxOutputBytes).2 with
      | none =>
        rw [hraised] at h
        obtain rfl := Except.ok.inj h
        exact ⟨rfl, (sendBounded_eq_none_iff _ _ _).mp hraised⟩
      | some raised =>
        rw [hraised] at h
        exact absurd h (by simp)
    · rintro ⟨h, htext⟩
      obtain rfl := Except.ok.inj h
      rw [(sendBounded_eq_none_iff _ _ _).mpr htext, Option.elim_none]

omit [FloatText F] in
theorem proper_of_mem_staged {a : StagedAction} (ha : a ∈ job.staged) : a.Proper := by
  have hcontained := contained_start job.enableArc job.traceId job.sandboxWorkDir job.func
  rw [staged, executed, hcontained.staged 0] at ha
  obtain ⟨e, -, he⟩ := List.mem_filterMap.mp ha
  exact proper_of_staging he

end Job

/-- The text of an error, and what comes back of it. -/
theorem exists_errorText (sha256 : List UInt8 → String) (message : String) {staged : List StagedAction}
    (hstaged : ∀ a ∈ staged, a.Proper) : ∃ (text : Text) (members : List (Key F × Val F)),
      errorText F message staged = some text ∧ loads text = some (.dict members) ∧
      dictGet members "error" = some (.str message) ∧
      ∀ w, SandboxedWorker.stageActions sha256 members w
        = (.ok (), w.addAll (staged.map (StagedAction.escrow sha256 false))) := by
  have hmessage : decoded false (.str message : Val F) = some (.str message) := decoded_scalar _
  obtain ⟨members, hdecoded, herror, -, hrun⟩ := exists_decoded_envelope sha256 "error" (by decide)
    hmessage hstaged
  obtain ⟨d, hd, hval⟩ := Option.map_eq_some_iff.mp hdecoded
  have htext : errorText F message staged = some (render ⟨true, true⟩ d) := by
    rw [errorText, dumps, errorEnvelope, hd, Option.map_some]
  exact ⟨_, members, htext, by rw [loads_render, hval], herror, hrun⟩

/-! ## What is received -/

section Parent

variable {sha256 : List UInt8 → String} {encode : (v : Val F) → IterEncode Raised v} {job : Job F}
  {polls : List (Poll Char (WorkerError F))} {w : VTICoordinator F} {maxOutputBytes : ℕ}

theorem run_of_error {e : WorkerError F}
    (h : SandboxedWorker.envelope maxOutputBytes polls = .error e) :
    SandboxedWorker.run sha256 maxOutputBytes polls w = (.error e, w) := by
  rw [SandboxedWorker.run, Program.ofExcept_bind_of_error h]

/-- A run with an envelope from which the actions are staged. -/
theorem run_of_envelope {members : List (Key F × Val F)} {w' : VTICoordinator F}
    (h : SandboxedWorker.envelope maxOutputBytes polls = .ok (.dict members))
    (hactions : SandboxedWorker.stageActions sha256 members w = (.ok (), w')) :
    SandboxedWorker.run sha256 maxOutputBytes polls w =
      match dictGet members "error" with
      | some error => (.error (.sandbox error), w')
      | none => (.ok ((dictGet members "result").getD .none), w') := by
  rw [SandboxedWorker.run, Program.ofExcept_bind_of_ok h]
  dsimp only
  rw [Program.bind_of_ok hactions]
  cases dictGet members "error" <;> rfl

theorem exists_error_of_part
    (h : receive maxOutputBytes (64 * 1024 + 1) [] polls = none ∨ ∃ reason, .ends reason ∈ polls ∧
      receive maxOutputBytes (64 * 1024 + 1) [] polls = some (.ended reason)) :
    ∃ e, SandboxedWorker.run sha256 maxOutputBytes polls w = (.error e, w) := by
  obtain h | ⟨reason, -, h⟩ := h
  · exact ⟨_, run_of_error (by rw [SandboxedWorker.envelope, h])⟩
  · exact ⟨_, run_of_error (by rw [SandboxedWorker.envelope, h])⟩

theorem take_length_add_one_le (text : Text) : (text.take (64 * 1024)).length + 1 ≤ 64 * 1024 + 1 :=
  Nat.add_le_add_right (List.length_take_le _ _) 1

/-- The error of a job is short enough to arrive whole. -/
def Job.Fits (job : Job F) (message : String) : Prop :=
  ((errorText F message job.staged).getD []).length ≤ 64 * 1024

instance (job : Job F) (message : String) : Decidable (job.Fits message) :=
  inferInstanceAs (Decidable (_ ≤ _))

/-- A run of a worker is the function's, or an error that leaves the coordinator alone. -/
structure Answered (sha256 : List UInt8 → String) (encode : (v : Val F) → IterEncode Raised v)
    (job : Job F) (polls : List (Poll Char (WorkerError F))) (w : VTICoordinator F)
    (r : Except (WorkerError F) (Val F) × VTICoordinator F) : Prop where
  part : Frames.frames polls ≠ job.frames encode → ∃ e, r = (.error e, w)
  result : ∀ result, job.told encode = .ok result → Frames.frames polls = job.frames encode →
    ∃ value, decoded true result = some value ∧
      r = (.ok value, w.addAll (job.staged.map (StagedAction.escrow sha256 true)))
  error : ∀ message, job.told encode = .error (.reported message) →
    Frames.frames polls = job.frames encode →
    r = if job.Fits message then
        (.error (.sandbox (.str message)),
          w.addAll (job.staged.map (StagedAction.escrow sha256 false)))
      else (.error .undecodable, w)
  silent : job.told encode = .error .other → ∃ e, r = (.error e, w)

theorem report_reported {message : String} {staged : List StagedAction} {text : Text}
    (h : errorText F message staged = some text) :
    report F staged (.reported message) = [last (some (text.take (64 * 1024)))] := by
  rw [report, h]
  rfl

/-- A run of which the parent is told the result. -/
theorem run_of_result {us : List Text} {result : Val F}
    (hreceives : Receives (us.map .data ++ [last none]) (outcome us.flatten none) polls
      (receive job.maxOutputBytes (64 * 1024 + 1) [] polls))
    (htext : dumps ⟨true, true⟩ true (.object (resultEnvelope result job.staged)) = some us.flatten)
    (hframes : Frames.frames polls = us.map .data ++ [last none]) :
    ∃ value, decoded true result = some value ∧
      SandboxedWorker.run sha256 job.maxOutputBytes polls w
        = (.ok value, w.addAll (job.staged.map (StagedAction.escrow sha256 true))) := by
  have hloads := loads_of_dumps htext
  obtain ⟨value, hvalue⟩ : ∃ value, decoded true result = some value := by
    obtain ⟨d, hd, -⟩ := Option.map_eq_some_iff.mp htext
    rw [toDoc_object, Option.map_eq_some_iff] at hd
    obtain ⟨ms, hms, -⟩ := hd
    rw [resultEnvelope, objDocs, Option.bind_eq_some_iff] at hms
    obtain ⟨e, he, -⟩ := hms
    exact ⟨ofDoc e, by rw [decoded, he, Option.map_some]⟩
  obtain ⟨members, hdecoded, hget, hnone, hrun⟩ := exists_decoded_envelope sha256 "result" (by decide)
    hvalue fun a (ha : a ∈ job.staged) ↦ Job.proper_of_mem_staged ha
  have henvelope : SandboxedWorker.envelope job.maxOutputBytes polls = .ok (.dict members) := by
    rw [SandboxedWorker.envelope, hreceives.whole hframes, outcome, Option.elim_none]
    dsimp only
    rw [hloads, resultEnvelope, hdecoded]
  refine ⟨value, hvalue, ?_⟩
  rw [run_of_envelope henvelope (hrun w), hnone "error" (by decide) (by decide), hget]
  rfl

/-- A run of which the parent is told an error. -/
theorem run_of_reported {us : List Text} {message : String} {text : Text}
    (htext : errorText F message job.staged = some text)
    (hreceives : Receives (us.map .data ++ [last (some (text.take (64 * 1024)))])
      (outcome us.flatten (some (text.take (64 * 1024)))) polls
      (receive job.maxOutputBytes (64 * 1024 + 1) [] polls))
    (hframes : Frames.frames polls = us.map .data ++ [last (some (text.take (64 * 1024)))]) :
    SandboxedWorker.run sha256 job.maxOutputBytes polls w =
      if job.Fits message then
        (.error (.sandbox (.str message)),
          w.addAll (job.staged.map (StagedAction.escrow sha256 false)))
      else (.error .undecodable, w) := by
  have henvelope : SandboxedWorker.envelope job.maxOutputBytes polls =
      match loads (text.take (64 * 1024)) with
      | none => .error .undecodable
      | some .none => .error (.runtime "Sandbox returned no result")
      | some decoded => .ok decoded := by
    rw [SandboxedWorker.envelope, hreceives.whole hframes, outcome, Option.elim_some]
  have hfits : job.Fits message ↔ text.length ≤ 64 * 1024 := by
    rw [Job.Fits, htext, Option.getD_some]
  split_ifs with h
  · obtain ⟨text', members, htext', hloads, herror, hrun⟩ := exists_errorText (F := F) sha256 message
      fun a (ha : a ∈ job.staged) ↦ Job.proper_of_mem_staged ha
    obtain rfl := Option.some.inj (htext.symm.trans htext')
    rw [List.take_of_length_le (hfits.mp h), hloads] at henvelope
    rw [run_of_envelope henvelope (hrun w), herror]
  · rw [loads_take_dumps htext (not_le.mp (mt hfits.mpr h))] at henvelope
    exact run_of_error henvelope

/-- **Isolation is faithful.** Whatever the parent finds of the frames, and whenever it gives up: it
returns what the function returns, as JSON gives it back, and stages what the function was refused;
or it raises. When it raises without all of the child's report, nothing was staged. -/
theorem run_answered (sha256 : List UInt8 → String) (w : VTICoordinator F)
    (hpolls : Frames.frames polls <+: job.frames encode) :
    Answered sha256 encode job polls w
      (SandboxedWorker.run sha256 job.maxOutputBytes polls w) := by
  obtain ⟨us, hframes, hlen, hshort, hresult⟩ := job.exists_frames encode
  have hsize : ∀ piece ∈ us, piece.length + 1 ≤ 64 * 1024 + 1 :=
    fun piece hpiece ↦ Nat.add_le_add_right (hshort piece hpiece) 1
  have hbound : ([] : Text).length + us.flatten.length ≤ job.maxOutputBytes := by simpa using hlen
  rw [Job.ending] at hframes
  cases htold : job.told encode with
  | ok result =>
    rw [htold] at hframes
    have hreceives := receives_pieces [] none (hframes ▸ hpolls) hsize
      (Nat.le_add_left 1 (64 * 1024)) hbound
    refine ⟨fun hne ↦ exists_error_of_part (hreceives.part (hframes ▸ hne)), ?_, ?_, ?_⟩
    · rintro result' hresult' hall
      obtain rfl := Except.ok.inj (htold.symm.trans hresult')
      exact run_of_result hreceives (hresult _ htold) (hframes ▸ hall)
    · exact fun message h ↦ absurd (htold.symm.trans h) (by simp)
    · exact fun h ↦ absurd (htold.symm.trans h) (by simp)
  | error raised =>
    rw [htold] at hframes
    cases raised with
    | reported message =>
      obtain ⟨text, -, htext, -⟩ := exists_errorText (F := F) sha256 message
        fun a (ha : a ∈ job.staged) ↦ Job.proper_of_mem_staged ha
      dsimp only at hframes
      rw [report_reported htext] at hframes
      have hreceives := receives_pieces [] (some (text.take (64 * 1024))) (hframes ▸ hpolls) hsize
        (take_length_add_one_le text) hbound
      refine ⟨fun hne ↦ exists_error_of_part (hreceives.part (hframes ▸ hne)), ?_, ?_, ?_⟩
      · exact fun result h ↦ absurd (htold.symm.trans h) (by simp)
      · intro message' h hall
        obtain rfl := Raised.reported.inj (Except.error.inj (htold.symm.trans h))
        exact run_of_reported htext hreceives (hframes ▸ hall)
      · exact fun h ↦ absurd (htold.symm.trans h) (by simp)
    | other =>
      dsimp only at hframes
      rw [report, List.append_nil] at hframes
      have hpart := receive_of_unfinished (hframes ▸ hpolls) hsize (by omega) hbound
      refine ⟨fun _ ↦ exists_error_of_part hpart, ?_, ?_, fun _ ↦ exists_error_of_part hpart⟩
      · exact fun result h ↦ absurd (htold.symm.trans h) (by simp)
      · exact fun message h ↦ absurd (htold.symm.trans h) (by simp)

section Answered

variable {r : Except (WorkerError F) (Val F) × VTICoordinator F} {w' : VTICoordinator F}

theorem Answered.eq_ok_iff (h : Answered sha256 encode job polls w r) {value : Val F} :
    r = (.ok value, w') ↔ Frames.frames polls = job.frames encode ∧
      w' = w.addAll (job.staged.map (StagedAction.escrow sha256 true)) ∧
      ∃ result, job.told encode = .ok result ∧ decoded true result = some value := by
  constructor
  · rintro rfl
    have hall : Frames.frames polls = job.frames encode := by
      by_contra hne
      obtain ⟨e, he⟩ := h.part hne
      exact absurd he (by simp)
    cases htold : job.told encode with
    | ok result =>
      obtain ⟨value', hdecoded, heq⟩ := h.result result htold hall
      obtain ⟨hvalue, hw⟩ := Prod.mk.inj heq
      exact ⟨hall, hw, result, rfl, Except.ok.inj hvalue ▸ hdecoded⟩
    | error raised =>
      cases raised with
      | reported message =>
        have heq := h.error message htold hall
        split_ifs at heq
        · exact absurd heq (by simp)
        · exact absurd heq (by simp)
      | other =>
        obtain ⟨e, he⟩ := h.silent htold
        exact absurd he (by simp)
  · rintro ⟨hall, rfl, result, htold, hdecoded⟩
    obtain ⟨value', hdecoded', heq⟩ := h.result result htold hall
    rw [heq, Option.some.inj (hdecoded.symm.trans hdecoded')]

/-- What may be left of a run that raises. -/
theorem Answered.of_error {e : WorkerError F} (h : Answered sha256 encode job polls w (.error e, w')) :
    w' = w ∨ Frames.frames polls = job.frames encode ∧
      w' = w.addAll (job.staged.map (StagedAction.escrow sha256 false)) ∧
      ∃ message, job.told encode = .error (.reported message) ∧ job.Fits message ∧
        e = .sandbox (.str message) := by
  by_cases hall : Frames.frames polls = job.frames encode
  · cases htold : job.told encode with
    | ok result =>
      obtain ⟨value, -, heq⟩ := h.result result htold hall
      exact absurd heq (by simp)
    | error raised =>
      cases raised with
      | reported message =>
        have heq := h.error message htold hall
        split_ifs at heq with hfits
        · obtain ⟨he, hw⟩ := Prod.mk.inj heq
          exact Or.inr ⟨hall, hw, message, rfl, hfits, Except.error.inj he⟩
        · exact Or.inl (Prod.mk.inj heq).2
      | other =>
        obtain ⟨e', he⟩ := h.silent htold
        exact Or.inl (Prod.mk.inj he).2
  · obtain ⟨e', he⟩ := h.part hall
    exact Or.inl (Prod.mk.inj he).2

end Answered

/-- **What a worker returns.** It returns a value exactly when all frames are found and the function
returned it, within the bound, up to a round trip through JSON; then it stages what the function was
refused. When it raises, it leaves the coordinator alone unless all of the child's report is found
and was not cut off. -/
theorem run_returns (sha256 : List UInt8 → String) (w : VTICoordinator F)
    (hpolls : Frames.frames polls <+: job.frames encode) :
    (∀ value w', SandboxedWorker.run sha256 job.maxOutputBytes polls w = (.ok value, w') ↔
      Frames.frames polls = job.frames encode ∧
        w' = w.addAll (job.staged.map (StagedAction.escrow sha256 true)) ∧
        ∃ result, (job.executed.1 = .ok result ∧ ∃ text,
          dumps ⟨true, true⟩ true (.object (resultEnvelope result job.staged)) = some text ∧
            text.length ≤ job.maxOutputBytes) ∧ decoded true result = some value) ∧
      ∀ e w', SandboxedWorker.run sha256 job.maxOutputBytes polls w = (.error e, w') →
        w' = w ∨ Frames.frames polls = job.frames encode ∧
          w' = w.addAll (job.staged.map (StagedAction.escrow sha256 false)) ∧
          ∃ message, job.told encode = .error (.reported message) ∧ job.Fits message ∧
            e = .sandbox (.str message) := by
  have hanswered := run_answered sha256 w hpolls
  refine ⟨fun value w' ↦ ?_, fun e w' h ↦ ?_⟩
  · rw [hanswered.eq_ok_iff]
    refine and_congr_right fun _ ↦ and_congr_right fun _ ↦ exists_congr fun result ↦ ?_
    rw [Job.told_eq_ok_iff]
  · rw [h] at hanswered
    exact hanswered.of_error

def sampleResult : Val WholeFloat := .dict [(.str "refused", .bool true)]

/-- A function that tries a shell command, and returns whether that was refused. -/
def sampleFunc : Func (Val WholeFloat) :=
  .act 0 (.audited ⟨"os.system", "ls", "", none, none, fun _ ↦ none⟩) fun refusal ↦
    .returns (.dict [(.str "refused", .bool refusal.isSome)])

def sampleJob : Job WholeFloat where
  enableArc := false
  traceId := "t"
  sandboxWorkDir := "work"
  func := sampleFunc
  maxOutputBytes := 1024

def jobEncode : (v : Val WholeFloat) → IterEncode Raised v := .atOnce .other

def sampleReport : List (Poll Char (WorkerError WholeFloat)) :=
  (sampleJob.frames jobEncode).map .frame

theorem frames_sampleReport : frames sampleReport = sampleJob.frames jobEncode := frames_map_frame _

theorem prefix_sampleReport : frames sampleReport <+: sampleJob.frames jobEncode :=
  frames_sampleReport ▸ List.prefix_rfl

/-- The function goes on after the refusal, and its result arrives with the action. -/
theorem run_returns_sample : SandboxedWorker.run (fun _ ↦ "00") 1024 sampleReport .empty
    = (.ok sampleResult,
      VTICoordinator.empty.addAll (sampleJob.staged.map (StagedAction.escrow (fun _ ↦ "00") true))) := by
  have htext : (dumps ⟨true, true⟩ true (.object (resultEnvelope sampleResult sampleJob.staged))).any
      (fun text ↦ text.length ≤ 1024) = true := by
    decide +kernel
  obtain ⟨text, htext, hle⟩ := (Option.any_eq_true _ _).mp htext
  exact ((run_returns (fun _ ↦ "00") .empty prefix_sampleReport).1 _ _).mpr
    ⟨frames_sampleReport, rfl, _, ⟨rfl, text, htext, of_decide_eq_true hle⟩, rfl⟩

/-- The actions that a run stages. -/
def Job.delivered (sha256 : List UInt8 → String) (encode : (v : Val F) → IterEncode Raised v)
    (job : Job F) (polls : List (Poll Char (WorkerError F))) : List (CryptographicEscrow F) :=
  if Frames.frames polls = job.frames encode then
    match job.told encode with
    | .ok _ => job.staged.map (StagedAction.escrow sha256 true)
    | .error (.reported message) =>
      if job.Fits message then job.staged.map (StagedAction.escrow sha256 false) else []
    | .error .other => []
  else []

theorem snd_run (hpolls : Frames.frames polls <+: job.frames encode) :
    (SandboxedWorker.run sha256 job.maxOutputBytes polls w).2
      = w.addAll (job.delivered sha256 encode polls) := by
  obtain ⟨hpart, hresult, herror, hsilent⟩ := run_answered sha256 w hpolls
  rw [Job.delivered]
  split_ifs with hall
  · cases htold : job.told encode with
    | ok result =>
      obtain ⟨value, -, hrun⟩ := hresult result htold hall
      rw [hrun]
    | error raised =>
      cases raised with
      | reported message =>
        rw [herror message htold hall]
        dsimp only
        split_ifs <;> rfl
      | other =>
        obtain ⟨e, hrun⟩ := hsilent htold
        rw [hrun]
        rfl
  · obtain ⟨e, hrun⟩ := hpart hall
    rw [hrun]
    rfl

/-- A delivered action is what the function was refused in its main thread, and did not perform. -/
theorem exists_refused_of_mem_delivered {e : CryptographicEscrow F}
    (he : e ∈ job.delivered sha256 encode polls) : ∃ op a sort, (0, op) ∈ job.executed.2.tried ∧
      (0, op) ∉ job.executed.2.performed ∧ staging job.traceId op = some a ∧
      e = a.escrow sha256 sort := by
  have hstaged : ∃ a ∈ job.staged, ∃ sort, e = a.escrow sha256 sort := by
    rw [Job.delivered] at he
    split_ifs at he
    · split at he
      · obtain ⟨a, ha, rfl⟩ := List.mem_map.mp he
        exact ⟨a, ha, true, rfl⟩
      · split_ifs at he
        · obtain ⟨a, ha, rfl⟩ := List.mem_map.mp he
          exact ⟨a, ha, false, rfl⟩
        · exact absurd he List.not_mem_nil
      · exact absurd he List.not_mem_nil
    · exact absurd he List.not_mem_nil
  obtain ⟨a, ha, sort, rfl⟩ := hstaged
  have hcontained := contained_start job.enableArc job.traceId job.sandboxWorkDir job.func
  rw [Job.staged, Job.executed, hcontained.staged 0] at ha
  obtain ⟨⟨thread, op⟩, hmem, hstaging⟩ := List.mem_filterMap.mp ha
  obtain ⟨htried, hnot⟩ := List.mem_filter.mp hmem
  obtain ⟨rfl, hnot⟩ := of_decide_eq_true hnot
  refine ⟨op, a, sort, htried, fun hdone ↦ hnot ?_, hstaging, rfl⟩
  rw [Job.executed, hcontained.performed] at hdone
  exact of_decide_eq_true (List.mem_filter.mp hdone).2

end Parent

/-! ## The whole system -/

section System

/-- A call of the coordinator or of an oracle, or a run of a worker with what its parent finds. -/
inductive Move (F : Type) [FloatText F] where
  | request (request : Request F)
  | worker (job : Job F) (polls : List (Poll Char (WorkerError F)))

variable (sha256 : List UInt8 → String) (encode : (v : Val F) → IterEncode Raised v)

namespace Move

def run : Move F → VTICoordinator F → VTICoordinator F
  | .request r, w => (r.run sha256 w).2
  | .worker job polls, w => (SandboxedWorker.run sha256 job.maxOutputBytes polls w).2

/-- What the parent finds is what the child sends. -/
def Genuine : Move F → Prop
  | .request _ => True
  | .worker job polls => Frames.frames polls <+: job.frames encode

def events : Move F → List (Staging.Event String (CryptographicEscrow F))
  | .request r => r.events sha256
  | .worker job polls => (job.delivered sha256 encode polls).map .stage

end Move

variable {sha256 encode} {w : VTICoordinator F}
  {s : Staging.State String (CryptographicEscrow F)} {moves : List (Move F)}

omit [FloatText F] in
theorem represents_addAll (h : Represents w s) {escrows : List (CryptographicEscrow F)}
    (hescrows : ∀ e ∈ escrows, e.status = .staged) :
    Represents (w.addAll escrows) ((escrows.map .stage).foldl stagingStep s) := by
  induction escrows generalizing w s with
  | nil => exact h
  | cons e escrows ih =>
    obtain ⟨he, hescrows⟩ := List.forall_mem_cons.mp hescrows
    exact ih (h.stage he) hescrows

/-- **One move** does to the actions what its events say. -/
theorem represents_move (h : Represents w s) {move : Move F} (hmove : move.Genuine encode) :
    Represents (move.run sha256 w) ((move.events sha256 encode).foldl stagingStep s) := by
  cases move with
  | request request => exact represents_run h request
  | worker job polls =>
    rw [Move.run, snd_run hmove]
    refine represents_addAll h fun e he ↦ ?_
    obtain ⟨op, a, sort, -, -, -, rfl⟩ := exists_refused_of_mem_delivered he
    rfl

variable (sha256) in
/-- The coordinator after some moves. -/
def systemAfter (moves : List (Move F)) : VTICoordinator F :=
  moves.foldl (fun w move ↦ move.run sha256 w) .empty

theorem represents_systemAfter (sha256 : List UInt8 → String)
    (hmoves : ∀ move ∈ moves, move.Genuine encode) :
    Represents (systemAfter sha256 moves)
      (Staging.run CryptographicEscrow.traceId (moves.flatMap (Move.events sha256 encode))) := by
  induction moves using List.reverseRecOn with
  | nil => exact ⟨rfl, rfl, fun _ e he ↦ absurd he List.not_mem_nil⟩
  | append_singleton moves move ih =>
    obtain ⟨hmoves, hmove⟩ := List.forall_mem_append.mp hmoves
    rw [systemAfter, List.foldl_append, List.flatMap_append, Staging.run, List.foldl_append,
      List.flatMap_singleton]
    exact represents_move (ih hmoves) (hmove move List.mem_cons_self)

/-- Where an escrow comes from. -/
def Origin (sha256 : List UInt8 → String) (moves : List (Move F)) (e : CryptographicEscrow F) : Prop :=
  (∃ traceId actionType payload, .request (.stage traceId actionType payload) ∈ moves ∧
      CryptographicEscrow.make sha256 traceId actionType payload = .ok e) ∨
    ∃ job polls op a sort, .worker job polls ∈ moves ∧ (0, op) ∈ job.executed.2.tried ∧
      (0, op) ∉ job.executed.2.performed ∧ staging job.traceId op = some a ∧
      e = a.escrow sha256 sort

/-- What a call stages is what `make` returns. -/
theorem exists_stage_of_mem_events {request : Request F} {e : CryptographicEscrow F}
    (he : .stage e ∈ request.events sha256) :
    ∃ traceId actionType payload, request = .stage traceId actionType payload ∧
      CryptographicEscrow.make sha256 traceId actionType payload = .ok e := by
  cases request with
  | stage traceId actionType payload =>
    rw [Request.events] at he
    split at he
    · rename_i hmake
      obtain rfl := Staging.Event.stage.inj (List.mem_singleton.mp he)
      exact ⟨traceId, actionType, payload, rfl, hmake⟩
    · exact absurd he List.not_mem_nil
  | commit traceId signature =>
    rw [Request.events] at he
    split_ifs at he <;> simp at he
  | rollback traceId => exact absurd (List.mem_singleton.mp he) (by simp)
  | evaluate oracle traceId result hex => exact absurd (List.mem_singleton.mp he) (by simp)

theorem origin_of_mem_events {e : CryptographicEscrow F}
    (he : .stage e ∈ moves.flatMap (Move.events sha256 encode)) : Origin sha256 moves e := by
  obtain ⟨move, hmove, hevent⟩ := List.mem_flatMap.mp he
  cases move with
  | request request =>
    obtain ⟨traceId, actionType, payload, rfl, hmake⟩ := exists_stage_of_mem_events hevent
    exact Or.inl ⟨traceId, actionType, payload, hmove, hmake⟩
  | worker job polls =>
    obtain ⟨e', he', heq⟩ := List.mem_map.mp hevent
    obtain rfl := Staging.Event.stage.inj heq
    obtain ⟨op, a, sort, htried, hnot, hstaging, rfl⟩ := exists_refused_of_mem_delivered he'
    exact Or.inr ⟨job, polls, op, a, sort, hmove, htried, hnot, hstaging, rfl⟩

/-- **Effects are committed by decision only.** After any runs of workers, calls and decisions of
oracles, the committed actions of a trace are, in order and each once, the delivered ones for which
the first decision about the trace after they arrived cleared it. Each of them was staged by a call,
or is what a function was refused and did not perform. -/
theorem committed_effects (hmoves : ∀ move ∈ moves, move.Genuine encode) :
    let events := moves.flatMap (Move.events sha256 encode)
    let w := systemAfter sha256 moves
    (∀ traceId, (w.committedActions.filter fun e ↦ e.traceId = traceId)
          = (Staging.itemsWith CryptographicEscrow.traceId traceId (some true) events).map
            CryptographicEscrow.commit ∧
        w.getStagedActions traceId
          = Staging.itemsWith CryptographicEscrow.traceId traceId none events) ∧
      ∀ c ∈ w.committedActions, ∃ e, c = e.commit ∧ Origin sha256 moves e := by
  intro events w
  have hfates := (represents_systemAfter sha256 hmoves).fates
  refine ⟨hfates, fun c hc ↦ ?_⟩
  have hmem : c ∈ w.committedActions.filter fun e ↦ e.traceId = c.traceId :=
    List.mem_filter.mpr ⟨hc, decide_eq_true rfl⟩
  rw [(hfates c.traceId).1] at hmem
  obtain ⟨e, he, rfl⟩ := List.mem_map.mp hmem
  exact ⟨e, rfl, origin_of_mem_events (Staging.stage_mem_of_mem_itemsWith he)⟩

end System

/-- The function is run, and its trace is cleared. -/
def sampleMoves : List (Move WholeFloat) :=
  [.worker sampleJob sampleReport, .request (.commit "t" "GAT-CLEAR-1")]

/-- The command that the function was refused is committed. -/
theorem committed_effects_sample :
    ((systemAfter (fun _ ↦ "00") sampleMoves).committedActions.filter fun e ↦ e.traceId = "t").map
      CryptographicEscrow.actionType = ["SHELL_EXEC"] := by
  have hgenuine : ∀ move ∈ sampleMoves, move.Genuine jobEncode := by
    rw [sampleMoves, List.forall_mem_cons, List.forall_mem_singleton]
    exact ⟨prefix_sampleReport, trivial⟩
  obtain ⟨heffects, -⟩ := @committed_effects _ _ (fun _ ↦ "00") _ _ hgenuine
  rw [(heffects "t").1]
  decide +kernel

end DriftGuardX.Sandbox
