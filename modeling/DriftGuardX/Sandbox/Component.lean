import DriftGuardX.Foundation.Frames
import DriftGuardX.Json.Access
import DriftGuardX.Json.Truncation

/-!
# Components in processes of their own

A replay executes a component in a child process, which sends its output as JSON in data frames. All
exceptions of the child are reported in an error frame, with the name of their type; the text is cut
off after 4096 characters, and what is cut off cannot be read (`loads_take_dumps`).

The parent returns an output exactly when it is a dictionary whose text is within the bound and all
frames are found, and what it returns is the output as JSON gives it back (`executed_isolated`).

All texts are ASCII, so that characters stand for bytes.
-/

namespace DriftGuardX.Sandbox

open Json Frames

variable {F E : Type} [FloatText F]

/-! ## Sending JSON -/

/-- What `iterencode` yields of a value, and what it raises after that. The value is not nested so
deeply that the recursion limit is reached. -/
structure IterEncode (E : Type) (v : Val F) where
  chunks : List Text
  raised : Option E
  whole : raised = none → dumps ⟨true, true⟩ true v = some chunks.flatten
  refused : raised ≠ none → dumps ⟨true, true⟩ true v = none

/-- The encoder that yields a text at once. -/
def IterEncode.atOnce (error : E) (v : Val F) : IterEncode E v :=
  match h : dumps ⟨true, true⟩ true v with
  | none => ⟨[], some error, fun hnone ↦ absurd hnone (Option.some_ne_none error), fun _ ↦ h⟩
  | some text => ⟨[text], none, fun _ ↦ h.trans (congrArg some (List.flatten_singleton).symm),
      fun hsome ↦ absurd rfl hsome⟩

/-- The loop over the chunks and their slices, and the frame after it: the frames, and what is
raised after them. -/
def sendBounded {v : Val F} (encoding : IterEncode E v) (tooLong : E) (maxOutputBytes : ℕ) :
    List (Frame Char) × Option E :=
  let sent := emit maxOutputBytes 0 (encoding.chunks.flatMap (slices (64 * 1024)))
  if sent.2 then
    match encoding.raised with
    | none => (sent.1 ++ [.finish], none)
    | some raised => (sent.1, some raised)
  else (sent.1, some tooLong)

section Sending

variable {v : Val F} {encoding : IterEncode E v} {tooLong : E} {maxOutputBytes : ℕ}

theorem sendBounded_eq_none_iff (encoding : IterEncode E v) (tooLong : E) (maxOutputBytes : ℕ) :
    (sendBounded encoding tooLong maxOutputBytes).2 = none ↔
    ∃ text, dumps ⟨true, true⟩ true v = some text ∧ text.length ≤ maxOutputBytes := by
  have hslice : 0 < 64 * 1024 := by omega
  obtain ⟨us, -, -, -, hsnd, -⟩ := exists_emit_chunks hslice maxOutputBytes encoding.chunks
  rw [sendBounded]
  cases hraised : encoding.raised with
  | none =>
    have htext := encoding.whole hraised
    split_ifs with hsent
    · exact ⟨fun _ ↦ ⟨_, htext, hsnd.mp hsent⟩, fun _ ↦ rfl⟩
    · refine ⟨fun h ↦ absurd h (by simp), ?_⟩
      rintro ⟨text, htext', hle⟩
      obtain rfl := Option.some.inj (htext.symm.trans htext')
      exact absurd (hsnd.mpr hle) hsent
  | some raised =>
    have htext := encoding.refused (by rw [hraised]; exact Option.some_ne_none raised)
    constructor
    · intro h
      split_ifs at h
    · rintro ⟨text, htext', -⟩
      exact absurd (htext.symm.trans htext') (by simp)

/-- **What is sent** are pieces within the bound. They are the text when nothing is raised. -/
theorem exists_sendBounded (encoding : IterEncode E v) (tooLong : E) (maxOutputBytes : ℕ) :
    ∃ us : List Text, (sendBounded encoding tooLong maxOutputBytes).1 = us.map .data ++
        (sendBounded encoding tooLong maxOutputBytes).2.elim [.finish] (fun _ ↦ []) ∧
      us.flatten.length ≤ maxOutputBytes ∧ (∀ piece ∈ us, piece.length ≤ 64 * 1024) ∧
      ((sendBounded encoding tooLong maxOutputBytes).2 = none →
        dumps ⟨true, true⟩ true v = some us.flatten) := by
  have hslice : 0 < 64 * 1024 := by omega
  obtain ⟨us, hfst, hlen, hshort, hsnd, hall⟩ :=
    exists_emit_chunks hslice maxOutputBytes encoding.chunks
  refine ⟨us, ?_, hlen, hshort, fun h ↦ ?_⟩
  · rw [sendBounded, hfst]
    cases encoding.raised <;> split_ifs <;> simp
  · rw [sendBounded] at h
    split_ifs at h with hsent
    cases hraised : encoding.raised with
    | none => rw [hall (hsnd.mp hsent), encoding.whole hraised]
    | some raised =>
      rw [hraised] at h
      exact absurd h (by simp)

end Sending

theorem loads_take_dumps {sort : Bool} {st : Style} {kvs : List (String × Val F)} {text : Text} {n : ℕ}
    (h : dumps st sort (.object kvs) = some text) (hlong : n < text.length) :
    loads (text.take n) = (none : Option (Val F)) := by
  obtain ⟨ms, rfl⟩ := exists_render_of_dumps h
  rw [loads, parse_truncated (List.take_append_drop n _), Option.map_none]
  exact fun hnil ↦ absurd (List.drop_eq_nil_iff.mp hnil) (by omega)

/-! ## The child -/

/-- An exception: the name of its type and its text. -/
structure Exc where
  errorType : String
  message : String

/-- The text of an error, before it is cut off. -/
def componentError (F : Type) [FloatText F] (exc : Exc) : Option Text :=
  dumps ⟨true, true⟩ false
    (.object [("error_type", (.str exc.errorType : Val F)), ("message", .str exc.message)])

/-- The `except` clause. -/
def componentReport (F : Type) [FloatText F] (exc : Exc) : List (Frame Char) :=
  match componentError F exc with
  | none => []
  | some error => [.fail (error.take 4096)]

def outputTooLong : Exc := ⟨"MemoryError", "Component output exceeded resource bounds"⟩

/-- `_component_process_entry`, from what the executor returns or raises. -/
def componentProcessEntry (encode : (v : Val F) → IterEncode Exc v) (maxOutputBytes : ℕ)
    (executed : Except Exc (Val F)) : List (Frame Char) :=
  match executed with
  | .error exc => componentReport F exc
  | .ok output =>
    let sent := sendBounded (encode output) outputTooLong maxOutputBytes
    sent.1 ++ sent.2.elim [] (componentReport F)

/-- What the child catches: of the executor, or of sending its output. -/
def reported (encode : (v : Val F) → IterEncode Exc v) (maxOutputBytes : ℕ) :
    Except Exc (Val F) → Option Exc
  | .error exc => some exc
  | .ok output => (sendBounded (encode output) outputTooLong maxOutputBytes).2

/-! ## The parent -/

inductive ExecutionError where
  | memory (message : String)
  | timeout
  /-- The process ended without a result, a frame was of no kind, or the child reported an error. -/
  | runtime (message : String)
  | endOfFile
  | frameTooLong
  | undecodable
  | notDictionary
  | malformed
  deriving DecidableEq

/-- A text under a key of an error, or what stands for it. -/
def textOr (members : List (Key F × Val F)) (key default : String) : Option String :=
  match dictGet members key with
  | none => some default
  | some (.str s) => some s
  | some _ => none

/-- What an error frame raises. -/
def reportedError (message : Text) : ExecutionError :=
  match (loads message : Option (Val F)) with
  | none => .undecodable
  | some (.dict members) =>
    match textOr members "error_type" "RuntimeError",
      textOr members "message" "Component execution failed" with
    | some errorType, some message =>
      if errorType = "MemoryError" then .memory message
      else .runtime (errorType ++ ": " ++ message)
    | _, _ => .malformed
  | some _ => .malformed

/-- `_execute_component_isolated`. When there is nothing more to find the deadline has passed. -/
def executeComponentIsolated (maxOutputBytes : ℕ) (polls : List (Poll Char ExecutionError)) :
    Except ExecutionError (List (Key F × Val F)) :=
  match receive maxOutputBytes (64 * 1024 + 4097) [] polls with
  | none => .error .timeout
  | some (.ended reason) => .error reason
  | some .overlong => .error .frameTooLong
  | some .overflow => .error (.memory "Component output exceeded resource bounds")
  | some (.finished payload) =>
    match loads payload with
    | none => .error .undecodable
    | some (.dict members) => .ok members
    | some _ => .error .notDictionary
  | some (.failed message) => .error (reportedError (F := F) message)

/-! ## Parent and child -/

section Isolated

variable {encode : (v : Val F) → IterEncode Exc v} {maxOutputBytes : ℕ} {executed : Except Exc (Val F)}
  {polls : List (Poll Char ExecutionError)} {us : List Text}

theorem exists_componentError (F : Type) [FloatText F] (exc : Exc) : ∃ text,
    componentError F exc = some text ∧ reportedError (F := F) text =
      if exc.errorType = "MemoryError" then .memory exc.message
      else .runtime (exc.errorType ++ ": " ++ exc.message) := by
  have hvalues : ∀ m ∈ [("error_type", (.str exc.errorType : Val F)), ("message", .str exc.message)],
      ∃ w, decoded false m.2 = some w := by
    simp only [List.forall_mem_cons, decoded_scalar]
    exact ⟨⟨_, rfl⟩, ⟨_, rfl⟩, by simp⟩
  have hnd : ([("error_type", (.str exc.errorType : Val F)), ("message", .str exc.message)].map
      Prod.fst).Nodup := by simp
  obtain ⟨v, hv⟩ := exists_decoded hvalues
  obtain ⟨members, rfl, hget, -⟩ := exists_decoded_object hnd hv
  simp only [List.forall_mem_cons, decoded_scalar, Option.some.injEq, exists_eq_left'] at hget
  obtain ⟨d, hd, hval⟩ := Option.map_eq_some_iff.mp hv
  refine ⟨render ⟨true, true⟩ d, by rw [componentError, dumps, hd, Option.map_some], ?_⟩
  rw [reportedError, loads_render, hval]
  dsimp only
  rw [textOr, textOr, hget.1, hget.2.1]

theorem reportedError_take {exc : Exc} {text : Text} (htext : componentError F exc = some text)
    (hshort : text.length ≤ 4096) : reportedError (F := F) (text.take 4096) =
      if exc.errorType = "MemoryError" then .memory exc.message
      else .runtime (exc.errorType ++ ": " ++ exc.message) := by
  obtain ⟨text', htext', hreported⟩ := exists_componentError F exc
  obtain rfl := Option.some.inj (htext.symm.trans htext')
  rw [List.take_of_length_le hshort, hreported]

/-- What the parent returns, and when it does. -/
structure Isolated (encode : (v : Val F) → IterEncode Exc v) (maxOutputBytes : ℕ)
    (executed : Except Exc (Val F)) (polls : List (Poll Char ExecutionError))
    (r : Except ExecutionError (List (Key F × Val F))) : Prop where
  returns : ∀ members, r = .ok members ↔
    frames polls = componentProcessEntry encode maxOutputBytes executed ∧
      ∃ output text, executed = .ok output ∧ dumps ⟨true, true⟩ true output = some text ∧
        text.length ≤ maxOutputBytes ∧ decoded true output = some (.dict members)
  raises : ∀ exc text, reported encode maxOutputBytes executed = some exc →
    componentError F exc = some text →
    frames polls = componentProcessEntry encode maxOutputBytes executed →
    r = .error (if 4096 < text.length then .undecodable
      else if exc.errorType = "MemoryError" then .memory exc.message
      else .runtime (exc.errorType ++ ": " ++ exc.message))

theorem not_ok_of_part (h : receive maxOutputBytes (64 * 1024 + 4097) [] polls = none ∨
      ∃ reason, .ends reason ∈ polls ∧
        receive maxOutputBytes (64 * 1024 + 4097) [] polls = some (.ended reason))
    (members : List (Key F × Val F)) :
    executeComponentIsolated maxOutputBytes polls ≠ .ok members := by
  rw [executeComponentIsolated]
  obtain h | ⟨reason, -, h⟩ := h
  · rw [h]
    simp
  · rw [h]
    simp

/-- **What the child sends**: the text of its output, or pieces and the error that it reports. -/
theorem exists_entry (encode : (v : Val F) → IterEncode Exc v) (maxOutputBytes : ℕ)
    (executed : Except Exc (Val F)) : ∃ (us : List Text) (error : Option Text),
      componentProcessEntry encode maxOutputBytes executed = us.map .data ++ [last error] ∧
      us.flatten.length ≤ maxOutputBytes ∧ (∀ piece ∈ us, piece.length ≤ 64 * 1024) ∧
      ((reported encode maxOutputBytes executed = none ∧ error = none ∧
          ∃ output, executed = .ok output ∧ dumps ⟨true, true⟩ true output = some us.flatten) ∨
        ∃ exc text, reported encode maxOutputBytes executed = some exc ∧
          error = some (text.take 4096) ∧ componentError F exc = some text) := by
  have hreport : ∀ exc : Exc, ∃ text, componentError F exc = some text ∧
      componentReport F exc = [last (some (text.take 4096))] := by
    intro exc
    obtain ⟨text, htext, -⟩ := exists_componentError F exc
    refine ⟨text, htext, ?_⟩
    rw [componentReport, htext]
    rfl
  cases executed with
  | error exc =>
    obtain ⟨text, htext, hframes⟩ := hreport exc
    exact ⟨[], some (text.take 4096), hframes, Nat.zero_le _, fun _ h ↦ absurd h List.not_mem_nil,
      Or.inr ⟨exc, text, rfl, rfl, htext⟩⟩
  | ok output =>
    obtain ⟨us, hsent, hlen, hshort, hwhole⟩ :=
      exists_sendBounded (encode output) outputTooLong maxOutputBytes
    rw [componentProcessEntry, reported, hsent]
    cases hraised : (sendBounded (encode output) outputTooLong maxOutputBytes).2 with
    | none =>
      exact ⟨us, none, by simp [last], hlen, hshort,
        Or.inl ⟨rfl, rfl, output, rfl, hwhole hraised⟩⟩
    | some exc =>
      obtain ⟨text, htext, hframes⟩ := hreport exc
      exact ⟨us, some (text.take 4096), by simp [hframes], hlen, hshort,
        Or.inr ⟨exc, text, rfl, rfl, htext⟩⟩

/-- What the parent makes of the text of an output. -/
theorem execute_of_finished {output : Val F} {text : Text}
    (h : receive maxOutputBytes (64 * 1024 + 4097) [] polls = some (outcome text none))
    (htext : dumps ⟨true, true⟩ true output = some text) :
    executeComponentIsolated maxOutputBytes polls = match decoded true output with
      | none => .error .undecodable
      | some (.dict members) => .ok members
      | some _ => .error .notDictionary := by
  rw [executeComponentIsolated, h, outcome, Option.elim_none]
  dsimp only
  rw [loads_of_dumps htext]

theorem execute_of_failed {payload message : Text}
    (h : receive maxOutputBytes (64 * 1024 + 4097) [] polls = some (outcome payload (some message))) :
    executeComponentIsolated maxOutputBytes polls
      = (.error (reportedError (F := F) message) : Except _ (List (Key F × Val F))) := by
  rw [executeComponentIsolated, h, outcome, Option.elim_some]

/-- **A component in a process of its own.** Whatever the parent finds of the frames, and whenever
it gives up: it returns a dictionary exactly when the executor returned one whose text is within the
bound, and all of it arrived. What the child caught arrives with its type, unless its text is too
long. -/
theorem executed_isolated (hpolls : frames polls <+:
      componentProcessEntry encode maxOutputBytes executed) :
    Isolated encode maxOutputBytes executed polls
      (executeComponentIsolated maxOutputBytes polls) := by
  obtain ⟨us, error, hframes, hlen, hshort, hcases⟩ := exists_entry encode maxOutputBytes executed
  have hlast : (last error).size ≤ 64 * 1024 + 4097 := by
    obtain ⟨-, rfl, -⟩ | ⟨exc, text, -, rfl, -⟩ := hcases
    · exact Nat.le_add_left 1 (64 * 1024 + 4096)
    · have htake := List.length_take_le 4096 text
      change (text.take 4096).length + 1 ≤ _
      omega
  have hreceives : Receives (us.map .data ++ [last error]) (outcome us.flatten error) polls
      (receive maxOutputBytes (64 * 1024 + 4097) [] polls) :=
    receives_pieces [] error (hframes ▸ hpolls)
      (fun piece hpiece ↦ (Nat.add_le_add_right (hshort piece hpiece) 1).trans (by omega)) hlast
      (by simpa using hlen)
  constructor
  · intro members
    rw [hframes]
    constructor
    · intro hok
      have hall : frames polls = us.map .data ++ [last error] := by
        by_contra hne
        exact not_ok_of_part (hreceives.part hne) members hok
      refine ⟨hall, ?_⟩
      obtain ⟨-, rfl, output, hexecuted, htext⟩ | ⟨exc, text, -, rfl, -⟩ := hcases
      · refine ⟨output, us.flatten, hexecuted, htext, hlen, ?_⟩
        rw [execute_of_finished (hreceives.whole hall) htext] at hok
        split at hok
        · exact absurd hok (by simp)
        · rename_i hdecoded
          exact Except.ok.inj hok ▸ hdecoded
        · exact absurd hok (by simp)
      · rw [execute_of_failed (F := F) (hreceives.whole hall)] at hok
        exact absurd hok (by simp)
    · rintro ⟨hall, output, text, rfl, htext, hle, hdecoded⟩
      have hsent : reported encode maxOutputBytes (.ok output) = none :=
        (sendBounded_eq_none_iff _ _ _).mpr ⟨text, htext, hle⟩
      obtain ⟨-, rfl, output', hexecuted, htext'⟩ | ⟨exc, -, hsome, -⟩ := hcases
      · obtain rfl := Except.ok.inj hexecuted
        rw [execute_of_finished (hreceives.whole hall) htext', hdecoded]
      · exact absurd (hsent.symm.trans hsome).symm (Option.some_ne_none exc)
  · intro exc text hraised htext hall
    rw [hframes] at hall
    obtain ⟨hnone, -⟩ | ⟨exc', text', hsome, rfl, htext'⟩ := hcases
    · exact absurd (hnone.symm.trans hraised).symm (Option.some_ne_none exc)
    · obtain rfl := Option.some.inj (hsome.symm.trans hraised)
      obtain rfl := Option.some.inj (htext'.symm.trans htext)
      rw [execute_of_failed (F := F) (hreceives.whole hall)]
      by_cases hlong : 4096 < text'.length
      · rw [if_pos hlong, reportedError, loads_take_dumps htext' hlong]
      · rw [if_neg hlong, reportedError_take htext' (not_lt.mp hlong)]

end Isolated

def sampleOutput : Val WholeFloat := .dict [(.str "b", .int 2), (.str "a", .bool true)]

def sampleEncode : (v : Val WholeFloat) → IterEncode Exc v := .atOnce ⟨"TypeError", ""⟩

/-- The parent finds all that the child sends of an output, after a while. -/
def samplePolls : List (Poll Char ExecutionError) :=
  .waiting :: (componentProcessEntry sampleEncode 64 (.ok sampleOutput)).map .frame

/-- A dictionary arrives, with its keys in order. -/
theorem executed_isolated_sample : executeComponentIsolated 64 samplePolls
    = .ok [(.str "a", .bool true), (.str "b", (.int 2 : Val WholeFloat))] := by
  have hframes : frames samplePolls = componentProcessEntry sampleEncode 64 (.ok sampleOutput) :=
    frames_map_frame _
  have hprefix : frames samplePolls <+: componentProcessEntry sampleEncode 64 (.ok sampleOutput) :=
    hframes ▸ List.prefix_rfl
  refine ((executed_isolated hprefix).returns _).mpr ⟨hframes, sampleOutput,
    "\x7b\"a\":true,\"b\":2\x7d".toList, rfl, ?_⟩
  exact ⟨by decide +kernel, by decide +kernel, rfl⟩

end DriftGuardX.Sandbox
