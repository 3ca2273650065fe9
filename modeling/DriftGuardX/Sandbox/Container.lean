import DriftGuardX.Sandbox.Component

/-!
# Replays in containers

A function runs in a container, whose runner leaves in a file what came of it: the result as JSON, or
else the error, written over what there is of the result. The container may end at any time, so the
file may be missing or hold a part of one of the two, and the parent does not see which.

A replay has a payload only when the whole text of a result was written, and when the runner came to
its end an error arrives with its type (`executed_contained`). It is assumed that the function leaves
the file alone. All texts are ASCII, so that characters stand for bytes.
-/

namespace DriftGuardX.Sandbox

open Json Frames

variable {F : Type} [FloatText F]

/-! ## The runner -/

/-- `MAX_OUTPUT_BYTES` of the runner, and `max_response_bytes` of the parent. -/
def maxResponseBytes : ℕ := 10 * 1024 * 1024

/-- An encoder for objects. What it yields before it raises goes on as the text of an object. -/
structure ObjectEncode (kvs : List (String × Val F)) extends IterEncode Exc (.object kvs) where
  unfinished : raised ≠ none → ∃ (ms : List (String × Doc F)) (t : Text), t ≠ [] ∧
    chunks.flatten ++ t = render ⟨true, true⟩ (.obj ms)

def responseTooLong : Exc := ⟨"RuntimeError", "Response payload exceeds 10MB limit."⟩

/-- `write_result`: what is in the file in the end, and what is raised. -/
def writeResult {kvs : List (String × Val F)} (encoding : ObjectEncode kvs) : Text × Option Exc :=
  let emitted := emit maxResponseBytes 0 encoding.chunks
  ((emitted.1.map Frame.piece).flatten,
    if emitted.2 then encoding.raised else some responseTooLong)

def successMembers (result : Val F) : List (String × Val F) :=
  [("status", .str "success"), ("payload", result)]

def errorMembers (exc : Exc) : List (String × Val F) :=
  [("status", .str "error"), ("error", .str (exc.errorType ++ ": " ++ exc.message))]

section Runner

variable (encode : (kvs : List (String × Val F)) → ObjectEncode kvs) (called : Except Exc (Val F))

/-- What `main` catches: of the function, or of the first write. -/
def caught : Option Exc :=
  match called with
  | .error exc => some exc
  | .ok result => (writeResult (encode (successMembers result))).2

/-- The writes of `main`, each over the one before. What the second one raises is dropped. -/
def writes : List Text :=
  (called.toOption.toList.map fun result ↦ (writeResult (encode (successMembers result))).1) ++
    (caught encode called).toList.map fun exc ↦ (writeResult (encode (errorMembers exc))).1

/-- What there may be of the file when the container has ended. -/
def Left (file : Option Text) : Prop := ∀ part ∈ file, ∃ text ∈ writes encode called, part <+: text

end Runner

/-! ## The parent -/

inductive ReplayError where
  /-- The container could not be run, or its time was over. -/
  | container (message : String)
  | noResultFile
  | undecodable
  | reported (error : String)

structure ReplayResult (F : Type) where
  payload : Val F
  error : Option ReplayError

def ReplayResult.failed (error : ReplayError) : ReplayResult F := ⟨.none, some error⟩

def saysSuccess : Val F → Bool
  | .str status => status == "success"
  | _ => false

/-- What a dictionary in the file says. -/
def responseOf (res : List (Key F × Val F)) : ReplayResult F :=
  match dictGet res "status" with
  | none => .failed .undecodable
  | some status =>
    if saysSuccess status then
      (dictGet res "payload").elim (.failed .undecodable) fun payload ↦ ⟨payload, none⟩
    else match dictGet res "error" with
      | some (.str error) => .failed (.reported error)
      | _ => .failed .undecodable

/-- `ContainerReplayExecutor.execute`, once the container has ended or was stopped. -/
def executeContainer (stopped : Option String) (file : Option Text) : ReplayResult F :=
  match stopped, file with
  | some message, _ => .failed (.container message)
  | none, none => .failed .noResultFile
  | none, some text =>
    if maxResponseBytes < text.length then .failed .undecodable
    else match (loads text : Option (Val F)) with
      | some (.dict res) => responseOf res
      | _ => .failed .undecodable

/-! ## What is written -/

section Written

variable {kvs : List (String × Val F)} {encoding : ObjectEncode kvs} {part text : Text} {v : Val F}

/-- **One write** leaves the whole text, or raises and leaves what goes on as the text of an object. -/
theorem writeResult_cases (encoding : ObjectEncode kvs) :
    (dumps ⟨true, true⟩ true (.object kvs) = some (writeResult encoding).1 ∧
      (writeResult encoding).1.length ≤ maxResponseBytes ∧ (writeResult encoding).2 = none) ∨
    ∃ (exc : Exc) (ms : List (String × Doc F)) (t : Text), (writeResult encoding).2 = some exc ∧
      t ≠ [] ∧ (writeResult encoding).1 ++ t = render ⟨true, true⟩ (.obj ms) ∧
      ∀ text, dumps ⟨true, true⟩ true (.object kvs) = some text → maxResponseBytes < text.length := by
  obtain ⟨us, ⟨rest, hrest⟩, hfst, hlen, hsnd, hall⟩ := exists_emit encoding.chunks (Nat.zero_le _)
  have htext : (writeResult encoding).1 = us.flatten := by
    rw [writeResult, hfst, List.map_map]
    exact congrArg List.flatten (List.map_id us)
  have hs : us.flatten ++ rest.flatten = encoding.chunks.flatten := by
    rw [← hrest, List.flatten_append]
  rw [Nat.zero_add] at hlen hsnd hall
  rw [htext, writeResult]
  dsimp only
  cases hraised : encoding.raised with
  | none =>
    have hdumps := encoding.whole hraised
    by_cases hshort : encoding.chunks.flatten.length ≤ maxResponseBytes
    · exact .inl ⟨by rw [hall hshort, hdumps], hlen, if_pos (hsnd.mpr hshort)⟩
    · obtain ⟨ms, hms⟩ := exists_render_of_dumps hdumps
      refine .inr ⟨_, ms, _, if_neg (mt hsnd.mp hshort), fun hnil ↦ hshort ?_, hs.trans hms,
        fun text h ↦ ?_⟩
      · rwa [← hs, hnil, List.append_nil]
      · rw [← Option.some.inj (hdumps.symm.trans h)]
        exact not_le.mp hshort
  | some raised =>
    have hsome : encoding.raised ≠ none := hraised ▸ Option.some_ne_none raised
    obtain ⟨ms, t, ht, hrender⟩ := encoding.unfinished hsome
    refine .inr ⟨_, ms, rest.flatten ++ t, (apply_ite some _ _ _).symm,
      fun h ↦ ht (List.append_eq_nil_iff.mp h).2, by rw [← List.append_assoc, hs, hrender],
      fun text h ↦ absurd ((encoding.refused hsome).symm.trans h) (by simp)⟩

/-- **What can be read** of a write is all that was to be written. -/
theorem dumps_of_loads_prefix (hpart : part <+: (writeResult encoding).1) (h : loads part = some v) :
    dumps ⟨true, true⟩ true (.object kvs) = some part ∧ part.length ≤ maxResponseBytes := by
  -- what goes on as the text of an object cannot be read
  have hcut : ∀ {ms : List (String × Doc F)} {t : Text}, t ≠ [] →
      part ++ t ≠ render ⟨true, true⟩ (.obj ms) := by
    intro ms t ht hrender
    rw [loads, parse_truncated hrender ht] at h
    exact absurd h (by simp)
  obtain ⟨s, hs⟩ := hpart
  obtain ⟨hdumps, hlen, -⟩ | ⟨exc, ms, t, -, ht, hrender, -⟩ := writeResult_cases encoding
  · obtain ⟨ms, hms⟩ := exists_render_of_dumps hdumps
    obtain rfl : s = [] := by
      by_contra hne
      exact hcut hne (hs.trans hms)
    rw [List.append_nil] at hs
    exact ⟨hs ▸ hdumps, hs ▸ hlen⟩
  · rw [← hs, List.append_assoc] at hrender
    exact absurd hrender (hcut fun hnil ↦ ht (List.append_eq_nil_iff.mp hnil).2)

theorem exists_executeContainer (hnd : (kvs.map Prod.fst).Nodup)
    (h : dumps ⟨true, true⟩ true (.object kvs) = some text) (hlen : text.length ≤ maxResponseBytes) :
    ∃ res, executeContainer none (some text) = responseOf (F := F) res ∧
      ∀ m ∈ kvs, ∃ w, decoded true m.2 = some w ∧ dictGet res m.1 = some w := by
  have hloads : loads text = decoded true (.object kvs) := loads_of_dumps h
  obtain ⟨d, hd, -⟩ := Option.map_eq_some_iff.mp h
  have hv : decoded true (.object kvs) = some (ofDoc d) := by rw [decoded, hd, Option.map_some]
  obtain ⟨res, hres, hget, -⟩ := exists_decoded_object hnd hv
  refine ⟨res, ?_, hget⟩
  rw [executeContainer, if_neg (not_lt.mpr hlen), hloads, hv, hres]

end Written

theorem executeContainer_success {result : Val F} {text : Text}
    (htext : dumps ⟨true, true⟩ true (.object (successMembers result)) = some text)
    (hlen : text.length ≤ maxResponseBytes) :
    ∃ payload, decoded true result = some payload ∧
      executeContainer none (some text) = ⟨payload, none⟩ := by
  obtain ⟨res, hres, hget⟩ := exists_executeContainer (by simp [successMembers]) htext hlen
  simp only [successMembers, List.forall_mem_cons, decoded_scalar, Option.some.injEq,
    exists_eq_left'] at hget
  obtain ⟨hstatus, ⟨payload, hpayload, hget⟩, -⟩ := hget
  have hsays : saysSuccess (.str "success" : Val F) = true := rfl
  refine ⟨payload, hpayload, ?_⟩
  rw [hres, responseOf, hstatus]
  dsimp only
  rw [if_pos hsays, hget, Option.elim_some]

theorem executeContainer_error {exc : Exc} {text : Text}
    (htext : dumps ⟨true, true⟩ true (.object (errorMembers (F := F) exc)) = some text)
    (hlen : text.length ≤ maxResponseBytes) :
    executeContainer none (some text)
      = (.failed (.reported (exc.errorType ++ ": " ++ exc.message)) : ReplayResult F) := by
  obtain ⟨res, hres, hget⟩ := exists_executeContainer (by simp [errorMembers]) htext hlen
  simp only [errorMembers, List.forall_mem_cons, decoded_scalar, Option.some.injEq,
    exists_eq_left'] at hget
  have hsays : ¬ saysSuccess (.str "error" : Val F) = true := by simp [saysSuccess]
  rw [hres, responseOf, hget.1]
  dsimp only
  rw [if_neg hsays, hget.2.1]

/-! ## Runner and parent -/

section Replayed

variable {encode : (kvs : List (String × Val F)) → ObjectEncode kvs} {called : Except Exc (Val F)}
  {stopped : Option String} {file : Option Text}

/-- What the parent returns, and when it does. -/
structure Replayed (encode : (kvs : List (String × Val F)) → ObjectEncode kvs)
    (called : Except Exc (Val F)) (stopped : Option String) (file : Option Text) : Prop where
  returns : ∀ payload : Val F, executeContainer stopped file = ⟨payload, none⟩ ↔
    stopped = none ∧ ∃ result text, called = .ok result ∧ file = some text ∧
      dumps ⟨true, true⟩ true (.object (successMembers result)) = some text ∧
      text.length ≤ maxResponseBytes ∧ decoded true result = some payload
  raises : ∀ exc text, caught encode called = some exc →
    dumps ⟨true, true⟩ true (.object (errorMembers (F := F) exc)) = some text → stopped = none →
    file = (writes encode called).getLast? →
    executeContainer stopped file = (.failed (if maxResponseBytes < text.length then .undecodable
      else .reported (exc.errorType ++ ": " ++ exc.message)) : ReplayResult F)

theorem exists_result_of_payload (hleft : Left encode called file) {payload : Val F}
    (h : executeContainer stopped file = ⟨payload, none⟩) :
    stopped = none ∧ ∃ result text, called = .ok result ∧ file = some text ∧
      dumps ⟨true, true⟩ true (.object (successMembers result)) = some text ∧
      text.length ≤ maxResponseBytes ∧ decoded true result = some payload := by
  have hnot : ∀ error, (.failed error : ReplayResult F) ≠ ⟨payload, none⟩ :=
    fun error heq ↦ absurd (congrArg ReplayResult.error heq) (Option.some_ne_none error)
  cases stopped with
  | some message => exact absurd h (hnot _)
  | none =>
    cases file with
    | none => exact absurd h (hnot _)
    | some part =>
      cases hloads : (loads part : Option (Val F)) with
      | none =>
        rw [executeContainer, hloads, ite_self] at h
        exact absurd h (hnot _)
      | some v =>
        obtain ⟨text, htext, hpart⟩ := hleft part rfl
        obtain hmem | hmem := List.mem_append.mp htext
        · -- a part of the result that can be read is all of it
          cases called with
          | error exc => exact absurd hmem List.not_mem_nil
          | ok result =>
            obtain rfl := List.mem_singleton.mp hmem
            obtain ⟨hdumps, hlen⟩ := dumps_of_loads_prefix hpart hloads
            obtain ⟨payload', hpayload, hresult⟩ := executeContainer_success hdumps hlen
            obtain rfl := congrArg ReplayResult.payload (hresult.symm.trans h)
            exact ⟨rfl, result, part, rfl, rfl, hdumps, hlen, hpayload⟩
        · obtain ⟨exc, -, rfl⟩ := List.mem_map.mp hmem
          obtain ⟨hdumps, hlen⟩ := dumps_of_loads_prefix hpart hloads
          exact absurd ((executeContainer_error hdumps hlen).symm.trans h) (hnot _)

/-- **A replay in a container.** Whenever the container ends: there is a payload exactly when the
function returned a result whose text is within the bound, and all of it was written. When the runner
came to its end, what it caught arrives with its type, unless its text is too long. -/
theorem executed_contained (hleft : Left encode called file) :
    Replayed encode called stopped file := by
  refine ⟨fun payload ↦ ⟨exists_result_of_payload hleft, ?_⟩, ?_⟩
  · rintro ⟨rfl, result, text, -, rfl, hdumps, hlen, hpayload⟩
    obtain ⟨payload', hpayload', hresult⟩ := executeContainer_success hdumps hlen
    rw [hresult, Option.some.inj (hpayload'.symm.trans hpayload)]
  · rintro exc text hcaught htext rfl rfl
    have hlast : (writes encode called).getLast?
        = some (writeResult (encode (errorMembers exc))).1 := by
      rw [writes, hcaught]
      exact List.getLast?_concat
    rw [hlast]
    obtain ⟨hwhole, hlen, -⟩ | ⟨_, ms, t, -, ht, hrender, hlong⟩ :=
      writeResult_cases (encode (errorMembers exc))
    · obtain rfl := Option.some.inj (htext.symm.trans hwhole)
      rw [if_neg (not_lt.mpr hlen), executeContainer_error htext hlen]
    · rw [if_pos (hlong text htext), executeContainer, loads, parse_truncated hrender ht]
      exact ite_self _

end Replayed

/-- The encoder that yields a text at once. -/
def ObjectEncode.atOnce (kvs : List (String × Val F)) : ObjectEncode kvs where
  toIterEncode := .atOnce ⟨"TypeError", ""⟩ _
  unfinished hraised := by
    have hdumps := (IterEncode.atOnce (⟨"TypeError", ""⟩ : Exc) (.object kvs)).refused hraised
    refine ⟨[], render ⟨true, true⟩ (.obj ([] : List (String × Doc F))), by simp [render], ?_⟩
    rw [IterEncode.atOnce]
    split
    · rfl
    · rename_i text htext
      exact absurd (hdumps.symm.trans htext) (by simp)

/-- A dictionary arrives as the payload, with its keys in order. -/
theorem executed_contained_sample : ∃ text,
    Left .atOnce (.ok sampleOutput) (some text) ∧ executeContainer none (some text)
      = ⟨.dict [(.str "a", .bool true), (.str "b", (.int 2 : Val WholeFloat))], none⟩ := by
  have hdumps : (dumps ⟨true, true⟩ true (.object (successMembers sampleOutput))).any
      (fun text ↦ text.length ≤ 100) = true := by
    decide +kernel
  obtain ⟨text, htext, hle⟩ := (Option.any_eq_true _ _).mp hdumps
  have hlen : text.length ≤ maxResponseBytes := (of_decide_eq_true hle).trans (by decide)
  have hleft : Left .atOnce (.ok sampleOutput) (some text) := by
    rintro _ ⟨⟩
    obtain ⟨hdumps, -⟩ | ⟨_, _, _, -, -, -, hlong⟩ :=
      writeResult_cases (.atOnce (successMembers sampleOutput))
    · obtain rfl := Option.some.inj (htext.symm.trans hdumps)
      exact ⟨_, List.mem_cons_self, List.prefix_rfl⟩
    · exact absurd hlen (not_le.mpr (hlong text htext))
  exact ⟨text, hleft, ((executed_contained hleft).returns _).mpr
    ⟨rfl, sampleOutput, text, rfl, rfl, htext, hlen, rfl⟩⟩

end DriftGuardX.Sandbox
