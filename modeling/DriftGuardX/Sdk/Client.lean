import DriftGuardX.Foundation.Program
import DriftGuardX.Foundation.Transaction
import DriftGuardX.Json.Value

/-!
# The clients of the SDK

`batch_spans` sends spans in chunks and tries each chunk three times. What the server does is a
function of the chunk and the attempt: an exception, or a response with a status and a JSON object.

A response with status 2xx is accounted for inside the `try` that also guards the request: its counters
are added one after the other, and its errors are appended. An exception there is handled as an error of
the network, so the chunk is sent again, and what was added stays.

The synchronous and the asynchronous client differ in how they wait.
-/

namespace DriftGuardX.Sdk

open Json Program Transaction

variable {F : Type}

/-! ## Counters -/

/-- What a counter holds: a number that may become a float. -/
inductive Number (F : Type)
  | int (i : ℤ)
  | float (f : F)
  deriving DecidableEq, Repr

/-- Floats as far as counters need them: the float of an integer, unless that is too large, sums, and
the integer that a float is equal to, if there is one. -/
structure FloatSums (F : Type) where
  ofInt : ℤ → Option F
  add : F → F → F
  toInt : F → Option ℤ

/-- What is raised inside the `try` of an attempt. -/
inductive AttemptError
  | httpStatusError (statusCode : ℕ) (text : String)
  | other (message : String)
  deriving DecidableEq, Repr

/-- What a run can raise: the validation of an item or of the result. -/
inductive BatchError
  | validationError (model : String)
  | attempt (error : AttemptError)
  deriving DecidableEq, Repr

/-- The name of the type of a value. -/
def typeName : Val F → String
  | .none => "NoneType"
  | .bool _ => "bool"
  | .int _ => "int"
  | .float _ => "float"
  | .str _ => "str"
  | .list _ => "list"
  | .dict _ => "dict"
  | .other tag => tag

namespace Number

variable (lib : FloatSums F)

def typeName : Number F → String
  | .int _ => "int"
  | .float _ => "float"

/-- A float and an integer, as floats. -/
def promote (i : ℤ) : Except AttemptError F :=
  orRaise (.other "int too large to convert to float") (lib.ofInt i)

def add : Number F → Number F → Except AttemptError (Number F)
  | .int a, .int b => .ok (.int (a + b))
  | .int a, .float y => do return .float (lib.add (← promote lib a) y)
  | .float x, .int b => do return .float (lib.add x (← promote lib b))
  | .float x, .float y => .ok (.float (lib.add x y))

/-- The integer that a validated field makes of the number. -/
def toInt : Number F → Option ℤ
  | .int i => some i
  | .float f => lib.toInt f

end Number

/-- The number that a value is, if it is one. Booleans are numbers. -/
def asNumber : Val F → Option (Number F)
  | .int i => some (.int i)
  | .bool b => some (.int (if b then 1 else 0))
  | .float f => some (.float f)
  | _ => none

/-- `total += value` -/
def addCounter (lib : FloatSums F) (total : Number F) (value : Val F) :
    Except AttemptError (Number F) := do
  let number ← orRaise (.other
    s!"unsupported operand type(s) for +=: '{total.typeName}' and '{typeName value}'")
    (asNumber value)
  total.add lib number

def keyValue : Key F → Val F
  | .none => .none
  | .bool b => .bool b
  | .int i => .int i
  | .float f => .float f
  | .str s => .str s
  | .other tag => .other tag

/-- What `extend` takes from a value: the elements of a list, the keys of a dictionary and the
characters of a string. -/
def elements : Val F → Except AttemptError (List (Val F))
  | .list xs => .ok xs
  | .dict members => .ok (members.map fun m ↦ keyValue m.1)
  | .str s => .ok (s.toList.map fun c ↦ .str (String.singleton c))
  | value => .error (.other s!"'{typeName value}' object is not iterable")

/-! ## Spans, responses and results -/

/-- An item of a request. -/
structure SpanIngestItem (F : Type) where
  traceId : String
  spanId : String
  parentSpanId : Option String
  name : String
  kind : String
  startTime : String
  endTime : Option String
  statusCode : String
  attributes : List (String × Val F)
  runId : String
  tenantId : String
  pipelineId : String

/-- A span as a caller gives it: an item, or a dictionary with the fields of one. -/
inductive SpanInput (F : Type)
  | item (item : SpanIngestItem F)
  | dict (fields : List (String × Val F))

structure HttpResponse (F : Type) where
  statusCode : ℕ
  text : String
  json : List (String × Val F)

/-- What an attempt meets: an exception of the request, or a response. -/
inductive Attempt (F : Type)
  | raised (message : String)
  | response (response : HttpResponse F)

namespace HttpResponse

/-- `is_success`, without which `raise_for_status` raises. -/
def IsSuccess (r : HttpResponse F) : Prop := 200 ≤ r.statusCode ∧ r.statusCode < 300

instance (r : HttpResponse F) : Decidable r.IsSuccess := instDecidableAnd

/-- The errors that are not retried. -/
def IsClientError (statusCode : ℕ) : Prop := 400 ≤ statusCode ∧ statusCode < 500

instance (statusCode : ℕ) : Decidable (IsClientError statusCode) := instDecidableAnd

/-- `result.get(key, default)` -/
def get (r : HttpResponse F) (key : String) (default : Val F) : Val F :=
  (r.json.lookup key).getD default

end HttpResponse

inductive BatchStatus
  | success
  | partialFailure
  | failure
  deriving DecidableEq, Repr

structure BatchResult where
  status : BatchStatus
  ingestedCount : ℤ := 0
  skippedCount : ℤ := 0
  failedSpans : List String := []
  errors : List String := []
  deriving DecidableEq, Repr

/-! ## The run of a batch -/

inductive Counter
  | ingested
  | skipped
  deriving DecidableEq, Repr

/-- What a client does besides counting. -/
inductive Effect (F : Type)
  | post (chunk : List (SpanIngestItem F))
  | timeSleep (seconds : ℕ)
  | asyncioSleep (seconds : ℕ)

/-- The variables of a run. Besides them it is kept what was done, and which counter was added for
which chunk and attempt. -/
structure Tally (F : Type) where
  totalIngested : Number F := .int 0
  totalSkipped : Number F := .int 0
  allErrors : List (Val F) := []
  failedSpans : List String := []
  failedChunks : ℕ := 0
  effects : List (Effect F) := []
  added : List (ℕ × ℕ × Counter) := []

/-- A client: what a request makes of the fields of an item, and the size of its chunks. -/
structure Client (F : Type) where
  validate : List (String × Val F) → Option (SpanIngestItem F)
  maxBatchSize : ℕ := 500
  pos : 0 < maxBatchSize := by decide

section Run

variable (lib : FloatSums F)

/-- The accounting of a response with success. -/
def account (i j : ℕ) (r : HttpResponse F) : Program (Tally F) AttemptError Unit := do
  let t ← get
  let totalIngested ← ofExcept (addCounter lib t.totalIngested (r.get "ingested" (.int 0)))
  modify fun t ↦
    { t with totalIngested := totalIngested, added := t.added ++ [(i, j, .ingested)] }
  let t ← get
  let totalSkipped ← ofExcept (addCounter lib t.totalSkipped (r.get "skipped" (.int 0)))
  modify fun t ↦ { t with totalSkipped := totalSkipped, added := t.added ++ [(i, j, .skipped)] }
  let errors ← ofExcept (elements (r.get "errors" (.list [])))
  modify fun t ↦ { t with allErrors := t.allErrors ++ errors }

/-- The body of the `try`. -/
def tryAttempt (i j : ℕ) (chunk : List (SpanIngestItem F)) (answer : Attempt F) :
    Program (Tally F) AttemptError Unit := do
  modify fun t ↦ { t with effects := t.effects ++ [.post chunk] }
  match answer with
  | .raised message => raise (.other message)
  | .response r => if r.IsSuccess then account lib i j r else raise (.httpStatusError r.statusCode r.text)

def sleep (sleepEffect : ℕ → Effect F) (seconds : ℕ) : Program (Tally F) AttemptError Unit :=
  modify fun t ↦ { t with effects := t.effects ++ [sleepEffect seconds] }

def recordFailure (chunk : List (SpanIngestItem F)) (message : String) :
    Program (Tally F) AttemptError Unit :=
  modify fun t ↦ { t with
    failedChunks := t.failedChunks + 1
    failedSpans := t.failedSpans ++ chunk.map SpanIngestItem.spanId
    allErrors := t.allErrors ++ [.str message] }

/-- The handlers of the `try`, which tell whether the loop of attempts is left. -/
def handle (sleepEffect : ℕ → Effect F) (j : ℕ) (chunk : List (SpanIngestItem F)) :
    AttemptError → Program (Tally F) AttemptError Bool
  | .httpStatusError code text => do
    if HttpResponse.IsClientError code then
      recordFailure chunk s!"Batch rejected (non-retryable {code}): {text}"
      return true
    else if j < 2 then
      sleep sleepEffect (2 ^ j)
      return false
    else
      recordFailure chunk s!"Batch rejected after 3 attempts with status {code}: {text}"
      return false
  | .other message => do
    if j < 2 then
      sleep sleepEffect (2 ^ j)
      return false
    else
      recordFailure chunk s!"Network error during batching after 3 attempts: {message}"
      return false

/-- The attempts at a chunk. -/
def attempts (sleepEffect : ℕ → Effect F) (answers : ℕ → Attempt F) (i : ℕ)
    (chunk : List (SpanIngestItem F)) : List ℕ → Program (Tally F) AttemptError Unit
  | [] => pure ()
  | j :: js => do
    let left ← attempt (do tryAttempt lib i j chunk (answers j); return true)
      (handle sleepEffect j chunk)
    if left then pure () else attempts sleepEffect answers i chunk js

/-- The chunk from a span on. -/
def chunkAt (size : ℕ) (items : List (SpanIngestItem F)) (i : ℕ) : List (SpanIngestItem F) :=
  (items.drop (i * size)).take size

def numChunks (size : ℕ) (items : List (SpanIngestItem F)) : ℕ := (items.length + size - 1) / size

/-- The loop over the chunks. -/
def ingest (sleepEffect : ℕ → Effect F) (server : ℕ → ℕ → Attempt F) (size : ℕ)
    (items : List (SpanIngestItem F)) : Program (Tally F) AttemptError Unit :=
  (List.range (numChunks size items)).forM fun i ↦
    attempts lib sleepEffect (server i) i (chunkAt size items i) [0, 1, 2]

/-- The item of a span. -/
def toItem (client : Client F) : SpanInput F → Except BatchError (SpanIngestItem F)
  | .item item => .ok item
  | .dict fields => orRaise (.validationError "SpanIngestItem") (client.validate fields)

/-- The status of a run, from its failed chunks and whether it has errors. -/
def statusOf (t : Tally F) (numChunks : ℕ) : BatchStatus :=
  if t.failedChunks = 0 ∧ t.allErrors.isEmpty then .success
  else if t.failedChunks = numChunks then .failure
  else .partialFailure

/-- A value of a field that is declared as a string. -/
def asText : Val F → Option String
  | .str s => some s
  | _ => none

/-- The result, whose fields are validated. -/
def batchResult (t : Tally F) (numChunks : ℕ) : Except BatchError BatchResult := do
  let ingestedCount ← orRaise (.validationError "BatchResult") (t.totalIngested.toInt lib)
  let skippedCount ← orRaise (.validationError "BatchResult") (t.totalSkipped.toInt lib)
  let errors ← orRaise (.validationError "BatchResult") (t.allErrors.mapM asText)
  return ⟨statusOf t numChunks, ingestedCount, skippedCount, t.failedSpans, errors⟩

/-- The run of a client that waits in some way. -/
def runBatch (sleepEffect : ℕ → Effect F) (client : Client F) (server : ℕ → ℕ → Attempt F)
    (spans : List (SpanInput F)) : Program (Tally F) BatchError BatchResult := do
  if spans.isEmpty then
    return ⟨.success, 0, 0, [], []⟩
  let items ← ofExcept (spans.mapM (toItem client))
  mapError .attempt (ingest lib sleepEffect server client.maxBatchSize items)
  let t ← get
  ofExcept (batchResult lib t (numChunks client.maxBatchSize items))

end Run

/-- `DriftGuardClient.batch_spans` -/
def DriftGuardClient.batchSpans (lib : FloatSums F) (client : Client F)
    (server : ℕ → ℕ → Attempt F) (spans : List (SpanInput F)) :
    Except BatchError BatchResult × Tally F :=
  runBatch lib .timeSleep client server spans {}

/-- `AsyncDriftGuardClient.batch_spans` -/
def AsyncDriftGuardClient.batchSpans (lib : FloatSums F) (client : Client F)
    (server : ℕ → ℕ → Attempt F) (spans : List (SpanInput F)) :
    Except BatchError BatchResult × Tally F :=
  runBatch lib .asyncioSleep client server spans {}

end DriftGuardX.Sdk
