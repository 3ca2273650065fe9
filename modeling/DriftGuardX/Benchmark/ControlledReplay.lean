import DriftGuardX.Foundation.KeyTable
import DriftGuardX.Json.Value
import DriftGuardX.Replay.ArmSelection
import Mathlib.Data.Int.Bitwise
import Mathlib.Data.List.Flatten

/-!
# The controlled replay benchmark

The benchmark searches a public dataset, injects four faults into the search, and lets five
strategies try the four repairs until one brings the recall back. A fault is repaired by the
intervention of its family, so every strategy recovers from every fault within four replays, and the
strategy that is told the family does in one. The strategy with equal priors tries the repairs by
name, which is the order of the baseline without a scheduler.

None of this depends on the dataset, the scores or the arithmetic (`run_eq`, `foregone_run`): the
rates of recovery are one for each strategy, and the comparison of the equal priors with the fixed
order compares the same replays.
-/

namespace DriftGuardX.Benchmark

open Incident (PyFloat OrderedPyFloat)
open Recovery (Raised)
open Replay (ArmFloat ArmScheduler BanditFloat ExactWholes pyMax)

/-- What the benchmark does with floats besides scheduling. -/
class ReplayFloat (F : Type) extends ArmFloat F where
  /-- The quotient of two whole numbers. -/
  ratio : ℕ → ℕ → F
  /-- `math.log` -/
  logOf : F → F
  ratio_mono : ∀ {m n d : ℕ}, 0 < d → m ≤ n → le (ratio m d) (ratio n d) = true
  /-- Different priors stay different. -/
  lt_literal : ∀ {p q : ℚ}, 0 ≤ p → q ≤ 1 → p + 1 / 100 ≤ q → lt (literal p) (literal q) = true

/-- What the benchmark uses of the language: lower case, the order in which a set of tokens is
iterated, and the random order of a seed. -/
structure Platform where
  lower : String → String
  setOrder : List String → List String
  shuffle : ℤ → List String → List String
  /-- The seed of a query and a fault, from a digest. -/
  querySeed : String → ℤ
  shuffle_perm : ∀ seed xs, (shuffle seed xs).Perm xs

/-! ## Retrieval -/

def isWordChar (c : Char) : Bool := ('a' ≤ c && c ≤ 'z') || ('0' ≤ c && c ≤ '9')

/-- `_tokens`: the longest runs of word characters. -/
def tokens (lib : Platform) (text : String) : List String :=
  (((lib.lower text).toList.splitOnP fun c ↦ !isWordChar c).filter fun run ↦ !run.isEmpty).map
    String.ofList

/-- The dataset, as the loader has checked it: dictionaries have distinct keys, and the queries with
relevance judgements are known and have relevant documents. -/
structure DatasetSnapshot where
  documents : List (String × String)
  queries : List (String × String)
  qrels : List (String × List String)
  nodup_qrels : (qrels.map Prod.fst).Nodup
  relevant_ne_nil : ∀ q ∈ qrels, q.2 ≠ []

/-- What a dictionary has under a key. -/
def valueAt {α : Type} (kvs : List (String × α)) (key : String) (default : α) : α :=
  ((kvs.find? fun m ↦ m.1 = key).map Prod.snd).getD default

structure BM25Index (F : Type) where
  k1 : F
  b : F
  documentCount : ℕ
  length : String → ℕ
  postings : String → List (String × ℕ)
  averageLength : F

variable {F : Type} [ReplayFloat F]

/-- `BM25Index(documents)`. The postings of a token list the documents that contain it, with how
often they do. -/
def BM25Index.new (lib : Platform) (documents : List (String × String)) : BM25Index F where
  k1 := BanditFloat.literal (3 / 2)
  b := BanditFloat.literal (3 / 4)
  documentCount := documents.length
  length docId := (tokens lib (valueAt documents docId "")).length
  postings token := (documents.map fun d ↦ (d.1, (tokens lib d.2).count token)).filter fun p ↦ p.2 ≠ 0
  averageLength :=
    ReplayFloat.ratio (documents.map fun d ↦ (tokens lib d.2).length).sum documents.length

/-- The arguments of a search. -/
structure Request (F : Type) where
  query : String
  topK : ℤ
  excluded : List String
  idfOverride : List (String × F)

namespace BM25Index

variable (lib : Platform) (index : BM25Index F) (request : Request F)

def inverseDocumentFrequency (token : String) (documentFrequency : ℕ) : F :=
  match request.idfOverride.find? fun m ↦ m.1 = token with
  | some m => m.2
  | none => ReplayFloat.logOf (PyFloat.add (BanditFloat.literal 1) (ArmFloat.div
      (PyFloat.add (BanditFloat.literal ((index.documentCount : ℚ) - documentFrequency))
        (BanditFloat.literal (1 / 2)))
      (PyFloat.add (BanditFloat.literal documentFrequency) (BanditFloat.literal (1 / 2)))))

/-- What one occurrence list adds to the score of a document. -/
def contribution (inverseDocumentFrequency : F) (docId : String) (termFrequency : ℕ) : F :=
  let normalizedLength := ArmFloat.div (BanditFloat.literal (index.length docId))
    (pyMax index.averageLength (BanditFloat.literal 1))
  let lengthFactor :=
    PyFloat.add (PyFloat.sub (BanditFloat.literal 1) index.b) (BanditFloat.mul index.b normalizedLength)
  let denominator :=
    PyFloat.add (BanditFloat.literal termFrequency) (BanditFloat.mul index.k1 lengthFactor)
  BanditFloat.mul inverseDocumentFrequency (ArmFloat.div
    (BanditFloat.mul (BanditFloat.literal termFrequency) (PyFloat.add index.k1 (BanditFloat.literal 1)))
    denominator)

/-- The scores after one more token. -/
def scoreToken (scores : List (String × F)) (token : String) : List (String × F) :=
  let postings := index.postings token
  let idf := index.inverseDocumentFrequency request token postings.length
  postings.foldl (fun scores p ↦
    if p.1 ∈ request.excluded then scores
    else Json.setItem scores p.1
      (PyFloat.add (valueAt scores p.1 PyFloat.zero) (index.contribution idf p.1 p.2))) scores

/-- The scored documents, the greatest score first, and of equal scores the first by name. -/
def ranking : List (String × F) :=
  ((lib.setOrder (tokens lib request.query)).foldl (index.scoreToken request) []).insertionSort
    fun p q ↦ PyFloat.lt q.2 p.2 = true ∨ PyFloat.lt p.2 q.2 = false ∧ p.1 ≤ q.1

def search : List String :=
  if request.topK ≤ 0 then []
  else ((index.ranking lib request).take request.topK.toNat).map Prod.fst

end BM25Index

/-- `_recall`, for a set of relevant documents. -/
def recallScore (retrieved relevant : List String) : F :=
  ReplayFloat.ratio (relevant.filter (· ∈ retrieved)).length relevant.length

/-! ## Faults and repairs -/

inductive Fault where
  | relevantDocumentTombstone
  | lowRecallCutoff
  | malformedQuery
  | staleIdf
  deriving DecidableEq, Repr

namespace Fault

def families : List Fault := [relevantDocumentTombstone, lowRecallCutoff, malformedQuery, staleIdf]

def name : Fault → String
  | relevantDocumentTombstone => "relevant_document_tombstone"
  | lowRecallCutoff => "low_recall_cutoff"
  | malformedQuery => "malformed_query"
  | staleIdf => "stale_idf"

def signature : Fault → String
  | relevantDocumentTombstone => "index_snapshot_digest_changed"
  | lowRecallCutoff => "backend_truncation_bug"
  | malformedQuery => "payload_corruption"
  | staleIdf => "corpus_drift"

def groundTruth : Fault → String
  | relevantDocumentTombstone => "restore_index_snapshot"
  | lowRecallCutoff => "increase_top_k"
  | malformedQuery => "normalize_query"
  | staleIdf => "recompute_idf"

end Fault

/-- The search without a fault. -/
def cleanRequest (query : String) : Request F := ⟨query, 10, [], []⟩

/-- The search with the fault. -/
def faultedRequest (lib : Platform) (query : String) (relevant : List String) (fault : Fault) :
    Request F where
  query := if fault = .malformedQuery then String.ofList query.toList.reverse else query
  topK := if fault = .lowRecallCutoff then 1 else 10
  excluded := if fault = .relevantDocumentTombstone then relevant else []
  idfOverride :=
    if fault = .staleIdf then (tokens lib query).map fun t ↦ (t, BanditFloat.literal (1 / 10000))
    else []

/-- The search with the fault, after a repair. -/
def replayRequest (query : String) (faulted : Request F) (candidate : String) : Request F where
  query := if candidate = "normalize_query" then query else faulted.query
  topK := if candidate = "increase_top_k" then 50 else faulted.topK
  excluded := if candidate = "restore_index_snapshot" then [] else faulted.excluded
  idfOverride := if candidate = "recompute_idf" then [] else faulted.idfOverride

/-! ## Strategies -/

inductive Strategy where
  | bcrbUniformPrior
  | bcrbOraclePrior
  | bcrbWrongPrior
  | fixedOrder
  | random
  deriving DecidableEq, Repr

namespace Strategy

def all : List Strategy := [bcrbUniformPrior, bcrbOraclePrior, bcrbWrongPrior, fixedOrder, random]

def name : Strategy → String
  | bcrbUniformPrior => "bcrb_uniform_prior"
  | bcrbOraclePrior => "bcrb_oracle_prior"
  | bcrbWrongPrior => "bcrb_wrong_prior"
  | fixedOrder => "fixed_order"
  | random => "random"

def priorSource : Strategy → String
  | bcrbOraclePrior => "injected_ground_truth"
  | bcrbWrongPrior => "deliberately_incorrect_ground_truth"
  | _ => "no_ground_truth"

/-- `prior_label` -/
def label (strategy : Strategy) (groundTruth : String) : Option String :=
  match strategy with
  | bcrbOraclePrior | bcrbWrongPrior => some groundTruth
  | _ => none

end Strategy

/-- `_CANDIDATES` -/
def candidates : List String :=
  ["increase_top_k", "normalize_query", "recompute_idf", "restore_index_snapshot"]

inductive ReplayError where
  | valueError (message : String)
  | runtimeError
  /-- What the scheduler raises. -/
  | raised (error : Raised)
  deriving DecidableEq

/-- The prior of a candidate, when one is preferred or none. -/
def priorOf (preferredIntervention : Option String) (candidate : String) : F :=
  match preferredIntervention with
  | none => BanditFloat.literal (1 / 4)
  | some preferred =>
    if candidate = preferred then BanditFloat.literal (9 / 10) else BanditFloat.literal (1 / 10)

variable (F) in
/-- The order in which the scheduler takes the candidates. -/
def scheduled (preferredIntervention : Option String) : Except ReplayError (List String) :=
  (ArmScheduler.candidateOrder (BanditFloat.literal (10 : ℕ) : F) (priorOf preferredIntervention)
    candidates).mapError .raised

def unknownIntervention : ReplayError :=
  .valueError "Oracle and wrong-prior ablations require a known intervention"

variable (F) in
/-- `_candidate_order` -/
def candidateOrder (lib : Platform) (strategy : Strategy) (seed : ℤ)
    (preferredIntervention : Option String) : Except ReplayError (List String) :=
  match strategy with
  | .fixedOrder => .ok candidates
  | .random => .ok (lib.shuffle seed candidates)
  | .bcrbUniformPrior => scheduled F none
  | .bcrbOraclePrior =>
    match preferredIntervention.filter (· ∈ candidates) with
    | none => .error unknownIntervention
    | some preferred => scheduled F (some preferred)
  | .bcrbWrongPrior =>
    match preferredIntervention.filter (· ∈ candidates) with
    | none => .error unknownIntervention
    | some preferred => scheduled F (candidates.find? (· ≠ preferred))

/-! ## Trials -/

structure Attempt (F : Type) where
  candidate : String
  elapsedNs : ℕ
  retrievedIds : List String
  replayRecall : F
  mitigationObserved : Bool

structure Trial (F : Type) where
  queryId : String
  query : String
  strategy : Strategy
  fault : Fault
  cleanRecallAt10 : F
  faultedRecallAt10 : F
  recovered : Bool
  attempts : List (Attempt F)

namespace Trial

def priorSource (t : Trial F) : String := t.strategy.priorSource

def replaysExecuted (t : Trial F) : ℕ := t.attempts.length

def elapsedNs (t : Trial F) : ℕ := (t.attempts.map Attempt.elapsedNs).sum

end Trial

/-- What the benchmark is given. The clock is a function of what is measured: the query, the fault,
the strategy and the candidate. -/
structure Setup (F : Type) where
  lib : Platform
  snapshot : DatasetSnapshot
  seed : ℤ
  elapsed : String → Fault → Strategy → String → ℕ

namespace Setup

variable (σ : Setup F) (queryId : String) (fault : Fault) (strategy : Strategy)

def index : BM25Index F := .new σ.lib σ.snapshot.documents

def query : String := valueAt σ.snapshot.queries queryId ""

def relevant : List String := valueAt σ.snapshot.qrels queryId []

def recallOf (request : Request F) : F :=
  recallScore (σ.index.search σ.lib request) (σ.relevant queryId)

def cleanRecall : F := σ.recallOf queryId (cleanRequest (σ.query queryId))

def faulted : Request F := faultedRequest σ.lib (σ.query queryId) (σ.relevant queryId) fault

def faultedRecall : F := σ.recallOf queryId (σ.faulted queryId fault)

def replay (candidate : String) : Request F :=
  replayRequest (σ.query queryId) (σ.faulted queryId fault) candidate

/-- The recall is as good as without the fault. -/
def recovers (candidate : String) : Bool :=
  let replayRecall := σ.recallOf queryId (σ.replay queryId fault candidate)
  PyFloat.le (σ.cleanRecall queryId) replayRecall &&
    PyFloat.lt (σ.faultedRecall queryId fault) replayRecall

def attempt (candidate : String) : Attempt F where
  candidate := candidate
  elapsedNs := σ.elapsed queryId fault strategy candidate
  retrievedIds := σ.index.search σ.lib (σ.replay queryId fault candidate)
  replayRecall := σ.recallOf queryId (σ.replay queryId fault candidate)
  mitigationObserved := σ.recovers queryId fault candidate

/-- The loop over the candidates, which ends with the first one that recovers. -/
def attempts : List String → List (Attempt F)
  | [] => []
  | candidate :: rest =>
    if σ.recovers queryId fault candidate then [σ.attempt queryId fault strategy candidate]
    else σ.attempt queryId fault strategy candidate :: attempts rest

/-- The trial in which the candidates are tried in this order. -/
def trialOf (order : List String) : Trial F where
  queryId := queryId
  query := σ.query queryId
  strategy := strategy
  fault := fault
  cleanRecallAt10 := σ.cleanRecall queryId
  faultedRecallAt10 := σ.faultedRecall queryId fault
  recovered :=
    ((σ.attempts queryId fault strategy order).getLast?.map Attempt.mitigationObserved).getD false
  attempts := σ.attempts queryId fault strategy order

def trial : Except ReplayError (Trial F) :=
  (candidateOrder F σ.lib strategy
    (Int.xor σ.seed (σ.lib.querySeed (queryId ++ "-" ++ fault.name)))
    (strategy.label fault.groundTruth)).map (σ.trialOf queryId fault strategy)

/-- The fault has lowered the recall. -/
def regresses : Bool := !PyFloat.le (σ.cleanRecall queryId) (σ.faultedRecall queryId fault)

def faultTrials : Except ReplayError (List (Trial F)) :=
  if σ.regresses queryId fault then Strategy.all.mapM (σ.trial queryId fault) else .ok []

def queryTrials : Except ReplayError (List (Trial F)) :=
  if PyFloat.le (σ.cleanRecall queryId) PyFloat.zero then .ok []
  else (Fault.families.mapM (σ.faultTrials queryId)).map List.flatten

/-- The trials of the queries that are left, by query, until enough queries have some. -/
def evaluate : ℕ → List String → Except ReplayError (List (List (Trial F)))
  | 0, _ | _, [] => .ok []
  | wanted + 1, queryId :: queryIds => do
    let trials ← σ.queryTrials queryId
    if trials.isEmpty then evaluate (wanted + 1) queryIds
    else return trials :: (← evaluate wanted queryIds)

/-- The queries with relevance judgements, in random order. -/
def queryIds : List String :=
  σ.lib.shuffle σ.seed ((σ.snapshot.qrels.map Prod.fst).insertionSort (· ≤ ·))

end Setup

structure Aggregate (F : Type) where
  n : ℕ
  recoveryRate : F
  meanReplays : F
  meanElapsedMs : F

/-- The aggregate of some trials. -/
def aggregate (trials : List (Trial F)) : Aggregate F where
  n := trials.length
  recoveryRate := ReplayFloat.ratio (trials.countP Trial.recovered) trials.length
  meanReplays := ReplayFloat.ratio (trials.map Trial.replaysExecuted).sum trials.length
  meanElapsedMs := ArmFloat.div
    (ReplayFloat.ratio (trials.map Trial.elapsedNs).sum trials.length) (BanditFloat.literal 1000000)

structure Report (F : Type) where
  evaluatedQueries : ℕ
  trials : List (Trial F)
  aggregates : List (Strategy × Aggregate F)

def Report.trialsOf (r : Report F) (strategy : Strategy) : List (Trial F) :=
  r.trials.filter (·.strategy = strategy)

def reportOf (groups : List (List (Trial F))) : Report F where
  evaluatedQueries := groups.length
  trials := groups.flatten
  aggregates := Strategy.all.map fun strategy ↦
    (strategy, aggregate (groups.flatten.filter (·.strategy = strategy)))

/-- `run_controlled_replay`, up to the evidence it writes. -/
def run (σ : Setup F) (maxQueries : ℤ) : Except ReplayError (Report F) :=
  if maxQueries ≤ 0 then .error (.valueError "max_queries must be positive")
  else do
    let groups ← σ.evaluate maxQueries.toNat σ.queryIds
    if groups.isEmpty then throw .runtimeError
    return reportOf groups

/-! ## The orders of the candidates -/

section Orders

variable [ExactWholes F]

theorem zero_lt_priorOf (preferred : Option String) (c : String) :
    PyFloat.lt PyFloat.zero (priorOf preferred c : F) = true := by
  have hpositive : ∀ q : ℚ, 1 / 100 ≤ q → q ≤ 1 →
      PyFloat.lt PyFloat.zero (BanditFloat.literal q : F) = true := fun q hq hle ↦ by
    rw [ExactWholes.zero_eq]
    exact ReplayFloat.lt_literal le_rfl hle (by linarith)
  cases preferred with
  | none => exact hpositive _ (by norm_num) (by norm_num)
  | some p =>
    rw [priorOf]
    split_ifs
    · exact hpositive _ (by norm_num) (by norm_num)
    · exact hpositive _ (by norm_num) (by norm_num)

theorem scheduled_eq (preferred : Option String) : scheduled F preferred
    = .ok (candidates.insertionSort (Replay.Before (priorOf (F := F) preferred))) := by
  rw [scheduled, ArmScheduler.candidateOrder, ArmScheduler.orderFrom_eq (zero_lt_priorOf preferred) rfl
    (by decide) (by norm_num) (ArmScheduler.fresh_new (by norm_num) candidates)]
  refine congrArg Except.ok (List.take_of_length_le ?_)
  rw [List.length_insertionSort]
  decide

omit [ExactWholes F] in
theorem before_of_eq {preferred : Option String} {a b : String}
    (h : (priorOf preferred a : F) = priorOf preferred b) (hle : a ≤ b) :
    Replay.Before (priorOf (F := F) preferred) a b := by
  refine .inr ⟨?_, hle⟩
  rw [h]
  exact (OrderedPyFloat.isNanOrder (F := F)).irrefl _

theorem pairwise_candidates : candidates.Pairwise (· ≤ ·) := by decide

theorem scheduled_none : scheduled F none = .ok candidates := by
  rw [scheduled_eq, List.Pairwise.insertionSort_eq]
  refine List.Pairwise.imp ?_ pairwise_candidates
  exact fun {a b} hle ↦ before_of_eq rfl hle

theorem scheduled_some {preferred : String} (h : preferred ∈ candidates) :
    scheduled F (some preferred) = .ok (preferred :: candidates.erase preferred) := by
  have hnumber : ∀ c, OrderedPyFloat.isNan (priorOf (F := F) (some preferred) c) = false := fun c ↦
    ((OrderedPyFloat.isNanOrder (F := F)).number_of_lt (zero_lt_priorOf _ c)).2
  have : Std.Total (Replay.Before (priorOf (F := F) (some preferred))) := Replay.total_before
  have : Std.Antisymm (Replay.Before (priorOf (F := F) (some preferred))) := Replay.antisymm_before
  have : IsTrans String (Replay.Before (priorOf (F := F) (some preferred))) :=
    Replay.trans_before hnumber
  have hfirst : ∀ c ∈ candidates, Replay.Before (priorOf (F := F) (some preferred)) preferred c := by
    intro c _
    by_cases hc : c = preferred
    · rw [hc]
      exact before_of_eq rfl le_rfl
    · refine .inl ?_
      rw [priorOf, priorOf, if_neg hc, if_pos rfl]
      exact ReplayFloat.lt_literal (by norm_num) (by norm_num) (by norm_num)
  rw [scheduled_eq, Selection.insertionSort_eq_cons h hfirst, List.Pairwise.insertionSort_eq]
  have hpairwise := pairwise_candidates.sublist (List.erase_sublist (a := preferred))
  have hnd : candidates.Nodup := by decide
  refine hpairwise.imp_of_mem fun ha hb hle ↦ before_of_eq ?_ hle
  rw [priorOf, priorOf, if_neg (hnd.mem_erase_iff.mp ha).1, if_neg (hnd.mem_erase_iff.mp hb).1]

end Orders

/-! ## What a trial does -/

namespace Fault

/-- The first candidate that is not the ground truth. -/
def wrongIntervention : Fault → String
  | lowRecallCutoff => "normalize_query"
  | _ => "increase_top_k"

theorem groundTruth_mem (fault : Fault) : fault.groundTruth ∈ candidates := by
  cases fault <;> decide

theorem wrongIntervention_mem (fault : Fault) : fault.wrongIntervention ∈ candidates := by
  cases fault <;> decide

theorem find?_ne_groundTruth (fault : Fault) :
    candidates.find? (· ≠ fault.groundTruth) = some fault.wrongIntervention := by
  cases fault <;> decide

end Fault

namespace Setup

variable {σ : Setup F} {queryId : String} {fault : Fault} {strategy : Strategy}

/-- The order in which a strategy tries the candidates. -/
def order (σ : Setup F) (queryId : String) (fault : Fault) : Strategy → List String
  | .bcrbUniformPrior | .fixedOrder => candidates
  | .bcrbOraclePrior => fault.groundTruth :: candidates.erase fault.groundTruth
  | .bcrbWrongPrior => fault.wrongIntervention :: candidates.erase fault.wrongIntervention
  | .random =>
    σ.lib.shuffle (Int.xor σ.seed (σ.lib.querySeed (queryId ++ "-" ++ fault.name))) candidates

omit [ReplayFloat F] in
theorem order_perm : (σ.order queryId fault strategy).Perm candidates := by
  cases strategy with
  | bcrbUniformPrior => exact .refl _
  | bcrbOraclePrior => exact (List.perm_cons_erase fault.groundTruth_mem).symm
  | bcrbWrongPrior => exact (List.perm_cons_erase fault.wrongIntervention_mem).symm
  | fixedOrder => exact .refl _
  | random => exact σ.lib.shuffle_perm _ _

omit [ReplayFloat F] in
theorem order_bcrbWrongPrior (h : fault ≠ .lowRecallCutoff) :
    σ.order queryId fault .bcrbWrongPrior = σ.order queryId fault .fixedOrder := by
  cases fault with
  | lowRecallCutoff => exact absurd rfl h
  | relevantDocumentTombstone | malformedQuery | staleIdf =>
    change "increase_top_k" :: candidates.erase "increase_top_k" = candidates
    decide

theorem trial_eq [ExactWholes F] : σ.trial queryId fault strategy
    = .ok (σ.trialOf queryId fault strategy (σ.order queryId fault strategy)) := by
  have hlabel : (some fault.groundTruth).filter (· ∈ candidates) = some fault.groundTruth :=
    Option.filter_some_pos (by simpa using fault.groundTruth_mem)
  rw [trial]
  cases strategy with
  | bcrbUniformPrior =>
    rw [candidateOrder, scheduled_none]
    rfl
  | bcrbOraclePrior =>
    rw [candidateOrder, Strategy.label, hlabel]
    dsimp only
    rw [scheduled_some fault.groundTruth_mem]
    rfl
  | bcrbWrongPrior =>
    rw [candidateOrder, Strategy.label, hlabel]
    dsimp only
    rw [fault.find?_ne_groundTruth, scheduled_some fault.wrongIntervention_mem]
    rfl
  | fixedOrder => rfl
  | random => rfl

/-! ### Recovery -/

theorem recall_mono {retrieved retrieved' relevant : List String} (hne : relevant ≠ [])
    (h : ∀ d ∈ retrieved, d ∈ retrieved') :
    PyFloat.le (recallScore retrieved relevant : F) (recallScore retrieved' relevant) = true := by
  refine ReplayFloat.ratio_mono (List.length_pos_iff.mpr hne) ?_
  rw [← List.countP_eq_length_filter, ← List.countP_eq_length_filter]
  exact List.countP_mono_left fun d _ hd ↦ by simpa using h d (by simpa using hd)

theorem search_subset (index : BM25Index F) (lib : Platform) (request : Request F) {k : ℤ}
    (hk : request.topK ≤ k) :
    ∀ d ∈ index.search lib request, d ∈ index.search lib { request with topK := k } := by
  intro d hd
  rw [BM25Index.search] at hd
  split_ifs at hd with hzero
  · exact absurd hd List.not_mem_nil
  · rw [BM25Index.search, if_neg (by dsimp only; omega)]
    have hsub := List.take_subset_take_left (index.ranking lib request) (Int.toNat_le_toNat hk)
    obtain ⟨p, hp, rfl⟩ := List.mem_map.mp hd
    exact List.mem_map_of_mem (hsub hp)

theorem clean_subset_replay : ∀ d ∈ σ.index.search σ.lib (cleanRequest (σ.query queryId)),
    d ∈ σ.index.search σ.lib (σ.replay queryId fault fault.groundTruth) := by
  cases fault with
  | lowRecallCutoff =>
    exact search_subset σ.index σ.lib (cleanRequest (σ.query queryId))
      (show (10 : ℤ) ≤ 50 by norm_num)
  | relevantDocumentTombstone => exact fun d hd ↦ hd
  | malformedQuery => exact fun d hd ↦ hd
  | staleIdf => exact fun d hd ↦ hd

theorem recovers_groundTruth (hne : σ.relevant queryId ≠ [])
    (h : σ.regresses queryId fault = true) : σ.recovers queryId fault fault.groundTruth = true := by
  have order := OrderedPyFloat.isNanOrder (F := F)
  have hclean : PyFloat.le (σ.cleanRecall queryId)
      (σ.recallOf queryId (σ.replay queryId fault fault.groundTruth)) = true :=
    recall_mono hne clean_subset_replay
  have hfaulted : PyFloat.le (σ.faultedRecall queryId fault) (σ.faultedRecall queryId fault) = true :=
    recall_mono hne fun _ hd ↦ hd
  rw [regresses, Bool.not_eq_true'] at h
  have hlt : PyFloat.lt (σ.faultedRecall queryId fault) (σ.cleanRecall queryId) = true := by
    by_contra hnot
    refine absurd (order.le_iff.mpr ⟨(order.le_iff.mp hclean).1, (order.le_iff.mp hfaulted).1,
      Bool.eq_false_iff.mpr hnot⟩) ?_
    rw [h]
    exact Bool.false_ne_true
  rw [recovers, Bool.and_eq_true]
  exact ⟨hclean, order.lt_of_lt_of_le hlt hclean⟩

/-! ### The loop -/

theorem length_attempts_le (candidates : List String) :
    (σ.attempts queryId fault strategy candidates).length ≤ candidates.length := by
  induction candidates with
  | nil => exact le_rfl
  | cons c candidates ih =>
    rw [attempts]
    split_ifs
    · simp
    · simpa using ih

theorem exists_getLast?_attempts {candidates : List String} {c : String} (hc : c ∈ candidates)
    (h : σ.recovers queryId fault c = true) :
    ∃ a, (σ.attempts queryId fault strategy candidates).getLast? = some a ∧
      a.mitigationObserved = true := by
  induction candidates with
  | nil => exact absurd hc List.not_mem_nil
  | cons d candidates ih =>
    rw [attempts]
    split_ifs with hd
    · exact ⟨_, rfl, hd⟩
    · have hc : c ∈ candidates := by
        rcases List.mem_cons.mp hc with rfl | hc
        · exact absurd h hd
        · exact hc
      obtain ⟨a, hlast, ha⟩ := ih hc
      exact ⟨a, by rw [List.getLast?_cons, hlast, Option.getD_some], ha⟩

theorem attempts_cons_of_recovers {c : String} {candidates : List String}
    (h : σ.recovers queryId fault c = true) :
    σ.attempts queryId fault strategy (c :: candidates) = [σ.attempt queryId fault strategy c] := by
  rw [attempts, if_pos h]

/-! ### The trials of a run -/

/-- The trial of a strategy. -/
def trialBy (σ : Setup F) (strategy : Strategy) (pair : String × Fault) : Trial F :=
  σ.trialOf pair.1 pair.2 strategy (σ.order pair.1 pair.2 strategy)

/-- The faults that lower the recall of a query. -/
def regressing (σ : Setup F) (queryId : String) : List Fault :=
  if PyFloat.le (σ.cleanRecall queryId) PyFloat.zero then []
  else Fault.families.filter (σ.regresses queryId)

/-- The trials of all strategies. -/
def pairTrials (σ : Setup F) (pair : String × Fault) : List (Trial F) :=
  Strategy.all.map fun strategy ↦ σ.trialBy strategy pair

/-- The queries that are evaluated. -/
def evaluated (σ : Setup F) (wanted : ℕ) (queryIds : List String) : List String :=
  (queryIds.filter fun queryId ↦ !(σ.regressing queryId).isEmpty).take wanted

def pairsOf (σ : Setup F) (queryId : String) : List (String × Fault) :=
  (σ.regressing queryId).map fun fault ↦ (queryId, fault)

section Trials

variable [ExactWholes F]

theorem faultTrials_eq : σ.faultTrials queryId fault
    = .ok (if σ.regresses queryId fault then σ.pairTrials (queryId, fault) else []) := by
  rw [faultTrials]
  split_ifs
  · exact Transaction.mapM_eq_ok fun strategy _ ↦ trial_eq
  · rfl

omit [ExactWholes F] in
theorem flatten_map_ite {α β : Type} (p : α → Bool) (f : α → List β) (xs : List α) :
    (xs.map fun x ↦ if p x then f x else []).flatten = (xs.filter p).flatMap f := by
  induction xs with
  | nil => rfl
  | cons x xs ih =>
    rw [List.map_cons, List.flatten_cons, ih, List.filter_cons]
    split_ifs <;> rfl

theorem queryTrials_eq : σ.queryTrials queryId = .ok ((σ.pairsOf queryId).flatMap σ.pairTrials) := by
  rw [queryTrials, pairsOf, regressing, List.flatMap_map]
  split_ifs
  · rfl
  · rw [Transaction.mapM_eq_ok fun fault _ ↦ faultTrials_eq]
    exact congrArg Except.ok (flatten_map_ite _ _ _)

omit [ExactWholes F] in
theorem isEmpty_queryTrials :
    ((σ.pairsOf queryId).flatMap σ.pairTrials).isEmpty = (σ.regressing queryId).isEmpty := by
  rw [pairsOf]
  cases σ.regressing queryId <;> rfl

theorem evaluate_eq (wanted : ℕ) (queryIds : List String) : σ.evaluate wanted queryIds
    = .ok ((σ.evaluated wanted queryIds).map fun queryId ↦
      (σ.pairsOf queryId).flatMap σ.pairTrials) := by
  induction queryIds generalizing wanted with
  | nil => cases wanted <;> simp [evaluate, evaluated]
  | cons queryId queryIds ih =>
    cases wanted with
    | zero => simp [evaluate, evaluated]
    | succ wanted =>
      rw [evaluate, queryTrials_eq]
      change (if (List.flatMap _ _).isEmpty = true then _ else _) = _
      rw [isEmpty_queryTrials, evaluated, List.filter_cons]
      cases hempty : (σ.regressing queryId).isEmpty with
      | true => exact ih (wanted + 1)
      | false =>
        rw [if_neg Bool.false_ne_true, ih]
        rfl

end Trials

/-- The query and fault pairs that are tried. -/
def pairs (σ : Setup F) (maxQueries : ℤ) : List (String × Fault) :=
  (σ.evaluated maxQueries.toNat σ.queryIds).flatMap σ.pairsOf

theorem flatten_groups (ids : List String) :
    (ids.map fun queryId ↦ (σ.pairsOf queryId).flatMap σ.pairTrials).flatten
      = (ids.flatMap σ.pairsOf).flatMap σ.pairTrials := by
  rw [← List.flatMap_def, List.flatMap_assoc]

theorem filter_pairTrials (strategy : Strategy) (pairs : List (String × Fault)) :
    (pairs.flatMap σ.pairTrials).filter (·.strategy = strategy) = pairs.map (σ.trialBy strategy) := by
  rw [List.filter_flatMap, List.map_eq_flatMap]
  refine List.flatMap_congr fun pair _ ↦ ?_
  cases strategy <;> rfl

theorem nodup_pairs (maxQueries : ℤ) : (σ.pairs maxQueries).Nodup := by
  have hids : (σ.evaluated maxQueries.toNat σ.queryIds).Nodup := by
    refine List.Nodup.sublist (List.take_sublist _ _) (List.Nodup.filter _ ?_)
    refine (σ.lib.shuffle_perm _ _).nodup_iff.mpr ?_
    exact (List.perm_insertionSort _ _).nodup_iff.mpr σ.snapshot.nodup_qrels
  have hfaults : ∀ queryId, (σ.regressing queryId).Nodup := fun queryId ↦ by
    rw [regressing]
    split_ifs
    · exact List.nodup_nil
    · exact List.Nodup.filter _ (by decide)
  refine List.nodup_flatMap.mpr ⟨fun queryId _ ↦ ?_, ?_⟩
  · exact (hfaults queryId).map fun _ _ h ↦ (Prod.mk.inj h).2
  · refine hids.imp fun {a b} hne pair ha hb ↦ hne ?_
    obtain ⟨_, -, rfl⟩ := List.mem_map.mp ha
    obtain ⟨_, -, hpair⟩ := List.mem_map.mp hb
    exact (Prod.mk.inj hpair).1.symm

theorem of_mem_pairs {maxQueries : ℤ} {pair : String × Fault} (h : pair ∈ σ.pairs maxQueries) :
    σ.relevant pair.1 ≠ [] ∧ σ.regresses pair.1 pair.2 = true := by
  obtain ⟨queryId, hquery, hpair⟩ := List.mem_flatMap.mp h
  obtain ⟨fault, hfault, rfl⟩ := List.mem_map.mp hpair
  have hmem := List.mem_of_mem_filter (List.mem_of_mem_take hquery)
  rw [queryIds, (σ.lib.shuffle_perm _ _).mem_iff, List.mem_insertionSort] at hmem
  obtain ⟨m, hm, rfl⟩ := List.mem_map.mp hmem
  rw [regressing] at hfault
  split_ifs at hfault
  · exact absurd hfault List.not_mem_nil
  · refine ⟨?_, (List.mem_filter.mp hfault).2⟩
    have hfind : σ.snapshot.qrels.find? (fun n ↦ n.1 = m.1) = some m :=
      (find?_key_eq_some_iff σ.snapshot.nodup_qrels).mpr ⟨hm, rfl⟩
    rw [relevant, valueAt, hfind]
    exact σ.snapshot.relevant_ne_nil m hm

end Setup

/-! ## The report -/

namespace Trial

/-- The query and the fault. -/
def pair (t : Trial F) : String × Fault := (t.queryId, t.fault)

/-- What was replayed, and what came of it, without the time it took. -/
def replays (t : Trial F) : List (String × List String × F × Bool) :=
  t.attempts.map fun a ↦ (a.candidate, a.retrievedIds, a.replayRecall, a.mitigationObserved)

end Trial

/-- What the report says whatever the dataset is: each strategy recovers from each fault, within as
many replays as there are candidates and in one if it is told the family, all strategies try the
same faults, and the one with equal priors replays what the fixed order replays. -/
structure Report.Foregone (r : Report F) : Prop where
  recovered : ∀ t ∈ r.trials, t.recovered = true
  bounded : ∀ t ∈ r.trials, 0 < t.replaysExecuted ∧ t.replaysExecuted ≤ candidates.length
  oracle : ∀ t ∈ r.trialsOf .bcrbOraclePrior, t.replaysExecuted = 1
  paired : ∀ s s', (r.trialsOf s).map Trial.pair = (r.trialsOf s').map Trial.pair
  nodup : ∀ s, ((r.trialsOf s).map Trial.pair).Nodup
  uniform :
    (r.trialsOf .bcrbUniformPrior).map Trial.replays = (r.trialsOf .fixedOrder).map Trial.replays
  wrong : ((r.trialsOf .bcrbWrongPrior).filter (·.fault ≠ .lowRecallCutoff)).map Trial.replays
    = ((r.trialsOf .fixedOrder).filter (·.fault ≠ .lowRecallCutoff)).map Trial.replays
  rates : ∀ s a, (s, a) ∈ r.aggregates → a.n ≠ 0 ∧ a.recoveryRate = ReplayFloat.ratio a.n a.n
  oracleMean : ∀ a, (Strategy.bcrbOraclePrior, a) ∈ r.aggregates →
    a.meanReplays = ReplayFloat.ratio a.n a.n

section Report

variable {σ : Setup F} {maxQueries : ℤ} {r : Report F}

/-- The trials of the report. -/
structure Report.Of (r : Report F) (σ : Setup F) (pairs : List (String × Fault)) : Prop where
  trials : r.trials = pairs.flatMap σ.pairTrials
  aggregates : r.aggregates = Strategy.all.map fun strategy ↦
    (strategy, aggregate (pairs.map (σ.trialBy strategy)))

theorem Report.Of.trialsOf_eq {pairs : List (String × Fault)} (h : r.Of σ pairs)
    (strategy : Strategy) : r.trialsOf strategy = pairs.map (σ.trialBy strategy) := by
  rw [Report.trialsOf, h.trials, Setup.filter_pairTrials]

theorem Report.Of.mem_trials {pairs : List (String × Fault)} (h : r.Of σ pairs) {t : Trial F}
    (ht : t ∈ r.trials) : ∃ strategy, ∃ pair ∈ pairs, t = σ.trialBy strategy pair := by
  rw [h.trials] at ht
  obtain ⟨pair, hpair, ht⟩ := List.mem_flatMap.mp ht
  obtain ⟨strategy, -, rfl⟩ := List.mem_map.mp ht
  exact ⟨strategy, pair, hpair, rfl⟩

/-- **One trial** ends with a candidate that recovers. -/
theorem recovered_trialBy (strategy : Strategy) {pair : String × Fault}
    (hpair : σ.relevant pair.1 ≠ [] ∧ σ.regresses pair.1 pair.2 = true) :
    (σ.trialBy strategy pair).recovered = true ∧ 0 < (σ.trialBy strategy pair).replaysExecuted ∧
      (σ.trialBy strategy pair).replaysExecuted ≤ candidates.length := by
  have hmem : pair.2.groundTruth ∈ σ.order pair.1 pair.2 strategy :=
    Setup.order_perm.mem_iff.mpr pair.2.groundTruth_mem
  have hrecovers := Setup.recovers_groundTruth hpair.1 hpair.2
  obtain ⟨a, hlast, ha⟩ : ∃ a, (σ.attempts pair.1 pair.2 strategy
      (σ.order pair.1 pair.2 strategy)).getLast? = some a ∧ a.mitigationObserved = true :=
    Setup.exists_getLast?_attempts hmem hrecovers
  refine ⟨?_, ?_, ?_⟩
  · rw [Setup.trialBy, Setup.trialOf, hlast, Option.map_some, Option.getD_some, ha]
  · refine List.length_pos_iff.mpr fun hnil ↦ ?_
    have hattempts : σ.attempts pair.1 pair.2 strategy (σ.order pair.1 pair.2 strategy) = [] := hnil
    rw [hattempts] at hlast
    exact absurd hlast (by simp)
  · have hperm : (σ.order pair.1 pair.2 strategy).Perm candidates := Setup.order_perm
    rw [← hperm.length_eq]
    exact Setup.length_attempts_le _

theorem attempts_oracle {pair : String × Fault}
    (hpair : σ.relevant pair.1 ≠ [] ∧ σ.regresses pair.1 pair.2 = true) :
    (σ.trialBy .bcrbOraclePrior pair).replaysExecuted = 1 := by
  rw [Trial.replaysExecuted, Setup.trialBy, Setup.trialOf, Setup.order,
    Setup.attempts_cons_of_recovers (Setup.recovers_groundTruth hpair.1 hpair.2)]
  rfl

theorem replays_congr {s s' : Strategy} {pair : String × Fault}
    (h : σ.order pair.1 pair.2 s = σ.order pair.1 pair.2 s') :
    (σ.trialBy s pair).replays = (σ.trialBy s' pair).replays := by
  rw [Trial.replays, Trial.replays, Setup.trialBy, Setup.trialBy, Setup.trialOf, Setup.trialOf, h]
  dsimp only
  generalize σ.order pair.1 pair.2 s' = order
  induction order with
  | nil => rfl
  | cons c order ih =>
    rw [Setup.attempts, Setup.attempts]
    split_ifs
    · rfl
    · rw [List.map_cons, List.map_cons, ih]
      rfl

theorem Report.Of.foregone {pairs : List (String × Fault)} (h : r.Of σ pairs) (hne : pairs ≠ [])
    (hnd : pairs.Nodup)
    (hpairs : ∀ pair ∈ pairs, σ.relevant pair.1 ≠ [] ∧ σ.regresses pair.1 pair.2 = true) :
    r.Foregone := by
  have hpair : ∀ s, (r.trialsOf s).map Trial.pair = pairs := fun s ↦ by
    rw [h.trialsOf_eq, List.map_map]
    exact List.map_id pairs
  constructor
  · intro t ht
    obtain ⟨s, pair, hmem, rfl⟩ := h.mem_trials ht
    exact (recovered_trialBy s (hpairs pair hmem)).1
  · intro t ht
    obtain ⟨s, pair, hmem, rfl⟩ := h.mem_trials ht
    exact (recovered_trialBy s (hpairs pair hmem)).2
  · intro t ht
    rw [h.trialsOf_eq] at ht
    obtain ⟨pair, hmem, rfl⟩ := List.mem_map.mp ht
    exact attempts_oracle (hpairs pair hmem)
  · exact fun s s' ↦ (hpair s).trans (hpair s').symm
  · exact fun s ↦ (hpair s).symm ▸ hnd
  · rw [h.trialsOf_eq, h.trialsOf_eq, List.map_map, List.map_map]
    exact List.map_congr_left fun pair _ ↦ replays_congr rfl
  · rw [h.trialsOf_eq, h.trialsOf_eq, List.filter_map, List.filter_map, List.map_map, List.map_map]
    refine List.map_congr_left fun pair hmem ↦ replays_congr ?_
    exact Setup.order_bcrbWrongPrior (of_decide_eq_true (List.mem_filter.mp hmem).2)
  · intro s a ha
    rw [h.aggregates] at ha
    obtain ⟨s', -, heq⟩ := List.mem_map.mp ha
    obtain ⟨rfl, rfl⟩ := Prod.mk.inj heq
    have hall : (pairs.map (σ.trialBy s')).countP Trial.recovered
        = (pairs.map (σ.trialBy s')).length := by
      refine List.countP_eq_length.mpr fun t ht ↦ ?_
      obtain ⟨pair, hmem, rfl⟩ := List.mem_map.mp ht
      exact (recovered_trialBy s' (hpairs pair hmem)).1
    refine ⟨?_, congrArg (ReplayFloat.ratio · _) hall⟩
    rw [aggregate, List.length_map]
    exact fun hzero ↦ hne (List.length_eq_zero_iff.mp hzero)
  · intro a ha
    rw [h.aggregates] at ha
    obtain ⟨s', -, heq⟩ := List.mem_map.mp ha
    obtain ⟨rfl, rfl⟩ := Prod.mk.inj heq
    have hall : ((pairs.map (σ.trialBy .bcrbOraclePrior)).map Trial.replaysExecuted).sum
        = (pairs.map (σ.trialBy .bcrbOraclePrior)).length := by
      have hone : ∀ n ∈ (pairs.map (σ.trialBy .bcrbOraclePrior)).map Trial.replaysExecuted, n = 1 := by
        intro n hn
        obtain ⟨t, ht, rfl⟩ := List.mem_map.mp hn
        obtain ⟨pair, hmem, rfl⟩ := List.mem_map.mp ht
        exact attempts_oracle (hpairs pair hmem)
      simpa using List.sum_eq_card_nsmul _ 1 hone
    exact congrArg (ReplayFloat.ratio · _) hall

theorem evaluated_eq_nil_iff (hpositive : 0 < maxQueries) :
    σ.evaluated maxQueries.toNat σ.queryIds = [] ↔
      ∀ queryId ∈ σ.queryIds, σ.regressing queryId = [] := by
  have hwanted : maxQueries.toNat ≠ 0 := by omega
  rw [Setup.evaluated, List.take_eq_nil_iff, or_iff_right hwanted, List.filter_eq_nil_iff]
  simp

theorem pairs_eq_nil_iff :
    σ.pairs maxQueries = [] ↔ σ.evaluated maxQueries.toNat σ.queryIds = [] := by
  rw [Setup.pairs, List.flatMap_eq_nil_iff]
  constructor
  · intro h
    refine List.eq_nil_iff_forall_not_mem.mpr fun queryId hmem ↦ ?_
    -- a query that is evaluated has a fault that lowers its recall
    have hregressing := (List.mem_filter.mp (List.mem_of_mem_take hmem)).2
    rw [List.map_eq_nil_iff.mp (h queryId hmem)] at hregressing
    exact absurd hregressing (by decide)
  · intro h queryId hmem
    exact absurd (h ▸ hmem) List.not_mem_nil

variable [ExactWholes F]

/-- **A run** raises when no fault lowers the recall of a query, and reports the trials otherwise.
-/
theorem run_eq (hpositive : 0 < maxQueries) :
    σ.pairs maxQueries = [] ∧ run σ maxQueries = .error .runtimeError ∨
      σ.pairs maxQueries ≠ [] ∧ ∃ r, run σ maxQueries = .ok r ∧ r.Of σ (σ.pairs maxQueries) := by
  by_cases hnil : σ.evaluated maxQueries.toNat σ.queryIds = []
  · refine .inl ⟨pairs_eq_nil_iff.mpr hnil, ?_⟩
    rw [run, if_neg (not_le.mpr hpositive), Setup.evaluate_eq, hnil]
    rfl
  · refine .inr ⟨mt pairs_eq_nil_iff.mp hnil, reportOf _, ?_, Setup.flatten_groups _, ?_⟩
    · rw [run, if_neg (not_le.mpr hpositive), Setup.evaluate_eq]
      change (if (List.map _ _).isEmpty = true then _ else _) = _
      rw [if_neg (by simpa using hnil)]
      rfl
    · refine List.map_congr_left fun strategy _ ↦ ?_
      rw [Setup.flatten_groups, Setup.filter_pairTrials]
      rfl

/-- **A foregone conclusion.** A run with a positive number of queries reports when a fault lowers
the recall of some query, and whatever the dataset, the scores and the random orders are, the report
then says the same about recovery. -/
theorem foregone_run (hpositive : 0 < maxQueries) :
    ((∃ r, run σ maxQueries = .ok r) ↔ ∃ queryId ∈ σ.queryIds, σ.regressing queryId ≠ []) ∧
      ∀ r, run σ maxQueries = .ok r → r.Foregone := by
  have hnil : σ.pairs maxQueries = [] ↔ ∀ queryId ∈ σ.queryIds, σ.regressing queryId = [] :=
    pairs_eq_nil_iff.trans (evaluated_eq_nil_iff hpositive)
  have hcases : σ.pairs maxQueries = [] ∧ run σ maxQueries = .error .runtimeError ∨
      σ.pairs maxQueries ≠ [] ∧ ∃ r, run σ maxQueries = .ok r ∧ r.Of σ (σ.pairs maxQueries) :=
    run_eq hpositive
  rcases hcases with ⟨hpairs, hrun⟩ | ⟨hpairs, r, hrun, hof⟩
  · refine ⟨iff_of_false ?_ ?_, fun r h ↦ absurd (hrun.symm.trans h) (by simp)⟩
    · rintro ⟨r, hr⟩
      exact absurd (hrun.symm.trans hr) (by simp)
    · rintro ⟨queryId, hmem, hne⟩
      exact hne (hnil.mp hpairs queryId hmem)
  · refine ⟨iff_of_true ⟨r, hrun⟩ ?_, fun r' hr' ↦ ?_⟩
    · by_contra hnot
      push Not at hnot
      exact hpairs (hnil.mpr hnot)
    · obtain rfl := Except.ok.inj (hrun.symm.trans hr')
      exact hof.foregone hpairs (Setup.nodup_pairs maxQueries) fun _ ↦ Setup.of_mem_pairs

end Report

/-! ### Two documents -/

/-- Exact arithmetic, with a logarithm to first order. -/
instance : ReplayFloat ℚ where
  ratio m n := m / n
  logOf x := x - 1
  ratio_mono {m n d} hd h := by
    refine decide_eq_true ?_
    have hd' : (0 : ℚ) < d := Nat.cast_pos.mpr hd
    have h' : (m : ℚ) ≤ n := Nat.cast_le.mpr h
    exact div_le_div_of_nonneg_right h' hd'.le
  lt_literal {p q} _ _ h := by
    refine decide_eq_true ?_
    change p < q
    linarith

def plainPlatform : Platform where
  lower text := text
  setOrder := List.dedup
  shuffle _ xs := xs
  querySeed _ := 0
  shuffle_perm _ xs := .refl xs

def twoDocuments : DatasetSnapshot where
  documents := [("d1", "alpha treatment works"), ("d2", "beta control study")]
  queries := [("1", "alpha treatment")]
  qrels := [("1", ["d1"])]
  nodup_qrels := by decide
  relevant_ne_nil := by decide

def twoSetup : Setup ℚ := ⟨plainPlatform, twoDocuments, 7, fun _ _ _ _ ↦ 0⟩

theorem foregone_run_two : ∃ r, run twoSetup 1 = .ok r ∧ r.Foregone := by
  have hregressing : (twoSetup.regressing "1").isEmpty = false := by decide +kernel
  have hpositive : (0 : ℤ) < 1 := by decide
  have hmem : "1" ∈ twoSetup.queryIds := by decide
  have hne : twoSetup.regressing "1" ≠ [] := fun hnil ↦ by
    rw [hnil] at hregressing
    exact absurd hregressing (by decide)
  obtain ⟨r, hr⟩ := (foregone_run hpositive).1.mpr ⟨"1", hmem, hne⟩
  exact ⟨r, hr, (foregone_run hpositive).2 r hr⟩

end DriftGuardX.Benchmark
