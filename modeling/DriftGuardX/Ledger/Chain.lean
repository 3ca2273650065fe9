import DriftGuardX.Foundation.HashChain
import DriftGuardX.Ledger.Certificate
import Mathlib.Logic.Function.Basic

/-!
# The certificate ledger

`LedgerChain`: certificates in one SQLite table, each naming the hash of the one before it. An
instance keeps the head of the chain in memory. `append_certificate` compares the certificate with
that field, and then waits for the database three times before it updates the field; the table
itself accepts any predecessor.

The coroutines of any number of instances over one database file are interleaved here: an `Action`
is what one coroutine does between two points where it may be switched out, and a run is any list of
actions. An insertion is atomic.

The chain does not fork as long as every insertion finds the predecessor of its certificate still at
the end of the table (`InsertsAtHead`). The check in memory does not ensure this: two coroutines, or
two instances, pass it with the same head.
-/

namespace DriftGuardX.Ledger.LedgerChain

open Json Bytes HashChain Transaction RecoveryCertificate

variable {F : Type} [FloatText F]

/-! ## The table -/

/-- What the ledger uses of its libraries. A signature is checked against a public key. -/
structure Crypto where
  sha256 : List UInt8 → String
  verifySignature : String → List UInt8 → String → Bool

inductive Error where
  | certificateValidationError (message : String)
  | typeError
  deriving DecidableEq, Repr

/-- A row of the `ledger` table of certificates. -/
structure Row where
  certId : String
  certHash : String
  previousHash : String
  payload : Text
  signature : String
  signerPubKey : String
  timestamp : String
  deriving DecidableEq

/-- The rows by increasing `id`, with the two unique columns. -/
structure Table where
  rows : List Row
  uniqueIds : (rows.map Row.certId).Nodup
  uniqueHashes : (rows.map Row.certHash).Nodup

namespace Table

def empty : Table := ⟨[], .nil, .nil⟩

theorem nodup_map_append {α : Type} {rows : List Row} {row : Row} {column : Row → α}
    (hnd : (rows.map column).Nodup) (hnew : column row ∉ rows.map column) :
    ((rows ++ [row]).map column).Nodup := by
  rw [List.map_append, List.nodup_append]
  refine ⟨hnd, by simp, ?_⟩
  rintro a ha b hb rfl
  exact hnew (List.mem_singleton.mp hb ▸ ha)

/-- `INSERT INTO ledger`. -/
def insert (t : Table) (row : Row) : Except Error Table :=
  if hid : row.certId ∈ t.rows.map Row.certId then
    .error (.certificateValidationError
      ("Integrity constraint violation (duplicate ID or Hash?): " ++
        "UNIQUE constraint failed: ledger.cert_id"))
  else if hhash : row.certHash ∈ t.rows.map Row.certHash then
    .error (.certificateValidationError
      ("Integrity constraint violation (duplicate ID or Hash?): " ++
        "UNIQUE constraint failed: ledger.cert_hash"))
  else .ok ⟨t.rows ++ [row], nodup_map_append t.uniqueIds hid,
    nodup_map_append t.uniqueHashes hhash⟩

/-- The hash at the end of the table. -/
def head (t : Table) : String := headHash Row.certHash "GENESIS" t.rows

theorem rows_of_insert {t t' : Table} {row : Row} (h : t.insert row = .ok t') :
    t'.rows = t.rows ++ [row] := by
  rw [insert] at h
  split at h
  · exact absurd h (by simp)
  · split at h
    · exact absurd h (by simp)
    · exact Except.ok.inj h ▸ rfl

end Table

/-! ## Appending -/

section Appending

variable (C : Crypto)

/-- The signature and its key, unless one of them is missing or empty. -/
def signed (cert : RecoveryCertificate F) : Option (String × String) :=
  match cert.signature, cert.signerPubKey with
  | some signature, some signerPubKey =>
    if signature = "" ∨ signerPubKey = "" then none else some (signature, signerPubKey)
  | _, _ => none

/-- `append_certificate` up to the insertion: the checks against the head in memory, and the row. -/
def prepare (cert : RecoveryCertificate F) (headHash : Option String) : Except Error Row := do
  let (signature, signerPubKey) ← orRaise
    (.certificateValidationError "Certificate must be signed before appending.") (signed cert)
  require (some cert.previousCertHash = headHash) (.certificateValidationError
    ("Chain fork detected: Certificate previous_hash (" ++ cert.previousCertHash ++
      ") does not match ledger head (" ++ headHash.getD "None" ++ ")."))
  let bytes ← orRaise .typeError cert.canonicalBytes
  require (C.verifySignature signerPubKey bytes signature = true)
    (.certificateValidationError "Cryptographic signature verification failed.")
  let payload ← orRaise .typeError (dumps ⟨true, false⟩ false (.object cert.asdict))
  return ⟨cert.certId, C.sha256 bytes, cert.previousCertHash, payload, signature, signerPubKey,
    cert.timestamp⟩

end Appending

/-! ## Verifying -/

section Verifying

variable (C : Crypto)

def getAllCertificates (t : Table) : Except Error (List (RecoveryCertificate F)) :=
  t.rows.mapM fun row ↦ orRaise .typeError ((loads row.payload).bind fromDict)

/-- The loop of `verify_chain`, from the certificates that are left. -/
def verifyFrom : String → List (RecoveryCertificate F) → Except Error Bool
  | _, [] => .ok true
  | expectedPrev, cert :: certs => do
    if cert.previousCertHash ≠ expectedPrev then return false
    match signed cert with
    | none => return false
    | some (signature, signerPubKey) =>
      let bytes ← orRaise .typeError cert.canonicalBytes
      if C.verifySignature signerPubKey bytes signature = false then return false
      verifyFrom (C.sha256 bytes) certs

variable (F) in
def verifyChain (t : Table) : Except Error Bool := do
  let certs : List (RecoveryCertificate F) ← getAllCertificates t
  verifyFrom C "GENESIS" certs

end Verifying

/-! ## Interleavings -/

/-- Where a coroutine is switched out. -/
inductive Task (F : Type) where
  | idle
  /-- In `initialize`, with the head it has read. -/
  | loading (chain : ℕ) (head : String)
  /-- In `append_certificate`, after the checks. -/
  | inserting (chain : ℕ) (cert : RecoveryCertificate F) (row : Row)
  /-- In `append_certificate`, after the insertion. -/
  | inserted (chain : ℕ) (certHash : String)

/-- What a coroutine does before it is switched out again. Coroutines and instances have numbers. -/
inductive Action (F : Type) where
  | loadHead (task chain : ℕ)
  | setHead (task : ℕ)
  | check (task chain : ℕ) (cert : RecoveryCertificate F)
  | insert (task : ℕ)
  | finish (task : ℕ)
  /-- The coroutine is cancelled, or the database raises. -/
  | abort (task : ℕ)

structure World (F : Type) where
  table : Table
  /-- `_head_hash` of each instance. -/
  heads : ℕ → Option String
  tasks : ℕ → Task F
  /-- The hashes that calls of `append_certificate` have returned. -/
  returned : List String

/-- An empty database, and nobody at work. -/
def World.initial : World F := ⟨.empty, fun _ ↦ none, fun _ ↦ .idle, []⟩

def World.setTask (w : World F) (task : ℕ) (t : Task F) : World F :=
  { w with tasks := Function.update w.tasks task t }

omit [FloatText F] in
theorem World.tasks_setTask (w : World F) (task other : ℕ) (t : Task F) :
    (w.setTask task t).tasks other = if other = task then t else w.tasks other :=
  Function.update_apply w.tasks task t other

/-- One action; one that the coroutine is not ready for does nothing. -/
def step (C : Crypto) (action : Action F) (w : World F) : World F :=
  match action with
  | .loadHead task chain =>
    match w.tasks task with
    | .idle => w.setTask task (.loading chain w.table.head)
    | _ => w
  | .setHead task =>
    match w.tasks task with
    | .loading chain head =>
      { w.setTask task .idle with heads := Function.update w.heads chain (some head) }
    | _ => w
  | .check task chain cert =>
    match w.tasks task, prepare C cert (w.heads chain) with
    | .idle, .ok row => w.setTask task (.inserting chain cert row)
    | _, _ => w
  | .insert task =>
    match w.tasks task with
    | .inserting chain _ row =>
      match w.table.insert row with
      | .ok table => { w.setTask task (.inserted chain row.certHash) with table }
      | .error _ => w.setTask task .idle
    | _ => w
  | .finish task =>
    match w.tasks task with
    | .inserted chain certHash =>
      { w.setTask task .idle with
        heads := Function.update w.heads chain (some certHash)
        returned := w.returned ++ [certHash] }
    | _ => w
  | .abort task => w.setTask task .idle

/-- The world after a run of actions. -/
def run (C : Crypto) (actions : List (Action F)) : World F :=
  actions.foldl (fun w action ↦ step C action w) .initial

/-! ## The rows of an honest table -/

section Rows

variable {C : Crypto}

/-- What the row of a certificate says about it. -/
structure Prepared (C : Crypto) (cert : RecoveryCertificate F) (row : Row) (bytes : List UInt8) :
    Prop where
  signed : signed cert = some (row.signature, row.signerPubKey)
  canonicalBytes : cert.canonicalBytes = some bytes
  verified : C.verifySignature row.signerPubKey bytes row.signature = true
  payload : dumps ⟨true, false⟩ false (.object cert.asdict) = some row.payload
  certHash : row.certHash = C.sha256 bytes
  previousHash : row.previousHash = cert.previousCertHash

theorem exists_prepared {cert : RecoveryCertificate F} {head : Option String} {row : Row}
    (h : prepare C cert head = .ok row) : ∃ bytes, Prepared C cert row bytes := by
  simp only [prepare, bind_eq_ok_iff, orRaise_eq_ok_iff, require_eq_ok_iff, pure_eq_ok_iff] at h
  obtain ⟨⟨signature, signerPubKey⟩, hsigned, -, -, bytes, hbytes, -, hverified, payload, hpayload,
    rfl⟩ := h
  exact ⟨bytes, hsigned, hbytes, hverified, hpayload, rfl, rfl⟩

variable (F C) in
/-- The row of a certificate whose dictionaries are stable. -/
def Genuine (row : Row) : Prop :=
  ∃ (cert : RecoveryCertificate F) (bytes : List UInt8), cert.Stable ∧ Prepared C cert row bytes

/-- A genuine row reads back as a certificate with the same hash, predecessor and signature. -/
theorem Genuine.exists_read {row : Row} (h : Genuine F C row) :
    ∃ (cert : RecoveryCertificate F) (bytes : List UInt8),
      (loads row.payload).bind fromDict = some cert ∧
      cert.previousCertHash = row.previousHash ∧
      LedgerChain.signed cert = some (row.signature, row.signerPubKey) ∧
      cert.canonicalBytes = some bytes ∧
      C.verifySignature row.signerPubKey bytes row.signature = true ∧
      row.certHash = C.sha256 bytes := by
  obtain ⟨cert, bytes, hstable, hprep⟩ := h
  obtain ⟨vector, metrics, hread, hbytes⟩ :=
    exists_canonicalBytes_of_stable hstable hprep.canonicalBytes hprep.payload
  exact ⟨cert.withDicts vector metrics, bytes, hread, hprep.previousHash.symm, hprep.signed, hbytes,
    hprep.verified, hprep.certHash⟩

variable (F C) in
/-- Genuine rows, each naming the hash of the one before it. -/
abbrev CertificateChain (previous : String) (rows : List Row) : Prop :=
  Chained (fun _ previous row ↦ row.previousHash = previous ∧ Genuine F C row) Row.certHash 0
    previous rows

theorem exists_certificates {n : ℕ} {previous : String} {rows : List Row}
    (h : Chained (fun _ previous row ↦ row.previousHash = previous ∧ Genuine F C row) Row.certHash n
      previous rows) :
    ∃ certs : List (RecoveryCertificate F),
      rows.mapM (fun row ↦ orRaise Error.typeError ((loads row.payload).bind fromDict)) = .ok certs ∧
        verifyFrom C previous certs = .ok true := by
  induction rows generalizing n previous with
  | nil => exact ⟨[], rfl, rfl⟩
  | cons row rows ih =>
    obtain ⟨⟨hlink, hgenuine⟩, htail⟩ := h
    obtain ⟨certs, hcerts, hverify⟩ := ih htail
    obtain ⟨cert, bytes, hread, hprev, hsigned, hbytes, hsig, hhash⟩ := hgenuine.exists_read
    refine ⟨cert :: certs, ?_, ?_⟩
    · rw [List.mapM_cons, hread, hcerts]
      rfl
    · rw [verifyFrom, if_neg (not_not.mpr (hprev.trans hlink)), hsigned]
      dsimp only
      rw [hbytes, orRaise, ok_bind, if_neg (by rw [hsig]; decide), ← hhash]
      exact hverify

/-- **A chain of genuine rows verifies.** -/
theorem verifyChain_of_chain {t : Table} (h : CertificateChain F C "GENESIS" t.rows) :
    verifyChain F C t = .ok true := by
  obtain ⟨certs, hcerts, hverify⟩ := exists_certificates h
  rw [verifyChain, getAllCertificates, hcerts, ok_bind, hverify]

end Rows

/-! ## Runs without a fork -/

section Runs

variable {C : Crypto}

/-- When the action is an insertion, the table still ends with the predecessor of the certificate,
and the certificate's dictionaries are stable. -/
def InsertsAtHead (action : Action F) (w : World F) : Prop :=
  ∀ task chain cert row, action = .insert task → w.tasks task = .inserting chain cert row →
    cert.previousCertHash = w.table.head ∧ cert.Stable

variable (C) in
/-- The table is a chain, and the coroutines at work say the truth about it. -/
structure Unforked (w : World F) : Prop where
  chain : CertificateChain F C "GENESIS" w.table.rows
  inserting : ∀ {task chain cert row}, w.tasks task = .inserting chain cert row →
    ∃ bytes, Prepared C cert row bytes
  inserted : ∀ {task chain hash}, w.tasks task = .inserted chain hash →
    hash ∈ w.table.rows.map Row.certHash
  returned : ∀ hash ∈ w.returned, hash ∈ w.table.rows.map Row.certHash

/-- Changing one coroutine. -/
theorem Unforked.setTask {w : World F} (h : Unforked C w) (task : ℕ) (t : Task F)
    (hinserting : ∀ chain cert row, t = .inserting chain cert row →
      ∃ bytes, Prepared C cert row bytes)
    (hinserted : ∀ chain hash, t = .inserted chain hash →
      hash ∈ w.table.rows.map Row.certHash) : Unforked C (w.setTask task t) := by
  refine ⟨h.chain, fun {other chain cert row} ho ↦ ?_, fun {other chain hash} ho ↦ ?_, h.returned⟩
  · rw [World.tasks_setTask] at ho
    split at ho
    · exact hinserting chain cert row ho
    · exact h.inserting ho
  · rw [World.tasks_setTask] at ho
    split at ho
    · exact hinserted chain hash ho
    · exact h.inserted ho

theorem Unforked.idle {w : World F} (h : Unforked C w) (task : ℕ) :
    Unforked C (w.setTask task .idle) :=
  h.setTask task .idle (fun _ _ _ ht ↦ absurd ht (by simp)) fun _ _ ht ↦ absurd ht (by simp)

theorem Unforked.insert {w : World F} (h : Unforked C w) {row : Row} {table : Table}
    (hins : w.table.insert row = .ok table) (hlink : row.previousHash = w.table.head)
    (hgenuine : Genuine F C row) : Unforked C { w with table } := by
  have hrows := Table.rows_of_insert hins
  have hmono : ∀ hash ∈ w.table.rows.map Row.certHash, hash ∈ table.rows.map Row.certHash := by
    intro hash hhash
    rw [hrows, List.map_append]
    exact List.mem_append_left _ hhash
  refine ⟨?_, h.inserting, fun ht ↦ hmono _ (h.inserted ht), fun hash hh ↦ hmono _ (h.returned hash hh)⟩
  show CertificateChain F C "GENESIS" table.rows
  rw [hrows, CertificateChain, chained_append_singleton]
  exact ⟨h.chain, hlink, hgenuine⟩

/-- **One action** keeps the chain, when an insertion finds its predecessor at the end. -/
theorem unforked_step {w : World F} {action : Action F} (h : Unforked C w)
    (hhead : InsertsAtHead action w) : Unforked C (step C action w) := by
  cases action with
  | loadHead task chain =>
    simp only [step]
    split
    · exact h.setTask task _ (fun _ _ _ ht ↦ absurd ht (by simp)) fun _ _ ht ↦ absurd ht (by simp)
    · exact h
  | setHead task =>
    simp only [step]
    split
    · have hidle := h.idle task
      exact ⟨hidle.chain, hidle.inserting, hidle.inserted, hidle.returned⟩
    · exact h
  | check task chain cert =>
    simp only [step]
    split
    · rename_i row _ hprep
      refine h.setTask task _ (fun chain' cert' row' ht ↦ ?_) fun _ _ ht ↦ absurd ht (by simp)
      obtain ⟨-, rfl, rfl⟩ := Task.inserting.inj ht
      exact exists_prepared hprep
    · exact h
  | insert task =>
    simp only [step]
    split
    · rename_i chain cert row htask
      -- the row goes in at the head, so it links to the last row
      obtain ⟨hlink, hstable⟩ := hhead task chain cert row rfl htask
      obtain ⟨bytes, hprep⟩ := h.inserting htask
      split
      · rename_i table hins
        have hgrown := h.insert hins (hprep.previousHash.trans hlink) ⟨cert, bytes, hstable, hprep⟩
        refine hgrown.setTask task (.inserted chain row.certHash)
          (fun _ _ _ ht ↦ absurd ht (by simp)) fun chain' hash ht ↦ ?_
        obtain ⟨-, rfl⟩ := Task.inserted.inj ht
        show row.certHash ∈ table.rows.map Row.certHash
        rw [Table.rows_of_insert hins]
        simp
      · exact h.idle task
    · exact h
  | finish task =>
    simp only [step]
    split
    · rename_i chain hash htask
      have hidle := h.idle task
      refine ⟨hidle.chain, hidle.inserting, hidle.inserted, fun other hother ↦ ?_⟩
      rcases List.mem_append.mp hother with hother | hother
      · exact h.returned other hother
      · obtain rfl := List.mem_singleton.mp hother
        exact h.inserted htask
    · exact h
  | abort task => exact h.idle task

theorem run_append_singleton (actions : List (Action F)) (action : Action F) :
    run C (actions ++ [action]) = step C action (run C actions) := by
  rw [run, run, List.foldl_append, List.foldl_cons, List.foldl_nil]

/-- **Every run** whose insertions all find their predecessor at the end. -/
theorem unforked_run {actions : List (Action F)}
    (h : ∀ pre action post, actions = pre ++ action :: post → InsertsAtHead action (run C pre)) :
    Unforked C (run C actions) := by
  induction actions using List.reverseRecOn with
  | nil =>
    exact ⟨trivial, (fun ht ↦ nomatch ht), (fun ht ↦ nomatch ht), fun _ h ↦ absurd h List.not_mem_nil⟩
  | append_singleton actions action ih =>
    rw [run_append_singleton]
    refine unforked_step (ih fun pre a post hpre ↦ ?_) (h actions action [] rfl)
    exact h pre a (post ++ [action]) (by rw [hpre, List.append_assoc, List.cons_append])

theorem Unforked.eq_of_previousHash {w : World F} (h : Unforked C w)
    (hgenesis : ∀ bytes, C.sha256 bytes ≠ "GENESIS") {row row' : Row} (hrow : row ∈ w.table.rows)
    (hrow' : row' ∈ w.table.rows) (heq : row'.previousHash = row.previousHash) : row' = row := by
  have hhash : "GENESIS" ∉ w.table.rows.map Row.certHash := by
    intro hmem
    obtain ⟨row, hrow, hgen⟩ := List.mem_map.mp hmem
    obtain ⟨cert, bytes, -, hprep⟩ :=
      h.chain.forall_mem (p := Genuine F C) (fun _ _ _ hok ↦ hok.2) row hrow
    exact hgenesis bytes (hprep.certHash ▸ hgen)
  have hnd : (w.table.rows.map Row.previousHash).Nodup :=
    h.chain.nodup_previous (fun _ _ _ hok ↦ hok.1) (.cons hhash w.table.uniqueHashes)
  exact List.inj_on_of_nodup_map hnd hrow' hrow heq

/-- **The ledger does not fork** in a run whose insertions all find the predecessor of their
certificate at the end of the table: every certificate whose append returned has a predecessor that
no other stored one has, and the table verifies. -/
theorem ledger_unforked (C : Crypto) (hgenesis : ∀ bytes, C.sha256 bytes ≠ "GENESIS")
    (actions : List (Action F))
    (h : ∀ pre action post, actions = pre ++ action :: post → InsertsAtHead action (run C pre)) :
    (∀ hash ∈ (run C actions).returned, ∃ row ∈ (run C actions).table.rows, row.certHash = hash ∧
      ∀ row' ∈ (run C actions).table.rows, row'.previousHash = row.previousHash → row' = row) ∧
      verifyChain F C (run C actions).table = .ok true := by
  have hrun := unforked_run h
  refine ⟨fun hash hhash ↦ ?_, verifyChain_of_chain hrun.chain⟩
  obtain ⟨row, hrow, rfl⟩ := List.mem_map.mp (hrun.returned hash hhash)
  exact ⟨row, hrow, rfl, fun row' hrow' heq ↦
    hrun.eq_of_previousHash hgenesis hrow hrow' heq⟩

/-! ### Two runs -/

/-- A short digest, and signatures that are the letter s. -/
def sampleCrypto : Crypto where
  sha256 bytes := "h" ++ checksum bytes
  verifySignature _ _ signature := signature == "s"

def sampleCertificate (certId previousCertHash : String) : RecoveryCertificate WholeFloat where
  certId := certId
  tenantId := "t"
  pipelineId := "p"
  runId := "r"
  traceBeforeDigest := "b"
  traceAfterDigest := some "a"
  replayCapsuleHash := "c"
  interventionVector := [(.str "component_id", .str "x"), (.str "param", .int 10)]
  contributionMetrics := [(.str "quality", .float ⟨1⟩)]
  certificationMethod := "m"
  epsilon := ⟨1⟩
  delta := ⟨1⟩
  policyVersion := "v1"
  policyReason := ""
  approvals := []
  actionResult := "COMMITTED"
  verificationResult := "PASSED"
  rollbackCapsuleDigest := none
  timestamp := "0"
  previousCertHash := previousCertHash
  evidenceKind := "SYNTHETIC_SIMULATION"
  signature := some "s"
  signerKeyId := some "k"
  signerPubKey := some "q"

/-- One instance is initialised and appends one certificate. -/
def oneAppend : List (Action WholeFloat) :=
  [.loadHead 0 0, .setHead 0, .check 0 0 (sampleCertificate "a" "GENESIS"), .insert 0, .finish 0]

/-- Two coroutines of one instance, which both pass the check before either inserts. -/
def twoAppends : List (Action WholeFloat) :=
  [.loadHead 0 0, .setHead 0, .check 0 0 (sampleCertificate "a" "GENESIS"),
    .check 1 0 (sampleCertificate "b" "GENESIS"), .insert 0, .insert 1, .finish 0, .finish 1]

theorem sampleCrypto_ne_genesis (bytes : List UInt8) : sampleCrypto.sha256 bytes ≠ "GENESIS" := by
  intro h
  have hchars := congrArg String.toList h
  rw [sampleCrypto, String.toList_append] at hchars
  simp at hchars

theorem stable_sampleCertificate (certId previousCertHash : String) :
    (sampleCertificate certId previousCertHash).Stable := by
  constructor
  · show (Val.object [("component_id", .str "x"), ("param", .int 10)]).Stable
    exact stable_object (by simp) (by simp [stable_scalar])
  · show (Val.object [("quality", (.float ⟨1⟩ : Val WholeFloat))]).Stable
    exact stable_object (by simp) (by simp [stable_scalar])

theorem insertsAtHead_of_check {C : Crypto} {w : World F} {task chain : ℕ}
    {cert : RecoveryCertificate F} (hidle : w.tasks task = .idle)
    (hhead : cert.previousCertHash = w.table.head) (hstable : cert.Stable) :
    InsertsAtHead (.insert task) (step C (.check task chain cert) w) := by
  rintro _ chain' cert' row ⟨⟩ htask
  simp only [step] at htask ⊢
  split at htask
  · rw [World.tasks_setTask, if_pos rfl] at htask
    obtain ⟨-, rfl, -⟩ := Task.inserting.inj htask
    exact ⟨hhead, hstable⟩
  · rw [hidle] at htask
    exact absurd htask (by simp)

/-- One instance appends two certificates, one after the other. -/
def twoInTurn : List (Action WholeFloat) :=
  oneAppend ++ [.check 0 0 (sampleCertificate "b" (run sampleCrypto oneAppend).table.head),
    .insert 0, .finish 0]

theorem tasks_oneAppend : (run sampleCrypto oneAppend).tasks 0 = .idle := by
  have hctor : ((run sampleCrypto oneAppend).tasks 0).ctorIdx = 0 := by decide +kernel
  cases htask : (run sampleCrypto oneAppend).tasks 0 with
  | idle => rfl
  | _ =>
    rw [htask] at hctor
    exact nomatch hctor

theorem insertsAtHead_twoInTurn (pre : List (Action WholeFloat)) (action : Action WholeFloat)
    (post : List (Action WholeFloat)) (h : twoInTurn = pre ++ action :: post) :
    InsertsAtHead action (run sampleCrypto pre) := by
  rintro task chain cert row rfl
  -- the insertions are the fourth action and the seventh one, each after a check
  obtain ⟨rfl, before, certId, rfl, hidle⟩ : task = 0 ∧ ∃ before certId,
      pre = before ++ [.check 0 0 (sampleCertificate certId (run sampleCrypto before).table.head)] ∧
      (run sampleCrypto before).tasks 0 = .idle := by
    rcases pre with _ | ⟨a, _ | ⟨b, _ | ⟨c, _ | ⟨d, _ | ⟨e, _ | ⟨f, _ | ⟨g, _ | ⟨k, pre⟩⟩⟩⟩⟩⟩⟩⟩ <;>
      simp [twoInTurn, oneAppend] at h
    · obtain ⟨rfl, rfl, rfl, rfl, rfl⟩ := h
      exact ⟨rfl, [.loadHead 0 0, .setHead 0], "a", rfl, rfl⟩
    · obtain ⟨rfl, rfl, rfl, rfl, rfl, rfl, rfl, rfl⟩ := h
      exact ⟨rfl, oneAppend, "b", rfl, tasks_oneAppend⟩
  rw [run_append_singleton]
  exact insertsAtHead_of_check hidle rfl (stable_sampleCertificate _ _) 0 chain cert row rfl

/-- Two appends in turn: both certificates are stored, and the chain verifies. -/
theorem ledger_unforked_twoInTurn :
    (run sampleCrypto twoInTurn).returned.length = 2 ∧
      (∀ hash ∈ (run sampleCrypto twoInTurn).returned,
        ∃ row ∈ (run sampleCrypto twoInTurn).table.rows, row.certHash = hash ∧
          ∀ row' ∈ (run sampleCrypto twoInTurn).table.rows,
            row'.previousHash = row.previousHash → row' = row) ∧
      verifyChain WholeFloat sampleCrypto (run sampleCrypto twoInTurn).table = .ok true :=
  ⟨by decide +kernel,
    ledger_unforked sampleCrypto sampleCrypto_ne_genesis twoInTurn insertsAtHead_twoInTurn⟩

/-- **A fork.** Both appends return, both certificates name the same predecessor, and the chain no
longer verifies. -/
theorem ledger_forks_twoAppends :
    (run sampleCrypto twoAppends).returned.length = 2 ∧
      (run sampleCrypto twoAppends).table.rows.map Row.previousHash = ["GENESIS", "GENESIS"] ∧
      (¬ ∀ hash ∈ (run sampleCrypto twoAppends).returned,
        ∃ row ∈ (run sampleCrypto twoAppends).table.rows, row.certHash = hash ∧
          ∀ row' ∈ (run sampleCrypto twoAppends).table.rows,
            row'.previousHash = row.previousHash → row' = row) ∧
      verifyChain WholeFloat sampleCrypto (run sampleCrypto twoAppends).table = .ok false := by
  decide +kernel

end Runs

end DriftGuardX.Ledger.LedgerChain
