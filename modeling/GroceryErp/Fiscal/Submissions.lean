import GroceryErp.Lib.Runs
import GroceryErp.Schema

/-!
# Fiscal submissions

A sale of a store with fiscalization leaves a submission, which is sent to the provider that
the store has configured, right after the sale or by a manual retry, until the provider has
answered or the attempts are exhausted.

A call holds the lock of the submission while it asks the provider and until it commits, so
that part of it is one step.  The endpoint for the manual retry loads the submission before,
without a lock; the lock that follows gives the loaded object back as it was.

An attempt that ends in an exception which the service does not expect is rolled back; the
provider has been asked all the same.

## Main definitions

* `FiscalConfig`, `FiscalSubmission` — the tables.
* `submitFiscalTransaction` — the service function.
* `FiscalServer`, `FiscalEvent.exec` — the tables with the open retries and the submissions
  that were sent, and one event.
* `FiscalEvent.Counts` — an attempt that is counted on the row it is made for.

## Main results

* `FiscalEvent.did` — an event whose attempt counts does one of three things.
* `FiscalServer.Counted.did` — the attempts are counted, event by event.
* `fiscal_attempts_counted` — **over a run of such attempts** the count is what was sent, no
  more than the maximum, and a submission that is resolved stays as it is.
* `fiscal_attempts_uncounted` — an attempt that is rolled back is not counted.

## References

`backend/app/modules/fiscal/service.py`, `submit_fiscal_transaction`,
`create_fiscal_submission_if_enabled`, `run_pending_fiscal_submission_in_background`;
`backend/app/modules/fiscal/provider.py`;
`backend/app/api/v1/endpoints/fiscal.py`, `retry_fiscal_submission`.
-/

namespace GroceryErp

open Outcome Rows Runs

/-! ### The tables -/

/-- A JSON value.  No modelled function looks into one. -/
abbrev Json := String

inductive FiscalStatus
  | pending
  | failed
  | acknowledged
  | rejected
  | exhausted
  deriving DecidableEq

/-- `is_terminal_fiscal_status`: no attempt is made at a submission that has come to one of these.
-/
def FiscalStatus.IsTerminal (x : FiscalStatus) : Prop :=
  x = .acknowledged ∨ x = .rejected ∨ x = .exhausted

instance (x : FiscalStatus) : Decidable x.IsTerminal :=
  inferInstanceAs (Decidable (_ ∨ _ ∨ _))

structure FiscalConfig where
  storeId : ℕ
  isEnabled : Bool := false
  providerName : String
  credentialReference : Option String := none
  submissionEndpoint : Option String := none
  retryMaxAttempts : ℕ := 5
  updatedBy : Option ℕ := none
  deriving DecidableEq

instance : Table FiscalConfig where
  Checks c := 0 < c.retryMaxAttempts
  decidableChecks c := inferInstanceAs (Decidable (0 < c.retryMaxAttempts))
  constraint := .fiscalConfigs

structure FiscalSubmission where
  saleId : ℕ
  storeId : ℕ
  status : FiscalStatus := .pending
  providerName : String
  attemptCount : ℕ := 0
  maxAttempts : ℕ
  lastError : Option String := none
  lastAttemptedAt : Option Instant := none
  submittedAt : Option Instant := none
  fiscalReference : Option String := none
  requestPayload : Json
  responsePayload : Option Json := none
  deriving DecidableEq

instance : Table FiscalSubmission where
  Checks s := 0 < s.maxAttempts
  decidableChecks s := inferInstanceAs (Decidable (0 < s.maxAttempts))
  constraint := .fiscalSubmissions

structure FiscalTables where
  configs : List (Row FiscalConfig) := []
  submissions : List (Row FiscalSubmission) := []

/-! ### An attempt -/

/-- What a provider has definitely answered: an acknowledgment, or a rejection. -/
structure FiscalSubmissionOutcome where
  acknowledged : Bool
  fiscalReference : Option String
  rawResponse : Json

def FiscalSubmissionOutcome.status (o : FiscalSubmissionOutcome) : FiscalStatus :=
  if o.acknowledged then .acknowledged else .rejected

/-- How `submit` of a provider ends: with an answer, with its own error, or with any other
exception. -/
inductive ProviderAnswer
  | outcome (o : FiscalSubmissionOutcome)
  /-- A `FiscalProviderError` with its text. -/
  | providerError (text : String)
  /-- Any other exception. -/
  | otherException

/-- An attempt: what the provider answers if it is asked, and when. -/
structure Attempt where
  answer : ProviderAnswer
  attemptedAt : Instant
  answeredAt : Instant

/-- What a call to `submit_fiscal_transaction` comes to: the row it writes, or an exception that
takes it back. -/
inductive Submitted
  | unchanged
  | recorded (submission : FiscalSubmission)
  /-- The provider was asked, and the transaction is rolled back. -/
  | rolledBack
  deriving DecidableEq

/-- The configuration of a store. -/
def fiscalConfig (s : FiscalTables) (storeId : ℕ) : Result (Option (ℕ × Row FiscalConfig)) :=
  scalarOneOrNone (rowsWhere (·.val.storeId = storeId) s.configs)

/-- The submission with the attempt counted, before the provider is asked. -/
def FiscalSubmission.attempted (f : FiscalSubmission) (a : Attempt) : FiscalSubmission :=
  { f with attemptCount := f.attemptCount + 1, lastAttemptedAt := some a.attemptedAt }

/-- The submission after the provider has answered, or has failed to. -/
def FiscalSubmission.answered (f : FiscalSubmission) (a : Attempt) : Submitted :=
  match a.answer with
  | .providerError text => .recorded { f with
      lastError := some text
      status := if f.attemptCount ≥ f.maxAttempts then .exhausted else .failed }
  | .outcome o => .recorded { f with
      responsePayload := some o.rawResponse
      fiscalReference := o.fiscalReference
      submittedAt := some a.answeredAt
      status := o.status }
  | .otherException => .rolledBack

/-- `submit_fiscal_transaction`, on the submission as the session sees it; `registered` are
the names of the providers there are. -/
def submitFiscalTransaction (registered : List String) (s : FiscalTables) (f : FiscalSubmission)
    (a : Attempt) : Result Submitted := do
  if f.status.IsTerminal then return .unchanged else do
    match ← fiscalConfig s f.storeId with
    | none => return .unchanged
    | some (_, config) =>
      if ¬config.val.isEnabled then return .unchanged else do
        raiseIf (f.providerName ∉ registered) .notFound
        return (f.attempted a).answered a

/-! ### Events -/

/-- The tables, the submissions that open retries have loaded, and, in order, the ids of the
submissions that a provider was asked for. -/
structure FiscalServer where
  tables : FiscalTables
  loads : ℕ → Option (ℕ × Row FiscalSubmission) := fun _ => none
  sent : List ℕ := []

inductive FiscalEvent
  /-- `upsert_config` writes the configuration of a store. -/
  | upsertConfig (config : FiscalConfig)
  /-- `create_fiscal_submission_if_enabled`, with the commit of the sale. -/
  | createSubmission (saleId storeId : ℕ) (requestPayload : Json)
  /-- `run_pending_fiscal_submission_in_background`: one attempt from its load to its commit, with a
  database session of its own. -/
  | background (submissionId : ℕ) (a : Attempt)
  /-- A manual retry loads the submission. -/
  | load (k submissionId : ℕ) (callerStoreId : Option ℕ)
  /-- It goes on, from its lock to its commit. -/
  | retry (k : ℕ) (a : Attempt)
  | giveUp (k : ℕ)

/-- A column that is written if the session has changed it. -/
def writeColumn {α : Type} [DecidableEq α] (row loaded changed : α) : α :=
  if changed = loaded then row else changed

/-- The UPDATE of a submission: of its columns those that the session has changed, from what
it has loaded to what it holds now. -/
def FiscalSubmission.update (row loaded changed : FiscalSubmission) : FiscalSubmission :=
  { row with
    status := writeColumn row.status loaded.status changed.status
    attemptCount := writeColumn row.attemptCount loaded.attemptCount changed.attemptCount
    lastError := writeColumn row.lastError loaded.lastError changed.lastError
    lastAttemptedAt :=
      writeColumn row.lastAttemptedAt loaded.lastAttemptedAt changed.lastAttemptedAt
    submittedAt := writeColumn row.submittedAt loaded.submittedAt changed.submittedAt
    fiscalReference :=
      writeColumn row.fiscalReference loaded.fiscalReference changed.fiscalReference
    responsePayload :=
      writeColumn row.responsePayload loaded.responsePayload changed.responsePayload }

/-- A row that is updated keeps its maximum, and so its CHECK. -/
def updateRow (row : Row FiscalSubmission) (loaded changed : FiscalSubmission) :
    Row FiscalSubmission :=
  ⟨row.val.update loaded changed, row.property⟩

namespace FiscalServer

/-- A call on the submission that the session sees, from its lock to its commit. -/
def submit (registered : List String) (sv : FiscalServer) (submissionId : ℕ)
    (seen : FiscalSubmission) (a : Attempt) : Result FiscalServer := do
  let row ← orRaise sv.tables.submissions[submissionId]? .notFound
  match ← submitFiscalTransaction registered sv.tables seen a with
  | .unchanged => return sv
  | .recorded changed => return { sv with
      tables.submissions :=
        sv.tables.submissions.set submissionId (updateRow row seen changed)
      sent := sv.sent ++ [submissionId] }
  | .rolledBack => return { sv with sent := sv.sent ++ [submissionId] }

/-- A retry begins with the submission it has loaded, or ends and has none. -/
def setLoad (sv : FiscalServer) (k : ℕ) (loaded : Option (ℕ × Row FiscalSubmission)) :
    FiscalServer :=
  { sv with loads := Function.update sv.loads k loaded }

end FiscalServer

/-- The configuration of the store, written over or added. -/
def upsertFiscalConfig (s : FiscalTables) (config : FiscalConfig) : Result FiscalTables := do
  let found ← fiscalConfig s config.storeId
  let row ← flush config
  match found with
  | some (configId, _) => return { s with configs := s.configs.set configId row }
  | none => return { s with configs := s.configs ++ [row] }

/-- `create_fiscal_submission_if_enabled`: a sale of a store that reports to a provider leaves a
submission, with the number of attempts that the store allows at this time. -/
def createFiscalSubmissionIfEnabled (s : FiscalTables) (saleId storeId : ℕ)
    (requestPayload : Json) : Result FiscalTables := do
  match ← fiscalConfig s storeId with
  | none => return s
  | some (_, config) =>
    if ¬config.val.isEnabled then return s else do
      let row ← flush {
        saleId, storeId, requestPayload
        providerName := config.val.providerName
        maxAttempts := config.val.retryMaxAttempts : FiscalSubmission }
      return { s with submissions := s.submissions ++ [row] }

/-- What the retry endpoint does before it calls the service: it loads the submission and checks its
store. -/
def loadSubmission (s : FiscalTables) (submissionId : ℕ) (callerStoreId : Option ℕ) :
    Result (Row FiscalSubmission) := do
  let row ← orRaise s.submissions[submissionId]? .notFound
  raiseIf (callerStoreId ≠ none ∧ callerStoreId ≠ some row.val.storeId) .notFound
  return row

/-- One event; `registered` are the names of the providers there are. -/
def FiscalEvent.exec (registered : List String) : FiscalEvent → FiscalServer → Result FiscalServer
  | upsertConfig config, sv => do
    let tables ← upsertFiscalConfig sv.tables config
    return { sv with tables }
  | createSubmission saleId storeId requestPayload, sv => do
    let tables ← createFiscalSubmissionIfEnabled sv.tables saleId storeId requestPayload
    return { sv with tables }
  | background submissionId a, sv => do
    let row ← orRaise sv.tables.submissions[submissionId]? .notFound
    sv.submit registered submissionId row.val a
  | load k submissionId callerStoreId, sv => do
    let row ← loadSubmission sv.tables submissionId callerStoreId
    return sv.setLoad k (some (submissionId, row))
  | retry k a, sv => do
    let (submissionId, loaded) ← orRaise (sv.loads k) .notFound
    let sv ← sv.submit registered submissionId loaded.val a
    return sv.setLoad k none
  | giveUp k, sv => return sv.setLoad k none

/-! ### What an attempt does -/

section Attempts

variable {registered : List String} {s : FiscalTables} {f : FiscalSubmission} {a : Attempt}

/-- A provider is asked for the submission: it is not resolved, its store has fiscalization, and
the provider is there. -/
structure Sends (registered : List String) (s : FiscalTables) (f : FiscalSubmission) : Prop where
  unresolved : ¬f.status.IsTerminal
  enabled : ∃ found, fiscalConfig s f.storeId = .ok (some found) ∧ found.2.val.isEnabled = true
  registered : f.providerName ∈ registered

theorem submitFiscalTransaction_ok {r : Submitted}
    (h : submitFiscalTransaction registered s f a = .ok r) :
    r = .unchanged ∨ (Sends registered s f ∧ r = (f.attempted a).answered a) := by
  unfold submitFiscalTransaction at h
  split at h
  · rw [pure_eq_ok] at h
    exact .inl h.symm
  next hunresolved =>
  rw [bind_eq_ok] at h
  obtain ⟨found, hfound, h⟩ := h
  cases found with
  | none =>
    rw [pure_eq_ok] at h
    exact .inl h.symm
  | some found =>
    dsimp only at h
    split at h
    · rw [pure_eq_ok] at h
      exact .inl h.symm
    · next henabled =>
      simp only [↓check_bind_eq_ok, raiseIf_eq_ok, pure_eq_ok, not_not] at h henabled
      exact .inr ⟨⟨hunresolved, ⟨found, hfound, henabled⟩, h.1⟩, h.2.symm⟩

@[simp] theorem writeColumn_self {α : Type} [DecidableEq α] (x y : α) : writeColumn x x y = y := by
  unfold writeColumn
  split
  · next h => exact h.symm
  · rfl

/-- An attempt that is recorded counts, and leaves an unresolved submission only below the
maximum. -/
structure FiscalSubmission.Recorded (f f' : FiscalSubmission) : Prop where
  attemptCount : f'.attemptCount = f.attemptCount + 1
  maxAttempts : f'.maxAttempts = f.maxAttempts
  bounded : ¬f'.status.IsTerminal → f'.attemptCount < f'.maxAttempts

/-- The row of an attempt on the submission as it is. -/
theorem recorded_of_answered {row : Row FiscalSubmission} {changed : FiscalSubmission}
    (h : (row.val.attempted a).answered a = .recorded changed) :
    row.val.Recorded (updateRow row row.val changed).val := by
  have hupdate : (updateRow row row.val changed).val = { row.val with
      status := changed.status, attemptCount := changed.attemptCount
      lastError := changed.lastError, lastAttemptedAt := changed.lastAttemptedAt
      submittedAt := changed.submittedAt, fiscalReference := changed.fiscalReference
      responsePayload := changed.responsePayload } := by
    simp [updateRow, FiscalSubmission.update]
  rw [hupdate]
  unfold FiscalSubmission.answered at h
  split at h
  · -- a transient failure
    obtain rfl := Submitted.recorded.inj h
    refine ⟨rfl, rfl, fun hunresolved => ?_⟩
    by_contra hmax
    exact hunresolved (.inr (.inr (if_pos (not_lt.mp hmax))))
  · next o _ =>
    obtain rfl := Submitted.recorded.inj h
    refine ⟨rfl, rfl, fun hunresolved => absurd ?_ hunresolved⟩
    show (if o.acknowledged then FiscalStatus.acknowledged else .rejected).IsTerminal
    split
    · exact .inl rfl
    · exact .inr (.inl rfl)
  · cases h

end Attempts

/-! ### Attempts that are counted -/

/-- An attempt is counted where it ends as the service expects, and the submission is as the
session sees it.  A call that asks no provider counts nothing. -/
def FiscalEvent.Counts (registered : List String) (sv : FiscalServer) : FiscalEvent → Prop
  | background submissionId a => ∀ row, sv.tables.submissions[submissionId]? = some row →
      Sends registered sv.tables row.val → a.answer ≠ .otherException
  | retry k a => ∀ submissionId loaded, sv.loads k = some (submissionId, loaded) →
      Sends registered sv.tables loaded.val → a.answer ≠ .otherException ∧
        sv.tables.submissions[submissionId]? = some loaded
  | upsertConfig _ | createSubmission _ _ _ | load _ _ _ | giveUp _ => True

/-- What an event whose attempt counts has done to the submissions and to what was sent. -/
inductive FiscalDid (sv sv' : FiscalServer) : Prop
  | same (submissions : sv'.tables.submissions = sv.tables.submissions)
      (sent : sv'.sent = sv.sent)
  | created {row : Row FiscalSubmission} (pending : row.val.status = .pending)
      (unattempted : row.val.attemptCount = 0)
      (submissions : sv'.tables.submissions = sv.tables.submissions ++ [row])
      (sent : sv'.sent = sv.sent)
  | attempted {submissionId : ℕ} {row row' : Row FiscalSubmission}
      (found : sv.tables.submissions[submissionId]? = some row)
      (unresolved : ¬row.val.status.IsTerminal) (recorded : row.val.Recorded row'.val)
      (submissions : sv'.tables.submissions = sv.tables.submissions.set submissionId row')
      (sent : sv'.sent = sv.sent ++ [submissionId])

section Counted

variable {registered : List String} {sv sv' : FiscalServer}

/-- A call on a submission as it is, whose attempt ends as expected. -/
theorem FiscalServer.submit_did {submissionId : ℕ} {seen : Row FiscalSubmission} {a : Attempt}
    (h : sv.submit registered submissionId seen.val a = .ok sv')
    (hcounts : Sends registered sv.tables seen.val → a.answer ≠ .otherException ∧
      sv.tables.submissions[submissionId]? = some seen) : FiscalDid sv sv' := by
  unfold FiscalServer.submit at h
  simp only [bind_eq_ok, orRaise_eq_ok] at h
  obtain ⟨row, hrow, r, hr, h⟩ := h
  rcases submitFiscalTransaction_ok hr with rfl | ⟨hsends, rfl⟩
  · obtain rfl := pure_eq_ok.mp h
    exact .same rfl rfl
  obtain ⟨hanswer, hsame⟩ := hcounts hsends
  obtain rfl : row = seen := Option.some.inj (hrow.symm.trans hsame)
  cases hanswered : (row.val.attempted a).answered a with
  | unchanged =>
    unfold FiscalSubmission.answered at hanswered
    split at hanswered <;> cases hanswered
  | recorded changed =>
    rw [hanswered] at h
    obtain rfl := pure_eq_ok.mp h
    exact .attempted hrow hsends.unresolved (recorded_of_answered hanswered) rfl rfl
  | rolledBack =>
    unfold FiscalSubmission.answered at hanswered
    split at hanswered
    · cases hanswered
    · cases hanswered
    · next hother => exact absurd hother hanswer

theorem upsertFiscalConfig_submissions {s s' : FiscalTables} {config : FiscalConfig}
    (h : upsertFiscalConfig s config = .ok s') : s'.submissions = s.submissions := by
  unfold upsertFiscalConfig at h
  simp only [bind_eq_ok] at h
  obtain ⟨found, -, row, -, h⟩ := h
  cases found with
  | none | some =>
    obtain rfl := pure_eq_ok.mp h
    rfl

theorem createFiscalSubmissionIfEnabled_ok {s s' : FiscalTables} {saleId storeId : ℕ}
    {requestPayload : Json}
    (h : createFiscalSubmissionIfEnabled s saleId storeId requestPayload = .ok s') :
    s' = s ∨ ∃ row, row.val.status = .pending ∧ row.val.attemptCount = 0 ∧
      s' = { s with submissions := s.submissions ++ [row] } := by
  unfold createFiscalSubmissionIfEnabled at h
  rw [bind_eq_ok] at h
  obtain ⟨found, -, h⟩ := h
  cases found with
  | none =>
    obtain rfl := pure_eq_ok.mp h
    exact .inl rfl
  | some found =>
    dsimp only at h
    split at h
    · obtain rfl := pure_eq_ok.mp h
      exact .inl rfl
    · simp only [bind_eq_ok, flush_eq_ok, pure_eq_ok] at h
      obtain ⟨row, hrow, rfl⟩ := h
      exact .inr ⟨row, by rw [hrow], by rw [hrow], rfl⟩

/-- **Every event whose attempt counts does one of three things.** -/
theorem FiscalEvent.did {e : FiscalEvent} (h : e.exec registered sv = .ok sv')
    (hcounts : e.Counts registered sv) : FiscalDid sv sv' := by
  cases e with
  | upsertConfig config =>
    simp only [FiscalEvent.exec, bind_eq_ok, pure_eq_ok] at h
    obtain ⟨tables, htables, rfl⟩ := h
    exact .same (upsertFiscalConfig_submissions htables) rfl
  | createSubmission saleId storeId requestPayload =>
    simp only [FiscalEvent.exec, bind_eq_ok, pure_eq_ok] at h
    obtain ⟨tables, htables, rfl⟩ := h
    rcases createFiscalSubmissionIfEnabled_ok htables with rfl | ⟨row, hpending, hzero, rfl⟩
    · exact .same rfl rfl
    · exact .created hpending hzero rfl rfl
  | background submissionId a =>
    simp only [FiscalEvent.exec, bind_eq_ok, orRaise_eq_ok] at h
    obtain ⟨row, hrow, h⟩ := h
    -- what a background attempt records is of the row it has loaded
    exact FiscalServer.submit_did h fun hsends => ⟨hcounts row hrow hsends, hrow⟩
  | load k submissionId callerStoreId =>
    simp only [FiscalEvent.exec, bind_eq_ok, pure_eq_ok] at h
    obtain ⟨row, -, rfl⟩ := h
    exact .same rfl rfl
  | retry k a =>
    simp only [FiscalEvent.exec, bind_eq_ok, orRaise_eq_ok, pure_eq_ok] at h
    obtain ⟨⟨submissionId, loaded⟩, hload, d, hd, rfl⟩ := h
    -- a retry records on the row under its lock, which the load may have seen otherwise
    cases FiscalServer.submit_did hd (hcounts submissionId loaded hload) with
    | same submissions sent => exact .same submissions sent
    | created pending unattempted submissions sent =>
      exact .created pending unattempted submissions sent
    | attempted found unresolved recorded submissions sent =>
      exact .attempted found unresolved recorded submissions sent
  | giveUp k =>
    obtain rfl := pure_eq_ok.mp h
    exact .same rfl rfl

/-- The count of a submission is how often it was sent, and below the maximum while it is not
resolved. -/
structure FiscalServer.Counted (sv : FiscalServer) : Prop where
  counted : ∀ i row, sv.tables.submissions[i]? = some row →
    row.val.attemptCount = sv.sent.count i
  bounded : ∀ row ∈ sv.tables.submissions, row.val.attemptCount ≤ row.val.maxAttempts ∧
    (¬row.val.status.IsTerminal → row.val.attemptCount < row.val.maxAttempts)
  known : ∀ i ∈ sv.sent, i < sv.tables.submissions.length

/-- **An event whose attempt counts keeps the counts.** -/
theorem FiscalServer.Counted.did (h : sv.Counted) (hdid : FiscalDid sv sv') : sv'.Counted := by
  cases hdid with
  | same submissions sent =>
    obtain ⟨counted, bounded, known⟩ := h
    rw [← submissions] at counted bounded known
    rw [← sent] at counted known
    exact ⟨counted, bounded, known⟩
  -- a new row, of which nothing was sent yet
  | @created row pending unattempted submissions sent =>
    refine ⟨fun i r hr => ?_, ?_, ?_⟩
    · rw [submissions] at hr
      rw [sent]
      rcases getElem?_append_singleton_eq_some.mp hr with hold | ⟨rfl, rfl⟩
      · exact h.counted i r hold
      · rw [unattempted, List.count_eq_zero_of_not_mem]
        exact fun hsent => (h.known _ hsent).ne rfl
    · rw [submissions]
      intro r hr
      rcases List.mem_append.mp hr with hr | hr
      · exact h.bounded r hr
      · have hmax : 0 < r.val.maxAttempts := r.property
        rw [List.mem_singleton.mp hr, unattempted]
        rw [List.mem_singleton.mp hr] at hmax
        exact ⟨hmax.le, fun _ => hmax⟩
    · rw [sent, submissions, List.length_append]
      exact fun i hi => (h.known i hi).trans_le (Nat.le_add_right _ _)
  -- one attempt more, sent and counted
  | @attempted submissionId row row' found unresolved recorded submissions sent =>
    refine ⟨fun i r hr => ?_, ?_, ?_⟩
    · rw [submissions, getElem?_set_of_some found] at hr
      rw [sent, List.count_append]
      split at hr
      · next hi =>
        subst hi
        rw [← Option.some.inj hr, recorded.attemptCount, h.counted _ row found]
        simp
      · next hi => rw [h.counted i r hr, List.count_singleton, if_neg (by simpa using hi), add_zero]
    · rw [submissions]
      refine forall_mem_set h.bounded ⟨?_, recorded.bounded⟩
      rw [recorded.attemptCount, recorded.maxAttempts]
      exact (h.bounded row (mem_of_row found)).2 unresolved
    · rw [sent, submissions, List.length_set]
      intro i hi
      rcases List.mem_append.mp hi with hi | hi
      · exact h.known i hi
      · rw [List.mem_singleton.mp hi]
        exact (List.getElem?_eq_some_iff.mp found).1

/-- A submission that is resolved stays as it is, and is not sent. -/
theorem FiscalDid.resolved (hdid : FiscalDid sv sv') {i : ℕ} {row : Row FiscalSubmission}
    (hrow : sv.tables.submissions[i]? = some row) (hresolved : row.val.status.IsTerminal) :
    sv'.tables.submissions[i]? = some row ∧ sv'.sent.count i = sv.sent.count i := by
  cases hdid with
  | same submissions sent => rw [submissions, sent]; exact ⟨hrow, rfl⟩
  | created pending unattempted submissions sent =>
    rw [submissions, sent, List.getElem?_append_left (List.getElem?_eq_some_iff.mp hrow).1]
    exact ⟨hrow, rfl⟩
  | @attempted submissionId old row' found unresolved recorded submissions sent =>
    have hne : submissionId ≠ i := by
      rintro rfl
      obtain rfl : old = row := Option.some.inj (found.symm.trans hrow)
      exact unresolved hresolved
    rw [submissions, sent, getElem?_set_of_some found, if_neg hne, List.count_append,
      List.count_singleton, if_neg (by simpa using hne), add_zero]
    exact ⟨hrow, rfl⟩

end Counted

/-! ### Runs -/

section Runs

variable {registered : List String} {sv₀ sv sv' : FiscalServer}

/-- **Over a run in which every attempt counts**, a submission's count is how often the provider
was asked for it, which is no more than its maximum; and one that is resolved is not changed and
not sent again. -/
theorem fiscal_attempts_counted (hnone : sv₀.tables.submissions = []) (hsent : sv₀.sent = [])
    (h : Reaches (FiscalEvent.exec registered) (fun sv e => e.Counts registered sv) sv₀ sv)
    (h' : Reaches (FiscalEvent.exec registered) (fun sv e => e.Counts registered sv) sv sv') :
    (∀ (i : ℕ) (row : Row FiscalSubmission), sv.tables.submissions[i]? = some row →
      row.val.attemptCount = sv.sent.count i ∧ sv.sent.count i ≤ row.val.maxAttempts) ∧
    ∀ (i : ℕ) (row : Row FiscalSubmission), sv.tables.submissions[i]? = some row →
      row.val.status.IsTerminal →
        sv'.tables.submissions[i]? = some row ∧ sv'.sent.count i = sv.sent.count i := by
  have hstart : sv₀.Counted := ⟨by simp [hnone], by simp [hnone], by simp [hsent]⟩
  have hsv : sv.Counted := h.invariant hstart fun _ _ _ hs hcounts hdone =>
    hs.did (FiscalEvent.did hdone hcounts)
  refine ⟨fun i row hrow => ?_, fun i row hrow hresolved => ?_⟩
  · have hcount := hsv.counted i row hrow
    exact ⟨hcount, hcount ▸ (hsv.bounded row (mem_of_row hrow)).1⟩
  · refine h'.invariant (I := fun sv' => sv'.tables.submissions[i]? = some row ∧
      sv'.sent.count i = sv.sent.count i) ⟨hrow, rfl⟩ fun _ _ _ hs hcounts hdone => ?_
    obtain ⟨hkept, hsame⟩ := (FiscalEvent.did hdone hcounts).resolved hs.1 hresolved
    exact ⟨hkept, hsame.trans hs.2⟩

/-- A store that asks a provider at most as often as said. -/
def fakeConfig (retryMaxAttempts : ℕ) : FiscalConfig :=
  { storeId := 0, isEnabled := true, providerName := "FAKE", retryMaxAttempts }

def attemptEnds (answer : ProviderAnswer) : FiscalEvent :=
  .background 0 ⟨answer, 1, 2⟩

def fiscalEnabled : FiscalServer :=
  value ((FiscalEvent.upsertConfig (fakeConfig 2)).exec ["FAKE"] { tables := {} })
    (by decide +kernel)

def submissionWaits : FiscalServer :=
  value ((FiscalEvent.createSubmission 0 0 "sale-0").exec ["FAKE"] fiscalEnabled)
    (by decide +kernel)

def submissionFailed : FiscalServer :=
  value ((attemptEnds (.providerError "timeout")).exec ["FAKE"] submissionWaits)
    (by decide +kernel)

def submissionAcknowledged : FiscalServer :=
  value ((attemptEnds (.outcome ⟨true, some "ref", "ok"⟩)).exec ["FAKE"] submissionFailed)
    (by decide +kernel)

/-- Two attempts are allowed: the first one fails, the second is acknowledged, and both are counted.
-/
theorem fiscal_attempts_counted_sale :
    ∃ row, submissionAcknowledged.tables.submissions[0]? = some row ∧
      row.val.attemptCount = submissionAcknowledged.sent.count 0 ∧
      submissionAcknowledged.sent.count 0 ≤ row.val.maxAttempts := by
  have hwaits : Reaches (FiscalEvent.exec ["FAKE"]) (fun sv e => e.Counts ["FAKE"] sv)
      { tables := {} } submissionWaits :=
    .next (r := .createSubmission 0 0 "sale-0") (.next (r := .upsertConfig (fakeConfig 2)) .start
      trivial (eq_ok_value _ _)) trivial (eq_ok_value _ _)
  have hrun : Reaches (FiscalEvent.exec ["FAKE"]) (fun sv e => e.Counts ["FAKE"] sv)
      { tables := {} } submissionAcknowledged :=
    .next (r := attemptEnds (.outcome ⟨true, some "ref", "ok"⟩))
      (.next (r := attemptEnds (.providerError "timeout")) hwaits (fun _ _ _ => nofun)
        (eq_ok_value _ _)) (fun _ _ _ => nofun) (eq_ok_value _ _)
  obtain ⟨row, hrow⟩ : ∃ row, submissionAcknowledged.tables.submissions[0]? = some row :=
    Option.isSome_iff_exists.mp (by decide +kernel)
  exact ⟨row, hrow, (fiscal_attempts_counted rfl rfl hrun .start).1 0 row hrow⟩

/-! ### An attempt that is rolled back -/

/-- Of a submission that may be sent once, two attempts end in an exception of another kind. -/
def submissionRolledBack : FiscalServer :=
  value ([.upsertConfig (fakeConfig 1), .createSubmission 0 0 "sale-0",
    attemptEnds .otherException, attemptEnds .otherException].foldlM
      (fun sv e => FiscalEvent.exec ["FAKE"] e sv) { tables := {} }) (by decide +kernel)

/-- The provider is asked twice, and no attempt is counted. -/
theorem fiscal_attempts_uncounted :
    ¬∀ sv : FiscalServer,
      Reaches (FiscalEvent.exec ["FAKE"]) (fun _ _ => True) { tables := {} } sv →
      ∀ (i : ℕ) (row : Row FiscalSubmission), sv.tables.submissions[i]? = some row →
        row.val.attemptCount = sv.sent.count i ∧ sv.sent.count i ≤ row.val.maxAttempts := by
  intro hall
  have hrun : Reaches (FiscalEvent.exec ["FAKE"]) (fun _ _ => True) { tables := {} }
      submissionRolledBack := reaches_of_foldlM (eq_ok_value _ _)
  obtain ⟨row, hrow⟩ : ∃ row, submissionRolledBack.tables.submissions[0]? = some row :=
    Option.isSome_iff_exists.mp (by decide +kernel)
  have hmax : submissionRolledBack.tables.submissions.map (·.val.maxAttempts) = [1] := by
    decide +kernel
  have hsent : submissionRolledBack.sent.count 0 = 2 := by decide +kernel
  have hone : row.val.maxAttempts = 1 :=
    List.mem_singleton.mp (hmax ▸ List.mem_map_of_mem (mem_of_row hrow))
  have hle := (hall _ hrun 0 row hrow).2
  rw [hsent, hone] at hle
  exact absurd hle (by decide)

end Runs

end GroceryErp
