import GroceryErp.Losses.Places
import GroceryErp.System.Frames

/-!
# Approving a pending write-off

A write-off that was requested stays within its discrepancy until it is decided, has its
transfer line and no entry yet, whatever else the company does in between.  Who may approve it
posts it, unless there is nothing to post, or the transfer line has no room for it: nothing looks
at the amount before the ledger refuses a line of zero.

## Main definitions

* `LossTables.PendingFit` — a pending write-off fits what is left of its discrepancy.
* `LossMove` — what one request of any module does to lines, losses and their entries.
* `WriteOffsReady` — the invariant.
* `DecideWriteOff.MayApprove` — a request that nothing but the write-off itself can fail.
* `TransferWriteOff.FitsLine` — the transfer line has room for the write-off.

## Main results

* `ErpRequest.lossMove` — every request makes such a move.
* `approveWriteOff_posts_iff` — over any run the approval posts a balanced entry just when the
  amount is positive and the line has room, which it has where quantities have three decimals.
* `free_apples_not_approved` — a loss that cost nothing is requested and never approved.

## References

`backend/app/modules/writeoffs/service.py`, `accounting/service.py`.
-/

namespace GroceryErp

open Decimal Ledger Outcome Rows Runs

/-! ### What is pending fits -/

/-- A pending write-off fits what is left of its discrepancy. -/
def LossTables.PendingFit (s : LossTables) : Prop :=
  ∀ (i : ℕ) (w : Row TransferWriteOff) (d : Row ReceivingDiscrepancy), s.writeOffs[i]? = some w →
    w.val.status = .pendingApproval → s.discrepancies[w.val.discrepancyId]? = some d →
    w.val.quantity ≤ d.val.quantity - postedQuantity s.writeOffs w.val.discrepancyId

section Fits

variable {denies : Option ℕ} {s t : LossTables}

/-- A write-off stops being pending, and takes nothing from where another one is pending. -/
theorem LossTables.PendingFit.set {i : ℕ} {w w' : Row TransferWriteOff} {status : WriteOffStatus}
    (h : s.PendingFit) (hw : s.writeOffs[i]? = some w) (hw' : w.val.Becomes status w'.val)
    (hclosed : status ≠ .pendingApproval)
    (hless : ∀ j v, s.writeOffs[j]? = some v → v.val.status = .pendingApproval → j ≠ i →
      postedQuantity (s.writeOffs.set i w') v.val.discrepancyId
        ≤ postedQuantity s.writeOffs v.val.discrepancyId)
    (as : List (Row WriteOffApproval)) :
    LossTables.PendingFit { s with writeOffs := s.writeOffs.set i w', approvals := as } := by
  intro j v d hv hpending hd
  have hv' : (s.writeOffs.set i w')[j]? = some v := hv
  rw [getElem?_set_of_some hw] at hv'
  split at hv'
  · rw [← Option.some.inj hv', hw'.status] at hpending
    exact absurd hpending hclosed
  · next hij =>
    have hleft := h j v d hv' hpending hd
    have hposted := hless j v hv' hpending fun hji => hij hji.symm
    show v.val.quantity ≤ d.val.quantity - postedQuantity (s.writeOffs.set i w') v.val.discrepancyId
    linarith

/-- Where a discrepancy keeps its quantity, what is pending fits as it did. -/
theorem LossTables.PendingFit.setDiscrepancy {i : ℕ} {d d' : Row ReceivingDiscrepancy}
    (h : s.PendingFit) (hd : s.discrepancies[i]? = some d) (hq : d'.val.quantity = d.val.quantity) :
    LossTables.PendingFit { s with discrepancies := s.discrepancies.set i d' } := by
  intro j w e hw hpending he
  have he' : (s.discrepancies.set i d')[w.val.discrepancyId]? = some e := he
  rw [getElem?_set_of_some hd] at he'
  split at he'
  · next hi =>
    rw [← Option.some.inj he', hq]
    exact h j w d hw hpending (hi ▸ hd)
  · exact h j w e hw hpending he'

/-- **Every step keeps what is pending within its discrepancy.** -/
theorem LossTables.PendingFit.step (h : s.PendingFit) (hbounded : s.Bounded)
    (hone : s.OnePending) (hst : LossStep denies s t) : t.PendingFit := by
  cases hst with
  | same => exact h
  | record recorded =>
    intro i w d hw hpending hd
    have hlt := hbounded.known w (mem_of_row hw)
    exact h i w d hw hpending ((List.getElem?_append_left hlt).symm.trans hd)
  | move loaded unresolved quantity => exact h.setDiscrepancy loaded quantity
  | @request d w q loaded resolved eligible alone left quantity pending =>
    intro i v e hv hpending he
    show v.val.quantity ≤ e.val.quantity - postedQuantity (s.writeOffs ++ [w]) v.val.discrepancyId
    rw [postedQuantity_append (by simp [pending])]
    rcases getElem?_append_singleton_eq_some.mp hv with hv | ⟨-, rfl⟩
    · exact h i v e hv hpending he
    · -- what is left has three decimals, so the quantity still fits after it is rounded
      obtain rfl : d = e := Option.some.inj (loaded.symm.trans he)
      have hgrid : OnGrid 3 (d.val.quantity - postedQuantity s.writeOffs w.val.discrepancyId) :=
        (hbounded.discrepancies_onGrid d (mem_of_row loaded)).sub
          (onGrid_sumWhere fun v hv _ => hbounded.writeOffs_onGrid v hv)
      rw [quantity, ← numeric_eq_self hgrid]
      exact quantize_mono left
  | @approve i d w w' a loaded undecided pending discrepancy left written decision =>
    refine h.set loaded written nofun (fun j v hv hpending hj => ?_) _
    rw [postedQuantity_set loaded written, if_neg, add_zero]
    exact fun hsame => hj (hone j i v w hv loaded hpending pending hsame.symm)
  | @deny i d d' w w' a named loaded undecided pending discrepancy written decision reopened =>
    refine (h.set loaded written nofun (fun j v hv hpending hj => ?_) _).setDiscrepancy discrepancy
      (by rw [reopened]; rfl)
    rw [postedQuantity_set loaded written]
    simp [pending]
  | @reverse i w w' loaded posted written =>
    refine h.set loaded written nofun (fun j v hv hpending hj => ?_) _
    have hpos : 0 < w.val.quantity := w.property
    rw [postedQuantity_set loaded written, posted]
    split
    · simp only [reduceCtorEq, if_false, if_true]
      linarith
    · exact (add_zero _).le

end Fits

/-! ### What the other modules post -/

section Others

variable {db db' : Db}

/-- A request on the payables posts entries of their own kinds. -/
theorem settlement_posts {r : SettlementRequest} (h : r.run db = .ok db') :
    Posts PayablesKind db db' := by
  cases r with
  | recordSupplierPayment req =>
    obtain ⟨⟨d, i⟩, hrun, rfl⟩ := map_eq_ok.mp h
    rcases recordSupplierPayment_ok hrun with rfl | ⟨-, -, -, payment, rows, d, -, -, hd, hpost⟩
    · exact .of_eq rfl
    -- one entry, of the kind of the document
    have hentry : PostsEntry db _ _ _ _ _ :=
      postsEntry_of_postJournalUnlessEmpty hpost (by rw [settleAll_frame hd]) rfl
    exact hentry.posts.mono fun t ht => @payablesKind_of_way .payment t (.inl ht)
  | createSupplierCreditNote req =>
    obtain ⟨⟨d, i⟩, hrun, rfl⟩ := map_eq_ok.mp h
    rcases createSupplierCreditNote_ok hrun with ⟨rfl, -⟩ | ⟨-, -, -, note, lines, rows, d, -, -, -,
      hd, hpost⟩
    · exact .of_eq rfl
    have hentry : PostsEntry db _ _ _ _ _ :=
      postsEntry_of_postJournalUnlessEmpty hpost (by rw [settleAll_frame hd]) rfl
    exact hentry.posts.mono fun t ht => @payablesKind_of_way .creditNote t (.inl ht)
  | reverseSupplierPayment req =>
    rcases reverseSupplierPayment_ok h with rfl | ⟨payment, d, e, -, -, hd, hpost, hdb'⟩
    · exact .of_eq rfl
    have hentry : PostsEntry db db' _ _ _ _ :=
      postsEntry_of_postJournal hpost (by rw [settleAll_frame hd]) (by rw [hdb'])
    exact hentry.posts.mono fun t ht => @payablesKind_of_way .payment t (.inr ht)
  | reverseSupplierCreditNote req =>
    rcases reverseSupplierCreditNote_ok h with rfl | ⟨note, row, d, e, -, -, hd, -, hpost, hdb'⟩
    · exact .of_eq rfl
    have hentry : PostsEntry db db' _ _ _ _ :=
      postsEntry_of_postJournal hpost (by rw [settleAll_frame hd]) (by rw [hdb'])
    exact hentry.posts.mono fun t ht => @payablesKind_of_way .creditNote t (.inr ht)
  | voidPurchaseInvoice req =>
    rcases voidPurchaseInvoice_steps h with rfl | ⟨invoice, -, hcases⟩
    · exact .of_eq rfl
    rcases hcases with ⟨-, plan, -, hfinish⟩ | ⟨-, hwrite⟩
    -- a posted invoice is reversed; a draft, below, has no entry to reverse
    · obtain ⟨items, d, row, voided, -, hpost, -, -, hdb'⟩ := finishVoid_ok hfinish
      have hentry : PostsEntry db db' _ _ _ _ :=
        postsEntry_of_postJournalUnlessEmpty hpost rfl (by rw [hdb'])
      exact hentry.posts.mono fun t ht => .inr (.inl ht)
    · obtain ⟨row, voided, -, -, rfl⟩ := writeVoided_eq_ok.mp hwrite
      exact .of_eq rfl

theorem createPurchaseInvoice_posts {req : CreatePurchaseInvoice} {invoiceId : ℕ}
    (h : createPurchaseInvoice db req = .ok (db', invoiceId)) : Posts PayablesKind db db' := by
  unfold createPurchaseInvoice at h
  rw [bind_eq_ok] at h
  obtain ⟨found, -, h⟩ := h
  cases found with
  | some found =>
    rw [pure_eq_ok, Prod.mk.injEq] at h
    rw [← h.1]
    exact .of_eq rfl
  | none =>
    rw [bind_eq_ok] at h
    obtain ⟨plan, -, hinsert⟩ := h
    rcases insertInvoice_ok hinsert with rfl | ⟨invoice, lines, -, -, rfl⟩
    · exact .of_eq rfl
    · exact .of_eq rfl

theorem postPurchaseInvoice_posts {req : PostPurchaseInvoice}
    (h : postPurchaseInvoice db req = .ok db') : Posts PayablesKind db db' := by
  rcases postPurchaseInvoice_steps h with rfl | ⟨lines, plan, hload, -, hfinish⟩
  · exact .of_eq rfl
  obtain ⟨rfl, -, -⟩ := loadForPosting_ok hload
  obtain ⟨rows, items, row, posted, -, -, -, -, hpost⟩ := finishPosting_ok hfinish
  have hentry : PostsEntry db db' _ _ _ _ := postsEntry_of_postJournalUnlessEmpty hpost rfl rfl
  exact hentry.posts.mono fun t ht => .inl ht

/-- A request on payrolls posts theirs. -/
theorem PayrollStep.posts (h : PayrollStep db db') : Posts PayrollKind db db' := by
  cases h with
  | aside same => exact .of_eq (by rw [same.ledger])
  | created value fresh => exact .of_eq rfl
  | moved row moves => exact .of_eq rfl
  | calculated done drafted =>
    obtain ⟨period', results, -, -, rfl⟩ := done.written
    exact .of_eq rfl
  | @posted req period posted entry row approved value unposted entry_value =>
    refine Posts.mono (PostsEntry.posts (.entry entry unposted rfl ?_
      (congrArg JournalEntry.lines entry_value) rfl)) fun t ht => .inl ht
    rw [entrySource, entry_value]
  | @reversed req period entry row posted unreversed unposted entry_value =>
    refine Posts.mono (PostsEntry.posts (.entry entry unposted rfl ?_
      (congrArg JournalEntry.lines entry_value) rfl)) fun t ht => .inr ht
    rw [entrySource, entry_value]

end Others

/-! ### Moves -/

namespace ErpRequest

/-- The quantities of a request on transfers have at most three decimals. -/
def TransfersAtScale : ErpRequest → Prop
  | transfer r => r.AtScale
  | stock (.createTransfer req) => (TransferRequest.createTransfer req).AtScale
  | stock (.shipTransfer req) => (TransferRequest.shipTransfer req).AtScale
  | stock (.receiveTransfer req) => (TransferRequest.receiveTransfer req).AtScale
  | stock (.cancelTransfer req) => (TransferRequest.cancelTransfer req).AtScale
  | _ => True

end ErpRequest

/-- The entries of write-offs are of those that are no longer pending. -/
def LossEntries (db : Db) : Prop :=
  ∀ e ∈ db.ledger.entries, e.val.sourceType = .transferWriteOff →
    ∃ w, db.losses.writeOffs[e.val.sourceId]? = some w ∧ w.val.status ≠ .pendingApproval

/-- What one request does to lines, losses and their entries, before its commit. -/
structure LossMove (exact : Prop) (db d : Db) : Prop where
  place : PlaceStep exact db d
  loss : ∃ denies, LossStep denies db.losses d.losses
  amounts : ∀ w ∈ d.losses.writeOffs, OnGrid 6 w.val.amount ∨
    ∃ v ∈ db.losses.writeOffs, w.val.amount = v.val.amount
  entries : ∃ new, d.ledger.entries = db.ledger.entries ++ new ∧
    ∀ e ∈ new, e.val.sourceType = .transferWriteOff →
      ∃ w, d.losses.writeOffs[e.val.sourceId]? = some w ∧ w.val.status ≠ .pendingApproval

section Moves

variable {exact : Prop} {db d db' : Db}

/-- Losses and transfers are left alone, and the entries are of other kinds. -/
theorem LossMove.aside {kinds : SourceType → Prop} (htransfers : d.transfers = db.transfers)
    (hlosses : d.losses = db.losses) (hposts : Posts kinds db d) (hkind : ¬kinds .transferWriteOff) :
    LossMove exact db d where
  place := .aside (by rw [htransfers]; exact .refl _) (by rw [htransfers]) hlosses
  loss := ⟨none, hlosses ▸ .same⟩
  amounts w hw := .inr ⟨w, hlosses ▸ hw, rfl⟩
  entries := by
    obtain ⟨new, hnew, hkinds⟩ := hposts.added
    exact ⟨new, hnew, fun e he htype => absurd (htype ▸ hkinds e he) hkind⟩

/-- The amounts of the write-offs are what they were. -/
theorem amounts_of_eq (h : d.losses.writeOffs = db.losses.writeOffs) :
    ∀ w ∈ d.losses.writeOffs, OnGrid 6 w.val.amount ∨
      ∃ v ∈ db.losses.writeOffs, w.val.amount = v.val.amount :=
  fun w hw => .inr ⟨w, h ▸ hw, rfl⟩

/-- A write-off is written over, and keeps its amount. -/
theorem amounts_of_set {i : ℕ} {w w' : Row TransferWriteOff} (hw : db.losses.writeOffs[i]? = some w)
    (hset : d.losses.writeOffs = db.losses.writeOffs.set i w')
    (hamount : w'.val.amount = w.val.amount) :
    ∀ w ∈ d.losses.writeOffs, OnGrid 6 w.val.amount ∨
      ∃ v ∈ db.losses.writeOffs, w.val.amount = v.val.amount := by
  rw [hset]
  exact forall_mem_set (fun v hv => .inr ⟨v, hv, rfl⟩) (.inr ⟨w, mem_of_row hw, hamount⟩)

/-- Entries of other kinds are none of a write-off. -/
theorem Posts.noLosses {kinds : SourceType → Prop} (h : Posts kinds db d)
    (hkind : ¬kinds .transferWriteOff) : ∃ new, d.ledger.entries = db.ledger.entries ++ new ∧
      ∀ e ∈ new, e.val.sourceType = .transferWriteOff →
        ∃ w, d.losses.writeOffs[e.val.sourceId]? = some w ∧ w.val.status ≠ .pendingApproval := by
  obtain ⟨new, hnew, hkinds⟩ := h.added
  exact ⟨new, hnew, fun e he htype => absurd (htype ▸ hkinds e he) hkind⟩

/-- The amounts of write-offs, and their entries. -/
theorem TransferRequest.amounts_entries {r : TransferRequest} (h : r.run db = .ok d) :
    (∀ w ∈ d.losses.writeOffs, OnGrid 6 w.val.amount ∨
      ∃ v ∈ db.losses.writeOffs, w.val.amount = v.val.amount) ∧
    ∃ new, d.ledger.entries = db.ledger.entries ++ new ∧
      ∀ e ∈ new, e.val.sourceType = .transferWriteOff →
        ∃ w, d.losses.writeOffs[e.val.sourceId]? = some w ∧ w.val.status ≠ .pendingApproval := by
  cases r with
  | createTransfer req =>
    have haside := StockRequest.aside (r := .createTransfer req) h
    exact ⟨amounts_of_eq haside.writeOffs, haside.posts.noLosses (by decide)⟩
  | shipTransfer req =>
    have haside := shipTransfer_aside h
    exact ⟨amounts_of_eq haside.writeOffs, haside.posts.noLosses (by decide)⟩
  | receiveTransfer req =>
    have haside := receiveTransfer_aside h
    exact ⟨amounts_of_eq haside.writeOffs, haside.posts.noLosses (by decide)⟩
  | cancelTransfer req =>
    have haside := cancelTransfer_aside h
    exact ⟨amounts_of_eq haside.writeOffs, haside.posts.noLosses (by decide)⟩
  | investigateDiscrepancy req =>
    have haside := investigateDiscrepancy_aside h
    exact ⟨amounts_of_eq haside.writeOffs, haside.posts.noLosses (by decide)⟩
  | resolveDiscrepancy req =>
    have haside := resolveDiscrepancy_aside h
    exact ⟨amounts_of_eq haside.writeOffs, haside.posts.noLosses (by decide)⟩
  | createWriteOff req =>
    obtain ⟨⟨e, i⟩, hmade, rfl⟩ := map_eq_ok.mp h
    rcases createWriteOff_ok hmade with rfl | ⟨disc, w, -, -, -, -, -, -, hw, rfl⟩
    · exact ⟨amounts_of_eq rfl, [], by simp, by simp⟩
    refine ⟨fun v hv => ?_, [], by simp, by simp⟩
    rcases List.mem_append.mp hv with hv | hv
    · exact .inr ⟨v, hv, rfl⟩
    · rw [List.mem_singleton.mp hv, hw.amount]
      exact .inl (onGrid_numeric 6 _)
  | approveWriteOff req =>
    rcases approveWriteOff_ok h with rfl | ⟨w, w', disc, line, line', a, approvedBy, e, hdecides, -, -,
      -, hpost, hw', -, -, hd⟩
    · exact ⟨amounts_of_eq rfl, [], by simp, by simp⟩
    have hset : d.losses.writeOffs = db.losses.writeOffs.set req.writeOffId w' := by rw [hd]
    refine ⟨amounts_of_set hdecides.loaded hset (by rw [hw']), ?_⟩
    -- the entry is of the write-off that has been posted
    obtain ⟨-, -, -, entry, hentry, hj⟩ := postJournal_eq_ok.mp hpost
    refine ⟨[entry], by rw [hd, hj], fun x hx _ => ?_⟩
    rw [List.mem_singleton.mp hx, hentry, hset, getElem?_set_of_some hdecides.loaded, if_pos rfl]
    refine ⟨w', rfl, ?_⟩
    rw [hw']
    exact nofun
  | denyWriteOff req =>
    rcases denyWriteOff_ok h with ⟨rfl, -⟩ | ⟨w, w', a, approvedBy, old, disc, hdecides, hw', -, -, -, -,
      hd⟩
    · exact ⟨amounts_of_eq rfl, [], by simp, by simp⟩
    exact ⟨amounts_of_set hdecides.loaded (by rw [hd]) (by rw [hw']), [], by rw [hd]; simp, by simp⟩
  | reverseWriteOff req =>
    rcases reverseWriteOff_ok h with rfl | ⟨w, w', line, line', e, hw, -, -, hpost, hw', -, hd⟩
    · exact ⟨amounts_of_eq rfl, [], by simp, by simp⟩
    have hentry : PostsEntry db d _ _ _ _ := postsEntry_of_postJournal hpost rfl (by rw [hd])
    exact ⟨amounts_of_set hw (by rw [hd]) (by rw [hw']), hentry.posts.noLosses (by decide)⟩

/-- A request on transfers makes such a move. -/
theorem TransferRequest.lossMove {r : TransferRequest} (h : r.run db = .ok d) :
    LossMove r.AtScale db d := by
  have hdone : r.exec db = .ok d.commit := map_eq_ok.mpr ⟨d, h, rfl⟩
  have hloss := TransferRequest.lossStep hdone
  obtain ⟨hamounts, hentries⟩ := TransferRequest.amounts_entries h
  exact ⟨TransferRequest.placeStep h, ⟨r.denies, hloss⟩, hamounts, hentries⟩

/-- **Every request makes such a move**, which is committed or leaves transfers and losses alone. -/
theorem ErpRequest.lossMove {r : ErpRequest} (h : r.exec db = .ok db') :
    ∃ d, LossMove r.TransfersAtScale db d ∧
      (db' = d.commit ∨ db' = d ∧ d.transfers = db.transfers) := by
  cases r with
  | stock r =>
    obtain ⟨d, hrun, rfl⟩ := map_eq_ok.mp h
    refine ⟨d, ?_, .inl rfl⟩
    by_cases hr : r.OnTransfer
    -- of the requests on stock these four are about transfers too
    · cases r with
      | createTransfer req => exact TransferRequest.lossMove (r := .createTransfer req) hrun
      | shipTransfer req => exact TransferRequest.lossMove (r := .shipTransfer req) hrun
      | receiveTransfer req => exact TransferRequest.lossMove (r := .receiveTransfer req) hrun
      | cancelTransfer req => exact TransferRequest.lossMove (r := .cancelTransfer req) hrun
      | _ => exact absurd hr not_false
    -- the others leave lines and losses alone, and their entries are of other kinds
    · exact .aside ((StockRequest.frame hrun).transfers hr) (StockRequest.losses_kept hrun hr)
        (StockRequest.aside hrun).posts (by decide)
  | transfer r =>
    obtain ⟨d, hrun, rfl⟩ := map_eq_ok.mp h
    exact ⟨d, TransferRequest.lossMove hrun, .inl rfl⟩
  | createPurchaseInvoice req =>
    obtain ⟨⟨d, i⟩, hrun, rfl⟩ := map_eq_ok.mp h
    have hframe := createPurchaseInvoice_frame hrun
    exact ⟨d, .aside hframe.transfers hframe.losses (createPurchaseInvoice_posts hrun)
      fun hkind => hkind.apart.1 (.inl rfl), .inl rfl⟩
  | postPurchaseInvoice req =>
    obtain ⟨d, hrun, rfl⟩ := map_eq_ok.mp h
    have hframe := postPurchaseInvoice_frame hrun
    exact ⟨d, .aside hframe.transfers hframe.losses (postPurchaseInvoice_posts hrun)
      fun hkind => hkind.apart.1 (.inl rfl), .inl rfl⟩
  | settlement r =>
    obtain ⟨d, hrun, rfl⟩ := map_eq_ok.mp h
    have hframe := settlement_frame hrun
    exact ⟨d, .aside hframe.transfers hframe.losses (settlement_posts hrun)
      fun hkind => hkind.apart.1 (.inl rfl), .inl rfl⟩
  -- attendance and payroll commit on their own
  | workforce r =>
    have hframe := exec_frame h
    exact ⟨db', .aside (by rw [hframe]) (by rw [hframe]) (exec_payrollStep h).posts
      fun hkind => hkind.apart.2.1 (.inl rfl), .inr ⟨rfl, by rw [hframe]⟩⟩
  | closeAccountingPeriod req =>
    obtain ⟨books, -, hdb'⟩ := map_eq_ok.mp h
    have hposts : Posts StockKind db db' := .of_eq (by rw [← hdb'])
    exact ⟨db', .aside (by rw [← hdb']) (by rw [← hdb']) hposts (by decide),
      .inr ⟨rfl, by rw [← hdb']⟩⟩

end Moves

/-! ### The invariant -/

/-- What is pending is in its place, undecided, and fits its discrepancy. -/
structure WriteOffsInOrder (db : Db) : Prop where
  placed : LossPlaced db
  bounded : db.losses.Bounded
  one_pending : db.losses.OnePending
  decided : db.losses.Decided
  pending_fit : db.losses.PendingFit
  amounts : ∀ w ∈ db.losses.writeOffs, OnGrid 6 w.val.amount
  entries : LossEntries db

/-- So it is, and the transfer lines are as their columns keep them. -/
structure WriteOffsReady (db : Db) : Prop extends WriteOffsInOrder db where
  lines : ∀ l ∈ db.transfers.lines, l.val.stored = l.val

section Runs

variable {exact : Prop} {db₀ db d db' : Db}

/-- Before there are transfers no write-off is pending, and none has an entry. -/
theorem Db.BeforeTransfers.writeOffsReady (h : db.BeforeTransfers)
    (hunposted : ∀ e ∈ db.ledger.entries, e.val.sourceType ≠ .transferWriteOff) :
    WriteOffsReady db where
  placed := by
    refine ⟨?_, ?_, ?_, ?_⟩
    · simp [h.receiptItems]
    · simp [h.discrepancies]
    · simp [h.writeOffs]
    · simp [h.lines]
  bounded := h.lossInOrder.bounded
  one_pending := h.lossInOrder.one_pending
  decided := h.lossInOrder.decided
  pending_fit := by
    intro i w d hw
    simp [h.writeOffs] at hw
  amounts := by simp [h.writeOffs]
  entries := fun e he htype => absurd htype (hunposted e he)
  lines := h.stored.lines

theorem Db.BeforeTransfers.lossRoom (h : db.BeforeTransfers) : LossRoom db := by
  refine ⟨?_, ?_⟩
  · simp [h.lines]
  · simp [h.lines]

/-- **A move keeps what is pending in order.** -/
theorem WriteOffsInOrder.move (h : WriteOffsInOrder db) (hmove : LossMove exact db d) :
    WriteOffsInOrder d := by
  obtain ⟨denies, hloss⟩ := hmove.loss
  refine ⟨h.placed.step hmove.place, h.bounded.step hloss, h.one_pending.step hloss,
    h.decided.step hloss, h.pending_fit.step h.bounded h.one_pending hloss, ?_, ?_⟩
  · intro w hw
    rcases hmove.amounts w hw with hgrid | ⟨v, hv, hsame⟩
    · exact hgrid
    · rw [hsame]
      exact h.amounts v hv
  · obtain ⟨new, hnew, hposted⟩ := hmove.entries
    intro e he htype
    rw [hnew] at he
    rcases List.mem_append.mp he with he | he
    · -- a write-off that was posted does not become pending again
      obtain ⟨w, hw, hclosed⟩ := h.entries e he htype
      obtain ⟨w', hw', hfollows⟩ := hloss.precedes _ w hw
      refine ⟨w', hw', fun hpending => hclosed ?_⟩
      rw [hpending] at hfollows
      revert hfollows
      cases w.val.status <;> decide
    · exact hposted e he htype

theorem WriteOffsInOrder.commit (h : WriteOffsInOrder db) : WriteOffsReady db.commit where
  placed := h.placed.commit h.bounded.writeOffs_onGrid
  bounded := h.bounded
  one_pending := h.one_pending
  decided := h.decided
  pending_fit := h.pending_fit
  amounts := h.amounts
  entries := h.entries
  lines := (stored_commit db).lines

/-- **Every request of every module keeps what is pending ready to be posted.** -/
theorem WriteOffsReady.exec {r : ErpRequest} (h : WriteOffsReady db) (hdone : r.exec db = .ok db') :
    WriteOffsReady db' := by
  obtain ⟨d, hmove, rfl | ⟨rfl, htransfers⟩⟩ := ErpRequest.lossMove hdone
  · exact (h.toWriteOffsInOrder.move hmove).commit
  · refine ⟨h.toWriteOffsInOrder.move hmove, ?_⟩
    rw [htransfers]
    exact h.lines

/-- Where quantities have three decimals, every request leaves room on the lines. -/
theorem LossRoom.exec {r : ErpRequest} (h : LossRoom db) (hready : WriteOffsReady db)
    (hscale : r.TransfersAtScale) (hdone : r.exec db = .ok db') : LossRoom db' := by
  obtain ⟨d, hmove, rfl | ⟨rfl, -⟩⟩ := ErpRequest.lossMove hdone
  · exact (h.step hready.placed hmove.place hscale).commit
  · exact h.step hready.placed hmove.place hscale

theorem writeOffsReady_of_reaches {ok : Db → ErpRequest → Prop} (hstart : WriteOffsReady db₀)
    (h : Reaches ErpRequest.exec ok db₀ db) : WriteOffsReady db :=
  h.invariant hstart fun _ _ _ hs _ hdone => hs.exec hdone

theorem lossRoom_of_reaches (hstart : WriteOffsReady db₀) (hroom : LossRoom db₀)
    (h : Reaches ErpRequest.exec (fun _ r => r.TransfersAtScale) db₀ db) : LossRoom db := by
  have hboth := h.invariant (I := fun d => WriteOffsReady d ∧ LossRoom d) ⟨hstart, hroom⟩
    fun _ _ _ hs hscale hdone => ⟨hs.1.exec hdone, hs.2.exec hs.1 hscale hdone⟩
  exact hboth.2

end Runs

/-! ### Approvals -/

/-- The transfer line of a write-off has room for it, next to what is written off already. -/
def TransferWriteOff.FitsLine (db : Db) (w : TransferWriteOff) : Prop :=
  ∃ line, db.transfers.lines[w.transferLineId]? = some line ∧
    line.val.writtenOffQuantity + w.quantity
      ≤ line.val.damagedQuantity + line.val.declaredShortQuantity

/-- Someone with the authority for a pending write-off approves it, in an open period. -/
structure DecideWriteOff.MayApprove (db : Db) (req : DecideWriteOff) (w : Row TransferWriteOff) :
    Prop where
  loaded : db.losses.writeOffs[req.writeOffId]? = some w
  pending : w.val.status = .pendingApproval
  notes : ¬isBlank req.decisionNotes
  authority : ∃ approvedBy, req.approvedBy = some approvedBy ∧
    checkApprovalAuthority db w.val approvedBy = .ok ()
  opened : enforcePeriodOpen db w.val.storeId (req.postingDate.getD req.today) = .ok ()

/-- One balanced entry for the write-off is added, each line with one side that is positive. -/
def PostsWriteOff (db db' : Db) (writeOffId : ℕ) : Prop :=
  ∃ e, db'.ledger.entries = db.ledger.entries ++ [e] ∧
    entrySource e = (.transferWriteOff, writeOffId) ∧ Ledger.Balanced e.val.lines ∧
    ∀ l ∈ e.val.lines, l.OneSided

section Approvals

variable {db₀ db d db' : Db} {req : DecideWriteOff} {w : Row TransferWriteOff}

/-- An amount moves from one account to another just when it is positive. -/
theorem checks_swap_iff {storeId sourceId : ℕ} {postingDate : Date} {sourceType : SourceType}
    {dr cr : Account} {x : ℚ} (hx : OnGrid 6 x) :
    JournalEntry.Checks ⟨storeId, postingDate, sourceType, sourceId,
      [debit dr x, credit cr x].map storedLine⟩ ↔ 0 < x := by
  have hlines : [debit dr x, credit cr x].map storedLine = [debit dr x, credit cr x] := by
    refine map_storedLine_of_onGrid fun l hl => ?_
    rcases List.mem_pair.mp hl with rfl | rfl
    · exact lineOnGrid_debit dr hx
    · exact lineOnGrid_credit cr hx
  rw [hlines]
  constructor
  · intro hchecks
    have hdebit := hchecks.exactly_one_side (debit dr x) List.mem_cons_self
    rcases hdebit with ⟨hpos, -⟩ | ⟨hnone, -⟩
    · exact hpos
    · exact absurd hnone (lt_irrefl 0)
  · intro hpos
    refine ⟨fun l hl => ?_, ?_⟩
    · rcases List.mem_pair.mp hl with rfl | rfl
      · exact oneSided_debit hpos
      · exact oneSided_credit hpos
    · simp [Ledger.Balanced]

/-- A transfer line takes a write-off just when it has room for it. -/
theorem checks_writeOffFrom_iff {line : Row InterStoreTransferLine} {quantity : ℚ}
    (hstored : line.val.stored = line.val) (hq : OnGrid 3 quantity) (hpos : 0 ≤ quantity) :
    InterStoreTransferLine.Checks
      { line.val with writtenOffQuantity := line.val.writtenOffQuantity + quantity } ↔
      line.val.writtenOffQuantity + quantity
        ≤ line.val.damagedQuantity + line.val.declaredShortQuantity := by
  have hold : InterStoreTransferLine.Checks line.val := line.property
  have hgrid : OnGrid 3 line.val.writtenOffQuantity := by
    rw [← congrArg InterStoreTransferLine.writtenOffQuantity hstored]
    exact onGrid_numeric 3 _
  have hsum : numeric 3 (line.val.writtenOffQuantity + quantity)
      = line.val.writtenOffQuantity + quantity := numeric_eq_self (hgrid.add hq)
  have hdamaged : numeric 3 line.val.damagedQuantity = line.val.damagedQuantity :=
    congrArg InterStoreTransferLine.damagedQuantity hstored
  have hshort : numeric 3 line.val.declaredShortQuantity = line.val.declaredShortQuantity :=
    congrArg InterStoreTransferLine.declaredShortQuantity hstored
  have hwritten : numeric 3 line.val.writtenOffQuantity = line.val.writtenOffQuantity :=
    congrArg InterStoreTransferLine.writtenOffQuantity hstored
  constructor
  -- the columns hold what the model holds, so the check reads as the inequality
  · intro hchecks
    have hle : numeric 3 (line.val.writtenOffQuantity + quantity)
        ≤ numeric 3 line.val.damagedQuantity + numeric 3 line.val.declaredShortQuantity :=
      hchecks.written_off_le
    rwa [hsum, hdamaged, hshort] at hle
  · intro hle
    refine { hold with written_off_nonneg := ?_, written_off_le := ?_ }
    · have hnonneg : 0 ≤ numeric 3 line.val.writtenOffQuantity := hold.written_off_nonneg
      show 0 ≤ numeric 3 (line.val.writtenOffQuantity + quantity)
      rw [hwritten] at hnonneg
      rw [hsum]
      exact add_nonneg hnonneg hpos
    · show numeric 3 (line.val.writtenOffQuantity + quantity)
        ≤ numeric 3 line.val.damagedQuantity + numeric 3 line.val.declaredShortQuantity
      rw [hsum, hdamaged, hshort]
      exact hle

/-- The transfer line of a write-off is there. -/
theorem LossPlaced.line (h : LossPlaced db) {w : Row TransferWriteOff}
    (hw : w ∈ db.losses.writeOffs) :
    ∃ line, db.transfers.lines[w.val.transferLineId]? = some line := by
  obtain ⟨disc, -, hline⟩ := h.requested w hw
  obtain ⟨item, hitem, hid⟩ := Option.map_eq_some_iff.mp hline
  have hlt := h.items item (mem_of_row hitem)
  rw [hid] at hlt
  exact ⟨_, List.getElem?_eq_getElem hlt⟩

/-- **Where the discrepancies of a line are within what it has lost, so is what is pending.** -/
theorem WriteOffsReady.fitsLine (h : WriteOffsReady db) (hroom : LossRoom db) {i : ℕ}
    (hw : db.losses.writeOffs[i]? = some w) (hpending : w.val.status = .pendingApproval) :
    w.val.FitsLine db := by
  obtain ⟨line, hline⟩ := h.placed.line (mem_of_row hw)
  refine ⟨line, hline, ?_⟩
  -- the write-offs as they would be after the approval
  let w' : Row TransferWriteOff := ⟨{ w.val with status := .posted }, w.property⟩
  have hbecomes : w.val.Becomes .posted w'.val := ⟨rfl, rfl, rfl, rfl⟩
  have hof : ∀ v ∈ db.losses.writeOffs.set i w', ∃ disc,
      db.losses.discrepancies[v.val.discrepancyId]? = some disc ∧
      disc.val.OfLine db.transfers.receiptItems v.val.transferLineId :=
    forall_mem_set h.placed.requested (h.placed.requested w (mem_of_row hw))
  have hwithin : ∀ j disc, db.losses.discrepancies[j]? = some disc →
      postedQuantity (db.losses.writeOffs.set i w') j ≤ disc.val.quantity := by
    intro j disc hdisc
    have hposted := h.bounded.within j disc hdisc
    rw [postedQuantity_set hw hbecomes, hpending]
    split
    · next hj =>
      subst hj
      have hfit := h.pending_fit i w disc hw hpending hdisc
      simp only [if_true, reduceCtorEq, if_false]
      linarith
    · rwa [add_zero]
  have hsum : lineWrittenOff (db.losses.writeOffs.set i w') w.val.transferLineId
      = line.val.writtenOffQuantity + w.val.quantity := by
    have hbefore : w.val.taken = 0 := by simp [TransferWriteOff.taken, hpending]
    have hafter : w'.val.taken = w.val.quantity := by simp [TransferWriteOff.taken, w']
    rw [h.placed.written_off _ line hline, lineWrittenOff_eq_taken, lineWrittenOff_eq_taken,
      sumWhere_set _ _ hw, if_pos rfl, if_pos rfl, hbefore, hafter, sub_zero]
  calc line.val.writtenOffQuantity + w.val.quantity
      = lineWrittenOff (db.losses.writeOffs.set i w') w.val.transferLineId := hsum.symm
    _ ≤ lineLost db w.val.transferLineId := lineWrittenOff_le hof hwithin _
    _ ≤ line.val.damagedQuantity + line.val.declaredShortQuantity := hroom.room _ line hline

/-- What is pending can be decided by who may approve it. -/
theorem DecideWriteOff.MayApprove.loadForDecision (hmay : req.MayApprove db w)
    (h : WriteOffsReady db) : ∃ approvedBy, approvedBy ≠ w.val.initiatedBy ∧
      GroceryErp.loadForDecision db req = .ok (some (w, approvedBy)) := by
  obtain ⟨approvedBy, hby, hauthority⟩ := hmay.authority
  have hundecided : decisionOn db req.writeOffId = [] := by
    refine List.eq_nil_iff_forall_not_mem.mpr fun a ha => ?_
    obtain ⟨hrow, hfor⟩ := mem_rowsWhere.mp ha
    obtain ⟨v, hv, hclosed, -⟩ := h.decided.closed a.2 (mem_of_row hrow)
    rw [hfor, hmay.loaded] at hv
    exact hclosed (Option.some.inj hv ▸ hmay.pending)
  have hother : approvedBy ≠ w.val.initiatedBy := by
    unfold checkApprovalAuthority at hauthority
    rw [check_bind_eq_ok, raiseIf_eq_ok] at hauthority
    exact hauthority.1
  refine ⟨approvedBy, hother, ?_⟩
  unfold GroceryErp.loadForDecision
  simp only [↓check_bind_eq_ok, bind_eq_ok, orRaise_eq_ok, raiseIf_eq_ok]
  refine ⟨hmay.notes, approvedBy, hby, none, ?_, w, hmay.loaded, ?_⟩
  · rw [hundecided]
    rfl
  · simp only [Option.isSome_none, Bool.false_eq_true, if_false, ↓check_bind_eq_ok, raiseIf_eq_ok,
      pure_eq_ok, and_true, not_not, ne_eq]
    exact ⟨hmay.pending, hauthority⟩

/-- The entry of a write-off that has none is posted just when there is something to post. -/
theorem WriteOffsReady.post_iff (h : WriteOffsReady db) (hmay : req.MayApprove db w) :
    (∃ d, postTransferWriteOffJournal db req.writeOffId w.val (req.postingDate.getD req.today)
      = .ok d) ↔ 0 < w.val.amount := by
  have hgrid := h.amounts w (mem_of_row hmay.loaded)
  unfold postTransferWriteOffJournal postSwap
  constructor
  · rintro ⟨d, hd⟩
    obtain ⟨-, -, -, entry, hentry, -⟩ := postJournal_eq_ok.mp hd
    have hchecks : JournalEntry.Checks entry.val := entry.property
    rw [hentry] at hchecks
    exact (checks_swap_iff hgrid).mp hchecks
  · intro hpos
    refine ⟨_, postJournal_eq_ok.mpr ⟨List.cons_ne_nil _ _, hmay.opened, ?_,
      ⟨_, (checks_swap_iff hgrid).mpr hpos⟩, rfl, rfl⟩⟩
    rintro ⟨e, he, htype, hid⟩
    obtain ⟨v, hv, hclosed⟩ := h.entries e he htype
    rw [hid, hmay.loaded] at hv
    exact hclosed (Option.some.inj hv ▸ hmay.pending)

/-- **In a state that is ready, an approval goes through just when there is something to post and
the line has room.** -/
theorem WriteOffsReady.approve_iff (h : WriteOffsReady db) (hmay : req.MayApprove db w) :
    (∃ db', approveWriteOff db req = .ok db' ∧ PostsWriteOff db db' req.writeOffId) ↔
      0 < w.val.amount ∧ w.val.FitsLine db := by
  have hw := mem_of_row hmay.loaded
  have hpos : 0 ≤ w.val.quantity := le_of_lt w.property
  have hq := h.bounded.writeOffs_onGrid w hw
  constructor
  · rintro ⟨db', hdone, e, hentries, -⟩
    rcases approveWriteOff_ok hdone with rfl | ⟨v, v', disc, line, line', a, approvedBy, d, hdecides,
      -, -, hline, hpost, -, hline', -, -⟩
    -- a replay posts no entry
    · simp at hentries
    obtain rfl : v = w := Option.some.inj (hdecides.loaded.symm.trans hmay.loaded)
    -- one way: the entry has an amount, and the line that was written passed its check
    refine ⟨(h.post_iff hmay).mp ⟨d, hpost⟩, line, hline, ?_⟩
    have hchecks : InterStoreTransferLine.Checks line'.val := line'.property
    rw [hline'] at hchecks
    exact (checks_writeOffFrom_iff (h.lines line (mem_of_row hline)) hq hpos).mp hchecks
  · rintro ⟨hamount, line, hline, hfits⟩
    obtain ⟨approvedBy, hother, hload⟩ := hmay.loadForDecision h
    obtain ⟨disc, hdisc, -⟩ := h.placed.requested w hw
    have hleft := h.pending_fit _ w disc hmay.loaded hmay.pending hdisc
    obtain ⟨d, hpost⟩ := (h.post_iff hmay).mpr hamount
    obtain ⟨-, -, -, entry, hentry, rfl⟩ := postJournal_eq_ok.mp hpost
    -- the other way: the three rows as they are written, each with its check
    let w' : Row TransferWriteOff := ⟨{ w.val with
      status := .posted, journalEntryId := some db.ledger.entries.length }, w.property⟩
    let line' : Row InterStoreTransferLine := ⟨{ line.val with
      writtenOffQuantity := line.val.writtenOffQuantity + w.val.quantity },
      (checks_writeOffFrom_iff (h.lines line (mem_of_row hline)) hq hpos).mpr hfits⟩
    let approval : Row WriteOffApproval :=
      ⟨⟨req.writeOffId, w.val.initiatedBy, approvedBy, .approved⟩, hother.symm⟩
    refine ⟨{ db with
        ledger.entries := db.ledger.entries ++ [entry]
        losses.writeOffs := db.losses.writeOffs.set req.writeOffId w'
        transfers.lines := db.transfers.lines.set w.val.transferLineId line'
        losses.approvals := db.losses.approvals ++ [approval] }, ?_, entry, rfl, ?_, ?_, ?_⟩
    · unfold approveWriteOff
      rw [bind_eq_ok]
      refine ⟨some (w, approvedBy), hload, ?_⟩
      simp only [setWriteOff, writeOffFrom, addDecision, ↓check_bind_eq_ok, bind_eq_ok,
        orRaise_eq_ok, raiseIf_eq_ok, onIntegrityError_eq_ok, flush_eq_ok, pure_eq_ok,
        gt_iff_lt, not_lt]
      exact ⟨disc, hdisc, hleft, line, hline, _, hpost, _, ⟨w', rfl, rfl⟩, _,
        ⟨line', rfl, rfl⟩, approval, rfl, rfl⟩
    · rw [entrySource, hentry]
    · exact entry.property.balanced
    · exact entry.property.exactly_one_side

/-! ### Runs -/

/-- **Whatever is done before, who may approve a pending write-off posts one balanced entry for it
just when its amount is positive and the transfer line has room**; it has, where the quantities of
transfers have three decimals. -/
theorem approveWriteOff_posts_iff (hstart : db₀.BeforeTransfers)
    (hunposted : ∀ e ∈ db₀.ledger.entries, e.val.sourceType ≠ .transferWriteOff)
    (h : Reaches ErpRequest.exec (fun _ _ => True) db₀ db) (hmay : req.MayApprove db w) :
    ((∃ db', approveWriteOff db req = .ok db' ∧ PostsWriteOff db db' req.writeOffId) ↔
      0 < w.val.amount ∧ w.val.FitsLine db) ∧
    (Reaches ErpRequest.exec (fun _ r => r.TransfersAtScale) db₀ db → w.val.FitsLine db) := by
  have hready := writeOffsReady_of_reaches (hstart.writeOffsReady hunposted) h
  refine ⟨hready.approve_iff hmay, fun hscale => ?_⟩
  have hroom := lossRoom_of_reaches (hstart.writeOffsReady hunposted) hstart.lossRoom hscale
  exact hready.fitsLine hroom hmay.loaded hmay.pending

end Approvals

/-! ### Apples -/

/-- Everything but the decision on the loss of an apple. -/
def loseApples : List ErpRequest :=
  [.transfer (.createTransfer sendApples), .transfer (.shipTransfer (shipApples [⟨0, 10⟩])),
    .transfer (.receiveTransfer unpackApples), .transfer (.investigateDiscrepancy ⟨0, none⟩),
    .transfer (.resolveDiscrepancy ⟨0, .transitDamage, "wet", none⟩),
    .transfer (.createWriteOff (writeOffApples 1 "loss-1"))]

def applesLost : Db :=
  value (loseApples.foldlM (fun db r => ErpRequest.exec r db) twoShops) (by decide +kernel)

/-- The administrator may approve what the clerk has requested. -/
theorem mayApprove_of_pending {db : Db} {w : Row TransferWriteOff}
    (hw : db.losses.writeOffs[0]? = some w) (hpending : w.val.status = .pendingApproval)
    (hby : checkApprovalAuthority db w.val 1 = .ok ())
    (hopen : enforcePeriodOpen db w.val.storeId 0 = .ok ()) :
    (decideApples 0).MayApprove db w where
  loaded := hw
  pending := hpending
  notes := by decide +kernel
  authority := ⟨1, rfl, hby⟩
  opened := hopen

/-- An apple that has cost one is written off. -/
theorem approveWriteOff_posts_apple : ∃ db',
    approveWriteOff applesLost (decideApples 0) = .ok db' ∧ PostsWriteOff applesLost db' 0 := by
  have hrow : applesLost.losses.writeOffs.map (·.val)
      = [⟨0, 0, 0, 1, 1, 1, 0, 0, 0, none, .pendingApproval, none, none, "loss-1"⟩] := by
    decide +kernel
  obtain ⟨w, hw, hval⟩ := List.map_eq_singleton_iff.mp hrow
  have hmay : (decideApples 0).MayApprove applesLost w := by
    refine mayApprove_of_pending (by rw [hw]; rfl) (by rw [hval]) ?_ ?_
    · rw [hval]
      decide +kernel
    · rw [hval]
      decide +kernel
  have hreaches : Reaches ErpRequest.exec (fun _ _ => True) twoShops applesLost :=
    reaches_of_foldlM (eq_ok_value _ _)
  obtain ⟨hiff, -⟩ := approveWriteOff_posts_iff twoShops_beforeTransfers (by simp [twoShops])
    hreaches hmay
  refine hiff.mpr ⟨by rw [hval]; exact one_pos, ?_⟩
  have hline : applesLost.transfers.lines.map (fun l => (l.val.writtenOffQuantity,
      l.val.damagedQuantity, l.val.declaredShortQuantity)) = [(0, 3, 1)] := by
    decide +kernel
  obtain ⟨line, hlines, hquantities⟩ := List.map_eq_singleton_iff.mp hline
  simp only [Prod.mk.injEq] at hquantities
  refine ⟨line, by rw [hval, hlines]; rfl, ?_⟩
  rw [hval, hquantities.1, hquantities.2.1, hquantities.2.2]
  norm_num

/-- The shops, with apples that were a gift. -/
def giftShops : Db :=
  { twoShops with
    stock.products := twoShops.stock.products.set 0
      ⟨{ storeId := 0, sku := "APPLE", categoryId := none, currentPrice := 2, currentCost := 0
         taxRateId := none, currentQtyOnHand := 20, allowNegativeStock := false
         isActive := true }, by decide +kernel⟩ }

def giftsLost : Db :=
  value (loseApples.foldlM (fun db r => ErpRequest.exec r db) giftShops) (by decide +kernel)

/-- **The loss of a free apple is requested, and the database refuses the entry of its
approval.** -/
theorem free_apples_not_approved :
    giftShops.BeforeTransfers ∧
    (∀ e ∈ giftShops.ledger.entries, e.val.sourceType ≠ .transferWriteOff) ∧
    Reaches ErpRequest.exec (fun _ _ => True) giftShops giftsLost ∧
    (∃ w, (decideApples 0).MayApprove giftsLost w) ∧
    errorOf (approveWriteOff giftsLost (decideApples 0)) = some (.integrity .journalEntries) ∧
    ¬∃ db', approveWriteOff giftsLost (decideApples 0) = .ok db' ∧ PostsWriteOff giftsLost db' 0 := by
  have herror : errorOf (approveWriteOff giftsLost (decideApples 0))
      = some (.integrity .journalEntries) := by
    decide +kernel
  refine ⟨?_, by simp [giftShops, twoShops], reaches_of_foldlM (eq_ok_value _ _), ?_, herror, ?_⟩
  · refine ⟨⟨?_, by simp [giftShops, twoShops]⟩, rfl, rfl, rfl, rfl, rfl, List.nodup_nil,
      by simp [giftShops, twoShops]⟩
    decide +kernel
  · have hrow : giftsLost.losses.writeOffs.map (·.val)
        = [⟨0, 0, 0, 1, 0, 0, 0, 0, 0, none, .pendingApproval, none, none, "loss-1"⟩] := by
      decide +kernel
    obtain ⟨w, hw, hval⟩ := List.map_eq_singleton_iff.mp hrow
    refine ⟨w, mayApprove_of_pending (by rw [hw]; rfl) (by rw [hval]) ?_ ?_⟩
    · rw [hval]
      decide +kernel
    · rw [hval]
      decide +kernel
  · rintro ⟨db', hdone, -⟩
    rw [hdone] at herror
    cases herror

end GroceryErp
