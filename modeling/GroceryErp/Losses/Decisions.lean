import GroceryErp.Transfers.Requests

/-!
# The write-off machine

Whatever requests do to discrepancies and write-offs is one of a few steps.  Over any
run of them the posted write-offs of a discrepancy stay within it, one request at most
is pending, and a decision is made once and by someone else.

## Main definitions

* `LossStep` — what one request can do to discrepancies and write-offs.
* `LossTables.Sound` — the invariant.
* `WriteOffStatus.Follows` — the statuses a write-off can come to.

## Main results

* `TransferRequest.lossStep` — every request is such a step.
* `write_off_machine_sound` — the bound, the decisions and the statuses, over any run.
* `write_offs_on_eligible` — a live write-off is on a resolved discrepancy for as long as
  no denial meets a posted one.

## References

`backend/app/modules/writeoffs/service.py`, `discrepancies/service.py`.
-/

namespace GroceryErp

open Decimal Outcome Rows Runs

/-! ### Steps -/

/-- The write-off `w'` is `w` in another status: the discrepancy, the quantity and who asked for it
are the same. -/
structure TransferWriteOff.Becomes (w : TransferWriteOff) (status : WriteOffStatus)
    (w' : TransferWriteOff) : Prop where
  status : w'.status = status
  discrepancyId : w'.discrepancyId = w.discrepancyId
  quantity : w'.quantity = w.quantity
  initiatedBy : w'.initiatedBy = w.initiatedBy

/-- What one request can do to discrepancies and write-offs; `denies` is the write-off it
asks to deny. -/
inductive LossStep (denies : Option ℕ) (s : LossTables) : LossTables → Prop
  | same : LossStep denies s s
  /-- A receipt records what it finds. -/
  | record {new : List (Row ReceivingDiscrepancy)}
      (recorded : ∀ d ∈ new, d.val.status = .recorded ∧ OnGrid 3 d.val.quantity) :
      LossStep denies s { s with discrepancies := s.discrepancies ++ new }
  /-- An open discrepancy is investigated or resolved. -/
  | move {i : ℕ} {old new : Row ReceivingDiscrepancy} (loaded : s.discrepancies[i]? = some old)
      (unresolved : old.val.status ≠ .resolved) (quantity : new.val.quantity = old.val.quantity) :
      LossStep denies s { s with discrepancies := s.discrepancies.set i new }
  /-- A write-off is requested. -/
  | request {d : Row ReceivingDiscrepancy} {w : Row TransferWriteOff} {q : ℚ}
      (loaded : s.discrepancies[w.val.discrepancyId]? = some d)
      (resolved : d.val.status = .resolved)
      (eligible : d.val.resolutionType ≠ some .vendorCaused)
      (alone : ∀ v ∈ s.writeOffs, v.val.discrepancyId = w.val.discrepancyId →
        v.val.status ≠ .pendingApproval)
      (left : q ≤ d.val.quantity - postedQuantity s.writeOffs w.val.discrepancyId)
      (quantity : w.val.quantity = numeric 3 q) (pending : w.val.status = .pendingApproval) :
      LossStep denies s { s with writeOffs := s.writeOffs ++ [w] }
  /-- A pending write-off is approved and posted. -/
  | approve {i : ℕ} {d : Row ReceivingDiscrepancy} {w w' : Row TransferWriteOff}
      {a : Row WriteOffApproval} (loaded : s.writeOffs[i]? = some w)
      (undecided : ∀ b ∈ s.approvals, b.val.writeOffId ≠ i)
      (pending : w.val.status = .pendingApproval)
      (discrepancy : s.discrepancies[w.val.discrepancyId]? = some d)
      (left : w.val.quantity ≤ d.val.quantity - postedQuantity s.writeOffs w.val.discrepancyId)
      (written : w.val.Becomes .posted w'.val)
      (decision : a.val.writeOffId = i ∧ a.val.initiatedBy = w.val.initiatedBy) :
      LossStep denies s { s with writeOffs := s.writeOffs.set i w', approvals := s.approvals ++ [a] }
  /-- A pending write-off is denied, and its discrepancy reopened. -/
  | deny {i : ℕ} {d d' : Row ReceivingDiscrepancy} {w w' : Row TransferWriteOff}
      {a : Row WriteOffApproval} (named : denies = some i) (loaded : s.writeOffs[i]? = some w)
      (undecided : ∀ b ∈ s.approvals, b.val.writeOffId ≠ i)
      (pending : w.val.status = .pendingApproval)
      (discrepancy : s.discrepancies[w.val.discrepancyId]? = some d)
      (written : w.val.Becomes .denied w'.val)
      (decision : a.val.writeOffId = i ∧ a.val.initiatedBy = w.val.initiatedBy)
      (reopened : d'.val = { d.val with status := .investigating, resolutionType := none }) :
      LossStep denies s { s with
        writeOffs := s.writeOffs.set i w'
        approvals := s.approvals ++ [a]
        discrepancies := s.discrepancies.set w.val.discrepancyId d' }
  /-- A posted write-off is reversed. -/
  | reverse {i : ℕ} {w w' : Row TransferWriteOff} (loaded : s.writeOffs[i]? = some w)
      (posted : w.val.status = .posted) (written : w.val.Becomes .reversed w'.val) :
      LossStep denies s { s with writeOffs := s.writeOffs.set i w' }

/-! #### The requests are steps -/

section Requests

variable {db db' : Db}

theorem DiscrepancyInput.onGrid_quantity (i : DiscrepancyInput) : OnGrid 3 i.row.quantity :=
  (onGrid_numeric 3 _).add (onGrid_numeric 3 _)

theorem createTransfer_losses {req : CreateTransfer} {transferId : ℕ}
    (h : createTransfer db req = .ok (db', transferId)) : db'.losses = db.losses := by
  obtain ⟨transfer, lines, -, -, rfl⟩ := createTransfer_ok h
  rfl

theorem shipTransfer_losses {req : ShipTransfer} (h : shipTransfer db req = .ok db') :
    db'.losses = db.losses := by
  rcases shipTransfer_ok h with rfl | ⟨transfer, lines, e, shipped, -, -, -, -, he, -, hj⟩
  · rfl
  have hframe := (shipLines_ok (P := fun _ => True) he (fun _ _ _ _ => trivial)
    fun _ _ => trivial).1
  rw [postJournalUnlessEmpty_frame hj, hframe]

/-- The discrepancies that a receipt records, one for each item with a loss, appended in the order
of the items. -/
theorem recordDiscrepancies_ok {transfer : InterStoreTransfer} {transferId : ℕ}
    {items : List (TransferReceiptLine × ℕ)}
    (h : items.foldlM (recordDiscrepancy transfer transferId) db = .ok db') :
    ∃ new : List (Row ReceivingDiscrepancy),
      db' = { db with losses.discrepancies := db.losses.discrepancies ++ new } ∧
      ∀ d ∈ new, ∃ item ∈ items,
        d.val = (item.1.discrepancy transfer transferId item.2).row := by
  refine foldlM_induct (fun _ t => ∃ new : List (Row ReceivingDiscrepancy),
    t = { db with losses.discrepancies := db.losses.discrepancies ++ new } ∧
    ∀ d ∈ new, ∃ item ∈ items, d.val = (item.1.discrepancy transfer transferId item.2).row) h
    ⟨[], by simp, by simp⟩ ?_
  rintro done item rest t t' hitems ⟨new, rfl, hnew⟩ hstep
  rcases createDiscrepancyForReceiptItem_ok hstep with rfl | ⟨discrepancy, hrow, -, rfl⟩
  · exact ⟨new, rfl, hnew⟩
  refine ⟨new ++ [discrepancy], by simp, fun d hd => ?_⟩
  rcases List.mem_append.mp hd with hd | hd
  · exact hnew d hd
  · rw [List.mem_singleton.mp hd]
    exact ⟨item, by simp [hitems], hrow⟩

theorem receiveTransfer_losses {req : ReceiveTransfer} (h : receiveTransfer db req = .ok db') :
    ∃ new : List (Row ReceivingDiscrepancy),
      db'.losses = { db.losses with discrepancies := db.losses.discrepancies ++ new } ∧
      ∀ d ∈ new, d.val.status = .recorded ∧ OnGrid 3 d.val.quantity := by
  rcases receiveTransfer_ok h with rfl | ⟨transfer, lines, d, i, -, -, hwrite, hj⟩
  · exact ⟨[], by simp, by simp⟩
  unfold writeTransferReceipt at hwrite
  simp only [bind_eq_ok, pure_eq_ok, Prod.mk.injEq] at hwrite
  obtain ⟨e, he, f, hf, g, hg, rfl, -⟩ := hwrite
  have hlosses : e.losses = db.losses := by
    refine foldlM_induct (fun _ t => t.losses = db.losses) he rfl ?_
    rintro done l rest t t' - ht hstep
    rw [(receiveLine_ok hstep).1]
    exact ht
  obtain ⟨new, rfl, hnew⟩ := recordDiscrepancies_ok hf
  have hframe := (accountLines_ok (P := fun _ => True) hg (fun _ _ _ _ _ => trivial)
    fun _ _ => trivial).1
  refine ⟨new, ?_, fun d hd => ?_⟩
  · rw [postJournalUnlessEmpty_frame hj, hframe]
    show { e.losses with discrepancies := e.losses.discrepancies ++ new } = _
    rw [hlosses]
  · obtain ⟨item, -, hrow⟩ := hnew d hd
    rw [hrow]
    exact ⟨rfl, DiscrepancyInput.onGrid_quantity _⟩

theorem cancelTransfer_losses {req : CancelTransfer} (h : cancelTransfer db req = .ok db') :
    db'.losses = db.losses := by
  rcases cancelTransfer_ok h with rfl | ⟨transfer, cancelled, -, -, -, rfl⟩
  · rfl
  · rfl

/-- The write-off a request asks to deny, which is what reopens a discrepancy. -/
def TransferRequest.denies : TransferRequest → Option ℕ
  | denyWriteOff req => some req.writeOffId
  | _ => none

/-- **What a request does to discrepancies and write-offs is one of the steps.** -/
theorem TransferRequest.lossStep {r : TransferRequest} (h : r.exec db = .ok db') :
    LossStep r.denies db.losses db'.losses := by
  obtain ⟨d, hrun, rfl⟩ := map_eq_ok.mp h
  show LossStep r.denies db.losses d.losses
  -- only receipts, discrepancies and write-offs touch these tables
  cases r with
  | createTransfer req =>
    obtain ⟨⟨e, i⟩, hmade, rfl⟩ := map_eq_ok.mp hrun
    rw [createTransfer_losses hmade]
    exact .same
  | shipTransfer req =>
    rw [shipTransfer_losses hrun]
    exact .same
  | receiveTransfer req =>
    obtain ⟨new, hlosses, hnew⟩ := receiveTransfer_losses hrun
    rw [hlosses]
    exact .record hnew
  -- entries are appended under their source only where none has it, and the request says which
  | cancelTransfer req =>
    rw [cancelTransfer_losses hrun]
    exact .same
  | investigateDiscrepancy req =>
    obtain ⟨old, new, hold, hstatus, hnew, rfl⟩ := investigateDiscrepancy_ok hrun
    refine .move hold (by simp [hstatus]) ?_
    rw [hnew]
    rfl
  | resolveDiscrepancy req =>
    obtain ⟨old, new, hold, hstatus, hnew, rfl⟩ := resolveDiscrepancy_ok hrun
    refine .move hold (by simp [hstatus]) ?_
    rw [hnew]
    rfl
  | createWriteOff req =>
    obtain ⟨⟨e, i⟩, hmade, rfl⟩ := map_eq_ok.mp hrun
    rcases createWriteOff_ok hmade with rfl | ⟨disc, w, hdisc, -, hstatus, hvendor, halone, hleft,
      hw, rfl⟩
    · exact .same
    rw [← hw.discrepancyId] at hdisc halone hleft
    exact .request hdisc hstatus hvendor halone hleft hw.quantity hw.status
  | approveWriteOff req =>
    rcases approveWriteOff_ok hrun with rfl | ⟨w, w', disc, line, line', a, approvedBy, e, hdecides,
      hdisc, hleft, -, -, hw', -, ha, rfl⟩
    · exact .same
    refine @LossStep.approve _ _ _ _ _ w' _ hdecides.loaded hdecides.undecided hdecides.pending hdisc hleft ?_ ?_
    · rw [hw']
      exact ⟨rfl, rfl, rfl, rfl⟩
    · rw [ha]
      exact ⟨rfl, rfl⟩
  | denyWriteOff req =>
    rcases denyWriteOff_ok hrun with ⟨rfl, -⟩ | ⟨w, w', a, approvedBy, old, disc, hdecides, hw', ha, hold,
      -, hnew, rfl⟩
    · exact .same
    refine .deny rfl hdecides.loaded hdecides.undecided hdecides.pending hold ?_ ?_ hnew
    · rw [hw']
      exact ⟨rfl, rfl, rfl, rfl⟩
    · rw [ha]
      exact ⟨rfl, rfl⟩
  | reverseWriteOff req =>
    rcases reverseWriteOff_ok hrun with rfl | ⟨w, w', line, line', e, hw, hposted, -, -, hw', -, rfl⟩
    · exact .same
    refine .reverse hw hposted ?_
    rw [hw']
    exact ⟨rfl, rfl, rfl, rfl⟩

end Requests

/-! ### The posted write-offs of a discrepancy -/

section Posted

variable {ws : List (Row TransferWriteOff)} {i : ℕ}

theorem postedQuantity_eq_zero (h : ∀ w ∈ ws, w.val.discrepancyId ≠ i) :
    postedQuantity ws i = 0 :=
  sumWhere_eq_zero _ _ fun w hw hi => absurd hi.1 (h w hw)

/-- A request that is not posted adds nothing. -/
theorem postedQuantity_append {w : Row TransferWriteOff} (h : w.val.status ≠ .posted) (j : ℕ) :
    postedQuantity (ws ++ [w]) j = postedQuantity ws j := by
  simp [postedQuantity, h]

/-- What the posted write-offs come to after one of them is written. -/
theorem postedQuantity_set {w w' : Row TransferWriteOff} {status : WriteOffStatus}
    (h : ws[i]? = some w) (hw' : w.val.Becomes status w'.val) (j : ℕ) :
    postedQuantity (ws.set i w') j = postedQuantity ws j
      + if w.val.discrepancyId = j then
          (if status = .posted then w.val.quantity else 0)
            - (if w.val.status = .posted then w.val.quantity else 0)
        else 0 := by
  unfold postedQuantity
  rw [sumWhere_set _ _ h, hw'.discrepancyId, hw'.quantity, hw'.status]
  by_cases hj : w.val.discrepancyId = j
  · simp only [hj, true_and, if_true]
    ring
  · simp [hj]

end Posted

/-! ### The invariant -/

/-- The posted write-offs of every discrepancy stay within it. -/
structure LossTables.Bounded (s : LossTables) : Prop where
  discrepancies_onGrid : ∀ d ∈ s.discrepancies, OnGrid 3 d.val.quantity
  writeOffs_onGrid : ∀ w ∈ s.writeOffs, OnGrid 3 w.val.quantity
  known : ∀ w ∈ s.writeOffs, w.val.discrepancyId < s.discrepancies.length
  within : ∀ i d, s.discrepancies[i]? = some d → postedQuantity s.writeOffs i ≤ d.val.quantity

/-- One write-off at most is pending on each discrepancy. -/
def LossTables.OnePending (s : LossTables) : Prop :=
  ∀ (i j : ℕ) (v w : Row TransferWriteOff), s.writeOffs[i]? = some v → s.writeOffs[j]? = some w →
    v.val.status = .pendingApproval → w.val.status = .pendingApproval →
    v.val.discrepancyId = w.val.discrepancyId → i = j

/-- Every decision is on a write-off that is no longer pending, and is the only one. -/
structure LossTables.Decided (s : LossTables) : Prop where
  once : (s.approvals.map (·.val.writeOffId)).Nodup
  closed : ∀ a ∈ s.approvals, ∃ w, s.writeOffs[a.val.writeOffId]? = some w ∧
    w.val.status ≠ .pendingApproval ∧ a.val.initiatedBy = w.val.initiatedBy

section Steps

variable {denies : Option ℕ} {s t : LossTables}

/-- A write-off that is written keeps the bound if what is posted still fits. -/
theorem LossTables.Bounded.set {i : ℕ} {w w' : Row TransferWriteOff} {as : List (Row WriteOffApproval)}
    {status : WriteOffStatus} (h : s.Bounded) (hw : s.writeOffs[i]? = some w)
    (hw' : w.val.Becomes status w'.val)
    (fits : ∀ d, s.discrepancies[w.val.discrepancyId]? = some d →
      postedQuantity (s.writeOffs.set i w') w.val.discrepancyId ≤ d.val.quantity) :
    LossTables.Bounded { s with writeOffs := s.writeOffs.set i w', approvals := as } where
  discrepancies_onGrid := h.discrepancies_onGrid
  writeOffs_onGrid := forall_mem_set h.writeOffs_onGrid
    (hw'.quantity ▸ h.writeOffs_onGrid w (mem_of_row hw))
  known := forall_mem_set h.known (hw'.discrepancyId ▸ h.known w (mem_of_row hw))
  within j d hj := by
    by_cases hij : w.val.discrepancyId = j
    · subst hij
      exact fits d hj
    · rw [postedQuantity_set hw hw', if_neg hij, add_zero]
      exact h.within j d hj

/-- A discrepancy that is written keeps the bound if it keeps its quantity. -/
theorem LossTables.Bounded.setDiscrepancy {i : ℕ} {d d' : Row ReceivingDiscrepancy}
    (h : s.Bounded) (hd : s.discrepancies[i]? = some d)
    (hq : d'.val.quantity = d.val.quantity) :
    LossTables.Bounded { s with discrepancies := s.discrepancies.set i d' } where
  discrepancies_onGrid := forall_mem_set h.discrepancies_onGrid
    (hq ▸ h.discrepancies_onGrid d (mem_of_row hd))
  writeOffs_onGrid := h.writeOffs_onGrid
  known w hw := by
    rw [List.length_set]
    exact h.known w hw
  within j e hj := by
    rw [getElem?_set_of_some hd] at hj
    split at hj
    · next hij =>
      subst hij
      rw [← Option.some.inj hj, hq]
      exact h.within _ _ hd
    · exact h.within j e hj

theorem LossTables.Bounded.step (h : s.Bounded) (hst : LossStep denies s t) : t.Bounded := by
  cases hst with
  | same => exact h
  | record recorded =>
    refine ⟨fun d hd => ?_, h.writeOffs_onGrid, fun w hw => ?_, fun i d hi => ?_⟩
    · rcases List.mem_append.mp hd with hd | hd
      · exact h.discrepancies_onGrid d hd
      · exact (recorded d hd).2
    · rw [List.length_append]
      exact Nat.lt_add_right _ (h.known w hw)
    · by_cases hlt : i < s.discrepancies.length
      · rw [List.getElem?_append_left hlt] at hi
        exact h.within i d hi
      · -- nothing is written off a discrepancy that was not there
        have hnone : postedQuantity s.writeOffs i = 0 :=
          postedQuantity_eq_zero fun w hw hwi => hlt (hwi ▸ h.known w hw)
        show postedQuantity s.writeOffs i ≤ _
        rw [hnone]
        exact d.property.qty_positive.le
  | move loaded unresolved quantity => exact h.setDiscrepancy loaded quantity
  | request loaded resolved eligible alone left quantity pending =>
    refine ⟨h.discrepancies_onGrid, fun w hw => ?_, fun w hw => ?_, fun i d hi => ?_⟩
    · rcases List.mem_append.mp hw with hw | hw
      · exact h.writeOffs_onGrid w hw
      · rw [List.mem_singleton.mp hw, quantity]
        exact onGrid_numeric 3 _
    · rcases List.mem_append.mp hw with hw | hw
      · exact h.known w hw
      · rw [List.mem_singleton.mp hw]
        exact (List.getElem?_eq_some_iff.mp loaded).1
    · show postedQuantity (s.writeOffs ++ [_]) i ≤ _
      rw [postedQuantity_append (by simp [pending])]
      exact h.within i d hi
  | @approve i d w w' a loaded undecided pending discrepancy left written decision =>
    refine h.set loaded written fun e he => ?_
    obtain rfl : d = e := Option.some.inj (discrepancy.symm.trans he)
    rw [postedQuantity_set loaded written]
    simp only [if_true, pending, reduceCtorEq, if_false]
    linarith
  | @deny i d d' w w' a named loaded undecided pending discrepancy written decision reopened =>
    refine (h.set loaded written fun e he => ?_).setDiscrepancy discrepancy (by rw [reopened]; rfl)
    rw [postedQuantity_set loaded written]
    simp only [pending, reduceCtorEq, if_false, sub_zero, ite_self, add_zero]
    exact h.within _ e he
  | @reverse i w w' loaded posted written =>
    refine h.set loaded written fun e he => ?_
    rw [postedQuantity_set loaded written]
    have hpos : 0 < w.val.quantity := w.property
    have hwithin := h.within _ e he
    simp only [if_true, posted, reduceCtorEq, if_false]
    linarith

/-- A write-off that stops being pending keeps the others apart. -/
theorem LossTables.OnePending.set {i : ℕ} {w w' : Row TransferWriteOff} (h : s.OnePending)
    (hw : s.writeOffs[i]? = some w) (hw' : w'.val.status ≠ .pendingApproval)
    (as : List (Row WriteOffApproval)) (ds : List (Row ReceivingDiscrepancy)) :
    LossTables.OnePending ⟨ds, s.writeOffs.set i w', as⟩ := by
  intro j k u v hu hv hup hvp huv
  rw [getElem?_set_of_some hw] at hu hv
  split at hu
  · rw [← Option.some.inj hu] at hup
    exact absurd hup hw'
  · split at hv
    · rw [← Option.some.inj hv] at hvp
      exact absurd hvp hw'
    · exact h j k u v hu hv hup hvp huv

theorem LossTables.OnePending.step (h : s.OnePending) (hst : LossStep denies s t) : t.OnePending := by
  cases hst with
  | same => exact h
  | record recorded => exact h
  | move loaded unresolved quantity => exact h
  | request loaded resolved eligible alone left quantity pending =>
    intro i j u v hu hv hup hvp huv
    rcases getElem?_append_singleton_eq_some.mp hu with hu | ⟨rfl, rfl⟩
    · rcases getElem?_append_singleton_eq_some.mp hv with hv | ⟨rfl, rfl⟩
      · exact h i j u v hu hv hup hvp huv
      · exact absurd hup (alone u (mem_of_row hu) huv)
    · rcases getElem?_append_singleton_eq_some.mp hv with hv | ⟨rfl, rfl⟩
      · exact absurd hvp (alone v (mem_of_row hv) huv.symm)
      · rfl
  | approve loaded undecided pending discrepancy left written decision =>
    exact h.set loaded (by simp [written.status]) _ _
  | deny named loaded undecided pending discrepancy written decision reopened =>
    exact h.set loaded (by simp [written.status]) _ _
  | reverse loaded posted written => exact h.set loaded (by simp [written.status]) _ _

/-- Writing a write-off that nobody has decided leaves the decisions in place. -/
theorem LossTables.Decided.set {i : ℕ} {w w' : Row TransferWriteOff} (h : s.Decided)
    (hw : s.writeOffs[i]? = some w) (hw' : w'.val.status ≠ .pendingApproval)
    (hby : w'.val.initiatedBy = w.val.initiatedBy) :
    ∀ a ∈ s.approvals, ∃ v, (s.writeOffs.set i w')[a.val.writeOffId]? = some v ∧
      v.val.status ≠ .pendingApproval ∧ a.val.initiatedBy = v.val.initiatedBy := by
  intro a ha
  obtain ⟨v, hv, hclosed, hinit⟩ := h.closed a ha
  rw [getElem?_set_of_some hw]
  split
  · next hi =>
    subst hi
    obtain rfl : w = v := Option.some.inj (hw.symm.trans hv)
    exact ⟨w', rfl, hw', hinit.trans hby.symm⟩
  · exact ⟨v, hv, hclosed, hinit⟩

/-- A decision on a write-off that had none. -/
theorem LossTables.Decided.decide {i : ℕ} {w w' : Row TransferWriteOff}
    {a : Row WriteOffApproval} (h : s.Decided) (hw : s.writeOffs[i]? = some w)
    (undecided : ∀ b ∈ s.approvals, b.val.writeOffId ≠ i)
    (hw' : w'.val.status ≠ .pendingApproval) (hby : w'.val.initiatedBy = w.val.initiatedBy)
    (decision : a.val.writeOffId = i ∧ a.val.initiatedBy = w.val.initiatedBy)
    (ds : List (Row ReceivingDiscrepancy)) :
    LossTables.Decided ⟨ds, s.writeOffs.set i w', s.approvals ++ [a]⟩ where
  once := by
    rw [List.map_append, List.nodup_append']
    refine ⟨h.once, List.nodup_singleton _, ?_⟩
    rw [List.map_singleton, List.disjoint_singleton]
    intro hmem
    obtain ⟨b, hb, hbi⟩ := List.mem_map.mp hmem
    exact undecided b hb (hbi.trans decision.1)
  closed b hb := by
    rcases List.mem_append.mp hb with hb | hb
    · exact h.set hw hw' hby b hb
    · rw [List.mem_singleton.mp hb, decision.1, getElem?_set_of_some hw, if_pos rfl]
      exact ⟨w', rfl, hw', decision.2.trans hby.symm⟩

theorem LossTables.Decided.step (h : s.Decided) (hst : LossStep denies s t) : t.Decided := by
  cases hst with
  | same => exact h
  | record recorded => exact ⟨h.once, h.closed⟩
  | move loaded unresolved quantity => exact ⟨h.once, h.closed⟩
  | request loaded resolved eligible alone left quantity pending =>
    refine ⟨h.once, fun a ha => ?_⟩
    obtain ⟨v, hv, hclosed, hinit⟩ := h.closed a ha
    exact ⟨v, getElem?_append_singleton_eq_some.mpr (.inl hv), hclosed, hinit⟩
  | approve loaded undecided pending discrepancy left written decision =>
    exact h.decide loaded undecided (by simp [written.status]) written.initiatedBy decision _
  | deny named loaded undecided pending discrepancy written decision reopened =>
    exact h.decide loaded undecided (by simp [written.status]) written.initiatedBy decision _
  | reverse loaded posted written =>
    exact ⟨h.once, h.set loaded (by simp [written.status]) written.initiatedBy⟩

/-! #### Statuses -/

/-- The statuses a write-off can come to: it is decided once, and reversed once if it was
posted. -/
def WriteOffStatus.Follows (x y : WriteOffStatus) : Prop :=
  x = y ∨ (x = .pendingApproval ∧ (y = .posted ∨ y = .denied ∨ y = .reversed)) ∨
    (x = .posted ∧ y = .reversed)

instance : DecidableRel WriteOffStatus.Follows := fun _ _ => inferInstanceAs (Decidable (_ ∨ _))

theorem WriteOffStatus.Follows.trans {x y z : WriteOffStatus} (h : x.Follows y)
    (h' : y.Follows z) : x.Follows z := by
  cases x <;> cases y <;> first | (exfalso; revert h; decide) | (revert h'; cases z <;> decide)

/-- Every write-off of `s` is there in `t`, in a status that follows. -/
def LossTables.Precedes (s t : LossTables) : Prop :=
  ∀ (i : ℕ) (w : Row TransferWriteOff), s.writeOffs[i]? = some w →
    ∃ w', t.writeOffs[i]? = some w' ∧ w.val.status.Follows w'.val.status

theorem LossTables.Precedes.refl (s : LossTables) : s.Precedes s :=
  fun _ w hw => ⟨w, hw, .inl rfl⟩

theorem LossTables.Precedes.trans {u : LossTables} (h : s.Precedes t) (h' : t.Precedes u) :
    s.Precedes u := by
  intro i w hw
  obtain ⟨v, hv, hvf⟩ := h i w hw
  obtain ⟨x, hx, hxf⟩ := h' i v hv
  exact ⟨x, hx, hvf.trans hxf⟩

theorem precedes_set {i : ℕ} {w w' : Row TransferWriteOff} (hw : s.writeOffs[i]? = some w)
    (hf : w.val.status.Follows w'.val.status) (as : List (Row WriteOffApproval))
    (ds : List (Row ReceivingDiscrepancy)) :
    s.Precedes ⟨ds, s.writeOffs.set i w', as⟩ := by
  intro j v hv
  show ∃ v', (s.writeOffs.set i w')[j]? = some v' ∧ _
  rw [getElem?_set_of_some hw]
  split
  · next hij =>
    subst hij
    obtain rfl : w = v := Option.some.inj (hw.symm.trans hv)
    exact ⟨w', rfl, hf⟩
  · exact ⟨v, hv, .inl rfl⟩

theorem LossStep.precedes (h : LossStep denies s t) : s.Precedes t := by
  cases h with
  | same => exact .refl s
  | record recorded => exact .refl s
  | move loaded unresolved quantity => exact .refl s
  | request loaded resolved eligible alone left quantity pending =>
    intro i w hw
    exact ⟨w, getElem?_append_singleton_eq_some.mpr (.inl hw), .inl rfl⟩
  | approve loaded undecided pending discrepancy left written decision =>
    refine precedes_set loaded ?_ _ _
    rw [pending, written.status]
    decide
  | deny named loaded undecided pending discrepancy written decision reopened =>
    refine precedes_set loaded ?_ _ _
    rw [pending, written.status]
    decide
  | reverse loaded posted written =>
    refine precedes_set loaded ?_ _ _
    rw [posted, written.status]
    decide

end Steps

/-! ### One entry for each document -/

section Sources

variable {db db' : Db}

theorem TransferRequest.uniqueSources {r : TransferRequest} (hdb : db.UniqueSources)
    (h : r.exec db = .ok db') : db'.UniqueSources := by
  obtain ⟨d, hrun, rfl⟩ := map_eq_ok.mp h
  show d.UniqueSources
  cases r with
  | createTransfer req =>
    obtain ⟨⟨e, i⟩, hmade, rfl⟩ := map_eq_ok.mp hrun
    obtain ⟨transfer, ls, -, -, rfl⟩ := createTransfer_ok hmade
    exact hdb
  -- the journal refuses a source that has an entry already
  | shipTransfer req =>
    rcases shipTransfer_ok hrun with rfl | ⟨transfer, ls, e, shipped, -, -, -, -, he, -, hj⟩
    · exact hdb
    have hframe := (shipLines_ok (P := fun _ => True) he (fun _ _ _ _ => trivial)
      fun _ _ => trivial).1
    refine uniqueSources_postJournalUnlessEmpty ?_ hj
    rw [hframe]
    exact hdb
  | receiveTransfer req =>
    rcases receiveTransfer_ok hrun with rfl | ⟨transfer, ls, e, i, -, -, hwrite, hj⟩
    · exact hdb
    have hframe := (writeTransferReceipt_ok (P := fun _ => True) hwrite
      (fun _ _ _ _ _ => trivial) fun _ _ => trivial).1
    refine uniqueSources_postJournalUnlessEmpty ?_ hj
    rw [hframe]
    exact hdb
  | cancelTransfer req =>
    rcases cancelTransfer_ok hrun with rfl | ⟨transfer, cancelled, -, -, -, rfl⟩
    · exact hdb
    · exact hdb
  | investigateDiscrepancy req =>
    obtain ⟨old, new, -, -, -, rfl⟩ := investigateDiscrepancy_ok hrun
    exact hdb
  | resolveDiscrepancy req =>
    obtain ⟨old, new, -, -, -, rfl⟩ := resolveDiscrepancy_ok hrun
    exact hdb
  | createWriteOff req =>
    obtain ⟨⟨e, i⟩, hmade, rfl⟩ := map_eq_ok.mp hrun
    rcases createWriteOff_ok hmade with rfl | ⟨disc, w, -, -, -, -, -, -, -, rfl⟩
    · exact hdb
    · exact hdb
  | approveWriteOff req =>
    rcases approveWriteOff_ok hrun with rfl | ⟨w, w', disc, line, line', a, approvedBy, e, -, -, -,
      -, hj, -, -, -, rfl⟩
    · exact hdb
    · have he : e.UniqueSources := uniqueSources_postJournal hdb hj
      exact he
  | denyWriteOff req =>
    rcases denyWriteOff_ok hrun with ⟨rfl, -⟩ | ⟨w, w', a, approvedBy, old, disc, -, -, -, -, -, -, rfl⟩
    · exact hdb
    · exact hdb
  | reverseWriteOff req =>
    rcases reverseWriteOff_ok hrun with rfl | ⟨w, w', line, line', e, -, -, -, hj, -, -, rfl⟩
    · exact hdb
    · have he : e.UniqueSources := uniqueSources_postJournal hdb hj
      exact he

end Sources

/-! ### Runs -/

/-- What every request keeps: the bounds of the quantities, one pending write-off for a discrepancy
at most, and one decision for each write-off. -/
structure LossInOrder (db : Db) : Prop where
  bounded : db.losses.Bounded
  one_pending : db.losses.OnePending
  decided : db.losses.Decided
  sources : db.UniqueSources

section Runs

variable {db₀ db db' : Db}

theorem Db.BeforeTransfers.lossInOrder (h : db.BeforeTransfers) : LossInOrder db where
  bounded := by
    refine ⟨?_, ?_, ?_, ?_⟩
    · simp [h.discrepancies]
    · simp [h.writeOffs]
    · simp [h.writeOffs]
    · simp [h.discrepancies]
  one_pending := by simp [LossTables.OnePending, h.writeOffs]
  decided := ⟨by simp [h.approvals], by simp [h.approvals]⟩
  sources := h.sources

theorem LossInOrder.exec {r : TransferRequest} (h : LossInOrder db) (hr : r.exec db = .ok db') :
    LossInOrder db' where
  bounded := h.bounded.step (TransferRequest.lossStep hr)
  one_pending := h.one_pending.step (TransferRequest.lossStep hr)
  decided := h.decided.step (TransferRequest.lossStep hr)
  sources := TransferRequest.uniqueSources h.sources hr

theorem lossInOrder_of_reaches {ok : Db → TransferRequest → Prop} (hopen : db₀.BeforeTransfers)
    (h : Reaches TransferRequest.exec ok db₀ db) : LossInOrder db :=
  h.invariant hopen.lossInOrder fun _ _ _ hs _ hdone => hs.exec hdone

theorem precedes_of_reaches {ok : Db → TransferRequest → Prop}
    (h : Reaches TransferRequest.exec ok db db') : db.losses.Precedes db'.losses :=
  h.invariant (I := fun d => db.losses.Precedes d.losses) (.refl _) fun _ _ _ hs _ hdone =>
    hs.trans (TransferRequest.lossStep hdone).precedes

/-- **Over any run of requests**: the posted write-offs of a discrepancy stay within what
is short and damaged, one write-off of it at most is pending, a write-off is decided at
most once and never by its initiator, is posted and reversed at most once, and stays
denied or reversed. -/
theorem write_off_machine_sound (hopen : db₀.BeforeTransfers)
    (h : Reaches TransferRequest.exec (fun _ _ => True) db₀ db)
    (h' : Reaches TransferRequest.exec (fun _ _ => True) db db') :
    (∀ (i : ℕ) (d : Row ReceivingDiscrepancy), db.losses.discrepancies[i]? = some d →
      postedQuantity db.losses.writeOffs i ≤ d.val.quantityShort + d.val.quantityDamaged) ∧
    (∀ (i j : ℕ) (v w : Row TransferWriteOff), db.losses.writeOffs[i]? = some v →
      db.losses.writeOffs[j]? = some w → v.val.status = .pendingApproval →
      w.val.status = .pendingApproval → v.val.discrepancyId = w.val.discrepancyId → i = j) ∧
    (db.losses.approvals.map (·.val.writeOffId)).Nodup ∧
    (∀ a ∈ db.losses.approvals, ∃ w, db.losses.writeOffs[a.val.writeOffId]? = some w ∧
      w.val.status ≠ .pendingApproval ∧ a.val.approvedBy ≠ w.val.initiatedBy) ∧
    (∀ i, (entriesFor db .transferWriteOff i).length ≤ 1 ∧
      (entriesFor db .transferWriteOffReversal i).length ≤ 1) ∧
    ∀ (i : ℕ) (w : Row TransferWriteOff), db.losses.writeOffs[i]? = some w →
      ∃ w', db'.losses.writeOffs[i]? = some w' ∧ w.val.status.Follows w'.val.status ∧
        (w.val.status = .denied → w'.val.status = .denied) ∧
        (w.val.status = .reversed → w'.val.status = .reversed) := by
  have hdb := lossInOrder_of_reaches hopen h
  refine ⟨hdb.bounded.within, hdb.one_pending, hdb.decided.once, fun a ha => ?_, fun i => ?_,
    fun i w hw => ?_⟩
  · obtain ⟨w, hw, hclosed, hinit⟩ := hdb.decided.closed a ha
    exact ⟨w, hw, hclosed, fun hself => a.property (hinit.trans hself.symm)⟩
  · exact ⟨hdb.sources.length_entriesFor_le _ i, hdb.sources.length_entriesFor_le _ i⟩
  · obtain ⟨w', hw', hf⟩ := precedes_of_reaches h' i w hw
    refine ⟨w', hw', hf, fun hdenied => ?_, fun hreversed => ?_⟩
    -- denied and reversed are where a write-off ends
    · rw [hdenied] at hf
      revert hf
      cases w'.val.status <;> decide
    · rw [hreversed] at hf
      revert hf
      cases w'.val.status <;> decide

end Runs

def lossReversed : Db :=
  value (TransferRequest.exec (.reverseWriteOff ⟨0, "found again", some 1, 0⟩) lossPosted)
    (by decide +kernel)

/-- One apple is written off, and the write-off reversed. -/
theorem write_off_machine_sound_apples :
    postedQuantity lossPosted.losses.writeOffs 0 ≤ 4 ∧
      ∃ w, lossReversed.losses.writeOffs[0]? = some w ∧ w.val.status ≠ .denied := by
  obtain ⟨hwithin, -, -, -, -, hfollows⟩ := write_off_machine_sound twoShops_beforeTransfers
    (reaches_lossPosted fun _ _ _ _ _ => trivial)
    (.next .start trivial (eq_ok_value (TransferRequest.exec
      (.reverseWriteOff ⟨0, "found again", some 1, 0⟩) lossPosted) (by decide +kernel)))
  constructor
  · have hlost : lossPosted.losses.discrepancies.map (·.val.quantity) = [4] := by decide +kernel
    obtain ⟨d, hd, hq⟩ := List.map_eq_singleton_iff.mp hlost
    refine (hwithin 0 d (by rw [hd]; rfl)).trans_eq hq
  · have hposted : lossPosted.losses.writeOffs.map (·.val.status) = [.posted] := by
      decide +kernel
    obtain ⟨w, hw, hstatus⟩ := List.map_eq_singleton_iff.mp hposted
    obtain ⟨w', hw', hf, -, -⟩ := hfollows 0 w (by rw [hw]; rfl)
    refine ⟨w', hw', fun hdenied => ?_⟩
    rw [hstatus, hdenied] at hf
    revert hf
    decide

end GroceryErp
