import GroceryErp.Losses.Decisions

/-!
# Live write-offs and the findings they rest on

A write-off is requested against a resolved discrepancy that the vendor has not caused.
A denial reopens the discrepancy without looking at the parts of it that are already
posted, and these are then left without a finding.

## Main definitions

* `LossTables.Eligible` — every live write-off is on a resolved discrepancy that the
  vendor has not caused.
* `TransferRequest.SparesPosted` — the request denies nothing on a discrepancy that has
  a posted write-off.

## Main results

* `write_offs_eligible` — a run in which every denial spares posted write-offs keeps the
  live ones eligible, and only such a denial ends that.

## References

`backend/app/modules/writeoffs/service.py`, `deny_write_off`;
`backend/app/modules/discrepancies/service.py`,
`reopen_discrepancy_after_write_off_denial`.
-/

namespace GroceryErp

open Outcome Rows Runs

/-! ### The invariant -/

/-- A write-off that is pending or posted, and so still takes part of what its discrepancy has lost.
-/
def TransferWriteOff.Live (w : TransferWriteOff) : Prop :=
  w.status = .pendingApproval ∨ w.status = .posted

instance (w : TransferWriteOff) : Decidable w.Live := inferInstanceAs (Decidable (_ ∨ _))

/-- A discrepancy that is resolved, and not as caused by the vendor. -/
def ReceivingDiscrepancy.Eligible (d : ReceivingDiscrepancy) : Prop :=
  d.status = .resolved ∧ d.resolutionType ≠ some .vendorCaused

instance (d : ReceivingDiscrepancy) : Decidable d.Eligible := inferInstanceAs (Decidable (_ ∧ _))

/-- Every live write-off is on an eligible discrepancy, one that is resolved and that no vendor has
caused. -/
def LossTables.Eligible (s : LossTables) : Prop :=
  ∀ w ∈ s.writeOffs, w.val.Live →
    ∃ d, s.discrepancies[w.val.discrepancyId]? = some d ∧ d.val.Eligible

/-- No write-off of the discrepancy is posted when one of it is to be denied. -/
def LossTables.Spares (s : LossTables) (denies : Option ℕ) : Prop :=
  ∀ i ∈ denies, ∀ w, s.writeOffs[i]? = some w → w.val.status = .pendingApproval →
    ∀ v ∈ s.writeOffs, v.val.discrepancyId = w.val.discrepancyId → v.val.status ≠ .posted

/-- The request denies nothing on a discrepancy that has a posted write-off. -/
def TransferRequest.SparesPosted (db : Db) (r : TransferRequest) : Prop :=
  db.losses.Spares r.denies

section Steps

variable {denies : Option ℕ} {s t : LossTables}

/-- A live write-off after one is written was there before, unless it is the one. -/
theorem live_of_mem_set {ws : List (Row TransferWriteOff)} {i : ℕ} {w w' : Row TransferWriteOff}
    {P : TransferWriteOff → Prop} (hw : ws[i]? = some w)
    (h : ∀ j v, j ≠ i → ws[j]? = some v → v.val.Live → P v.val)
    (h' : w'.val.Live → P w'.val) : ∀ v ∈ ws.set i w', v.val.Live → P v.val := by
  intro v hv hlive
  obtain ⟨j, hj⟩ := List.getElem?_of_mem hv
  rw [getElem?_set_of_some hw] at hj
  split at hj
  · rw [← Option.some.inj hj] at hlive ⊢
    exact h' hlive
  · next hij => exact h j v (Ne.symm hij) hj hlive

theorem LossTables.Eligible.step (h : s.Eligible) (alone : s.OnePending)
    (spares : s.Spares denies) (hst : LossStep denies s t) : t.Eligible := by
  cases hst with
  | same => exact h
  | record recorded =>
    intro w hw hlive
    obtain ⟨d, hd, he⟩ := h w hw hlive
    refine ⟨d, ?_, he⟩
    show (s.discrepancies ++ _)[_]? = _
    rw [List.getElem?_append_left (List.getElem?_eq_some_iff.mp hd).1, hd]
  | move loaded unresolved quantity =>
    intro w hw hlive
    obtain ⟨d, hd, he⟩ := h w hw hlive
    refine ⟨d, ?_, he⟩
    show (s.discrepancies.set _ _)[_]? = _
    rw [getElem?_set_of_some loaded, if_neg fun hi => ?_, hd]
    -- the discrepancy that moves is not resolved, so nothing live is on it
    subst hi
    obtain rfl := Option.some.inj (loaded.symm.trans hd)
    exact unresolved he.1
  | request loaded resolved eligible alone left quantity pending =>
    intro w hw hlive
    rcases List.mem_append.mp hw with hw | hw
    · exact h w hw hlive
    · rw [List.mem_singleton.mp hw]
      exact ⟨_, loaded, resolved, eligible⟩
  | approve loaded undecided pending discrepancy left written decision =>
    refine live_of_mem_set (P := fun v => ∃ d, s.discrepancies[v.discrepancyId]? = some d ∧
      d.val.Eligible) loaded (fun j v _ hv hlive => h v (mem_of_row hv) hlive) fun _ => ?_
    rw [written.discrepancyId]
    exact h _ (mem_of_row loaded) (.inl pending)
  | @deny i d d' w w' a named loaded undecided pending discrepancy written decision reopened =>
    refine live_of_mem_set (P := fun v => ∃ e, (s.discrepancies.set w.val.discrepancyId
      d')[v.discrepancyId]? = some e ∧ e.val.Eligible) loaded (fun j v hj hv hlive => ?_)
      fun hlive => ?_
    · obtain ⟨e, he, helig⟩ := h v (mem_of_row hv) hlive
      refine ⟨e, ?_, helig⟩
      rw [getElem?_set_of_some discrepancy, if_neg fun hsame => ?_, he]
      -- another live write-off on the discrepancy is neither pending nor posted
      rcases hlive with hp | hp
      · exact hj (alone j i v w hv loaded hp pending hsame.symm)
      · exact spares i named w loaded pending v (mem_of_row hv) hsame.symm hp
    · rw [TransferWriteOff.Live, written.status] at hlive
      exact absurd hlive (by decide)
  | reverse loaded posted written =>
    refine live_of_mem_set (P := fun v => ∃ d, s.discrepancies[v.discrepancyId]? = some d ∧
      d.val.Eligible) loaded (fun j v _ hv hlive => h v (mem_of_row hv) hlive) fun hlive => ?_
    rw [TransferWriteOff.Live, written.status] at hlive
    exact absurd hlive (by decide)

end Steps

/-! ### Runs -/

section Runs

variable {db₀ db db' : Db}

/-- A denial on a discrepancy with a posted write-off leaves that one without a
finding. -/
theorem not_eligible_of_denied {r : TransferRequest} (hdb : LossInOrder db)
    (h : r.exec db = .ok db') (hr : ¬r.SparesPosted db) : ¬db'.losses.Eligible := by
  unfold TransferRequest.SparesPosted LossTables.Spares at hr
  push Not at hr
  obtain ⟨i, hi, w, hw, hpending, v, hv, hsame, hposted⟩ := hr
  obtain ⟨d, hrun, rfl⟩ := map_eq_ok.mp h
  cases r with
  | denyWriteOff req =>
    obtain rfl : req.writeOffId = i := Option.some.inj hi
    rcases denyWriteOff_ok hrun with ⟨-, a, ha, hfor⟩ |
      ⟨u, u', a, approvedBy, old, disc, hdecides, hu', -, hold, -, hnew, rfl⟩
    · -- a write-off with a decision is not pending
      obtain ⟨x, hx, hclosed, -⟩ := hdb.decided.closed a ha
      rw [hfor] at hx
      obtain rfl := Option.some.inj (hw.symm.trans hx)
      exact absurd hpending hclosed
    · obtain rfl : u = w := Option.some.inj (hdecides.loaded.symm.trans hw)
      intro helig
      obtain ⟨j, hj⟩ := List.getElem?_of_mem hv
      have hji : req.writeOffId ≠ j := by
        rintro rfl
        rw [Option.some.inj (hw.symm.trans hj), hposted] at hpending
        exact absurd hpending (by decide)
      have hkept : v ∈ db.losses.writeOffs.set req.writeOffId u' := by
        refine mem_of_row (i := j) ?_
        rw [getElem?_set_of_some hw, if_neg hji, hj]
      obtain ⟨e, he, hresolved, -⟩ := helig v hkept (.inr hposted)
      have he' : (db.losses.discrepancies.set u.val.discrepancyId disc)[v.val.discrepancyId]?
          = some e := he
      rw [hsame, getElem?_set_of_some hold, if_pos rfl] at he'
      rw [← Option.some.inj he', hnew] at hresolved
      cases hresolved
  | createTransfer | shipTransfer | receiveTransfer | cancelTransfer | investigateDiscrepancy
  | resolveDiscrepancy | createWriteOff | approveWriteOff | reverseWriteOff => cases hi

/-- **In a run whose denials spare posted write-offs**, every pending or posted write-off
is on a discrepancy that is resolved and not caused by the vendor; the next request keeps
it so exactly if it spares them too. -/
theorem write_offs_eligible (hopen : db₀.BeforeTransfers)
    (h : Reaches TransferRequest.exec (fun d r => r.SparesPosted d) db₀ db) :
    db.losses.Eligible ∧ ∀ (r : TransferRequest) (db' : Db), r.exec db = .ok db' →
      (db'.losses.Eligible ↔ r.SparesPosted db) := by
  have hrun : LossInOrder db ∧ db.losses.Eligible := by
    refine h.invariant (I := fun d => LossInOrder d ∧ d.losses.Eligible) ⟨hopen.lossInOrder, ?_⟩ ?_
    · simp [LossTables.Eligible, hopen.writeOffs]
    · rintro s r s' ⟨hs, helig⟩ hok hdone
      exact ⟨hs.exec hdone, helig.step hs.one_pending hok (TransferRequest.lossStep hdone)⟩
  refine ⟨hrun.2, fun r db' hr => ⟨fun helig => ?_, fun hspares => ?_⟩⟩
  · by_contra hnot
    exact not_eligible_of_denied hrun.1 hr hnot helig
  · exact hrun.2.step hrun.1.one_pending hspares (TransferRequest.lossStep hr)

end Runs

/-! ### A denial after a posting -/

def lossRequestedAgain : Db :=
  value (TransferRequest.exec (.createWriteOff (writeOffApples 2 "loss-2")) lossPosted)
    (by decide +kernel)

/-- The second part is denied: the discrepancy is under investigation again, and could be
found to be the vendor's, while the first part stays posted. -/
def lossDenied : Db :=
  value (TransferRequest.exec (.denyWriteOff (decideApples 1)) lossRequestedAgain)
    (by decide +kernel)

instance (s : LossTables) : Decidable s.Eligible :=
  decidable_of_iff (∀ w ∈ s.writeOffs, w.val.Live →
    ∃ d ∈ s.discrepancies[w.val.discrepancyId]?, d.val.Eligible) Iff.rfl

theorem reaches_lossRequestedAgain {ok : Db → TransferRequest → Prop}
    (hok : ∀ db r, (∀ req, r ≠ .denyWriteOff req) → ok db r) :
    Reaches TransferRequest.exec ok twoShops lossRequestedAgain :=
  .next (reaches_lossPosted fun db r hr _ _ => hok db r hr) (hok _ _ (by simp)) (eq_ok_value _ _)

/-- The denial of a second part leaves the posted first part without a finding. -/
theorem denied_after_posting_not_eligible :
    ¬∀ db, Reaches TransferRequest.exec (fun _ _ => True) twoShops db → db.losses.Eligible := by
  intro hall
  have hbad : ¬lossDenied.losses.Eligible := by decide +kernel
  exact hbad (hall lossDenied (.next (reaches_lossRequestedAgain fun _ _ _ => trivial) trivial
    (eq_ok_value _ _)))

/-- Up to the second request every write-off is on a resolved discrepancy. -/
theorem write_offs_eligible_apples : lossRequestedAgain.losses.Eligible :=
  (write_offs_eligible twoShops_beforeTransfers (reaches_lossRequestedAgain fun db r hr => by
    intro i hi
    cases r with
    | denyWriteOff req => exact absurd rfl (hr req)
    | createTransfer | shipTransfer | receiveTransfer | cancelTransfer | investigateDiscrepancy
    | resolveDiscrepancy | createWriteOff | approveWriteOff | reverseWriteOff => cases hi)).1

end GroceryErp
