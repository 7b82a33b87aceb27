import ChopNow.Lib.Rounding
import ChopNow.Spec.Fulfilment

/-! A vendor's cancellation of a pre-order: the penalty, and the journal that has to book it
in the transaction that cancels. -/

namespace ChopNow

/-! The penalty. -/

theorem preOrderPenaltyXAF_eq (totalXAF : ℤ) :
    preOrderPenaltyXAF totalXAF =
      Rounding.downTo PRE_ORDER_PENALTY_ROUND_TO_XAF (totalXAF * PRE_ORDER_PENALTY_RATE) := rfl

/-- It is the largest multiple of 50 within a tenth of the total. -/
theorem preOrderPenaltyXAF_isGreatest (totalXAF : ℤ) :
    IsGreatest { x : ℤ | 50 ∣ x ∧ 10 * x ≤ totalXAF } (preOrderPenaltyXAF totalXAF) := by
  have htenth : ∀ x : ℤ, (x : ℚ) ≤ totalXAF * PRE_ORDER_PENALTY_RATE ↔ 10 * x ≤ totalXAF := by
    intro x
    rw [PRE_ORDER_PENALTY_RATE, mul_one_div, le_div_iff₀ (by norm_num), mul_comm]
    norm_cast
  have hgreatest := Rounding.downTo_isGreatest (by decide : 0 < PRE_ORDER_PENALTY_ROUND_TO_XAF)
    (totalXAF * PRE_ORDER_PENALTY_RATE : ℚ)
  simp only [htenth] at hgreatest
  rw [preOrderPenaltyXAF_eq]
  exact hgreatest

theorem preOrderPenaltyXAF_eq_zero_iff (totalXAF : ℤ) :
    preOrderPenaltyXAF totalXAF = 0 ↔ 0 ≤ totalXAF ∧ totalXAF < 500 := by
  obtain ⟨⟨⟨n, hn⟩, hle⟩, hgreatest⟩ := preOrderPenaltyXAF_isGreatest totalXAF
  constructor
  · intro h
    refine ⟨by omega, not_le.1 fun hlarge => ?_⟩
    have hfifty : 50 ≤ preOrderPenaltyXAF totalXAF := hgreatest ⟨dvd_refl 50, by omega⟩
    omega
  · rintro ⟨hnonneg, hsmall⟩
    have hzero : 0 ≤ preOrderPenaltyXAF totalXAF := hgreatest ⟨dvd_zero 50, by omega⟩
    omega

/-- The journal books any penalty but none. -/
theorem penalty_sound_iff {order : Order} {penaltyXAF : ℤ} :
    validate (penaltyInput order penaltyXAF) = .ok () ↔ penaltyXAF ≠ 0 := by
  constructor
  · intro h
    obtain ⟨-, -, hsound, -⟩ := (validate_ok_iff _).1 h
    exact (hsound _ (.head _)).nonzero
  · intro h
    refine (validate_ok_iff _).2 ⟨rfl, le_rfl, ?_, by simp [penaltyInput]⟩
    simp only [penaltyInput, List.mem_cons, List.not_mem_nil, or_false, forall_eq_or_imp, forall_eq]
    exact ⟨⟨h, rfl, fun htype => by cases htype⟩, ⟨neg_ne_zero.2 h, rfl, fun htype => by cases htype⟩⟩

/-! The call. -/

/-- The order is cancelled with its refund queued, one penalty is on file and its two
entries are at the end of the journal. -/
structure CancelledByVendor (order : Order) (w w' : World) (penaltyXAF : ℤ) : Prop where
  greatest : IsGreatest { x : ℤ | 50 ∣ x ∧ 10 * x ≤ order.totalXAF } penaltyXAF
  status : w'.order.status = .cancelled
  paymentStatus : w'.order.paymentStatus = .refundPending
  penalty : w'.penalty = some ⟨order.id, order.vendorId, order.id, penaltyXAF⟩
  entries : w'.ledger = w.ledger ++ (penaltyInput order penaltyXAF).rows (.penalty order.id) w.clock

/-- Order, penalty and journal are as before. -/
structure SameBooks (w w' : World) : Prop where
  order : w'.order = w.order
  penalty : w'.penalty = w.penalty
  ledger : w'.ledger = w.ledger

theorem SameBooks.rfl {w : World} : SameBooks w w := ⟨.refl _, .refl _, .refl _⟩

variable {w w' : World} {order : Order} {vendor : VendorId} {note : Option String} {now : Time}

theorem commitPreOrderCancel_ok_iff :
    commitPreOrderCancel w order note now = .ok w' ↔
      (w.order.status = .accepted ∨ w.order.status = .inPrep) ∧ w.penalty = none ∧
        preOrderPenaltyXAF order.totalXAF ≠ 0 ∧
        w' = { w with
          order := w.order.cancelPreOrder note now
          penalty := some ⟨order.id, order.vendorId, order.id, preOrderPenaltyXAF order.totalXAF⟩
          ledger := w.ledger ++
            (penaltyInput order (preOrderPenaltyXAF order.totalXAF)).rows (.penalty order.id) w.clock } := by
  unfold commitPreOrderCancel
  by_cases hstatus : w.order.status = .accepted ∨ w.order.status = .inPrep
  · rw [if_neg (by tauto)]
    cases hpenalty : w.penalty with
    | some penalty => simp
    | none =>
      simp only [Option.isSome_none, Bool.false_eq_true, if_false, World.bookOrThrow_ok_iff, World.book_ok_iff,
        penalty_sound_iff, true_and, hstatus]
      constructor
      · rintro ⟨hne, id, hid, rfl⟩
        obtain rfl := Option.some.inj hid
        exact ⟨hne, rfl⟩
      · rintro ⟨hne, rfl⟩
        exact ⟨hne, _, rfl, rfl⟩
  · rw [if_pos (by tauto)]
    simp [hstatus]

/-- Every step of the call either cancels or leaves order, penalty and journal. -/
theorem cancel_step_all_or_nothing {t t' : VendorCancelPreOrder} {e : Reply} (h : t.step w e = some (w', t')) :
    t' = .done (.ok ()) ∨ SameBooks w w' := by
  cases t with
  | called vendor note =>
    cases e <;> simp only [VendorCancelPreOrder.step, Option.some.injEq, Prod.mk.injEq, reduceCtorEq] at h
    · split at h
      · obtain ⟨rfl, rfl⟩ := Prod.mk.inj (Option.some.inj h)
        exact .inr .rfl
      · obtain ⟨rfl, rfl⟩ := Prod.mk.inj (Option.some.inj h)
        exact .inr .rfl
    · obtain ⟨rfl, rfl⟩ := h
      exact .inr .rfl
  | checked order note now =>
    cases e <;> simp only [VendorCancelPreOrder.step, Option.some.injEq, Prod.mk.injEq, reduceCtorEq] at h
    · split at h
      · obtain ⟨rfl, rfl⟩ := Prod.mk.inj (Option.some.inj h)
        exact .inr .rfl
      · obtain ⟨rfl, rfl⟩ := Prod.mk.inj (Option.some.inj h)
        exact .inl rfl
    · obtain ⟨rfl, rfl⟩ := h
      exact .inr .rfl
  | done result => cases e <;> simp [VendorCancelPreOrder.step] at h

theorem cancel_commit_iff (hstatus : w.order.status = .accepted ∨ w.order.status = .inPrep) :
    (∃ w', VendorCancelPreOrder.step w (.checked order note now) .ok = some (w', .done (.ok ())) ∧
      CancelledByVendor order w w' (preOrderPenaltyXAF order.totalXAF)) ↔
      w.penalty = none ∧ ¬(0 ≤ order.totalXAF ∧ order.totalXAF < 500) := by
  rw [← preOrderPenaltyXAF_eq_zero_iff]
  constructor
  · rintro ⟨w', hstep, -⟩
    simp only [VendorCancelPreOrder.step] at hstep
    split at hstep
    · cases hstep
    · next w₁ hcommit =>
      obtain ⟨-, hnone, hne, -⟩ := commitPreOrderCancel_ok_iff.1 hcommit
      exact ⟨hnone, hne⟩
  · rintro ⟨hnone, hne⟩
    have hcommit : commitPreOrderCancel w order note now = .ok _ :=
      commitPreOrderCancel_ok_iff.2 ⟨hstatus, hnone, hne, rfl⟩
    simp only [VendorCancelPreOrder.step, hcommit]
    exact ⟨_, rfl, preOrderPenaltyXAF_isGreatest _, rfl, rfl, rfl, rfl⟩

/-- A pre-order that its vendor may cancel passes the checks; the transaction then cancels it,
unless its total is below 500 or it has a penalty already; and otherwise no step of any
such call touches order, penalty or journal. -/
theorem pre_order_cancel_iff (read : World) (vendor : VendorId) (note : Option String)
    (hvendor : read.order.vendorId = vendor)
    (hscheduled : read.order.scheduledFor.isSome)
    (hstatus : read.order.status = .accepted ∨ read.order.status = .inPrep) :
    VendorCancelPreOrder.step read (.called vendor note) .ok =
      some (read, .checked read.order note read.clock) ∧
    (∀ w : World, w.order.status = .accepted ∨ w.order.status = .inPrep →
      ((∃ w', VendorCancelPreOrder.step w (.checked read.order note read.clock) .ok = some (w', .done (.ok ())) ∧
        CancelledByVendor read.order w w' (preOrderPenaltyXAF read.order.totalXAF)) ↔
        w.penalty = none ∧ ¬(0 ≤ read.order.totalXAF ∧ read.order.totalXAF < 500))) ∧
    ∀ (w w' : World) (t t' : VendorCancelPreOrder) (e : Reply), t.step w e = some (w', t') →
      t' = .done (.ok ()) ∨ SameBooks w w' := by
  refine ⟨?_, fun w hw => cancel_commit_iff hw, fun w w' t t' e h => cancel_step_all_or_nothing h⟩
  have hcheck : checkPreOrderCancel read.order vendor = .ok () := by
    unfold checkPreOrderCancel
    rw [if_neg (by simp [hvendor]), if_neg (by simp [Option.isSome_iff_ne_none.1 hscheduled]), if_neg (by tauto)]
  simp only [VendorCancelPreOrder.step, hcheck]

/-- A pre-order in the kitchen that a coupon has brought down to 300. -/
def cheapPreOrder : Order :=
  { exampleOrder with
    status := .accepted
    paymentStatus := .paid
    scheduledFor := some 86400000
    discountXAF := 2700
    totalXAF := 300 }

/-- Its penalty is nothing, and the cancellation fails with it. -/
theorem cheap_pre_order_uncancellable :
    ¬ ∀ (w : World) (note : Option String), w.order.scheduledFor.isSome → w.order.status = .accepted →
      w.order.paymentStatus = .paid → 0 < w.order.totalXAF → w.penalty = none →
      ∃ w', VendorCancelPreOrder.step w (.checked w.order note w.clock) .ok = some (w', .done (.ok ())) ∧
        CancelledByVendor w.order w w' (preOrderPenaltyXAF w.order.totalXAF) := by
  intro h
  obtain ⟨w', hstep, -⟩ := h (.start cheapPreOrder) none rfl rfl rfl (by decide) rfl
  simp only [VendorCancelPreOrder.step] at hstep
  split at hstep
  · cases hstep
  · next w₁ hcommit =>
    obtain ⟨-, -, hne, -⟩ := commitPreOrderCancel_ok_iff.1 hcommit
    exact hne ((preOrderPenaltyXAF_eq_zero_iff _).2 (by decide))

/-- At 3000 the vendor pays 300. -/
theorem full_pre_order_cancelled :
    ∃ w', VendorCancelPreOrder.step (.start { cheapPreOrder with totalXAF := 3000 })
        (.checked { cheapPreOrder with totalXAF := 3000 } none 0) .ok = some (w', .done (.ok ())) ∧
      CancelledByVendor { cheapPreOrder with totalXAF := 3000 } (.start { cheapPreOrder with totalXAF := 3000 }) w'
        300 := by
  obtain ⟨-, hcommits, -⟩ := pre_order_cancel_iff (.start { cheapPreOrder with totalXAF := 3000 }) 1 none rfl rfl
    (.inl rfl)
  have hcancelled := (hcommits (.start { cheapPreOrder with totalXAF := 3000 }) (.inl rfl)).2 ⟨rfl, by decide⟩
  have hpenalty : preOrderPenaltyXAF 3000 = 300 := by decide +kernel
  rwa [show preOrderPenaltyXAF (World.start { cheapPreOrder with totalXAF := 3000 }).order.totalXAF = 300 from
    hpenalty] at hcancelled

end ChopNow
