import ChopNow.Proofs.Delivery

/-! How an order's money is split: the delivery fee is rounded once, the commission and the
rider's share once each, and the platform takes what they leave. -/

namespace ChopNow

variable {distanceKm distanceKm' : ℚ} {o : Order}

/-! The delivery fee. -/

/-- `clamped`. -/
def clampedPriceXAF (distanceKm : ℚ) : ℚ :=
  min DELIVERY_FEE_CAP_XAF (max DELIVERY_FEE_FLOOR_XAF (DELIVERY_BASE_FEE_XAF + distanceKm * DELIVERY_PER_KM_XAF))

theorem computeDeliveryFeeXAF_eq (distanceKm : ℚ) :
    computeDeliveryFeeXAF distanceKm = Rounding.upTo ROUND_TO_XAF (clampedPriceXAF distanceKm) := rfl

theorem clampedPriceXAF_mono (h : distanceKm ≤ distanceKm') :
    clampedPriceXAF distanceKm ≤ clampedPriceXAF distanceKm' := by
  have hraw : DELIVERY_BASE_FEE_XAF + distanceKm * DELIVERY_PER_KM_XAF ≤
      DELIVERY_BASE_FEE_XAF + distanceKm' * DELIVERY_PER_KM_XAF := by
    simp only [DELIVERY_PER_KM_XAF]
    linarith
  exact min_le_min le_rfl (max_le_max le_rfl hraw)

/-- What a fee is: the next multiple of 50 above the clamped price, between the floor and the cap. -/
structure DeliveryFee (distanceKm : ℚ) (feeXAF : ℤ) : Prop where
  least : IsLeast { n : ℤ | 50 ∣ n ∧ clampedPriceXAF distanceKm ≤ n } feeXAF
  floor : 500 ≤ feeXAF
  cap : feeXAF ≤ 1500

theorem computeDeliveryFeeXAF_fee (distanceKm : ℚ) : DeliveryFee distanceKm (computeDeliveryFeeXAF distanceKm) where
  least := Rounding.upTo_isLeast (by decide) _
  floor := computeDeliveryFeeXAF_min distanceKm
  cap := by
    rw [computeDeliveryFeeXAF_eq]
    refine Rounding.upTo_le (by decide) (by decide) ?_
    exact (min_le_left _ _).trans (by norm_num [DELIVERY_FEE_CAP_XAF])

theorem computeDeliveryFeeXAF_mono (h : distanceKm ≤ distanceKm') :
    computeDeliveryFeeXAF distanceKm ≤ computeDeliveryFeeXAF distanceKm' :=
  Rounding.upTo_mono (by decide) (clampedPriceXAF_mono h)

/-! The three shares. -/

/-- `vendorPayableXAF`. -/
def Order.vendorShareXAF (o : Order) (s : Snapshot) : ℤ := o.subtotalXAF - s.commissionXAF

structure ExactSplit (o : Order) (s : Snapshot) : Prop where
  whole : o.vendorShareXAF s + s.riderShareXAF + s.platformFeeXAF = o.subtotalXAF + o.deliveryFeeXAF
  vendor_pos : 0 < o.vendorShareXAF s
  rider_pos : 0 < s.riderShareXAF
  platform_pos : 0 < s.platformFeeXAF
  commission_near : |(s.commissionXAF - o.subtotalXAF * o.commissionRate : ℚ)| ≤ 1 / 2
  vendor_near : |(o.vendorShareXAF s - o.subtotalXAF * (1 - o.commissionRate) : ℚ)| ≤ 1 / 2
  rider_near : |(s.riderShareXAF - o.deliveryFeeXAF * RIDER_DELIVERY_SHARE : ℚ)| ≤ 1 / 2

theorem commission_near (o : Order) : |(o.paidCommissionXAF - o.subtotalXAF * o.commissionRate : ℚ)| ≤ 1 / 2 :=
  Rounding.abs_halfUp_sub_le _

/-- The commission leaves the vendor something. -/
theorem paidCommissionXAF_lt (hsubtotal : 100 ≤ o.subtotalXAF) (hrate : o.commissionRate ≤ 17 / 100) :
    o.paidCommissionXAF < o.subtotalXAF := by
  have hsubtotal' : (100 : ℚ) ≤ o.subtotalXAF := by exact_mod_cast hsubtotal
  have hnear := (abs_le.1 (commission_near o)).2
  have hlt : (o.paidCommissionXAF : ℚ) < o.subtotalXAF := by nlinarith
  exact_mod_cast hlt

/-- The platform keeps something of the delivery, and the commission on top. -/
theorem paidPlatformFeeXAF_pos (hsubtotal : 100 ≤ o.subtotalXAF) (hfee : 500 ≤ o.deliveryFeeXAF)
    (hrate : 6 / 100 ≤ o.commissionRate) : 0 < o.paidPlatformFeeXAF := by
  have hsubtotal' : (100 : ℚ) ≤ o.subtotalXAF := by exact_mod_cast hsubtotal
  have hfee' : (500 : ℚ) ≤ o.deliveryFeeXAF := by exact_mod_cast hfee
  have hnear := (abs_le.1 (commission_near o)).1
  have hrider : (o.paidRiderShareXAF : ℚ) ≤ o.deliveryFeeXAF * RIDER_DELIVERY_SHARE + 1 / 2 := Rounding.halfUp_le _
  simp only [RIDER_DELIVERY_SHARE] at hrider
  have hpos : (0 : ℚ) < o.paidPlatformFeeXAF := by
    simp only [Order.paidPlatformFeeXAF]
    push_cast
    nlinarith
  exact_mod_cast hpos

theorem paidSnapshot_split (hsubtotal : 100 ≤ o.subtotalXAF) (hfee : 500 ≤ o.deliveryFeeXAF)
    (hrate : 6 / 100 ≤ o.commissionRate) (hrate' : o.commissionRate ≤ 17 / 100) : ExactSplit o o.paidSnapshot where
  whole := by
    simp only [Order.vendorShareXAF, Order.paidSnapshot, Order.paidPlatformFeeXAF]
    ring
  vendor_pos := sub_pos.2 (paidCommissionXAF_lt hsubtotal hrate')
  rider_pos := paidRiderShareXAF_pos hfee
  platform_pos := paidPlatformFeeXAF_pos hsubtotal hfee hrate
  commission_near := commission_near o
  vendor_near := by
    have heq : (o.vendorShareXAF o.paidSnapshot - o.subtotalXAF * (1 - o.commissionRate) : ℚ) =
        -(o.paidCommissionXAF - o.subtotalXAF * o.commissionRate) := by
      simp only [Order.vendorShareXAF, Order.paidSnapshot]
      push_cast
      ring
    rw [heq, abs_neg]
    exact commission_near o
  rider_near := Rounding.abs_halfUp_sub_le _

/-- No franc is lost: the fee of every distance is what it should be, a longer way costs no
less, and the payment of an order at that fee splits its price to the franc. -/
theorem no_franc_lost :
    (∀ distanceKm, 0 ≤ distanceKm → DeliveryFee distanceKm (computeDeliveryFeeXAF distanceKm)) ∧
    (∀ distanceKm distanceKm', 0 ≤ distanceKm → distanceKm ≤ distanceKm' →
      computeDeliveryFeeXAF distanceKm ≤ computeDeliveryFeeXAF distanceKm') ∧
    ∀ (o row : Order) (distanceKm : ℚ) (payload : PaymentSucceeded) (now : Time), 0 ≤ distanceKm →
      100 ≤ o.subtotalXAF → o.deliveryFeeXAF = computeDeliveryFeeXAF distanceKm →
      6 / 100 ≤ o.commissionRate → o.commissionRate ≤ 17 / 100 →
      ∃ s, (row.paymentPatch o payload now).snapshot = some s ∧ ExactSplit o s := by
  refine ⟨fun distanceKm _ => computeDeliveryFeeXAF_fee distanceKm, fun _ _ _ h => computeDeliveryFeeXAF_mono h, ?_⟩
  intro o row distanceKm payload now _ hsubtotal hfee hrate hrate'
  refine ⟨o.paidSnapshot, rfl, paidSnapshot_split hsubtotal ?_ hrate hrate'⟩
  rw [hfee]
  exact computeDeliveryFeeXAF_min distanceKm

/-- 2000 of food over 7.5 km. -/
theorem example_order_split : ∃ s, (exampleOrder.paymentPatch exampleOrder ⟨900, none⟩ 0).snapshot = some s ∧
    ExactSplit exampleOrder s :=
  no_franc_lost.2.2 exampleOrder exampleOrder (15 / 2) ⟨900, none⟩ 0 (by norm_num) (by decide) (by decide +kernel)
    (by norm_num [exampleOrder]) (by norm_num [exampleOrder])

end ChopNow
