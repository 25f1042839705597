import Mayatoko.Accounting.Posting
import Mayatoko.Core.Checked

/-!
# Amounts of partial returns

A return takes its share of the net, tax and gross amount of the sold line. A share of what is not
the whole rest is rounded to cents by itself, the last share is what is left. Net and tax then add
up to gross exactly if for every share but the last the two are rounded together with their sum.
-/

namespace Mayatoko.Returns

open Core Accounting

structure HistoricalReturnState where
  quantity : ℤ
  (net tax gross : ℚ)
  deriving DecidableEq

def zeroHistoricalReturnState : HistoricalReturnState := ⟨0, 0, 0, 0⟩

def allocateHistoricalRemainder (original alreadyAllocated : ℚ)
    (requestedQuantity originalQuantity alreadyReturnedQuantity : ℤ) : Except Failure ℚ :=
  let remainingQuantity := originalQuantity - alreadyReturnedQuantity
  if remainingQuantity < requestedQuantity ∨ requestedQuantity < 1 ∨ originalQuantity < 1 then
    throw (.badRequest "Kuantitas retur historis tidak konsisten dengan transaksi asal.")
  else if requestedQuantity = remainingQuantity then
    let remainder := toDecimalPlaces (original - alreadyAllocated) 2
    if remainder < 0 then throw (.badRequest "Nilai retur historis melebihi transaksi asal.")
    else pure remainder
  else pure (toDecimalPlaces (original * requestedQuantity / originalQuantity) 2)

structure SoldAmounts where
  quantity : ℤ
  (netSubtotal taxAmount grossSubtotal : ℚ)

structure SoldLine extends SoldAmounts where
  net_cents : IsCents netSubtotal
  tax_cents : IsCents taxAmount
  total : netSubtotal + taxAmount = grossSubtotal

structure ReturnAmounts where
  (netAmount taxAmount grossAmount : ℚ)
  deriving DecidableEq

def allocateReturn (original : SoldAmounts) (allocation : HistoricalReturnState) (quantity : ℤ) :
    Except Failure (ReturnAmounts × HistoricalReturnState) := do
  let netAmount ← allocateHistoricalRemainder original.netSubtotal allocation.net quantity
    original.quantity allocation.quantity
  let taxAmount ← allocateHistoricalRemainder original.taxAmount allocation.tax quantity
    original.quantity allocation.quantity
  let grossAmount ← allocateHistoricalRemainder original.grossSubtotal allocation.gross quantity
    original.quantity allocation.quantity
  pure (⟨netAmount, taxAmount, grossAmount⟩,
    { quantity := allocation.quantity + quantity, net := allocation.net + netAmount,
      tax := allocation.tax + taxAmount, gross := allocation.gross + grossAmount })

/-! ### Posting -/

def saleReturnRule : PostingRule where
  code := "SALE-RETURN"
  lines :=
    [{ accountCodeKey := "returns", side := .debit, amountKey := "net" },
      { accountCodeKey := "outputTax", side := .debit, amountKey := "outputTax" },
      { accountCodeKey := "settlement", side := .credit, amountKey := "gross" },
      { accountCodeKey := "inventory", side := .debit, amountKey := "inventory" },
      { accountCodeKey := "cogs", side := .credit, amountKey := "cogs" }]

def saleReturnAmounts (a : ReturnAmounts) (cogs : ℚ) : PostingAmounts
  | "net" => a.netAmount
  | "outputTax" => a.taxAmount
  | "gross" => a.grossAmount
  | "cogs" => cogs
  | "inventory" => cogs
  | _ => 0

def orderReturnRule : PostingRule where
  code := "ORDER-RETURN"
  lines :=
    [{ accountCodeKey := "returns", side := .debit, amountKey := "net" },
      { accountCodeKey := "outputTax", side := .debit, amountKey := "outputTax" },
      { accountCodeKey := "settlement", side := .credit, amountKey := "settlement" },
      { accountCodeKey := "receivable", side := .credit, amountKey := "receivable" },
      { accountCodeKey := "inventory", side := .debit, amountKey := "inventory" },
      { accountCodeKey := "cogs", side := .credit, amountKey := "cogs" }]

/-- The amounts that the confirmation of an order return posts: the refund is settled or reduces the
receivable of the order. -/
def orderReturnAmounts (a : ReturnAmounts) (reduceReceivable : Bool) (cogs : ℚ) : PostingAmounts
  | "net" => a.netAmount
  | "outputTax" => a.taxAmount
  | "gross" => a.grossAmount
  | "settlement" => if reduceReceivable then 0 else a.grossAmount
  | "receivable" => if reduceReceivable then a.grossAmount else 0
  | "inventory" => cogs
  | "cogs" => cogs
  | _ => 0

def purchaseReturnRule : PostingRule where
  code := "PURCHASE-RETURN"
  lines :=
    [{ accountCodeKey := "payable", side := .debit, amountKey := "payableOffset" },
      { accountCodeKey := "supplierReceivable", side := .debit, amountKey := "supplierReceivable" },
      { accountCodeKey := "inventory", side := .credit, amountKey := "net" },
      { accountCodeKey := "inputTax", side := .credit, amountKey := "inputTax" }]

/-- The amounts that the confirmation of a supplier return posts: what exceeds the open payable is
to be refunded by the supplier. -/
def purchaseReturnAmounts (a : ReturnAmounts) (openPayable : ℚ) : PostingAmounts
  | "net" => a.netAmount
  | "inputTax" => a.taxAmount
  | "gross" => a.grossAmount
  | "payableOffset" => min a.grossAmount openPayable
  | "supplierReceivable" => a.grossAmount - min a.grossAmount openPayable
  | _ => 0

def ReturnAmounts.Additive (a : ReturnAmounts) : Prop := a.netAmount + a.taxAmount = a.grossAmount

variable {a : ReturnAmounts}

lemma saleReturn_balances_iff (cogs : ℚ) : saleReturnRule.Balances (saleReturnAmounts a cogs) ↔ a.Additive := by
  simp [PostingRule.Balances, sideTotal, saleReturnRule, saleReturnAmounts, ReturnAmounts.Additive, ← add_assoc]

lemma orderReturn_balances_iff (reduceReceivable : Bool) (cogs : ℚ) :
    orderReturnRule.Balances (orderReturnAmounts a reduceReceivable cogs) ↔ a.Additive := by
  cases reduceReceivable <;>
    simp [PostingRule.Balances, sideTotal, orderReturnRule, orderReturnAmounts,
      ReturnAmounts.Additive, ← add_assoc]

lemma purchaseReturn_balances_iff (openPayable : ℚ) :
    purchaseReturnRule.Balances (purchaseReturnAmounts a openPayable) ↔ a.Additive := by
  simp [PostingRule.Balances, sideTotal, purchaseReturnRule, purchaseReturnAmounts,
    ReturnAmounts.Additive, eq_comm]

structure ReturnAmounts.Postable (a : ReturnAmounts) : Prop where
  additive : a.Additive
  sale : ∀ cogs, saleReturnRule.Balances (saleReturnAmounts a cogs)
  order : ∀ r cogs, orderReturnRule.Balances (orderReturnAmounts a r cogs)
  purchase : ∀ openPayable, purchaseReturnRule.Balances (purchaseReturnAmounts a openPayable)

lemma ReturnAmounts.postable_iff : a.Postable ↔ a.Additive := by
  constructor
  · exact fun h => h.additive
  · intro h
    exact ⟨h, fun cogs => (saleReturn_balances_iff cogs).mpr h,
      fun r cogs => (orderReturn_balances_iff r cogs).mpr h,
      fun openPayable => (purchaseReturn_balances_iff openPayable).mpr h⟩

/-! ### One return -/

variable {line : SoldLine} {st st' : HistoricalReturnState} {r : ℤ × ReturnAmounts}

def ReturnStep (line : SoldLine) (st : HistoricalReturnState) (r : ℤ × ReturnAmounts)
    (st' : HistoricalReturnState) : Prop := allocateReturn line.toSoldAmounts st r.1 = .ok (r.2, st')

def cents (x : ℚ) : ℤ := ⌊x * 100⌋

lemma IsCents.eq_cents {x : ℚ} (h : IsCents x) : x = cents x / 100 := by
  obtain ⟨k, rfl⟩ := h
  have hk : (k : ℚ) / 100 * 100 = k := by ring
  rw [cents, hk, Int.floor_intCast]

def share (original alreadyAllocated : ℚ) (requestedQuantity originalQuantity
    alreadyReturnedQuantity : ℤ) : ℚ :=
  if requestedQuantity = originalQuantity - alreadyReturnedQuantity then
    toDecimalPlaces (original - alreadyAllocated) 2
  else toDecimalPlaces (original * requestedQuantity / originalQuantity) 2

variable {original already : ℚ} {used : ℤ}

lemma allocateHistoricalRemainder_ok {amount : ℚ} {q n : ℤ}
    (h : allocateHistoricalRemainder original already q n used = .ok amount) :
    1 ≤ q ∧ 1 ≤ n ∧ amount = share original already q n used := by
  simp only [allocateHistoricalRemainder, ite_eq_ok, throw_ne_ok, pure_eq_ok, and_false, false_or] at h
  obtain ⟨hq, ⟨heq, _, rfl⟩ | ⟨hne, rfl⟩⟩ := h
  · exact ⟨by omega, by omega, (if_pos heq).symm⟩
  · exact ⟨by omega, by omega, (if_neg hne).symm⟩

lemma ReturnStep.spec (h : ReturnStep line st r st') : 1 ≤ r.1 ∧ 1 ≤ line.quantity ∧
      r.2 = ⟨share line.netSubtotal st.net r.1 line.quantity st.quantity,
        share line.taxAmount st.tax r.1 line.quantity st.quantity,
        share line.grossSubtotal st.gross r.1 line.quantity st.quantity⟩ ∧
      st' = ⟨st.quantity + r.1, st.net + r.2.netAmount, st.tax + r.2.taxAmount,
        st.gross + r.2.grossAmount⟩ := by
  obtain ⟨q, a⟩ := r
  simp only [ReturnStep, allocateReturn, bind_eq_ok, pure_eq_ok, Prod.mk.injEq] at h
  obtain ⟨net, hnet, tax, htax, gross, hgross, rfl, rfl⟩ := h
  obtain ⟨hq, hn, rfl⟩ := allocateHistoricalRemainder_ok hnet
  obtain ⟨_, _, rfl⟩ := allocateHistoricalRemainder_ok htax
  obtain ⟨_, _, rfl⟩ := allocateHistoricalRemainder_ok hgross
  exact ⟨hq, hn, rfl, rfl⟩

lemma isCents_share (original already : ℚ) (q n used : ℤ) : IsCents (share original already q n used) := by
  unfold share
  split <;> exact isCents_toDecimalPlaces _

structure HistoricalReturnState.Additive (st : HistoricalReturnState) : Prop where
  net_cents : IsCents st.net
  tax_cents : IsCents st.tax
  total : st.net + st.tax = st.gross

def RoundsWell (line : SoldLine) (st : HistoricalReturnState) (r : ℤ × ReturnAmounts) : Prop :=
  r.1 = line.quantity - st.quantity ∨
    RoundTogether line.quantity (cents line.netSubtotal * r.1) (cents line.taxAmount * r.1)

lemma share_part {k q n : ℤ} (horiginal : original = k / 100) (hn : 1 ≤ n) (hq : q ≠ n - used) :
    share original already q n used = (roundDiv n (k * q) : ℚ) / 100 := by
  have hx : original * q / n * 10 ^ 2 = (k * q : ℤ) / n := by
    rw [horiginal]
    push_cast
    ring
  rw [share, if_neg hq, toDecimalPlaces, hx, roundHalfUp_div hn]
  norm_num

lemma share_rest {q n : ℤ} (horiginal : IsCents original) (halready : IsCents already) (hq : q = n - used) :
    share original already q n used = original - already := by
  rw [share, if_pos hq, (horiginal.sub halready).toDecimalPlaces]

lemma ReturnStep.additive_iff (hst : st.Additive) (h : ReturnStep line st r st') :
    r.2.Additive ↔ RoundsWell line st r := by
  obtain ⟨_, hn, hamounts, _⟩ := h.spec
  obtain ⟨hnet, htax, htotal⟩ := hst
  rw [hamounts, ReturnAmounts.Additive, RoundsWell]
  by_cases hrest : r.1 = line.quantity - st.quantity
  · have hgross : IsCents line.grossSubtotal := line.total ▸ line.net_cents.add line.tax_cents
    have hgross' : IsCents st.gross := htotal ▸ hnet.add htax
    dsimp only
    rw [share_rest line.net_cents hnet hrest, share_rest line.tax_cents htax hrest,
      share_rest hgross hgross' hrest, ← line.total, ← htotal]
    exact iff_of_true (by ring) (Or.inl hrest)
  · have hnet' := IsCents.eq_cents line.net_cents
    have htax' := IsCents.eq_cents line.tax_cents
    have hgross : line.grossSubtotal = ((cents line.netSubtotal + cents line.taxAmount : ℤ) : ℚ) / 100 := by
      push_cast
      linarith [line.total]
    dsimp only
    rw [share_part hnet' hn hrest, share_part htax' hn hrest, share_part hgross hn hrest,
      or_iff_right hrest, ← roundDiv_add_iff hn, ← add_div, div_left_inj' (by norm_num), add_mul]
    exact_mod_cast Iff.rfl

lemma cents_nonneg {x : ℚ} (h : 0 ≤ x) : 0 ≤ cents x :=
  Int.floor_nonneg.mpr (mul_nonneg h (by norm_num))

lemma ReturnStep.additive (hst : st.Additive) (h : ReturnStep line st r st')
    (ha : r.2.Additive) : st'.Additive := by
  obtain ⟨_, _, hamounts, rfl⟩ := h.spec
  refine ⟨hst.net_cents.add ?_, hst.tax_cents.add ?_, ?_⟩
  · rw [hamounts]
    exact isCents_share _ _ _ _ _
  · rw [hamounts]
    exact isCents_share _ _ _ _ _
  · dsimp only
    rw [← hst.total, ← ha]
    ring

/-! ### Sequences of returns -/

lemma additive_iff_of_run {returns : List (ℤ × ReturnAmounts)} (hst : st.Additive)
    (h : Run (ReturnStep line) st returns st') :
    (∀ r ∈ returns, r.2.Additive) ↔ Run (Guarded (RoundsWell line) (ReturnStep line)) st returns st' := by
  induction h with
  | nil s => simp [Run.nil_iff]
  | @cons s t u r returns hstep hrun ih =>
    rw [forall_mem_cons, Run.cons_iff]
    constructor
    · rintro ⟨hr, hreturns⟩
      exact ⟨t, ⟨(hstep.additive_iff hst).mp hr, hstep⟩, (ih (hstep.additive hst hr)).mp hreturns⟩
    · rintro ⟨t', ⟨hw, hstep'⟩, hrun'⟩
      have hr := (hstep.additive_iff hst).mpr hw
      obtain rfl : t = t' := (Prod.mk.inj (Except.ok.inj (hstep.symm.trans hstep'))).2
      exact ⟨hr, (ih (hstep.additive hst hr)).mpr hrun'⟩

/-- The returns of a sold line can all be posted exactly if each of them takes the whole rest or is
rounded well. -/
theorem returnsPostable_iff {returns : List (ℤ × ReturnAmounts)}
    (h : Run (ReturnStep line) zeroHistoricalReturnState returns st) :
    (∀ r ∈ returns, r.2.Postable) ↔
      Run (Guarded (RoundsWell line) (ReturnStep line)) zeroHistoricalReturnState returns st := by
  have hzero : zeroHistoricalReturnState.Additive :=
    ⟨isCents_zero, isCents_zero, by norm_num [zeroHistoricalReturnState]⟩
  simp only [ReturnAmounts.postable_iff]
  exact additive_iff_of_run hzero h

def twoForCents : SoldLine where
  quantity := 2
  netSubtotal := 101 / 100
  taxAmount := 1 / 100
  grossSubtotal := 102 / 100
  net_cents := ⟨101, rfl⟩
  tax_cents := ⟨1, rfl⟩
  total := by norm_num

def oneForCents : ReturnAmounts := ⟨51 / 100, 1 / 100, 51 / 100⟩

theorem oneForCents_notAdditive :
    (∃ st, Run (ReturnStep twoForCents) zeroHistoricalReturnState [(1, oneForCents)] st) ∧
      ¬ oneForCents.Additive ∧
      saleReturnRule.journal (saleReturnAmounts oneForCents 0) =
        .error (.badRequest "Jurnal SALE-RETURN tidak seimbang. Debit 0.52, kredit 0.51.") := by
  have hstep : ReturnStep twoForCents zeroHistoricalReturnState (1, oneForCents)
      ⟨1, 51 / 100, 1 / 100, 51 / 100⟩ := by
    unfold ReturnStep
    decide +kernel
  refine ⟨⟨_, Run.cons hstep (Run.nil _)⟩, ?_, by decide +kernel⟩
  unfold ReturnAmounts.Additive oneForCents
  norm_num

def threeUnits : SoldLine where
  quantity := 3
  netSubtotal := 10
  taxAmount := 11 / 10
  grossSubtotal := 111 / 10
  net_cents := ⟨1000, by norm_num⟩
  tax_cents := ⟨110, by norm_num⟩
  total := by norm_num

def threeUnitsReturns : List (ℤ × ReturnAmounts) :=
  [(1, ⟨333 / 100, 37 / 100, 37 / 10⟩), (2, ⟨667 / 100, 73 / 100, 74 / 10⟩)]

theorem returnsPostable_threeUnits : threeUnitsReturns.length = 2 ∧ ∀ r ∈ threeUnitsReturns, r.2.Postable := by
  have hone : ReturnStep threeUnits zeroHistoricalReturnState
      (1, ⟨333 / 100, 37 / 100, 37 / 10⟩) ⟨1, 333 / 100, 37 / 100, 37 / 10⟩ := by
    unfold ReturnStep
    decide +kernel
  have htwo : ReturnStep threeUnits ⟨1, 333 / 100, 37 / 100, 37 / 10⟩
      (2, ⟨667 / 100, 73 / 100, 74 / 10⟩) ⟨3, 10, 11 / 10, 111 / 10⟩ := by
    unfold ReturnStep
    decide +kernel
  have hwell : RoundsWell threeUnits zeroHistoricalReturnState
      (1, ⟨333 / 100, 37 / 100, 37 / 10⟩) := Or.inr (by decide +kernel)
  have hrest : RoundsWell threeUnits ⟨1, 333 / 100, 37 / 100, 37 / 10⟩
      (2, ⟨667 / 100, 73 / 100, 74 / 10⟩) := Or.inl rfl
  refine ⟨rfl, ?_⟩
  exact (returnsPostable_iff (Run.cons hone (Run.cons htwo (Run.nil _)))).mpr
    (Run.cons ⟨hwell, hone⟩ (Run.cons ⟨hrest, htwo⟩ (Run.nil _)))

end Mayatoko.Returns
