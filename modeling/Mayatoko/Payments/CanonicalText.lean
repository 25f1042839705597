import Mayatoko.Payments.ProviderCallback

/-!
# The text that a payment provider signs

The signature of a callback and the hash of its request are taken of one text: the fields of the callback, one
to a line. A field may contain line ends, and so the text does not tell which callback it is the text of, unless
it is known how many of them stand in which field.
-/

namespace Mayatoko.Payments

open Core Orders Finance

structure RawCallbackDto where
  eventId : String
  orderNumber : Option String := none
  paymentNumber : Option String := none
  externalRef : String
  status : CallbackStatus
  amount : String
  currency : Option String := none
  eventType : Option String := none

def matchesAmount (amount : String) : Bool :=
  let whole := amount.toList.takeWhile (· ≠ '.')
  let rest := amount.toList.dropWhile (· ≠ '.')
  1 ≤ whole.length && whole.length ≤ 15 && whole.all Char.isDigit &&
    (rest = [] || 1 ≤ rest.tail.length && rest.tail.length ≤ 2 && rest.tail.all Char.isDigit)

def RawCallbackDto.accepted (dto : RawCallbackDto) : Bool :=
  dto.eventId.length ≤ 160 && dto.orderNumber.all (·.length ≤ 100) && dto.paymentNumber.all (·.length ≤ 100) &&
    dto.externalRef.length ≤ 180 && matchesAmount dto.amount && dto.currency.all (·.length ≤ 40) &&
    dto.eventType.all (·.length ≤ 80)

def decimalOf (text : String) : ℚ :=
  let whole := text.toList.takeWhile (· ≠ '.')
  let decimals := (text.toList.dropWhile (· ≠ '.')).tail
  (Nat.ofDigitChars 10 (whole ++ decimals) 0 : ℚ) / 10 ^ decimals.length

/-- The fields as `canonical` normalises them. `toUpperCase` is that of the language. -/
def RawCallbackDto.fields (toUpperCase : String → String) (dto : RawCallbackDto) : Canonical where
  eventId := trim dto.eventId
  paymentNumber := (dto.paymentNumber.map trim).getD ""
  orderNumber := (dto.orderNumber.map trim).getD ""
  externalRef := trim dto.externalRef
  status := dto.status
  amount := toDecimalPlaces (decimalOf dto.amount) 2
  currency := toUpperCase (trim (dto.currency.getD "IDR"))
  eventType := (dto.eventType.map trim).getD ""

def Canonical.lines (c : Canonical) : List String :=
  ["toko360-payment-callback-v1", c.eventId, c.paymentNumber, c.orderNumber, c.externalRef,
    PaymentStatus.text c.status.payment, toFixed2 c.amount, c.currency, c.eventType]

def RawCallbackDto.canonical (toUpperCase : String → String) (dto : RawCallbackDto) : String :=
  String.ofList (joined '\n' ((dto.fields toUpperCase).lines.map String.toList))

def lineEnds (s : String) : ℕ := s.toList.count '\n'

structure SameLineEnds (c d : Canonical) : Prop where
  eventId : lineEnds c.eventId = lineEnds d.eventId
  paymentNumber : lineEnds c.paymentNumber = lineEnds d.paymentNumber
  orderNumber : lineEnds c.orderNumber = lineEnds d.orderNumber
  externalRef : lineEnds c.externalRef = lineEnds d.externalRef
  currency : lineEnds c.currency = lineEnds d.currency
  eventType : lineEnds c.eventType = lineEnds d.eventType

/-! ### Amounts -/

lemma toFixed2_of_nonneg {x : ℚ} (h : 0 ≤ x) : toFixed2 x =
    toString ((roundHalfUp (x * 100)).natAbs / 100) ++ "." ++
      padStart (toString ((roundHalfUp (x * 100)).natAbs % 100)) 2 '0' := by
  rw [toFixed2, if_neg (not_lt.mpr h)]
  simp

lemma point_not_mem_toString (n : ℕ) : '.' ∉ (toString n).toList := by
  rw [Nat.toString_eq_repr, Nat.toList_repr]
  exact not_mem_toDigits (by decide) n

lemma toFixed2_inj {x y : ℚ} (hx : IsCents x) (hy : IsCents y) (hx0 : 0 ≤ x) (hy0 : 0 ≤ y)
    (h : toFixed2 x = toFixed2 y) : x = y := by
  obtain ⟨j, rfl⟩ := hx
  obtain ⟨k, rfl⟩ := hy
  have hround (i : ℤ) : roundHalfUp ((i / 100 : ℚ) * 100) = i := by
    rw [div_mul_cancel₀ _ (by norm_num), roundHalfUp_intCast]
  have hj : 0 ≤ j := by
    have hcast : (0 : ℚ) ≤ j := by linarith
    exact_mod_cast hcast
  have hk : 0 ≤ k := by
    have hcast : (0 : ℚ) ≤ k := by linarith
    exact_mod_cast hcast
  rw [toFixed2_of_nonneg hx0, toFixed2_of_nonneg hy0, hround, hround] at h
  have htexts := congrArg String.toList h
  have hpoint : ".".toList = ['.'] := rfl
  simp only [String.toList_append, hpoint, append_assoc, List.singleton_append] at htexts
  obtain ⟨hwhole, hdecimals⟩ := append_cons_inj (point_not_mem_toString _) (point_not_mem_toString _) htexts
  have hquotient := toString_nat_injective (String.toList_injective hwhole)
  have hremainder : ((j.natAbs % 100 : ℕ) : ℤ) = ((k.natAbs % 100 : ℕ) : ℤ) :=
    padStart_injective 2 (String.toList_injective hdecimals)
  have hsame : j = k := by omega
  rw [hsame]

lemma decimalOf_nonneg (text : String) : 0 ≤ decimalOf text :=
  div_nonneg (Nat.cast_nonneg _) (by positivity)

lemma lineEnds_toFixed2 {x : ℚ} (h : 0 ≤ x) : lineEnds (toFixed2 x) = 0 := by
  have hdigits (n : ℕ) : '\n' ∉ (toString n).toList := by
    rw [Nat.toString_eq_repr, Nat.toList_repr]
    exact not_mem_toDigits (by decide) n
  rw [lineEnds, List.count_eq_zero, toFixed2_of_nonneg h]
  simp only [String.toList_append, toList_padStart, mem_append, List.leftpad, not_or]
  refine ⟨⟨hdigits _, by decide⟩, fun hzero => ?_, hdigits _⟩
  exact absurd (List.eq_of_mem_replicate hzero) (by decide)

/-! ### What the text tells -/

variable {toUpperCase : String → String} {a b : RawCallbackDto}

lemma statusText_inj {s t : CallbackStatus} (h : PaymentStatus.text s.payment = PaymentStatus.text t.payment) :
    s = t := by
  cases s <;> cases t <;> first | rfl | exact absurd h (by decide)

lemma lineEnds_status (s : CallbackStatus) : lineEnds (PaymentStatus.text s.payment) = 0 := by
  cases s <;> rfl

/-- Two callbacks with the same signed text have the same fields exactly if each field of the one has as many
line ends as that of the other. -/
theorem fields_eq_iff (h : a.canonical toUpperCase = b.canonical toUpperCase) :
    a.fields toUpperCase = b.fields toUpperCase ↔
      SameLineEnds (a.fields toUpperCase) (b.fields toUpperCase) := by
  constructor
  · intro hfields
    rw [hfields]
    exact ⟨rfl, rfl, rfl, rfl, rfl, rfl⟩
  · intro hends
    have hnonneg (dto : RawCallbackDto) : 0 ≤ (dto.fields toUpperCase).amount :=
      toDecimalPlaces_nonneg (decimalOf_nonneg _) 2
    have hcount : ((a.fields toUpperCase).lines.map String.toList).map (List.count '\n') =
        ((b.fields toUpperCase).lines.map String.toList).map (List.count '\n') := by
      have hstatus := (lineEnds_status a.status).trans (lineEnds_status b.status).symm
      have hamount := (lineEnds_toFixed2 (hnonneg a)).trans (lineEnds_toFixed2 (hnonneg b)).symm
      simp only [Canonical.lines, map_cons, List.map_nil]
      exact congrArg₂ _ rfl (congrArg₂ _ hends.eventId (congrArg₂ _ hends.paymentNumber
        (congrArg₂ _ hends.orderNumber (congrArg₂ _ hends.externalRef (congrArg₂ _ hstatus
          (congrArg₂ _ hamount (congrArg₂ _ hends.currency (congrArg₂ _ hends.eventType rfl))))))))
    have hjoined := joined_inj_of_count hcount (String.ofList_injective h)
    have hlines := List.map_injective_iff.mpr (fun _ _ h => String.toList_injective h) hjoined
    simp only [Canonical.lines, List.cons.injEq, and_true, true_and] at hlines
    obtain ⟨hevent, hpayment, horder, href, hstatus, hamount, hcurrency, htype⟩ := hlines
    have hcents (dto : RawCallbackDto) : IsCents (dto.fields toUpperCase).amount := isCents_toDecimalPlaces _
    have hsame := toFixed2_inj (hcents a) (hcents b) (hnonneg a) (hnonneg b) hamount
    have hstatus := statusText_inj hstatus
    cases ha : a.fields toUpperCase
    cases hb : b.fields toUpperCase
    simp_all

def upperCase (s : String) : String := String.ofList (s.toList.map Char.toUpper)

def paid (eventId paymentNumber : String) (currency : Option String) : RawCallbackDto where
  eventId := eventId
  paymentNumber := some paymentNumber
  externalRef := "REF-1"
  status := .paid
  amount := "1000.00"
  currency := currency

theorem fields_eq_currency : (paid "evt-1" "PAY-1" none).fields upperCase =
    (paid " evt-1" "PAY-1" (some "idr")).fields upperCase :=
  (fields_eq_iff (by decide +kernel)).mpr ⟨by decide +kernel, by decide +kernel, by decide +kernel,
    by decide +kernel, by decide +kernel, by decide +kernel⟩

/-- The text for the payment of two lines is the text for its second line, after an event of two lines. -/
theorem fields_ne_lineEnd : (paid "evt-1" "PAY-1\nPAY-2" none).accepted = true ∧
    (paid "evt-1\nPAY-1" "PAY-2" none).accepted = true ∧
    (paid "evt-1" "PAY-1\nPAY-2" none).canonical upperCase =
      (paid "evt-1\nPAY-1" "PAY-2" none).canonical upperCase ∧
    (paid "evt-1" "PAY-1\nPAY-2" none).fields upperCase ≠
      (paid "evt-1\nPAY-1" "PAY-2" none).fields upperCase := by
  decide +kernel

end Mayatoko.Payments
