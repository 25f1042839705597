import Mayatoko.Accounting.Schema
import Mayatoko.Core.Decimal
import Mayatoko.Core.Frame

/-!
# Journals of operational events

The part of `postOperationalEvent` that makes the journal lines of an event from its amounts and
the posting rule, and refuses a journal whose sides differ. The lookup of rule, period and accounts
comes before and is not modelled.

`calculateTax` of `AccountingCoreService`: an inclusive tax is taken out of the amount, any other is
put on top of it.
-/

namespace Mayatoko.Accounting

open Core

inductive PostingSide
  | debit
  | credit
  deriving DecidableEq

structure RuleLine where
  accountCodeKey : String
  side : PostingSide
  amountKey : String
  skipIfZero : Bool := true
  deriving DecidableEq

structure PostingRule where
  code : String
  lines : List RuleLine

/-- The amounts of an event; a key it does not name stands for zero. -/
abbrev PostingAmounts := String → ℚ

def PostingRule.usable (rule : PostingRule) (amounts : PostingAmounts) : List RuleLine :=
  rule.lines.filter fun line => !line.skipIfZero || amounts line.amountKey ≠ 0

def sideTotal (side : PostingSide) (amounts : PostingAmounts) (lines : List RuleLine) : ℚ :=
  (lines.map fun line => if line.side = side then amounts line.amountKey else 0).sum

def PostingRule.journal (rule : PostingRule) (amounts : PostingAmounts) :
    Except Failure (List (RuleLine × ℚ)) :=
  let usable := rule.usable amounts
  if usable = [] then throw (.badRequest s!"Aturan {rule.code} tidak menghasilkan jurnal.") else
  match usable.find? fun line => amounts line.amountKey < 0 with
  | some line => throw (.badRequest s!"Nilai {line.amountKey} tidak boleh negatif.")
  | none =>
    let debitTotal := sideTotal .debit amounts usable
    let creditTotal := sideTotal .credit amounts usable
    if debitTotal = creditTotal then
      pure (usable.map fun line => (line, amounts line.amountKey))
    else throw (.badRequest (s!"Jurnal {rule.code} tidak seimbang. Debit {toFixed2 debitTotal}, " ++
      s!"kredit {toFixed2 creditTotal}."))

def PostingRule.Balances (rule : PostingRule) (amounts : PostingAmounts) : Prop :=
  sideTotal .debit amounts rule.lines = sideTotal .credit amounts rule.lines

/-! ### Tax of an amount -/

structure TaxedAmount where
  (net tax gross : ℚ)

def taxedAmount (inclusive : Bool) (rate amount : ℚ) : TaxedAmount :=
  if inclusive = true ∧ 0 < rate then
    let net := toDecimalPlaces (amount / (1 + rate)) 2
    ⟨net, amount - net, amount⟩
  else
    let tax := toDecimalPlaces (amount * rate) 2
    ⟨amount, tax, amount + tax⟩

/-- The checks of a tax code on a date; no expected scopes stand for any scope. -/
def checkTaxCode (taxCode : TaxCode) (effectiveAt : ℕ) (expectedScopes : List TaxScope) :
    AccountingTx Unit := do
  require (taxCode.status = "ACTIVE") (.badRequest s!"Tax code {taxCode.code} belum ACTIVE.")
  require (taxCode.effectiveFrom.all (· ≤ effectiveAt))
    (.badRequest s!"Tax code {taxCode.code} belum berlaku pada tanggal transaksi.")
  require (taxCode.effectiveTo.all (effectiveAt ≤ ·))
    (.badRequest s!"Tax code {taxCode.code} sudah tidak berlaku pada tanggal transaksi.")
  require (expectedScopes = [] ∨ taxCode.scope ∈ expectedScopes) (.badRequest
    s!"Tax code {taxCode.code} scope {taxCode.scope.text} tidak sesuai transaksi ini.")
  require (0 ≤ taxCode.rate) (.badRequest "Tarif pajak tidak valid.")

def calculateTax (taxCodeId : Option ℕ) (amount : ℚ) (companyId effectiveAt : ℕ)
    (expectedScopes : List TaxScope) : AccountingTx TaxedAmount :=
  match taxCodeId with
  | none => pure ⟨amount, 0, amount⟩
  | some id => do
    let db ← get
    let taxCode ← orThrow ((db.taxCodes.find? id).filter fun t => t.companyId = companyId)
      (.notFound "Tax code tidak ditemukan.")
    checkTaxCode taxCode effectiveAt expectedScopes
    pure (taxedAmount taxCode.inclusive taxCode.rate amount)

lemma leaves_calculateTax {α : Type} {f : AccountingDb → α} {taxCodeId : Option ℕ} {amount : ℚ}
    {companyId effectiveAt : ℕ} {scopes : List TaxScope} :
    Leaves f (calculateTax taxCodeId amount companyId effectiveAt scopes) := by
  cases taxCodeId with
  | none => exact leaves_pure
  | some id =>
    refine leaves_get.bind fun _ => leaves_orThrow.bind fun _ => Leaves.bind ?_ fun _ => leaves_pure
    exact leaves_require.bind fun _ => leaves_require.bind fun _ => leaves_require.bind fun _ =>
      leaves_require.bind fun _ => leaves_require

end Mayatoko.Accounting
