import Mayatoko.Common.Failure
import Mayatoko.Core.Transaction

/-!
# Dates and scopes of a request

The checks of `ExtensionsService` that do not read the database. What `new Date` makes of a text depends on
the clock of the host and is a parameter.
-/

namespace Mayatoko.Extensions

open Core

variable {σ : Type}

/-- The text is a day, as in `2024-02-29`. -/
def isDateOnly (value : String) : Bool :=
  match value.toList with
  | [a, b, c, d, '-', e, f, '-', g, h] => [a, b, c, d, e, f, g, h].all Char.isDigit
  | _ => false

/-- The instant of a text; a day stands for its first or its last millisecond. -/
def boundaryDate (newDate : String → Option ℕ) (value : String) (endOfDay : Bool) : Tx σ Failure ℕ :=
  orThrow
    (newDate (if isDateOnly value then
      value ++ "T" ++ (if endOfDay then "23:59:59.999" else "00:00:00.000") else value))
    (.badRequest "Format tanggal tidak valid.")

def assertRequestedScope (companyId branchId : ℕ) (requestedCompanyId requestedBranchId : Option ℕ)
    (entityType : String) : Tx σ Failure Unit :=
  require (requestedCompanyId.all (· = companyId) ∧ requestedBranchId.all (· = branchId))
    (tenantAccessDenied entityType)

end Mayatoko.Extensions
