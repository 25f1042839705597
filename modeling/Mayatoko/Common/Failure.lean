import Mathlib.Init

/-!
# What a service throws
-/

namespace Mayatoko

/-- What a transaction throws: an HTTP exception, a Prisma error for a missing record, one for a violated key,
or an error that no service expects. -/
inductive Failure
  | badRequest (message : String)
  | notFound (message : String)
  | conflict (message : String)
  | forbidden (message : String)
  | unauthorized (message : String)
  | recordNotFound
  | uniqueViolation
  | unexpected (message : String)
  deriving DecidableEq

def tenantAccessDenied (entityType : String) : Failure :=
  .forbidden s!"{entityType} tidak tersedia dalam company dan branch pengguna."

end Mayatoko
