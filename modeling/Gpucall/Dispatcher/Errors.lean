import Mathlib.Data.Nat.Notation

/-! The exceptions that the gateway's programs raise and catch, and the classification of provider
errors in `provider_errors.py`. -/

namespace Gpucall

structure TupleError where
  message : String
  retryable : Bool
  statusCode : ℕ := 502
  code : Option String := none
  rawOutput : Option String := none
  deriving DecidableEq

/-- The classes that the `except` clauses tell apart. `GovernanceError` is a `ValueError` with clauses
of its own. The last two derive from `BaseException` alone, so `except Exception` lets them pass. -/
inductive PyExc where
  | tupleError (error : TupleError)
  | timeoutError
  | governanceError (code message : String)
  | valueError (message : String)
  | httpException (statusCode : ℕ)
  | tenantBudgetError (statusCode : ℕ) (code : String)
  | exception (name : String)
  | cancelledError
  | generatorExit
  deriving DecidableEq

/-- `isinstance(exc, Exception)` -/
def PyExc.isException : PyExc → Bool
  | cancelledError | generatorExit => false
  | _ => true

/-- The fields of `ProviderErrorClass` that the dispatcher reads. -/
structure ProviderErrorClass where
  code : String
  fallbackEligible : Bool := true
  suppressProviderFamily : Bool := false

def providerTemporaryUnavailableErrors : List ProviderErrorClass :=
  [{ code := "PROVIDER_RESOURCE_EXHAUSTED" },
   { code := "PROVIDER_CAPACITY_UNAVAILABLE" },
   { code := "PROVIDER_PROVISION_UNAVAILABLE" },
   { code := "PROVIDER_QUEUE_SATURATED" },
   { code := "PROVIDER_WORKER_INITIALIZING" },
   { code := "PROVIDER_WORKER_THROTTLED" },
   { code := "PROVIDER_TIMEOUT" },
   { code := "PROVIDER_POLL_TIMEOUT" },
   { code := "PROVIDER_JOB_FAILED" },
   { code := "PROVIDER_CANCELLED", fallbackEligible := false },
   { code := "PROVIDER_UNHEALTHY" },
   { code := "PROVIDER_BOOTING" },
   { code := "PROVIDER_PREEMPTED" },
   { code := "PROVIDER_MAINTENANCE", suppressProviderFamily := true },
   { code := "PROVIDER_UPSTREAM_UNAVAILABLE", suppressProviderFamily := true },
   { code := "PROVIDER_RATE_LIMITED", suppressProviderFamily := true },
   { code := "PROVIDER_QUOTA_EXCEEDED", fallbackEligible := false, suppressProviderFamily := true },
   { code := "PROVIDER_REGION_UNAVAILABLE" },
   { code := "PROVIDER_IMAGE_PULL_DELAY" },
   { code := "PROVIDER_MODEL_LOADING" },
   { code := "PROVIDER_CONCURRENCY_LIMIT" },
   { code := "PROVIDER_LEASE_EXPIRED" },
   { code := "PROVIDER_STALE_JOB" },
   { code := "PROVIDER_ERROR" }]

def providerErrorClass (code : Option String) : Option ProviderErrorClass :=
  code.bind fun code => providerTemporaryUnavailableErrors.find? (·.code = code)

def isProviderTemporaryUnavailable (code : Option String) : Bool := (providerErrorClass code).isSome

def shouldSuppressProviderFamily (code : Option String) : Bool :=
  (providerErrorClass code).any (·.suppressProviderFamily)

def providerErrorFallbackEligible (exc : TupleError) : Bool :=
  if !isProviderTemporaryUnavailable exc.code then exc.retryable
  else (providerErrorClass exc.code).any (·.fallbackEligible)

def jobErrorMessage (exc : TupleError) : String :=
  let code := match exc.code with
    | none | some "" => "PROVIDER_ERROR"
    | some code => code
  "tuple execution failed (" ++ code ++ ")"

end Gpucall
