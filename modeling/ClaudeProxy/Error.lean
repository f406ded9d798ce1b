/-
Module: ClaudeProxy.Error
Layer: Model
Purpose: The error type every layer reports with, and how it reaches a client.
Trusted boundary: human-reviewed model
Main exports: ErrorKind, ProxyError, ProxyError.new, ProxyError.invalid, ProxyError.status,
  ProxyError.anthropicType, rejectIf, orReject
-/

namespace ClaudeProxy

inductive ErrorKind where
  | invalidRequest
  | authentication
  | permission
  | rateLimit
  | overloaded
  | upstream
  | timeout
  | internal
deriving DecidableEq, Repr, Inhabited

structure ProxyError where
  kind : ErrorKind
  message : String
  requestId : Option String := none
  retryAfterSeconds : Option Nat := none
  isRetryable : Bool := false
deriving DecidableEq, Repr, Inhabited

namespace ProxyError

def new (kind : ErrorKind) (message : String) : ProxyError :=
  { kind := kind, message := message }

def invalid (message : String) : ProxyError := new .invalidRequest message

def withRequestId (error : ProxyError) (requestId : String) : ProxyError :=
  { error with requestId := some requestId }

def status (error : ProxyError) : Nat :=
  match error.kind with
  | .invalidRequest => 400
  | .authentication => 401
  | .permission => 403
  | .rateLimit => 429
  | .overloaded => 503
  | .timeout => 504
  | .upstream => 502
  | .internal => 500

def anthropicType (error : ProxyError) : String :=
  match error.kind with
  | .invalidRequest => "invalid_request_error"
  | .authentication => "authentication_error"
  | .permission => "permission_error"
  | .rateLimit => "rate_limit_error"
  | .overloaded => "overloaded_error"
  | .timeout | .upstream | .internal => "api_error"

def retryable (error : ProxyError) : Bool := error.isRetryable

def withRetryable (error : ProxyError) : ProxyError := { error with isRetryable := true }

@[simp] theorem new_kind (kind : ErrorKind) (message : String) : (new kind message).kind = kind := rfl

@[simp] theorem new_message (kind : ErrorKind) (message : String) :
    (new kind message).message = message := rfl

@[simp] theorem new_retryable (kind : ErrorKind) (message : String) :
    (new kind message).retryable = false := rfl

@[simp] theorem invalid_retryable (message : String) : (invalid message).retryable = false := rfl

@[simp] theorem withRetryable_retryable (error : ProxyError) :
    error.withRetryable.retryable = true := rfl

end ProxyError

/-! ### Checks -/

/-- `return Err(error)` under a condition. -/
def rejectIf (condition : Prop) [Decidable condition] (error : ProxyError) :
    Except ProxyError Unit :=
  if condition then .error error else .ok ()

/-- `ok_or_else(..)?`. -/
def orReject {α : Type} (found : Option α) (error : ProxyError) : Except ProxyError α :=
  match found with
  | some value => .ok value
  | none => .error error

theorem rejectIf_eq_ok {condition : Prop} [Decidable condition] {error : ProxyError} {done : Unit} :
    rejectIf condition error = .ok done ↔ ¬ condition := by
  unfold rejectIf
  by_cases holds : condition <;> simp [holds]

theorem orReject_eq_ok {α : Type} {found : Option α} {error : ProxyError} {value : α} :
    orReject found error = .ok value ↔ found = some value := by
  cases found <;> simp [orReject]

end ClaudeProxy
