import Mathlib.Data.List.Basic
import Mathlib.Data.Rat.Defs
import Mathlib.Algebra.Group.Int.Defs
import AgentDesktop.Text

/-!
# Errors

What an operation reports when it fails: a code, the texts around it, the
details a caller may read, and two pieces of advice. The *disposition* says
what is known about the delivery of an action, and through it whether a retry
is safe; the *retryability* is what the details claim about the error itself,
read once when the details are attached.
-/

namespace AgentDesktop

/-- `u32::MAX`. -/
def u32Max : ℕ := 4294967295

/-- `usize::MAX`. -/
def usizeMax : ℕ := 18446744073709551615

/-- A JSON value; a number is an integer or a fraction. -/
inductive Json
  /-- The null value. -/
  | null
  /-- A boolean. -/
  | bool (value : Bool)
  /-- An integer. -/
  | num (value : ℤ)
  /-- A fraction. -/
  | real (value : ℚ)
  | str (value : String)
  /-- An array. -/
  | arr (items : List Json)
  /-- An object, as the list of its fields. -/
  | obj (fields : List (String × Json))

namespace Json

/-- `Value::get` on an object; nothing on the other values. -/
def get (value : Json) (key : String) : Option Json :=
  match value with
  | obj fields => fields.lookup key
  | _ => none

/-- `Value::as_bool`. -/
def asBool : Json → Option Bool
  | bool value => some value
  | _ => none

/-- `Value::as_str`. -/
def asStr : Json → Option String
  | str value => some value
  | _ => none

/-- `Value::as_array`. -/
def asArray : Json → Option (List Json)
  | arr items => some items
  | _ => none

/-- `Value::as_u64`. -/
def asU64 : Json → Option UInt64
  | num value =>
    if 0 ≤ value ∧ value < 2 ^ 64 then some (UInt64.ofNat value.toNat) else none
  | _ => none

/-- Whether a value is an object. -/
def isObject : Json → Bool
  | obj _ => true
  | _ => false

/-- Whether a value is this string. -/
def isStr (value : Json) (text : String) : Bool := value.asStr == some text

/-- An object without the fields that are skipped. -/
def object (fields : List (String × Option Json)) : Json :=
  obj (fields.filterMap (fun field => field.2.map (fun item => (field.1, item))))

/-- A list of texts. -/
def strings (texts : List String) : Json := arr (texts.map str)

/-- `Map::insert` on an object: an existing field is replaced, a new one added.
Other values are left alone. -/
def insert (value : Json) (key : String) (item : Json) : Json :=
  match value with
  | obj fields =>
    if fields.any (fun field => field.1 == key) then
      obj (fields.map (fun field => if field.1 == key then (key, item) else field))
    else obj (fields ++ [(key, item)])
  | other => other

/-- A text that may be missing. -/
def ofOption (value : Option String) : Json := (value.map str).getD null

end Json

/-- The codes an error is reported under. -/
inductive ErrorCode
  | permDenied | elementNotFound | appNotFound | actionFailed | actionNotSupported
  | staleRef | ambiguousTarget | windowNotFound | platformNotSupported | timeout
  | invalidArgs | notificationNotFound | snapshotNotFound | policyDenied
  | appUnresponsive | internal
  deriving DecidableEq, Repr

/-- `ErrorCode::as_str`. -/
def ErrorCode.asStr : ErrorCode → String
  | permDenied => "PERM_DENIED"
  | elementNotFound => "ELEMENT_NOT_FOUND"
  | appNotFound => "APP_NOT_FOUND"
  | actionFailed => "ACTION_FAILED"
  | actionNotSupported => "ACTION_NOT_SUPPORTED"
  | staleRef => "STALE_REF"
  | ambiguousTarget => "AMBIGUOUS_TARGET"
  | windowNotFound => "WINDOW_NOT_FOUND"
  | platformNotSupported => "PLATFORM_NOT_SUPPORTED"
  | timeout => "TIMEOUT"
  | invalidArgs => "INVALID_ARGS"
  | notificationNotFound => "NOTIFICATION_NOT_FOUND"
  | snapshotNotFound => "SNAPSHOT_NOT_FOUND"
  | policyDenied => "POLICY_DENIED"
  | appUnresponsive => "APP_UNRESPONSIVE"
  | internal => "INTERNAL"

/-- What is known about the delivery of an action. -/
inductive DeliverySemantics
  | unknown | notDelivered | deliveryUncertain | deliveredUnverified | deliveredVerified
  deriving DecidableEq, Repr

/-- Whether a retry is advised. -/
inductive RetryDisposition
  | unknown | safe | unsafeRetry
  deriving DecidableEq, Repr

/-- `DeliverySemantics::retry`. -/
def DeliverySemantics.retry : DeliverySemantics → RetryDisposition
  | notDelivered => .safe
  | deliveryUncertain | deliveredUnverified | deliveredVerified => .unsafeRetry
  | unknown => .unknown

/-- `DeliverySemantics` as the two advices it is written as. -/
def DeliverySemantics.toJson (disposition : DeliverySemantics) : Json :=
  let delivery := match disposition with
    | .unknown => "unknown"
    | .notDelivered => "not_delivered"
    | .deliveryUncertain => "delivery_uncertain"
    | .deliveredUnverified => "delivered_unverified"
    | .deliveredVerified => "delivered_verified"
  let retry := match disposition.retry with
    | .unknown => "unknown"
    | .safe => "safe"
    | .unsafeRetry => "unsafe"
  .obj [("delivery", .str delivery), ("retry", .str retry)]

/-- What an error's details say about retrying. -/
inductive Retryability
  | unspecified | retryable | nonRetryable
  deriving DecidableEq, Repr

/-- `Retryability::from_details`. -/
def Retryability.fromDetails (details : Json) : Retryability :=
  match (details.get "retryable").bind Json.asBool with
  | some true => .retryable
  | some false => .nonRetryable
  | none => .unspecified

/-- `AdapterError`. -/
structure AdapterError where
  code : ErrorCode
  message : String
  /-- What the caller may do about it. -/
  suggestion : Option String
  /-- What the platform said. -/
  platformDetail : Option String
  /-- The details a caller may read. -/
  details : Option Json
  /-- What is known about the delivery. -/
  disposition : DeliverySemantics
  /-- What the details have said about retrying. -/
  retryability : Retryability

namespace AdapterError

/-- `AdapterError::new`. -/
def new (code : ErrorCode) (message : String) : AdapterError where
  code
  message
  suggestion := none
  platformDetail := none
  details := none
  disposition := .unknown
  retryability := .unspecified

/-- `with_suggestion`. -/
def withSuggestion (error : AdapterError) (suggestion : String) : AdapterError :=
  { error with suggestion := some suggestion }

/-- `with_platform_detail`. -/
def withPlatformDetail (error : AdapterError) (detail : String) : AdapterError :=
  { error with platformDetail := some detail }

/-- `with_details`: the retryability is read off the details when they speak of
it. -/
def withDetails (error : AdapterError) (details : Json) : AdapterError :=
  let retryability := Retryability.fromDetails details
  { error with
    retryability := if retryability = .unspecified then error.retryability else retryability
    details := some details }

/-- `with_disposition`. -/
def withDisposition (error : AdapterError) (disposition : DeliverySemantics) :
    AdapterError :=
  { error with disposition }

/-! ### What the builders keep -/

@[simp] theorem disposition_new (code : ErrorCode) (message : String) :
    (new code message).disposition = .unknown := rfl

@[simp] theorem disposition_withSuggestion (error : AdapterError) (suggestion : String) :
    (error.withSuggestion suggestion).disposition = error.disposition := rfl

@[simp] theorem disposition_withPlatformDetail (error : AdapterError) (detail : String) :
    (error.withPlatformDetail detail).disposition = error.disposition := rfl

@[simp] theorem disposition_withDetails (error : AdapterError) (details : Json) :
    (error.withDetails details).disposition = error.disposition := rfl

@[simp] theorem disposition_withDisposition (error : AdapterError)
    (disposition : DeliverySemantics) :
    (error.withDisposition disposition).disposition = disposition := rfl

@[simp] theorem code_new (code : ErrorCode) (message : String) :
    (new code message).code = code := rfl

@[simp] theorem code_withSuggestion (error : AdapterError) (suggestion : String) :
    (error.withSuggestion suggestion).code = error.code := rfl

@[simp] theorem code_withDetails (error : AdapterError) (details : Json) :
    (error.withDetails details).code = error.code := rfl

@[simp] theorem code_withDisposition (error : AdapterError)
    (disposition : DeliverySemantics) :
    (error.withDisposition disposition).code = error.code := rfl

/-! ### Reading an error -/

/-- `is_explicitly_retryable`. -/
def isExplicitlyRetryable (error : AdapterError) : Bool :=
  error.retryability == .retryable

/-- `is_retryable_resolution_failure`. -/
def isRetryableResolutionFailure (error : AdapterError) : Bool :=
  (match error.code with
    | .staleRef | .ambiguousTarget | .timeout | .appUnresponsive => true
    | _ => false) && error.isExplicitlyRetryable

/-- `permits_retry_by_default`. -/
def permitsRetryByDefault (error : AdapterError) : Bool :=
  error.retryability != .nonRetryable

/-! ### The errors with a standard text -/

/-- `AdapterError::stale_ref`. -/
def staleRef (refId : String) : AdapterError :=
  (((new .staleRef (refId ++ " not found in current RefMap")).withSuggestion
    ("Re-run a snapshot to obtain fresh refs, then retry with the new ref " ++
      "(CLI: snapshot [--skeleton]; FFI: ad_snapshot then ad_execute_by_ref with the returned snapshot_id)")).withDisposition
    .notDelivered)

/-- `AdapterError::ambiguous_target`. -/
def ambiguousTarget (message : String) : AdapterError :=
  ((new .ambiguousTarget message).withSuggestion
    "Re-run a snapshot to refresh refs, then retry with a more specific ref").withDisposition
    .notDelivered

/-- `AdapterError::not_supported`. -/
def notSupported (method : String) : AdapterError :=
  ((new .platformNotSupported (method ++ " is not supported on this platform")).withSuggestion
    "Use a platform/build that advertises this capability or choose a supported command").withDisposition
    .notDelivered

/-- `AdapterError::timeout`. -/
def timeout (message : String) : AdapterError :=
  (new .timeout message).withSuggestion "The target application may be busy or unresponsive"

/-- `AdapterError::app_unresponsive`. -/
def appUnresponsive (app : String) : AdapterError :=
  ((new .appUnresponsive ("Application '" ++ app ++ "' is not responding")).withSuggestion
    "Wait for the app to recover or force-quit it before retrying automation").withDisposition
    .notDelivered

/-- `AdapterError::permission_denied`. -/
def permissionDenied : AdapterError :=
  ((new .permDenied "Accessibility permission not granted").withSuggestion
    "Open System Settings > Privacy & Security > Accessibility and add the app that launches agent-desktop").withDisposition
    .notDelivered

/-- `AdapterError::internal`. -/
def internal (message : String) : AdapterError := new .internal message

/-- `AdapterError::snapshot_not_found`. -/
def snapshotNotFound (snapshotId : String) : AdapterError :=
  ((new .snapshotNotFound ("Snapshot '" ++ snapshotId ++ "' not found")).withSuggestion
    ("Re-run a snapshot and retry with the returned snapshot_id " ++
      "(CLI: snapshot, then pass --snapshot <id>; FFI: ad_snapshot then supply snapshot_id to ad_execute_by_ref)")).withDisposition
    .notDelivered

end AdapterError

/-- `AppError`. -/
inductive AppError
  /-- An error an adapter or a check reported. -/
  | adapter (error : AdapterError)
  /-- The file system failed. -/
  | io (message : String)
  /-- A text was no JSON of the expected shape. -/
  | json (message : String)
  /-- Anything else. -/
  | internal (message : String)

namespace AppError

/-- `AppError::code`. -/
def code : AppError → String
  | adapter error => error.code.asStr
  | io _ | json _ | internal _ => "INTERNAL"

/-- `AppError::stale_ref`. -/
def staleRef (refId : String) : AppError := adapter (AdapterError.staleRef refId)

/-- `AppError::invalid_input`. -/
def invalidInput (message : String) : AppError :=
  adapter ((AdapterError.new .invalidArgs message).withDisposition .notDelivered)

/-- `AppError::invalid_input_with_suggestion`. -/
def invalidInputWithSuggestion (message suggestion : String) : AppError :=
  adapter (((AdapterError.new .invalidArgs message).withSuggestion suggestion).withDisposition
    .notDelivered)

/-- The text an error is shown with. -/
def toText : AppError → String
  | adapter error => error.message
  | io message => "IO error: " ++ message
  | json message => "JSON error: " ++ message
  | internal message => message

/-- `into_adapter_error`. -/
def intoAdapterError : AppError → AdapterError
  | adapter error => error
  | other => .internal other.toText

@[simp] theorem intoAdapterError_adapter (error : AdapterError) :
    (adapter error).intoAdapterError = error := rfl

end AppError

end AgentDesktop
