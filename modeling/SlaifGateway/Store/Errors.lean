import Mathlib.Init

/-! The safe domain errors of the quota, accounting, reconciliation, fence, hold
and key services: class, message, offending field and stable code. HTTP status
and error type are fixed by the class and are not repeated here. -/
namespace SlaifGateway.Store

inductive ErrorKind where
  | quotaLimitExceeded | quotaReservationNotFound | invalidQuotaEstimate | quotaConcurrency
  | quotaCounterInvariant | keyNotReservable | quotaExternalToolFenceActive
  | usageMissing | invalidUsage | reservationFinalization | reservationAlreadyFinalized | ledgerWrite
  | providerCompletionRecord | accountingFinalizationRecovery | finalizationRecoveryNotSupported
  | unsupportedProviderCost
  | staleReservationNotFound | reservationNotPending | reservationNotExpired | reconciliationInvariant
  | providerCompletedRecoveryNotFound | providerCompletedRecoveryNotRepairable
  | providerCompletedRecoveryMetadataMissing | providerCompletedRecoveryInvariant
  | providerCompletedRecoveryAlreadyReconciled
  | invalidExternalToolFenceInput | externalToolFenceActive | externalToolFenceConflict
  | externalToolFenceOccupied | externalToolFenceExhausted | externalToolFenceInvariant
  | invalidExternalToolAccountingHold | externalToolAccountingHoldInvariant
  | gatewayKeyNotFound | invalidGatewayKeyUsageReset | gatewayKeyExternalToolFenceActive
  | integrity | lookup | multipleResultsFound | value
  deriving DecidableEq, Repr

def ErrorKind.code : ErrorKind → String
  | quotaLimitExceeded => "quota_limit_exceeded"
  | quotaReservationNotFound => "quota_reservation_not_found"
  | invalidQuotaEstimate => "invalid_quota_estimate"
  | quotaConcurrency => "quota_concurrency_error"
  | quotaCounterInvariant => "quota_counter_invariant_error"
  | keyNotReservable => "key_not_reservable"
  | quotaExternalToolFenceActive => "external_tool_fence_active"
  | usageMissing => "usage_missing"
  | invalidUsage => "invalid_usage"
  | reservationFinalization => "reservation_finalization_error"
  | reservationAlreadyFinalized => "reservation_already_finalized"
  | ledgerWrite => "ledger_write_error"
  | providerCompletionRecord => "provider_completion_record_error"
  | accountingFinalizationRecovery => "accounting_finalization_recovery_error"
  | finalizationRecoveryNotSupported => "finalization_recovery_not_supported"
  | unsupportedProviderCost => "unsupported_provider_cost"
  | staleReservationNotFound => "stale_reservation_not_found"
  | reservationNotPending => "reservation_not_pending"
  | reservationNotExpired => "reservation_not_expired"
  | reconciliationInvariant => "reconciliation_invariant_error"
  | providerCompletedRecoveryNotFound => "provider_completed_recovery_not_found"
  | providerCompletedRecoveryNotRepairable => "provider_completed_recovery_not_repairable"
  | providerCompletedRecoveryMetadataMissing => "provider_completed_recovery_metadata_missing"
  | providerCompletedRecoveryInvariant => "provider_completed_recovery_invariant_error"
  | providerCompletedRecoveryAlreadyReconciled => "provider_completed_recovery_already_reconciled"
  | invalidExternalToolFenceInput => "invalid_external_tool_fence_input"
  | externalToolFenceActive => "external_tool_fence_active"
  | externalToolFenceConflict => "external_tool_fence_conflict"
  | externalToolFenceOccupied => "external_tool_fence_occupied"
  | externalToolFenceExhausted => "external_tool_fence_exhausted"
  | externalToolFenceInvariant => "external_tool_fence_invariant_error"
  | invalidExternalToolAccountingHold => "invalid_external_tool_accounting_hold"
  | externalToolAccountingHoldInvariant => "external_tool_accounting_hold_invariant_error"
  | gatewayKeyNotFound => "gateway_key_not_found"
  | invalidGatewayKeyUsageReset => "invalid_gateway_key_usage_reset"
  | gatewayKeyExternalToolFenceActive => "gateway_key_external_tool_fence_active"
  | integrity => "IntegrityError"
  | lookup => "LookupError"
  | multipleResultsFound => "MultipleResultsFound"
  | value => "ValueError"

/-- The class attribute `message`, used when the raise gives none. -/
def ErrorKind.message : ErrorKind → String
  | quotaLimitExceeded => "Quota limit exceeded"
  | quotaReservationNotFound => "Quota reservation was not found"
  | invalidQuotaEstimate => "Invalid quota estimate"
  | quotaConcurrency => "Quota reservation could not be completed due to a concurrent update"
  | quotaCounterInvariant => "Quota counter invariant violation"
  | keyNotReservable => "Gateway key cannot reserve quota"
  | quotaExternalToolFenceActive => "A durable external-tool request is pending for this key"
  | usageMissing => "Provider response did not include required usage metadata"
  | invalidUsage => "Provider response included invalid usage metadata"
  | reservationFinalization => "Quota reservation could not be finalized"
  | reservationAlreadyFinalized => "Quota reservation is not pending"
  | ledgerWrite => "Usage ledger record could not be written"
  | providerCompletionRecord => "Provider completion recovery record could not be written"
  | accountingFinalizationRecovery => "Accounting finalization recovery state could not be recorded"
  | finalizationRecoveryNotSupported =>
    "Accounting finalization recovery is not supported for this reservation"
  | unsupportedProviderCost => "Actual cost could not be computed from configured pricing"
  | staleReservationNotFound => "Quota reservation was not found"
  | reservationNotPending => "Quota reservation is not pending"
  | reservationNotExpired => "Quota reservation has not expired"
  | reconciliationInvariant => "Reservation reconciliation invariant violation"
  | providerCompletedRecoveryNotFound => "Provider-completed recovery row was not found"
  | providerCompletedRecoveryNotRepairable => "Provider-completed recovery row is not repairable"
  | providerCompletedRecoveryMetadataMissing => "Provider-completed recovery metadata is missing"
  | providerCompletedRecoveryInvariant => "Provider-completed recovery invariant violation"
  | providerCompletedRecoveryAlreadyReconciled => "Provider-completed recovery row is already reconciled"
  | invalidExternalToolFenceInput => "Invalid external tool fence input"
  | externalToolFenceActive => "A durable external-tool request is pending for this key"
  | externalToolFenceConflict => "External tool fence state conflicts with the requested facts"
  | externalToolFenceOccupied => "Existing reserved quota on this key blocks a new external tool fence"
  | externalToolFenceExhausted => "No remaining quota balance is available for an external tool fence"
  | externalToolFenceInvariant => "External tool fence invariant violation"
  | invalidExternalToolAccountingHold => "Invalid external-tool accounting hold request"
  | externalToolAccountingHoldInvariant => "External-tool accounting hold invariant violation"
  | gatewayKeyNotFound => "Gateway key not found"
  | invalidGatewayKeyUsageReset => "Invalid gateway key usage reset"
  | gatewayKeyExternalToolFenceActive => "This gateway key has an active exclusive external-tool fence; " ++
    "the management operation is blocked until the reservation is settled"
  | integrity => "IntegrityError"
  | lookup => "Usage ledger row was not found"
  | multipleResultsFound => "Multiple rows were found when one or none was required"
  | value => "ValueError"

structure ServiceError where
  kind : ErrorKind
  message : String
  param : Option String
  code : String
  deriving DecidableEq, Repr

namespace ErrorKind

def error (kind : ErrorKind) : ServiceError := ⟨kind,kind.message,none,kind.code⟩

def saying (kind : ErrorKind) (message : String) : ServiceError := ⟨kind,message,none,kind.code⟩

def naming (kind : ErrorKind) (message param : String) : ServiceError := ⟨kind,message,some param,kind.code⟩

def coded (kind : ErrorKind) (message code : String) : ServiceError := ⟨kind,message,none,code⟩

/-- `raise Kind(exc.safe_message, param=exc.param) from exc`. -/
def wrapping (kind : ErrorKind) (cause : ServiceError) : ServiceError :=
  ⟨kind,cause.message,cause.param,kind.code⟩
end ErrorKind
end SlaifGateway.Store
