/-!
# Errors of the client library

The error codes of `IedClientError` and the Go errors they are turned into.
-/

namespace Iec61850.Mms

inductive IedError
  | notConnected
  | alreadyConnected
  | connectionLost
  | serviceNotSupported
  | connectionRejected
  | outstandingCallLimitReached
  | userProvidedInvalidArgument
  | enableReportFailedDatasetMismatch
  | objectReferenceInvalid
  | unexpectedValueReceived
  | timeout
  | accessDenied
  | objectDoesNotExist
  | objectExists
  | objectAccessUnsupported
  | typeInconsistent
  | temporarilyUnavailable
  | objectUndefined
  | invalidAddress
  | hardwareFault
  | typeUnsupported
  | objectAttributeInconsistent
  | objectValueInvalid
  | objectInvalidated
  | malformedMessage
  | serviceNotImplemented
  | unknown
  deriving DecidableEq, Repr

/-- The text of the Go error. -/
def IedError.text : IedError → String
  | .notConnected =>
      "the service request can not be executed because the client is not yet " ++
        "connected"
  | .alreadyConnected => "connect service not execute because the client is already connected"
  | .connectionLost => "the service request can not be executed caused by a loss of connection"
  | .serviceNotSupported =>
      "the service or some given parameters are not supported by the client stack or " ++
        "by the server"
  | .connectionRejected => "connection rejected by server"
  | .outstandingCallLimitReached =>
      "cannot send request because outstanding call limit is " ++
        "reached"
  | .userProvidedInvalidArgument => "API function has been called with an invalid argument"
  | .enableReportFailedDatasetMismatch => "API function has been called with an invalid argument"
  | .objectReferenceInvalid =>
      "the object provided object reference is invalid (there is a syntactical " ++
        "error)"
  | .unexpectedValueReceived => "received object is of unexpected type"
  | .timeout => "the communication to the server failed with a timeout"
  | .accessDenied =>
      "the server rejected the access to the requested object/service due to access " ++
        "control"
  | .objectDoesNotExist =>
      "the server reported that the requested object does not exist (returned by " ++
        "server)"
  | .objectExists => "the server reported that the requested object already exists"
  | .objectAccessUnsupported =>
      "the server does not support the requested access method (returned by " ++
        "server)"
  | .typeInconsistent => "the server expected an object of another type (returned by server)"
  | .temporarilyUnavailable =>
      "the object or service is temporarily unavailable (returned by " ++
        "server)"
  | .objectUndefined => "the specified object is not defined in the server (returned by server)"
  | .invalidAddress => "the specified address is invalid (returned by server)"
  | .hardwareFault => "service failed due to a hardware fault (returned by server)"
  | .typeUnsupported =>
      "the requested data type is not supported by the server (returned by " ++
        "server)"
  | .objectAttributeInconsistent =>
      "the provided attributes are inconsistent (returned by " ++
        "server)"
  | .objectValueInvalid => "the provided object value is invalid (returned by server)"
  | .objectInvalidated => "the object is invalidated (returned by server)"
  | .malformedMessage => "received an invalid response message from the server"
  | .serviceNotImplemented => "service not implemented"
  | .unknown => "unknown error"

/-- `nil` for `IED_ERROR_OK`. -/
def getIedErrorFromErrorCode (err : Int) : Option IedError :=
  match err with
  | 0 => none
  | 1 => some .notConnected
  | 2 => some .alreadyConnected
  | 3 => some .connectionLost
  | 4 => some .serviceNotSupported
  | 5 => some .connectionRejected
  | 6 => some .outstandingCallLimitReached
  | 10 => some .userProvidedInvalidArgument
  | 11 => some .enableReportFailedDatasetMismatch
  | 12 => some .objectReferenceInvalid
  | 13 => some .unexpectedValueReceived
  | 20 => some .timeout
  | 21 => some .accessDenied
  | 22 => some .objectDoesNotExist
  | 23 => some .objectExists
  | 24 => some .objectAccessUnsupported
  | 25 => some .typeInconsistent
  | 26 => some .temporarilyUnavailable
  | 27 => some .objectUndefined
  | 28 => some .invalidAddress
  | 29 => some .hardwareFault
  | 30 => some .typeUnsupported
  | 31 => some .objectAttributeInconsistent
  | 32 => some .objectValueInvalid
  | 33 => some .objectInvalidated
  | 34 => some .malformedMessage
  | 98 => some .serviceNotImplemented
  | _ => some .unknown

def getIedClientError (err : Int) : Option IedError := getIedErrorFromErrorCode err

/-- Only the code for success is no error. -/
theorem getIedClientError_eq_none_iff (err : Int) : getIedClientError err = none ↔ err = 0 := by
  unfold getIedClientError getIedErrorFromErrorCode
  constructor
  · intro h
    split at h
    next => rfl
    all_goals cases h
  · rintro rfl
    rfl

end Iec61850.Mms
