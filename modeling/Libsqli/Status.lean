namespace Libsqli

/-- `sqli_status`, in the order of the public header. -/
inductive Status where
  | ok
  | err
  | eof
  | timeout
  | authFail
  | protoError
  | ioError
  | allocFail
  | invalidState
  | invalidArgument
  | outOfRange
  | inexact
  | bufferTooSmall
  | nullValue
  | limitExceeded
  | metadataUnavailable
  | typeMismatch
  | canceled
  | unsupported
  deriving DecidableEq, Repr

end Libsqli
