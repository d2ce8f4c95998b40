import Mathlib.Logic.Basic

/-!
# Typed communication failures

`errors.py`: every failure of an exchange is an `LsxError` that says which subclass it is and
whether the request had been handed to the transport when it was raised.
-/

namespace KefLsx

/-- The subclasses of `LsxError`. A rejection carries the speaker's status byte. -/
inductive LsxErrorType where
  | connectRefused
  | connectTimeout
  | responseTimeout
  | connectionLost
  | malformedResponse
  | commandRejected (status : UInt8)
  | clientClosed
  | queueBusy
  | ambiguousCommand
deriving DecidableEq

/-- `type(error).__name__`. -/
def LsxErrorType.name : LsxErrorType → String
  | .connectRefused => "ConnectRefusedError"
  | .connectTimeout => "ConnectTimeoutError"
  | .responseTimeout => "ResponseTimeoutError"
  | .connectionLost => "ConnectionLostError"
  | .malformedResponse => "MalformedResponseError"
  | .commandRejected _ => "CommandRejectedError"
  | .clientClosed => "ClientClosedError"
  | .queueBusy => "QueueBusyError"
  | .ambiguousCommand => "AmbiguousCommandError"

/-- An `LsxError` instance. -/
structure LsxError where
  type : LsxErrorType
  message : String
  writeAttempted : Bool := false
deriving DecidableEq

/-- `isinstance(err, CommandRejectedError)`. -/
def LsxError.isRejection (e : LsxError) : Bool :=
  match e.type with
  | .commandRejected _ => true
  | _ => false

/-- Two lower-case hexadecimal digits, as the format `02x` prints a byte. -/
def hexByte (b : UInt8) : String :=
  let digits := Nat.toDigits 16 b.toNat
  String.ofList (if digits.length < 2 then '0' :: digits else digits)

/-- `CommandRejectedError(status)`. -/
def LsxError.rejected (status : UInt8) : LsxError :=
  { type := .commandRejected status
    message := "Speaker rejected command with status 0x" ++ hexByte status }

end KefLsx
