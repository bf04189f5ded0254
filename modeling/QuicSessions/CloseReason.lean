import QuicSessions.Text.Utf8

/-!
# Why connections end

`ConnectionError` lists the causes for which the engine gives a connection up, `CloseReason` what
sessions report to their visitors. `CloseReason.ofConnectionError` classifies the first by the
second: an application close with code zero is the normal one whatever text came with it.
-/

set_option autoImplicit false

namespace QuicSessions

/-- Codes that this layer sends in close, reset and stop frames. -/
inductive AppCode where
  | noError
  | internalError
  /-- The peer used a stream identifier that belongs to the other side. -/
  | invalidStreamId
  | streamRefused
  | handshakeTimeout
  | serverShutdown
  deriving DecidableEq

def AppCode.value : AppCode → UInt32
  | noError => 0
  | internalError => 1
  | invalidStreamId => 2
  | streamRefused => 3
  | handshakeTimeout => 4
  | serverShutdown => 5

/-- The engine's own reasons for aborting a connection. -/
inductive TransportCode where
  | noError
  | internalError
  | connectionRefused
  | flowControlError
  | streamLimitError
  | streamStateError
  | finalSizeError
  | protocolViolation
  | applicationError
  /-- The handshake failed with a TLS alert. -/
  | crypto (alert : Nat)
  deriving DecidableEq

/-- What a transport code says. -/
def TransportCode.text : TransportCode → String
  | noError => "the connection is being closed abruptly in the absence of any error"
  | internalError =>
    "the endpoint encountered an internal error and cannot continue with the connection"
  | connectionRefused => "the server refused to accept a new connection"
  | flowControlError => "received more data than permitted in advertised data limits"
  | streamLimitError =>
    "received a frame for a stream identifier that exceeded advertised the stream limit " ++
      "for the corresponding stream type"
  | streamStateError =>
    "received a frame for a stream that was not in a state that permitted that frame"
  | finalSizeError =>
    "received a STREAM frame or a RESET_STREAM frame containing a different final size to the " ++
      "one already established"
  | protocolViolation =>
    "detected an error with protocol compliance that was not covered by more specific error codes"
  | applicationError =>
    "the application or application protocol caused the connection to be closed during the " ++
      "handshake"
  | crypto alert => "the cryptographic handshake failed: error " ++ toString alert

/-- Why the engine gave up a connection. -/
inductive ConnectionError where
  | timedOut
  | locallyClosed
  | reset
  | versionMismatch
  | cidsExhausted
  /-- The peer's application closed with a code and a reason. -/
  | applicationClosed (code : Nat) (reason : Bytes)
  /-- The peer's engine aborted the connection. -/
  | connectionClosed (code : TransportCode) (reason : Bytes)
  /-- This engine found the peer at fault. -/
  | transport (code : TransportCode) (reason : String)
  deriving DecidableEq

/-- A text, with a remark after a colon unless the remark is empty. -/
def withRemark (text remark : String) : String :=
  if remark.isEmpty then text else text ++ ": " ++ remark

/-- A connection error in words. -/
def ConnectionError.message : ConnectionError → String
  | timedOut => "timed out"
  | locallyClosed => "closed"
  | reset => "reset by peer"
  | versionMismatch => "peer doesn't implement any supported version"
  | cidsExhausted => "CIDs exhausted"
  | applicationClosed code reason =>
    if reason.isEmpty then "closed by peer: " ++ toString code
    else
      "closed by peer: " ++ Utf8.decodeLossy reason ++ " (code " ++ toString code ++ ")"
  | connectionClosed code reason =>
    "aborted by peer: " ++ withRemark code.text (Utf8.decodeLossy reason)
  | transport code reason => withRemark code.text reason

/-- Why a session ended, as its visitors are told. -/
inductive CloseReason where
  | normal
  | timeout
  | error (text : String)
  | forced
  | application (code : Nat) (reason : String)
  deriving DecidableEq, Inhabited

namespace CloseReason

/-- The reason reported for a connection that the engine lost. -/
def ofConnectionError : ConnectionError → CloseReason
  | .timedOut => timeout
  | .locallyClosed => normal
  | .reset => forced
  | .applicationClosed code reason =>
    if code = 0 then normal else application code (Utf8.decodeLossy reason)
  | e => error e.message

/-- The reason reported for a close that this side asks for. -/
def ofLocalClose (code : UInt32) (reason : String) : CloseReason :=
  if code = AppCode.noError.value then normal else application code.toNat reason

def isNormal : CloseReason → Bool
  | normal => true
  | _ => false

/-- A close reason in words. -/
def display : CloseReason → String
  | normal => "normal"
  | timeout => "timeout"
  | error text => "error: " ++ text
  | forced => "forced"
  | application code reason =>
    "application error 0x" ++ String.ofList (Nat.toDigits 16 code) ++ ": " ++ reason

end CloseReason

end QuicSessions
