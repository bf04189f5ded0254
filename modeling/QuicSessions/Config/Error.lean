import QuicSessions.Failure
import QuicSessions.Json.Basic

/-!
# Errors in a configuration

What can be wrong with a configuration, in words that say what to do about it.
-/

set_option autoImplicit false

namespace QuicSessions

inductive ConfigError where
  | invalidAddress (address reason : String)
  | missingField (field suggestion : String)
  | invalidValue (field value reason suggestion : String)
  | fileNotFound (path : String)
  | io (e : IoError)
  | unreadable (fault : Json.Fault)
  deriving DecidableEq

namespace ConfigError

/-- A value that is zero and must not be. -/
def mustBePositive (field zero suggestion : String) : ConfigError :=
  invalidValue field zero "must be > 0" suggestion

/-- Why a text is no configuration. -/
def faultText : Json.Fault → String
  | .malformed => "invalid document"
  | .unsuitable => "invalid value"
  | .cut => "unexpected end of input"

/-- A configuration error in words. -/
def message : ConfigError → String
  | invalidAddress address reason => "Invalid address '" ++ address ++ "': " ++ reason
  | missingField field suggestion =>
    "Missing required field '" ++ field ++ "'\nSuggestion: " ++ suggestion
  | invalidValue field value reason suggestion =>
    "Invalid value for '" ++ field ++ "': " ++ value ++ "\nReason: " ++ reason ++
      "\nSuggestion: " ++ suggestion
  | fileNotFound path =>
    "File not found: '" ++ path ++ "'\nSuggestion: check the configuration path"
  | io e => "IO error: " ++ e.text
  | unreadable fault => "Parse error: " ++ faultText fault

/-- What the error is about. -/
def field : ConfigError → String
  | invalidAddress address _ => address
  | missingField field _ => field
  | invalidValue field _ _ _ => field
  | fileNotFound path => path
  | io _ => "io"
  | unreadable _ => "format"

end ConfigError

/-- A configuration error as callers of servers and clients see it. -/
def TransportError.ofConfig (e : ConfigError) : TransportError := configuration e.field e.message

end QuicSessions
