import QuicSessions.Config.Error
import QuicSessions.Files
import QuicSessions.Json.Decode
import QuicSessions.Json.Printer
import QuicSessions.Json.Reader

/-!
# Configurations

What servers and clients have in common about their configurations: each is a record of which every
field has a default value, it is read from a text or a file, and it has to pass a check.
-/

set_option autoImplicit false

namespace QuicSessions

/-- A kind of configuration. -/
class Configuration (α : Type) where
  /-- The values of fields that are not given. -/
  missing : α
  /-- The fields in their order. -/
  fields : List (Json.Field α)
  /-- The check that a configuration has to pass. -/
  validate : α → Except ConfigError Unit
  toJson : α → Json

namespace Configuration

variable {α : Type} [Configuration α]

/-- Passes on a configuration that passes the check. -/
def build (c : α) : Except ConfigError α := do
  validate c
  return c

/-- The configuration that a document describes, without the check. -/
def ofJson (j : Json) : Except Json.Fault α := j.decodeRecord fields missing

/-- The configuration that a text describes, without the check. Nothing else may follow it. -/
def parse (text : String) : Except Json.Fault α := do
  let (j, more) := Json.read text
  let c ← ofJson j
  if more then throw .malformed
  return c

/-- The configuration that a text describes. -/
def ofText (text : String) : Except ConfigError α := do
  match parse text with
  | .ok c => build c
  | .error fault => throw (.unreadable fault)

/-- The configuration that a file describes. -/
def ofFile (files : Files) (path : String) : Except ConfigError α := do
  if !(files path).isFound then throw (.fileNotFound path)
  match (files path).readText with
  | .ok text => ofText text
  | .error e => throw (.io e)

/-- A configuration as a text. -/
def render (c : α) : String := (toJson c).render

end Configuration

/-- A duration as a document. -/
def Duration.toJson (d : Duration) : Json :=
  .record [("secs", .natural d.secs), ("nanos", .natural d.nanos.toUInt64)]

/-- An address as a document. -/
def SocketAddress.toJson (a : SocketAddress) : Json := .string a.render

end QuicSessions
