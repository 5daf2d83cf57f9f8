import TlsTranscript.Extension.Basic
import TlsTranscript.Message.Basic
import TlsTranscript.Settings.Basic

/-!
# Models

A model is a checked record that cannot change: a message, an extension, the
settings, or one of the two bare records that hold nothing. Every model has a
kind, and every kind has a name of its own.
-/

namespace TlsTranscript

/-- A checked record. -/
inductive Model where
  /-- A bare decoded structure. -/
  | parsed
  /-- A bare extension. -/
  | bareExtension
  /-- A record header or a message. -/
  | message (content : Message)
  /-- An extension. -/
  | extension (content : Extension)
  /-- Settings. -/
  | settings (content : Settings)
  deriving DecidableEq

/-- The kinds of models. -/
inductive ModelKind where
  /-- Bare decoded structures. -/
  | parsed
  /-- Bare extensions. -/
  | bareExtension
  /-- Messages of a kind. -/
  | message (kind : MessageKind)
  /-- Extensions of a kind. -/
  | extension (kind : ExtensionKind)
  /-- Settings. -/
  | settings
  deriving DecidableEq

namespace ModelKind

/-- Every kind of model. -/
def all : List ModelKind :=
  [.parsed, .bareExtension, .settings] ++ MessageKind.all.map .message ++
    ExtensionKind.all.map .extension

/-- The written name of a kind. -/
def name : ModelKind → String
  | .parsed => "Parsed"
  | .bareExtension => "ExtensionModel"
  | .message kind => kind.name
  | .extension kind => kind.name
  | .settings => "Settings"

/-- The kind with a written name. -/
def ofName? (name : String) : Option ModelKind :=
  all.find? fun kind => kind.name == name

end ModelKind

/-- The kind of a model. -/
def Model.kind : Model → ModelKind
  | .parsed => .parsed
  | .bareExtension => .bareExtension
  | .message content => .message content.kind
  | .extension content => .extension content.kind
  | .settings _ => .settings

end TlsTranscript
