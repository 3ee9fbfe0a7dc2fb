import DriverHub.Config.Basic
import DriverHub.Text.Bytes

/-!
Configurations from texts and files. A text is read by a reader of its own: it takes the text for a
table of keys and values, and such a table for a configuration. What the reader makes of the text is
then checked like any other configuration.
-/
namespace DriverHub.Config

/-- The settings a configuration text can give. -/
inductive Setting where
  | maxDrivers
  | sendDepth
  | receiveDepth
  | spareRequests
deriving DecidableEq

def Setting.key : Setting → String
  | .maxDrivers => "max_drivers"
  | .sendDepth => "sendq_min"
  | .receiveDepth => "recvq_max"
  | .spareRequests => "spare_requests"

def Setting.all : List Setting := [.maxDrivers, .sendDepth, .receiveDepth, .spareRequests]

def Setting.ofKey? (key : String) : Option Setting :=
  Setting.all.find? fun setting => setting.key = key

def set (config : Config) (setting : Setting) (value : UInt64) : Config :=
  match setting with
  | .maxDrivers => { config with maxDrivers := value }
  | .sendDepth => { config with sendDepth := value }
  | .receiveDepth => { config with receiveDepth := value }
  | .spareRequests => { config with spareRequests := value }

def get (config : Config) : Setting → UInt64
  | .maxDrivers => config.maxDrivers
  | .sendDepth => config.sendDepth
  | .receiveDepth => config.receiveDepth
  | .spareRequests => config.spareRequests

/-- A value in a table. -/
inductive Value where
  | integer (number : Int)
  -- A value of another kind; what it is plays no part, since no setting takes it.
  | other
deriving DecidableEq

/-- A reader of configuration texts. -/
structure Reader where
  -- The keys and values of a text, if it is well-formed.
  table? : String → Option (List (String × Value))
  -- The configuration that a table gives, if it is one.
  config? : List (String × Value) → Option Config

/-- Why a configuration could not be had from a text or a file. -/
inductive ReadError where
  -- The file is missing, or is no text.
  | unreadable
  -- The file's text is no configuration.
  | malformedFile
  -- The text is no configuration.
  | malformedText
  -- The configuration is refused.
  | refused (fault : CapacityFault)
deriving DecidableEq

namespace Reader

/-- What a text is read as. -/
def read? (reader : Reader) (text : String) : Option Config :=
  (reader.table? text).bind reader.config?

/-- The configuration a text gives, if it is one and it is valid. `malformed` is the error for a
text that gives none. -/
def ofTextOr (reader : Reader) (malformed : ReadError) (text : String) : Except ReadError Config :=
  match reader.read? text with
  | none => .error malformed
  | some config => config.validated.mapError .refused

def ofText (reader : Reader) (text : String) : Except ReadError Config :=
  reader.ofTextOr .malformedText text

/-- The configuration in a file, given the file's content if it could be had. -/
def ofFile (reader : Reader) (content? : Option (List UInt8)) : Except ReadError Config :=
  match content?.bind Bytes.text? with
  | none => .error .unreadable
  | some text => reader.ofTextOr .malformedFile text

end Reader
end DriverHub.Config
