/-!
# What can go wrong

Every failure of the router is one of these causes; `Error.message` is its wording.
-/

namespace Router

/-- Why a file could not be read. -/
inductive FileFault
  /-- There is no such file. -/
  | missing
  /-- Its octets are not UTF-8 text. -/
  | notText
  /-- Some other reason, in words. -/
  | other (reason : String)
  deriving DecidableEq, Repr

/-- The wording of a file fault. -/
def FileFault.message : FileFault → String
  | .missing => "No such file or directory (os error 2)"
  | .notText => "stream did not contain valid UTF-8"
  | .other reason => reason

/-- Why a configuration is refused. -/
inductive ConfigFault
  /-- The text is no TOML document, or a value in it has the wrong shape; why, in words. -/
  | document (reason : String)
  /-- Entries that do not convert, one message each. -/
  | entries (messages : List String)
  deriving DecidableEq, Repr

/-- The wording of a configuration fault. -/
def ConfigFault.message : ConfigFault → String
  | .document reason => reason
  | .entries messages => "; ".intercalate messages

/-- Why a piece of input cannot be read. -/
inductive Malformed
  /-- An IPv4 header that claims fewer than five 32-bit words. -/
  | headerWords (words : Nat)
  /-- A line of a capture that is not hexadecimal, and why, in words; lines count from 1. -/
  | captureLine (number : Nat) (reason : String)
  /-- A state document that cannot be written or read, and why, in words. -/
  | document (reason : String)
  /-- Some other reason, in words. -/
  | other (reason : String)
  deriving DecidableEq, Repr

/-- The wording of a reading fault. -/
def Malformed.message : Malformed → String
  | .headerWords words => s!"IPv4 IHL {words} below minimum"
  | .captureLine number reason => s!"line {number}: {reason}"
  | .document reason => reason
  | .other reason => reason

/-- A failure of the router. -/
inductive Error
  /-- A file or device failed. -/
  | file (fault : FileFault)
  /-- The configuration is refused. -/
  | config (fault : ConfigFault)
  /-- A piece of input cannot be read. -/
  | malformed (fault : Malformed)
  /-- A header needs more octets than there are. -/
  | packetTooShort (needed actual : Nat)
  /-- The datagram is of neither IP version. -/
  | unsupportedVersion (version : Nat)
  /-- A traffic class of that name exists. -/
  | duplicateClass (name : String)
  /-- No more packets will arrive. -/
  | closed
  deriving DecidableEq, Repr

/-- The wording of a failure. -/
def Error.message : Error → String
  | .file fault => s!"I/O error: {fault.message}"
  | .config fault => s!"config error: {fault.message}"
  | .malformed fault => s!"parse error: {fault.message}"
  | .packetTooShort needed actual => s!"packet too short: need {needed} bytes, have {actual}"
  | .unsupportedVersion version => s!"unsupported IP version {version}"
  | .duplicateClass name => s!"QoS class {name} already exists"
  | .closed => "packet source closed"

end Router
