import Router.Config.Reader
import Router.Hex
import Router.Replay

/-!
# The command line

Two commands: `validate` prints what is wrong with a configuration file, `replay` runs a capture through the router of
one. Each is a function from the contents of its files to what is printed.
-/

namespace Router.Cli

/-- What a command prints and the code it ends with. -/
structure Outcome where
  code : Nat
  stdout : List String
  stderr : List String
  deriving DecidableEq, Repr

/-- The content of a file, or why there is none. -/
abbrev FileContent := Except FileFault ByteArray

/-- A command that fails after printing some lines. -/
def failing (stdout : List String) (message : String) : Outcome :=
  ⟨1, stdout, [s!"[ERROR] {message}"]⟩

/-- Prints the remarks and defects of a configuration; it fails if there are defects. -/
def validate (path : String) (content : FileContent) : Outcome :=
  match Config.ofFile .plain content with
  | .error e => failing [] e.message
  | .ok c =>
    let lines := c.remarks.map (fun r => s!"[WARN] {r.message}") ++ c.defects.map fun d => s!"[ERROR] {d.message}"
    if c.defects = [] then ⟨0, lines ++ [s!"{path} is valid ({c.remarks.length} warning(s))"], []⟩
    else failing lines s!"{path} has {c.defects.length} error(s)"

/-- The text of a file, or the wording of why it cannot be read. -/
def text (path : String) (content : FileContent) : Except String String :=
  match content with
  | .error fault => .error s!"Failed to read {path}: {fault.message}"
  | .ok bytes =>
    match String.fromUTF8? bytes with
    | some s => .ok s
    | none => .error s!"Failed to read {path}: {FileFault.notText.message}"

/-- The report of a replay, or the wording of why there is none. -/
def replayReport (config : FileContent) (inputPath : String) (input : FileContent) (ingress : String) :
    Except String (List String) := do
  let c ← (Config.ofFile .plain config).mapError Error.message
  let settings ← c.compile.mapError Error.message
  let text ← text inputPath input
  let capture ← (Capture.ofText Hex.read ingress text).mapError Error.message
  let r ← (Replay.run (settings.toPlane 0) c.plane.batchInForce.toNat capture).mapError Error.message
  return r.report

/-- Runs a capture through the router of a configuration and prints the report. -/
def replay (config : FileContent) (inputPath : String) (input : FileContent) (ingress : String) : Outcome :=
  match replayReport config inputPath input ingress with
  | .ok lines => ⟨0, lines, []⟩
  | .error message => failing [] message

/-! ## Arguments -/

/-- A command with the files it reads. -/
inductive Command
  | validate (config : String)
  | replay (config input ingress : String)
  deriving DecidableEq, Repr

/-- The options of a command line. -/
structure Options where
  config : String
  input : Option String
  ingress : String
  deriving DecidableEq, Repr

/-- The options where none were given. -/
def Options.default : Options :=
  ⟨"config.toml", none, "eth0"⟩

/-- Reads options, each with its value after it. -/
def options? (o : Options) : List String → Option Options
  | [] => some o
  | [_] => none
  | name :: value :: rest =>
    if name = "--config" ∨ name = "-c" then options? { o with config := value } rest
    else if name = "--input" ∨ name = "-i" then options? { o with input := some value } rest
    else if name = "--ingress" then options? { o with ingress := value } rest
    else none

/-- The command of a command line. -/
def command? : List String → Option Command
  | "validate" :: rest => do
    let o ← options? .default rest
    if o.input.isSome ∨ o.ingress ≠ Options.default.ingress then none else return .validate o.config
  | "replay" :: rest => do
    let o ← options? .default rest
    let input ← o.input
    return .replay o.config input o.ingress
  | _ => none

end Router.Cli
