import GpuHandles.Text.IntegerLiteral
/-!
Status codes of the runtime.

Every native call answers with a code.  `Kind.ofCode` sorts codes into the kinds
that have a name; a code without one is `unknown`, and stays visible in the error
that carries it.  A failure is made with a text, so a code that cannot be written
needs words of its own.
-/

namespace GpuHandles.Status

/-- The kinds of status that have a name. -/
inductive Kind where
  | success
  | invalidValue
  | outOfMemory
  | notInitialized
  | deinitialized
  | noDevice
  | invalidDevice
  | fileNotFound
  | invalidHandle
  | notReady
  | notSupported
  | unknown
  deriving Repr, DecidableEq

namespace Kind

/-- Every kind, by rising code. -/
def all : List Kind :=
  [success, invalidValue, outOfMemory, notInitialized, deinitialized, noDevice, invalidDevice,
    fileNotFound, invalidHandle, notReady, notSupported, unknown]

/-- The code of a kind. -/
def code : Kind → Int
  | success => 0
  | invalidValue => 1
  | outOfMemory => 2
  | notInitialized => 3
  | deinitialized => 4
  | noDevice => 100
  | invalidDevice => 101
  | fileNotFound => 301
  | invalidHandle => 400
  | notReady => 600
  | notSupported => 801
  | unknown => 999

/-- The name of a kind. -/
def name : Kind → String
  | success => "SUCCESS"
  | invalidValue => "INVALID_VALUE"
  | outOfMemory => "OUT_OF_MEMORY"
  | notInitialized => "NOT_INITIALIZED"
  | deinitialized => "DEINITIALIZED"
  | noDevice => "NO_DEVICE"
  | invalidDevice => "INVALID_DEVICE"
  | fileNotFound => "FILE_NOT_FOUND"
  | invalidHandle => "INVALID_HANDLE"
  | notReady => "NOT_READY"
  | notSupported => "NOT_SUPPORTED"
  | unknown => "UNKNOWN"

/-- The name as one word, as it stands in messages. -/
def label : Kind → String
  | success => "Success"
  | invalidValue => "InvalidValue"
  | outOfMemory => "OutOfMemory"
  | notInitialized => "NotInitialized"
  | deinitialized => "Deinitialized"
  | noDevice => "NoDevice"
  | invalidDevice => "InvalidDevice"
  | fileNotFound => "FileNotFound"
  | invalidHandle => "InvalidHandle"
  | notReady => "NotReady"
  | notSupported => "NotSupported"
  | unknown => "Unknown"

/-- The kind of a code. -/
def ofCode (n : Int) : Kind := (all.find? fun k => k.code == n).getD unknown

/-- The kind with a name. -/
def ofName? (s : String) : Option Kind := all.find? fun k => k.name == s

end Kind

/-- A failure that a status code stands for: the code, and the text it is shown with. -/
structure Failure where
  code : Int
  text : String
  deriving Repr, DecidableEq

namespace Failure

/-- The kind of the code. -/
def kind (f : Failure) : Kind := Kind.ofCode f.code

/-- A sentence about a code in its digits. -/
def sentence (kind : Kind) (digits : String) : String :=
  "HIP status: " ++ kind.label ++ " (code: " ++ digits ++ ")"

/-- The text of a failure that has no words of its own, if its code can be written. -/
def defaultText? (code : Int) : Option String :=
  (Text.written? code).map (sentence (Kind.ofCode code))

/-- The failure of a code, with words of its own if there are any. -/
def ofCode? (code : Int) (words : Option String) : Option Failure :=
  (words.or (defaultText? code)).map fun text => ⟨code, text⟩

/-- A failure found before any native call.  The code of a kind can be written. -/
def ofKind (kind : Kind) (words : Option String) : Failure :=
  ⟨kind.code, words.getD (sentence kind (toString kind.code))⟩

/-- The printed form that names kind and code, if the code can be written. -/
def shown? (f : Failure) : Option String :=
  (Text.written? f.code).map fun digits =>
    "HipError(kind=" ++ f.kind.name ++ ", code=" ++ digits ++ ")"

/-- What is stored of a failure when it leaves the process: code and text. -/
def stored (f : Failure) : Int × String := (f.code, f.text)

/-- A failure made again from what was stored. -/
def restored? (p : Int × String) : Option Failure := ofCode? p.1 (some p.2)

end Failure
end GpuHandles.Status
