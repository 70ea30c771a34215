import GpuHandles.Discovery
import GpuHandles.Signature
/-!
Questions about platforms and the library, asked by name.

Each question has a name and parameters; `Question.call` matches the arguments with
them and answers with a value.
-/

namespace GpuHandles.Discovery

/-- A question that a script can ask before anything is loaded. -/
inductive Question where
  | hasAmd
  | hasNvidia
  | defaultPlatform
  | validPlatform
  | candidates
  | find
  deriving Repr, DecidableEq

namespace Question

/-- Every question. -/
def all : List Question := [hasAmd, hasNvidia, defaultPlatform, validPlatform, candidates, find]

/-- The name that a question is asked by. -/
def name : Question → String
  | hasAmd => "is_amd_available"
  | hasNvidia => "is_nvidia_available"
  | defaultPlatform => "get_default_platform"
  | validPlatform => "validate_platform"
  | candidates => "library_candidates"
  | find => "find_library"

/-- The question with a name. -/
def ofName? (s : String) : Option Question := all.find? fun q => q.name == s

/-- What has to be given with a question. -/
def parameters : Question → List Parameter
  | hasAmd | hasNvidia | defaultPlatform => []
  | validPlatform => [.required "platform"]
  | candidates | find => [.optional "platform" .null]

/-- A question with its name and parameters. -/
def signature (q : Question) : Signature := .free q.name q.parameters

/-- The answer to a question about a platform. -/
def answer (platform : Value) : Question → Action Value
  | hasAmd => do return .truth (← Discovery.hasAmd)
  | hasNvidia => do return .truth (← Discovery.hasNvidia)
  | defaultPlatform => do return .text (← Discovery.defaultPlatform)
  | validPlatform => do return .text (← Discovery.validPlatform platform)
  | candidates => do return .list ((← Discovery.candidates platform).map .text)
  | find => do return .text (← Discovery.find platform)

/-- A question asked with arguments. -/
def call (q : Question) (positions : List Value) : Action Value := do
  let values ← Action.ofExcept (q.signature.bind positions [])
  q.answer (values.headD .null)

end Question
end GpuHandles.Discovery
