import GpuHandles.Machine.Snapshot
import GpuHandles.Ownership
/-!
What a script is shown of a result.

An answer is taken before anything is given up, so a resource is shown in the
state in which the operation left it.
-/

namespace GpuHandles.Script

/-- A result as it is shown. -/
inductive Answer where
  | null
  | truth (b : Bool)
  | int (n : Int)
  | float (text : String)
  | text (s : String)
  | list (items : List Answer)
  /-- numbers that belong together, and their text -/
  | parts (numbers : List Number) (text : String)
  | device (id : Answer) (shown : String)
  | uuid (text : String)
  | status (name word : String)
  | handle (a : Address)
  | array (typeName : String) (shape : List Nat) (bytes : Text.Digest)
  /-- the printed form of an object -/
  | object (shown : String)
  | library (shown : String)
  | snapshot (s : Snapshot)
  deriving Inhabited

namespace Answer

/-- A number as it is shown. -/
def ofNumber : Number → Answer
  | .int n => .int n
  | .truth b => .truth b
  | .real x => .float (x.text .double)
  | .complex x y => .object ((Value.scalar .complex128 .usual (.complex x y)).shown Value.nameless)

mutual
/-- A value as it is shown. -/
def ofValue (w : World) : Value → Answer
  | .null => .null
  | .truth b => .truth b
  | .int n => .int n
  | .float x => .float (x.text .double)
  | .text s => .text s
  | .list items => .list (ofValues w items)
  | .tuple items => .list (ofValues w items)
  | .scalar t c n =>
    match n with
    | .complex .. => .object ((Value.scalar t c n).shown w.name)
    | n => if t == .float64 then .float ((Value.scalar t c n).shown w.name) else ofNumber n
  | .array a => .array a.type.name a.shape (Text.Digest.ofBytes a.bytes)
  | .device id => .device (ofValue w id) ((Value.device id).shown w.name)
  | .member _ ⟨_, .number n⟩ => .int n
  | .member _ ⟨name, .word s⟩ => .status (name.getD "") s
  | .poolProps a b c d e => .object ((Value.poolProps a b c d e).shown w.name)
  | .handle id _ => .object (w.name id)
  | .address a => .handle a
  | .version t ps => .parts (ps.map Prod.snd) ((Value.version t ps).plain w.name)
  | .uuid bs => .uuid (Value.uuidText bs)
  | .library l => .library ((Value.library l).shown w.name)

/-- Several values as they are shown. -/
def ofValues (w : World) : List Value → List Answer
  | [] => []
  | v :: vs => ofValue w v :: ofValues w vs
end

/-- How far a pool was trimmed last in a history. -/
def lastTrim (events : List Event) (pool : Nat) : Option Value :=
  events.foldl
    (fun last e =>
      match e with
      | .call (.poolTrim (some h) keep) 0 => if h = pool then some keep else last
      | _ => last)
    none

/-- An answer as it is written into the report.  A snapshot says which pools there were
at its time; how far each was trimmed is shown as it stood in the end. -/
def settled (events : List Event) : Answer → Answer
  | .snapshot s =>
    .snapshot
      { s with pools := s.pools.map fun p => { p with trimmedTo := lastTrim events p.handle } }
  | a => a

end Answer
end GpuHandles.Script
