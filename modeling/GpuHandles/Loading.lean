import GpuHandles.Discovery
/-!
The installed library and the calls that go through it.

The library is found and loaded when it is first needed; an attempt that fails
leaves nothing behind and is made again the next time.  A loaded library is asked
for each entry point once, and remembers those it found.  `invoke` hands a call to
the machine: through a loaded library the arguments pass the declared parameter
types, and so does the code on its way back.
-/

namespace GpuHandles.Loading

/-- A library file opened, whether or not it was looked for. -/
def openFile (path : String) : Action Library := do
  Action.record (.load (some path))
  if (← get).host.unloadable.contains path then throw (.unloadable path)
  else return .loaded (some path) []

/-- A library loaded from a path, or from where one is found. -/
def load (path : Option String) : Action Library := do
  let path ← match path with
    | some p => pure p
    | none => Discovery.find .null
  Action.write .debug .library ("Loading HIP runtime from " ++ path)
  openFile path

/-- A library put in place of the installed one; none makes the next use load one. -/
def install (library : Option Library) : Action Unit :=
  modify fun w => { w with library := library }

/-- The installed library, loaded on first use. -/
def library : Action Library := do
  match (← get).library with
  | some l => return l
  | none =>
    let l ← load none
    install (some l)
    return l

/-- The installed library, once it is known to have an entry point. -/
def resolve (e : EntryPoint) : Action Library := do
  let l ← library
  let absent := (← get).machine.missing.contains e.name
  match l with
  | .direct => if absent then throw (.undefinedSymbol e.name) else return l
  | .loaded path found =>
    if found.contains e then return l
    else
      Action.record (.resolve e)
      if absent then throw (.undefinedSymbol e.name)
      else
        install (some (.loaded path (found ++ [e])))
        return l

/-- An entry point looked up by its symbol. -/
def symbol (name : String) : Action Unit := do
  let l ← library
  match EntryPoint.ofName? name, l with
  | some e, _ => discard (resolve e)
  | none, .direct => throw (.undefinedSymbol name)
  | none, .loaded .. => throw (.undeclaredSymbol name)

/-- A call as it arrives on the other side of a library. -/
def arriving : Library → NativeCall → Except Fault NativeCall
  | .direct, c => .ok c
  | .loaded .., c => c.narrow

/-- A code as it comes back through a library. -/
def returning : Library → Int → Int
  | .direct, code => code
  | .loaded .., code => Width.int32 code

/-- A call through a library: the code that came back, and what was stored. -/
def invoke (l : Library) (c : NativeCall) : Action (Int × Output) := do
  let arrived ← Action.ofExcept (arriving l c)
  let (reply, machine) := (← get).machine.call arrived
  modify fun w => { w with machine := machine }
  match reply with
  | .fault f => throw f
  | .code code out =>
    Action.record (.call arrived code)
    return (returning l code, out)

/-- A code that is not success ends the action. -/
def check (code : Int) : Action Unit := if code = 0 then pure () else throw (.ofCode code)

/-- A call of the entry point that it names, with its code checked. -/
def request (c : NativeCall) : Action Output := do
  let l ← resolve c.entryPoint
  let (code, out) ← invoke l c
  check code
  return out

end GpuHandles.Loading
