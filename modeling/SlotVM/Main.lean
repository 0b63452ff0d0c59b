import SlotVM.Execute

namespace SlotVM.CommandLine

def usage : String :=
  "Usage: slotvm exec [--time] [--max-frames N] [--max-stack N] FILE\n       slotvm disasm FILE"

/-- What `exec` is asked to do. -/
structure Request where
  file : Option String := none
  time : Bool := false
  config : Config := {}

def Request.ofArgs? (r : Request) : List String → Option Request
  | [] => some r
  | "--time" :: rest => ofArgs? { r with time := true } rest
  | "--max-frames" :: n :: rest => do
    ofArgs? { r with config := { r.config with maxFrames := ← n.toNat? } } rest
  | "--max-stack" :: n :: rest => do
    ofArgs? { r with config := { r.config with maxStack := ← n.toNat? } } rest
  | file :: rest =>
    if r.file.isSome || file.startsWith "-" then none else ofArgs? { r with file := some file } rest

/-- The bytes of a file; a file that cannot be read is reported. -/
def read (file : String) : IO (Option (List UInt8)) := do
  try
    return some (← IO.FS.readBinFile file).toList
  catch e =>
    IO.eprintln s!"Error: Could not read file '{file}': {e}"
    return none

/-- Goes on with a run to its end, and prints what it prints on the way. -/
partial def finish (env : Setting) (printed : Nat) (p : Progress) : IO UInt32 := do
  match p.run env 4096 with
  | .running m =>
    for line in m.output.toList.drop printed do IO.println line
    finish env m.output.size (.running m)
  | .ended m outcome =>
    for line in m.output.toList.drop printed do IO.println line
    match outcome.report? with
    | none => return 0
    | some report =>
      IO.eprintln report
      return 1
  | .panicked _ =>
    IO.eprintln "capacity overflow"
    return 101

def exec (bytes : List UInt8) (config : Config) : IO UInt32 := do
  match Source.load (.ok bytes) config with
  | .error cause =>
    IO.eprintln cause.error.display
    return 1
  | .ok (code, vm) =>
    let env := vm.setting .none
    finish env 0 (Machine.start env vm.store code)

def disasm (bytes : List UInt8) : IO UInt32 := do
  match Source.disassemble (.ok bytes) with
  | .ok text =>
    IO.print text
    return 0
  | .error cause =>
    IO.eprintln cause.error.display
    return 1

end SlotVM.CommandLine

open SlotVM.CommandLine in
def main (args : List String) : IO UInt32 := do
  match args with
  | "exec" :: rest =>
    match Request.ofArgs? {} rest with
    | some { file := some file, time, config } =>
      let some bytes ← read file | return 1
      let start ← IO.monoMsNow
      let status ← exec bytes config
      if time then IO.eprintln s!"elapsed: {(← IO.monoMsNow) - start}ms"
      return status
    | _ =>
      IO.eprintln usage
      return 2
  | ["disasm", file] =>
    let some bytes ← read file | return 1
    disasm bytes
  | _ =>
    IO.eprintln usage
    return 2
