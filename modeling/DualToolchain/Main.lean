import DualToolchain.Program

/-! The outer layer of the command line program. It passes on the arguments and the variables of
the settings. It sees no files and starts no processes: a launch fails as a call that the system
does not have. Listing the targets, checking a command line and dry runs need neither. -/

open DualToolchain

def settingVariables : IO Environment := do
  let names : List SettingName :=
    [.program, .pinned, .stable, .projectDir, .receiptDir, .capture, .logLevel]
  names.filterMapM fun name => do
    return (← IO.getEnv name.envKey).map (name.envKey, ·)

/-- The answer to every launch: a run stops at the first one. -/
def noProcesses : List ProcessRun :=
  [⟨.failed (.system 38 "Function not implemented" none), 0, 0⟩]

def main (args : List String) : IO UInt32 := do
  let world : World := ⟨← settingVariables, FileTree.empty, noProcesses, false, fun _ => 0⟩
  let result := Program.run world args
  (← IO.getStdout).write ⟨result.stdout.toArray⟩
  (← IO.getStderr).write ⟨result.stderr.toArray⟩
  match result.ending with
  | .returned code | .exited code => return (code % 256).toNat.toUInt32
  | .fault fault =>
    (← IO.getStderr).putStrLn fault.message
    return 1
