import PipeArrow.CommandLine

open PipeArrow.CommandLine

def PipeArrow.CommandLine.Stored.load (name : String) : IO Stored := do
  try return .bytes (← IO.FS.readBinFile name)
  catch
    | .inappropriateType .. => return .directory
    | _ => return .missing

def main (arguments : List String) : IO UInt32 := do
  let stored ← (filesOf arguments).mapM fun name => return (name, ← Stored.load name)
  let answer := respond arguments fun name => (stored.lookup name).getD .missing
  (← IO.getStdout).putStr answer.stdout
  (← IO.getStderr).putStr answer.stderr
  return answer.code.toUInt32
