import StringChain.Demo
import StringChain.Log.Filter

open StringChain

def main : IO UInt32 := do
  let filter := Log.Filter.ofSetting (← IO.getEnv "RUST_LOG")
  match Demo.run with
  | .ok report =>
    for record in report.records do
      if filter.shows record then
        IO.eprintln record.line
    IO.print report.output
    for complaint in report.complaint do
      IO.eprintln ("Error: " ++ complaint)
    return report.exitCode
  | .error _ => return 1
