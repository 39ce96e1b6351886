import ArenaChain.Demo

/-!
# Command line

Runs the demonstration.  The environment variable `NEXUS_LOG` names the threshold of
the log, which is `info` if the variable is not set or names none.
-/

open ArenaChain

/-- Print the demonstration, and tell by the exit code whether it succeeded. -/
def main : IO UInt32 := do
  let setting := (← IO.getEnv "NEXUS_LOG").bind Log.Threshold.ofName?
  for line in Demo.transcript.lines (setting.getD (.downTo .info)) do
    IO.println line
  return if Demo.transcript.succeeded then 0 else 1
