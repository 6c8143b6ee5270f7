import InterfaceDiscovery.Command.Run

open InterfaceDiscovery

def main (args : List String) : IO UInt32 := do
  let mut env : Environment := {}
  for name in [Settings.skipVariable, Settings.hostnameVariable, Settings.levelVariable] do
    env := env.set name (← IO.getEnv name)
  let level := (env.get? Settings.levelVariable).getD "INFO"
  let (logger, _) := ({} : Logger).configure level (.stream 2) true false none
  let service : Service := { backend := .host {}, env }
  let (_, transcript, records) := service.runLine args
  IO.print transcript.stdout
  IO.eprint transcript.stderr
  for record in records do
    for write in logger.emit record do
      IO.eprint write.text
  return transcript.exitCode.toUInt32
