import DeviceOnboard.Schema.Definition

/-!
# The printer of definitions

Prints the definitions of all resources of servers.
-/

def main : IO Unit := IO.print DeviceOnboard.Schema.definitionsText
