import PatternAutomata.Demo

/-!
# Command line

Prints the report on the expressions that are given as arguments.
-/

def main (args : List String) : IO UInt32 := do
  IO.print (PatternAutomata.Demo.report args)
  return 0
