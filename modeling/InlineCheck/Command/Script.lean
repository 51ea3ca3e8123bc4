import InlineCheck.Project.FileTree

/-! # Scripts

Running a script: steps as they are, and the text of a program by the interpreter at hand.
-/

namespace InlineCheck.Script

def run (env : Setting) : File → State → Except Raised Unit × State
  | .script steps, s => runAll env steps s
  | file, s => env.interpret env.logging file.read s

end InlineCheck.Script
