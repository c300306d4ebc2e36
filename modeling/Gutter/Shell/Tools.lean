import Gutter.Shell.Tool.Cut
import Gutter.Shell.Tool.Edit
import Gutter.Shell.Tool.Environment
import Gutter.Shell.Tool.Formula
import Gutter.Shell.Tool.Grep
import Gutter.Shell.Tool.Lines
import Gutter.Shell.Tool.Listing
import Gutter.Shell.Tool.Output
import Gutter.Shell.Tool.Portion
import Gutter.Shell.Tool.Printf
import Gutter.Shell.Tool.Rules
import Gutter.Shell.Tool.Sort
import Gutter.Shell.Tool.Store
import Gutter.Shell.Tool.Transfer
import Gutter.Shell.Tool.Translate

/-!
# The programs by name
-/

namespace Gutter.Shell.Tool

/-- A program, unless there is none of the name or it is the shell. -/
def find? (name : String) : Option Tool :=
  match name with
  | "true" | "sleep" => some (constant 0)
  | "false" => some (constant 1)
  | "echo" => some echo
  | "yes" => some yes
  | "printf" => some printf
  | "printenv" => some printenv
  | "basename" => some basename
  | "dirname" => some dirname
  | "pwd" => some pwd
  | "seq" => some seq
  | "cat" => some cat
  | "tac" => some tac
  | "rev" => some rev
  | "nl" => some nl
  | "paste" => some paste
  | "fold" => some fold
  | "expand" => some expand
  | "unexpand" => some unexpand
  | "wc" => some wc
  | "head" => some head
  | "tail" => some tail
  | "sort" => some sort
  | "uniq" => some uniq
  | "comm" => some comm
  | "cut" => some cut
  | "tr" => some tr
  | "rm" => some rm
  | "rmdir" => some rmdir
  | "unlink" => some unlink
  | "mkdir" => some mkdir
  | "touch" => some touch
  | "ln" => some ln
  | "link" => some hardLink
  | "mktemp" => some mktemp
  | "tee" => some tee
  | "truncate" => some truncate
  | "chmod" => some chmod
  | "readlink" => some readlink
  | "realpath" => some realpath
  | "cp" => some cp
  | "mv" => some mv
  | "ls" => some ls
  | "grep" => some grep
  | "egrep" => some (grepAs "E")
  | "fgrep" => some (grepAs "F")
  | "sed" => some sed
  | "expr" => some expr
  | "env" => some env
  | "mawk" => some awk
  | _ => none

def writeFailure (name : String) : Nat :=
  if name ∈ ["ls", "sort", "printenv", "grep", "mawk"] then 2 else if name ∈ ["expr"] then 3 else 1

end Gutter.Shell.Tool
