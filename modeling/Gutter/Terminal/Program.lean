import Gutter.Shell.Spawn
import Gutter.Terminal.Transcript

/-!
# The program on some files

Files make up a machine of their own: the programs on it are those of the shell, and the files that
are marked as programs.
-/

namespace Gutter

namespace Files

def machine (files : Files) : Machine where
  readText file := (files.readText Location.home file).mapError FileError.message
  start := Shell.Spawn.child files

instance : Coe Files Machine := ⟨machine⟩

end Files

end Gutter
