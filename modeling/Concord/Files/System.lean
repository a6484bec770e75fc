import Concord.Files

/-!
What every machine has: the usual directories, the device that takes everything, and the programs
that scripts are made of.
-/

namespace Concord.Files

/-- The directories in which programs are looked for. -/
def programDirectories : List Place :=
  [["usr", "local", "sbin"], ["usr", "local", "bin"], ["usr", "sbin"], ["usr", "bin"], ["sbin"],
    ["bin"]]

def directories : List Place :=
  [["bin"], ["boot"], ["dev"], ["etc"], ["home"], ["lib"], ["media"], ["mnt"], ["opt"], ["proc"],
    ["root"], ["run"], ["sbin"], ["srv"], ["sys"], ["tmp"], ["usr"], ["usr", "bin"],
    ["usr", "lib"], ["usr", "local"], ["usr", "local", "bin"], ["usr", "local", "sbin"],
    ["usr", "sbin"], ["usr", "share"], ["var"], ["var", "log"], ["var", "tmp"]]

/-- The files of a machine on which there are some programs. -/
def system (programs : List String) : Files :=
  ⟨directories.map (·, .directory) ++ [(["dev", "null"], .sink)] ++
    programs.flatMap fun name =>
      [(["bin", name], .program), (["usr", "bin", name], .program)]⟩

end Concord.Files
