/-
# Setting up a machine

A machine with the programs of the system, a directory to work in, and a keeper.
-/
import BotKeeper.Machine.Start
import BotKeeper.Machine.Tools

namespace BotKeeper

/-- The directories of the system and its programs. -/
def Disk.system : Disk :=
  let dirs : List (Place × Node) :=
    [(["bin"], .link "usr/bin"), (["dev"], .directory), (["dev", "null"], .null),
     (["etc"], .directory), (["proc"], .directory),
     (["proc", toString Machine.keeperPid], .directory),
     (["proc", toString Machine.keeperPid, "exe"], .program "keeper"), (["root"], .directory),
     (["sbin"], .link "usr/sbin"), (["tmp"], .directory), (["usr"], .directory),
     (["usr", "bin"], .directory), (["usr", "local"], .directory),
     (["usr", "local", "bin"], .directory), (["usr", "sbin"], .directory),
     (["var"], .directory), (["var", "tmp"], .directory)]
  ⟨dirs ++ Machine.systemTools.map fun tool => (["usr", "bin", tool], .program tool)⟩

/-- A disk with a file and the directories that lead to it. -/
def Disk.withFile (d : Disk) (path text : String) : Disk :=
  let dirs := (d.createDirAll [] ((Path.parent? path).getD "/")).toOption.getD d
  (dirs.write [] path (.text text)).toOption.getD dirs

/-- The search path of a system. -/
def Machine.systemPath : String :=
  "/usr/local/sbin:/usr/local/bin:/usr/sbin:/usr/bin:/sbin:/bin"

/-- A machine whose keeper works in a directory. -/
def Machine.ofDisk (disk : Disk) (keeperPlace : Place) (environment : List (String × String)) :
    Machine where
  disk
  nextPid := 2718400
  keeper := keeperPid
  keeperPlace
  environment

end BotKeeper
