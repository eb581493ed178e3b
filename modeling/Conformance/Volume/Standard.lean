/-
# A usual system

The volume that a program finds on a usual system, before it has made any files: the directories
that every system has, the devices, and the directory in which a program finds its own streams and
its current directory.
-/
import Conformance.Volume

namespace Conformance.Volume

/-- Directories that every system has. -/
def standardDirectories : List (List String) :=
  [["boot"], ["dev"], ["dev", "mqueue"], ["dev", "pts"], ["dev", "shm"], ["etc"], ["home"],
   ["media"], ["mnt"], ["opt"], ["root"], ["run"], ["run", "lock"], ["srv"], ["sys"], ["tmp"],
   ["usr"], ["usr", "bin"], ["usr", "games"], ["usr", "include"], ["usr", "lib"],
   ["usr", "lib64"], ["usr", "libexec"], ["usr", "local"], ["usr", "local", "bin"],
   ["usr", "local", "etc"], ["usr", "local", "include"], ["usr", "local", "lib"],
   ["usr", "local", "sbin"], ["usr", "local", "share"], ["usr", "local", "src"],
   ["usr", "sbin"], ["usr", "share"], ["usr", "src"], ["var"], ["var", "cache"],
   ["var", "lib"], ["var", "local"], ["var", "log"], ["var", "mail"], ["var", "opt"],
   ["var", "spool"], ["var", "tmp"]]

/-- Files that every system has. -/
def standardFiles : List (List String) :=
  [["etc", "group"], ["etc", "hostname"], ["etc", "hosts"], ["etc", "passwd"],
   ["etc", "profile"], ["etc", "resolv.conf"], ["etc", "shadow"], ["etc", "shells"],
   ["usr", "bin", "cat"], ["usr", "bin", "env"], ["usr", "bin", "ls"], ["usr", "bin", "sh"],
   ["usr", "bin", "true"]]

/-- Links from where directories once were to where they are. -/
def standardLinks : List (List String × Node) :=
  [(["bin"], .link ["usr", "bin"]), (["lib"], .link ["usr", "lib"]),
   (["lib64"], .link ["usr", "lib64"]), (["sbin"], .link ["usr", "sbin"]),
   (["var", "lock"], .link ["run", "lock"]), (["var", "run"], .link ["run"])]

/-- Devices. -/
def devices : List (List String × Node) :=
  [(["dev", "full"], .refusing .noSpace), (["dev", "null"], .sinkhole),
   (["dev", "random"], .sinkhole), (["dev", "tty"], .closed .noDevice),
   (["dev", "urandom"], .sinkhole), (["dev", "zero"], .sinkhole)]

/-- Where a program finds its streams. -/
def streamDirectory : List String := ["proc", "self", "fd"]

/-- The streams by number, and links to them by name. -/
def streams : List (List String × Node) :=
  [(streamDirectory ++ ["0"], .stream .input), (streamDirectory ++ ["1"], .stream .output),
   (streamDirectory ++ ["2"], .stream .console), (["dev", "fd"], .link streamDirectory),
   (["dev", "stdin"], .link (streamDirectory ++ ["0"])),
   (["dev", "stdout"], .link (streamDirectory ++ ["1"])),
   (["dev", "stderr"], .link (streamDirectory ++ ["2"]))]

/-- What a program in a directory finds about itself. -/
def processNodes (current : List String) : List (List String × Node) :=
  [(["proc"], .fixedDirectory), (["proc", "self"], .fixedDirectory),
   (streamDirectory, .fixedDirectory), (["proc", "self", "cwd"], .link current),
   (["proc", "self", "exe"], .closed .busy), (["proc", "self", "root"], .link []),
   (["proc", "sys"], .fixedDirectory)]

/-- The volume of a usual system for a program in a directory, which is made if it is not there. -/
def standard (current : List String) : Volume :=
  let nodes := standardDirectories.map (·, .directory) ++ standardFiles.map (·, .file [])
    ++ standardLinks ++ devices ++ streams ++ processNodes current
  ({ nodes, current } : Volume).makeDirectories [] current

end Conformance.Volume
