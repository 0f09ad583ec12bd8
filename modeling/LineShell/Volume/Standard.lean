import LineShell.Volume.Writing

/-!
The volume that a fresh machine has: the script interpreter at `/bin/sh`, the
devices `/dev/null` and `/dev/full`, and a few directories.  Names have at most
255 bytes, paths at most 4095, and `/dev/full` takes no writes.
-/
namespace LineShell

namespace Volume

def nameLimit : Nat := 255

def pathLimit : Nat := 4095

def fullDevice : Location := ["dev".toList, "full".toList]

/-- The accesses that a fresh machine refuses. -/
def standardRefusal : Access → Option SystemError
  | .spell path => if pathLimit < Text.byteCount path then some .nameTooLong
      else none
  | .search location =>
    if (location.getLast?.any fun name => nameLimit < Text.byteCount name) then
      some .nameTooLong
    else
      none
  | .write location => if location = fullDevice then some .noSpace else none
  | _ => none

/-- About as many requests of the program can wait for one another as calls can
be nested. -/
def nestingLimit : Nat := 950

def standardDirectories : List String :=
  ["bin", "dev", "etc", "home", "lib", "opt", "proc", "root",
   "run", "sbin", "srv", "sys", "tmp", "usr", "usr/bin", "usr/lib", "usr/local",
   "usr/local/bin", "usr/sbin", "usr/share", "var", "var/tmp"]

def standard : Volume where
  entries :=
    standardDirectories.map (fun path =>
      (Text.splitOn '/' path.toList, .directory)) ++
      [(["bin".toList, "sh".toList], .interpreter),
       (["dev".toList, "null".toList], .sink),
       (fullDevice, .sink)]
  refuses := standardRefusal
  nesting := nestingLimit

end Volume

end LineShell
