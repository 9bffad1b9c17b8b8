/-
TidyTree.FileSystem.Standard — a file system to work in.

It has the standard tools in `/usr/bin`, which `/bin` leads to, the
device `/dev/null`, some settings in `/etc`, and an empty working
directory.
-/
import TidyTree.FileSystem.Edit

namespace TidyTree.FileSystem

/-- The names of the tools in `/usr/bin`. -/
def toolNames : List String :=
  ["[", "arch", "awk", "base64", "basename", "bash", "cat", "chgrp", "chmod", "chown", "cksum",
    "cmp", "comm", "cp", "cut", "dash", "date", "dd", "diff", "dirname", "echo", "egrep", "env",
    "expand", "expr", "false", "fgrep", "find", "fmt", "fold", "grep", "groups", "head",
    "hostname", "id", "install", "kill", "link", "ln", "logname", "ls", "mawk", "md5sum",
    "mkdir", "mkfifo", "mktemp", "mv", "nawk", "nice", "nl", "nohup", "nproc", "od", "paste",
    "printenv", "printf", "pwd", "readlink", "realpath", "rev", "rm", "rmdir", "sed", "seq",
    "setsid", "sh", "sha1sum", "sha256sum", "sleep", "sort", "split", "stat", "stdbuf", "sum",
    "sync", "tac", "tail", "tee", "test", "timeout", "touch", "tr", "true", "truncate", "tty",
    "uname", "unexpand", "uniq", "unlink", "wc", "which", "whoami", "xargs", "yes"]

/-- Makes a tool of that name in `/usr/bin`. -/
def addTool (fs : FileSystem) (name : String) : FileSystem :=
  fs.addFile ⟨["usr", "bin"], name, false⟩ ⟨.empty, 0o755, some name⟩

/-- The files in `/etc`, with their texts. -/
def settings : List (String × String) :=
  [("group", "root:x:0:\n"), ("hostname", "localhost\n"), ("hosts", "127.0.0.1\tlocalhost\n"),
    ("passwd", "root:x:0:0:root:/root:/bin/sh\n")]

/-- Makes a file of that name and text in `/etc`. -/
def addSetting (fs : FileSystem) (setting : String × String) : FileSystem :=
  fs.addFile ⟨["etc"], setting.1, false⟩ (.ofText setting.2 false)

/-- A directory in which nothing is, before other entries. -/
def emptyDirectory (name : String) (rest : Listing) : Listing := .dir name none .nil rest

/-- The directories and devices of the system, without tools and settings. -/
def skeleton : Listing :=
  .dir "usr" none (["bin", "lib", "sbin", "share"].foldr emptyDirectory .nil)
    (.dir "dev" none
        (["full", "null", "random", "tty", "urandom", "zero"].foldr
          (fun n rest => .leaf n .special rest) .nil)
      (.leaf "bin" (.link "usr/bin") (.leaf "lib" (.link "usr/lib") (.leaf "sbin" (.link "usr/sbin")
        (["etc", "home", "opt", "proc", "root", "run", "srv", "sys", "tmp", "var"].foldr
          emptyDirectory .nil)))))

/-- The file system with the tools and an empty directory at `place`, in which one works. -/
def standard (place : List String) : FileSystem :=
  let base : FileSystem := settings.foldl addSetting (toolNames.foldl addTool ⟨skeleton, [], []⟩)
  match base.makeDirectories ("/" ++ "/".intercalate place) with
  | .ok fs => { fs with workingDirectory := place }
  | .error _ => base

end TidyTree.FileSystem
