/-
TidyTree.Tool.Table — the tools by their names.
-/
import TidyTree.Tool.Lines
import TidyTree.Tool.Tabs
import TidyTree.Tool.Numbering
import TidyTree.Tool.Columns
import TidyTree.Tool.Paragraphs
import TidyTree.Tool.Order
import TidyTree.Tool.Words
import TidyTree.Tool.Compare
import TidyTree.Tool.Search
import TidyTree.Tool.Edit.Run
import TidyTree.Tool.Digest.Run
import TidyTree.Tool.Dump
import TidyTree.Tool.Pieces
import TidyTree.Tool.Placing
import TidyTree.Tool.Programs
import TidyTree.Tool.Calendar
import TidyTree.Tool.Find.Run
import TidyTree.Tool.Awk.Run

namespace TidyTree.Tool

open Shell

/-- The tools that start no programs, each with what it does with its arguments. -/
def plainTools : List (String × (List String → Act Nat)) :=
  [("true", fun _ => return 0), ("false", fun _ => return 1),
    -- lines
    ("cat", cat), ("tac", tac), ("rev", rev), ("tee", tee), ("head", head), ("tail", tail),
    ("wc", wc), ("nl", nl), ("fold", fold), ("fmt", fmt), ("od", od), ("split", split), ("dd", dd),
    -- sums
    ("md5sum", Digest.sums .shortest "MD5"), ("sha1sum", Digest.sums .middle "SHA1"),
    ("sha256sum", Digest.sums .longest "SHA256"), ("cksum", Digest.cksum),
    ("sum", Digest.blockSum), ("base64", Digest.base64),
    -- columns
    ("cut", cut), ("paste", paste), ("tr", tr), ("expand", expand), ("unexpand", unexpand),
    -- order
    ("sort", sort), ("uniq", uniq), ("comm", comm),
    -- words
    ("echo", echoWords), ("printf", printfWords), ("yes", yes), ("basename", basename),
    ("dirname", dirname), ("seq", seq), ("expr", expr), ("test", condition false),
    ("[", condition true), ("sleep", sleep), ("id", identify), ("uname", systemName),
    ("date", date), ("whoami", userName), ("groups", userGroups), ("logname", loginName),
    ("arch", machineName), ("nproc", processorCount), ("hostname", hostName),
    ("tty", terminalName), ("sync", syncFiles), ("printenv", printVariables), ("which", which),
    ("pwd", workingPath), ("kill", killProcesses),
    -- files
    ("rm", rm), ("rmdir", rmdir), ("mkdir", mkdir), ("mkfifo", mkfifo), ("touch", touch),
    ("mktemp", mktemp), ("truncate", truncate), ("cp", cp), ("mv", mv), ("ln", ln),
    ("readlink", readlink), ("realpath", realpath), ("chmod", chmod), ("chown", chown),
    ("chgrp", chgrp), ("install", install), ("link", link), ("unlink", unlink), ("ls", ls),
    ("stat", stat),
    -- differences
    ("cmp", cmp), ("diff", diff),
    -- patterns
    ("grep", grepAs none), ("egrep", grepAs (some .extended)), ("fgrep", grepAs (some .fixed))]

/-- The tools that have something carried out by others. -/
def startingTools : List (String × (Performer → List String → Act Nat)) :=
  [("sed", Edit.sed), ("awk", Awk.awk), ("mawk", Awk.awk), ("nawk", Awk.awk), ("env", env),
    ("nohup", nohup), ("nice", nice), ("timeout", timeout), ("setsid", setsid),
    ("stdbuf", stdbuf), ("xargs", xargs), ("find", Find.find)]

end TidyTree.Tool
