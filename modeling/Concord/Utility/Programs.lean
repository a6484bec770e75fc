import Concord.Utility.Characters
import Concord.Utility.Codes
import Concord.Utility.Differences
import Concord.Utility.Edit
import Concord.Utility.Facts
import Concord.Utility.Launch
import Concord.Utility.Numbers
import Concord.Utility.Order
import Concord.Utility.Paths
import Concord.Utility.Search

/-!
The programs of a machine by their names.
-/

namespace Concord.Utility

/-- What each program does. -/
def table : List (String × Work Nat) :=
  [("[", bracket), ("arch", arch), ("base64", base64), ("basename", basename), ("cat", cat),
    ("chmod", chmod), ("cksum", cksum), ("clear", pure 0), ("cmp", cmp), ("comm", comm),
    ("cp", transfer false), ("cut", cut), ("date", date), ("diff", diff), ("dirname", dirname),
    ("echo", echo), ("egrep", grepAs .extended), ("env", env), ("expand", expand), ("expr", expr),
    ("factor", factor), ("false", pure 1), ("fgrep", grepAs .plain), ("find", find),
    ("fold", fold), ("grep", grepAs .basic), ("head", head), ("hostname", hostname), ("id", id),
    ("killall", killall), ("ln", ln), ("logname", logname), ("ls", ls), ("mkdir", mkdir),
    ("mktemp", mktemp), ("mv", transfer true), ("nice", nice), ("nl", nl), ("nohup", nohup),
    ("nproc", nproc), ("od", od), ("paste", paste), ("pgrep", pgrep), ("pkill", pgrep),
    ("printenv", printenv), ("printf", printf), ("pwd", pwd), ("readlink", readlink),
    ("realpath", realpath), ("rev", rev), ("rm", rm), ("rmdir", rmdir), ("sed", sed),
    ("seq", seq), ("setsid", setsid), ("sha256sum", sha256sum), ("sleep", sleep), ("sort", sort),
    ("stat", stat), ("stdbuf", stdbuf), ("sync", pure 0), ("tac", tac), ("tail", tail),
    ("tee", tee), ("test", test), ("timeout", timeout), ("touch", touch), ("tr", tr),
    ("true", pure 0), ("truncate", truncate), ("tty", tty), ("uname", uname), ("uniq", uniq),
    ("unlink", unlink), ("wc", wc), ("which", which), ("whoami", whoami), ("xargs", xargs),
    ("yes", yes)]

/-- Every program there is, shells included. -/
def names : List String :=
  ["bash", "dash", "ionice", "sh"] ++ table.map Prod.fst

/-- What a program does by its name. -/
def work (name : String) : Work Nat :=
  (table.lookup name).getD (pure 0)

end Concord.Utility
