import Parley.Rehearsal.Tool.Comparing
import Parley.Rehearsal.Tool.Difference
import Parley.Rehearsal.Tool.Dump
import Parley.Rehearsal.Tool.Editing
import Parley.Rehearsal.Tool.Finding
import Parley.Rehearsal.Tool.Lines
import Parley.Rehearsal.Tool.Numbers
import Parley.Rehearsal.Tool.Places
import Parley.Rehearsal.Tool.Reckoning
import Parley.Rehearsal.Tool.Records
import Parley.Rehearsal.Tool.Refusal
import Parley.Rehearsal.Tool.Running
import Parley.Rehearsal.Tool.Saying
import Parley.Rehearsal.Tool.Summing
import Parley.Rehearsal.Tool.Translate

/-!
# Parley.Rehearsal.Tool.Table

The tools by their names.

* `Tool.launch`: what a tool makes of its call.
-/

namespace Parley
namespace Rehearsal
namespace Tool

/-- What the tools are under their names. -/
def table : List (String × (Call → Launch)) :=
  [("[", fun c => Saying.test c true), ("arch", fun c => Saying.saying c "x86_64"),
   ("awk", Records.awk), ("base64", Summing.base64), ("basename", Saying.basename),
   ("bash", Running.bash), ("cat", Copying.cat), ("chmod", Places.chmod),
   ("cksum", Summing.cksum), ("cmp", Difference.cmp),
   ("comm", Comparing.comm), ("cp", Places.cp), ("cut", Lines.cut), ("dd", Copying.dd),
   ("dirname", Saying.dirname), ("echo", Saying.echo), ("egrep", Finding.grepWith "-E"),
   ("env", Running.env), ("expand", Lines.expand), ("expr", Reckoning.expr),
   ("factor", Numbers.factor), ("fgrep", Finding.grepWith "-F"), ("fold", Lines.fold),
   ("grep", Finding.grep), ("groups", fun c => Saying.saying c "root"), ("head", Copying.head),
   ("id", Saying.id), ("join", Comparing.join), ("link", Places.link), ("ln", Places.ln),
   ("ls", Places.ls), ("mawk", Records.awk), ("md5sum", Summing.digest Summing.md5),
   ("mkdir", Places.mkdir), ("mktemp", Places.mktemp),
   ("mv", Places.mv), ("nice", Running.nice), ("nl", Lines.nl), ("nohup", Running.nohup),
   ("nproc", fun c => Saying.saying c "1"), ("od", Dump.od), ("paste", Lines.paste),
   ("printenv", Running.printenv), ("printf", Saying.printf), ("pwd", Saying.pwd),
   ("readlink", Places.readlink), ("realpath", Places.realpath), ("rev", Lines.rev),
   ("rgrep", Finding.grepWith "-r"), ("rm", Places.rm), ("rmdir", Places.rmdir),
   ("sed", Editing.sed), ("seq", Numbers.seq), ("setsid", Running.setsid),
   ("sha1sum", Summing.digest Summing.sha1), ("sha224sum", Summing.digest Summing.sha224),
   ("sha256sum", Summing.digest Summing.sha256), ("sha384sum", Summing.digest Summing.sha384),
   ("sha512sum", Summing.digest Summing.sha512),
   ("sleep", Running.sleep), ("sort", Sorting.sort), ("stdbuf", Running.stdbuf),
   ("sum", Summing.sum),
   ("tac", Copying.tac), ("tail", Copying.tail), ("tee", Copying.tee),
   ("test", fun c => Saying.test c false), ("timeout", Running.timeout), ("touch", Places.touch),
   ("tr", Translate.tr), ("tsort", Comparing.tsort), ("tty", Saying.tty),
   ("uname", Saying.uname), ("unexpand", Lines.unexpand), ("uniq", Comparing.uniq),
   ("unlink", Places.unlink), ("wc", Lines.wc), ("which", Places.which),
   ("whoami", fun c => Saying.saying c "root"), ("xargs", Running.xargs), ("yes", Copying.yes)]

/-- What a tool makes of its call. A tool that is not here can be found, and does nothing. -/
def launch (name : String) (c : Call) : Launch :=
  match name, (table ++ Refusal.table).lookup name with
  | "true", _ => .print []
  | "false", _ => .tool (.print [] [] 1) []
  | _, some make => make c
  | _, none => .failure "" 1

end Tool
end Rehearsal
end Parley
