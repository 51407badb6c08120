import ImportResolver.Shell.Condition
import ImportResolver.Tool.Awk.Run
import ImportResolver.Tool.Blocks
import ImportResolver.Tool.Characters
import ImportResolver.Tool.Checksums
import ImportResolver.Tool.Columns
import ImportResolver.Tool.Copying
import ImportResolver.Tool.Difference
import ImportResolver.Tool.Dump
import ImportResolver.Tool.Editing
import ImportResolver.Tool.Factors
import ImportResolver.Tool.Facts
import ImportResolver.Tool.Filling
import ImportResolver.Tool.Finding
import ImportResolver.Tool.Hunks
import ImportResolver.Tool.Identity
import ImportResolver.Tool.Lines
import ImportResolver.Tool.Listing
import ImportResolver.Tool.Matching
import ImportResolver.Tool.Numbers
import ImportResolver.Tool.OptionWords
import ImportResolver.Tool.Ordering
import ImportResolver.Tool.Splitting
import ImportResolver.Tool.Units
/- The programs of the system by name. -/
namespace ImportResolver.Tool

open Shell Shell.Action

def echo (args : List Chars) : Action Nat := say (plainEchoed true false args) 0

def printf (args : List Chars) : Action Nat := do
  match if args.head? = some ['-', '-'] then args.drop 1 else args with
  | [] => misused { flags := "" } 1 missingOperand
  | format :: args =>
    let (text, status, warnings) := formatted format args
    print text
    warnings.forM warn
    return if status = 0 then 0 else 1

def condition (args : List Chars) : Action Nat := do
  match Condition.holds (← Condition.scene) args with
  | .ok b => return failed b
  | .error why =>
    warn why.toList
    return 2

def bracketed (args : List Chars) : Action Nat := do
  if args.getLast? = some [']'] then condition args.dropLast
  else
    warn "missing ']'".toList
    return 2

def yes (args : List Chars) : Action Nat := do
  let args := if args.head? = some ['-', '-'] then args.drop 1 else args
  let line := (if args.isEmpty then ['y'] else (args.intersperse [' ']).flatten) ++ ['\n']
  let block := (List.replicate (outputBlock * 2 / line.length + 1) line).flatten
  iterate loopLimit do
    spend commandTime
    output block
  return 1

def behaviour? (go : Runner) (name : String) : Option Behaviour :=
  match name with
  | "[" => some bracketed
  | "arch" => some (telling "x86_64")
  | "awk" => some awk
  | "base32" => some (spell .base32)
  | "base64" => some (spell .base64)
  | "basename" => some basename
  | "cat" => some cat
  | "chgrp" => some (chown true)
  | "chmod" => some chmod
  | "chown" => some (chown false)
  | "cksum" => some cksum
  | "cmp" => some cmp
  | "comm" => some comm
  | "cp" => some cp
  | "csplit" => some csplit
  | "cut" => some cut
  | "date" => some date
  | "dd" => some dd
  | "diff" => some diff
  | "dirname" => some dirname
  | "echo" => some echo
  | "egrep" => some (grep 'E')
  | "env" => some (env go)
  | "expand" => some expand
  | "expr" => some expr
  | "factor" => some factor
  | "false" => some fun _ => return 1
  | "fgrep" => some (grep 'F')
  | "find" => some find
  | "fmt" => some fmt
  | "fold" => some fold
  | "getopt" => some getopt
  | "grep" => some (grep 'G')
  | "groups" => some groups
  | "head" => some head
  | "hostname" => some hostname
  | "id" => some id
  | "install" => some install
  | "join" => some join
  | "link" => some hardLink
  | "ln" => some ln
  | "logname" => some logname
  | "ls" => some ls
  | "md5sum" => some (checksums "MD5")
  | "mkdir" => some mkdir
  | "mkfifo" => some mkfifo
  | "mktemp" => some mktemp
  | "mv" => some mv
  | "nice" => some (nice go)
  | "nl" => some nl
  | "nohup" => some (nohup go)
  | "nproc" => some nproc
  | "numfmt" => some numfmt
  | "od" => some od
  | "paste" => some paste
  | "printenv" => some printenv
  | "printf" => some printf
  | "pwd" => some pwd
  | "readlink" => some readlink
  | "realpath" => some realpath
  | "rev" => some rev
  | "rm" => some rm
  | "rmdir" => some rmdir
  | "sed" => some sed
  | "seq" => some seq
  | "setsid" => some (setsid go)
  | "sha1sum" => some (checksums "SHA1")
  | "sha224sum" => some (checksums "SHA224")
  | "sha256sum" => some (checksums "SHA256")
  | "sha384sum" => some (checksums "SHA384")
  | "sha512sum" => some (checksums "SHA512")
  | "shuf" => some shuf
  | "sleep" => some sleep
  | "sort" => some sort
  | "split" => some split
  | "stat" => some stat
  | "sum" => some sum
  | "sync" => some fun _ => return 0
  | "tac" => some tac
  | "tail" => some tail
  | "tee" => some tee
  | "test" => some condition
  | "timeout" => some timeout
  | "touch" => some touch
  | "tr" => some tr
  | "true" => some fun _ => return 0
  | "truncate" => some truncate
  | "tsort" => some tsort
  | "tty" => some tty
  | "uname" => some uname
  | "unexpand" => some unexpand
  | "uniq" => some uniq
  | "unlink" => some unlink
  | "wc" => some wc
  | "which" => some which
  | "whoami" => some (telling userName)
  | "xargs" => some xargs
  | "yes" => some yes
  | _ => none

/-- What a program says if its output cannot be written, and its status then. -/
def complaint (tool why : String) : List String × Nat :=
  let usual := "write error: " ++ why
  let named := "standard output: " ++ why
  if ["cat", "yes"].contains tool then ([named], 1)
  else if tool = "diff" then ([named], 2)
  else if tool = "find" then (["'standard output': " ++ why, usual], 1)
  else if ["ls", "dir", "vdir", "grep", "egrep", "fgrep", "printenv"].contains tool then
    ([usual], 2)
  else if tool = "sort" then (["fflush failed: 'standard output': " ++ why, "write error"], 2)
  else if ["env", "nice", "nohup", "timeout"].contains tool then ([usual], 125)
  else if tool = "expr" then ([usual], 3)
  else if tool = "sed" then (["couldn't close stdout: " ++ why], 4)
  else if tool = "awk" || tool = "mawk" then
    (["close failed on file \"/dev/stdout\" (" ++ why ++ ")"], 2)
  else if tool = "dd" then ([], 1)
  else if ["rev", "getopt", "hostname"].contains tool then ([], 0)
  else ([usual], 1)

def close (tool : String) (status : Nat) : Action Nat := do
  flush
  if !(← process).isFull then return status
  let isDevice := (← openFile? 1).any (·.2.canWrite)
  let (messages, status) :=
    complaint tool (if isDevice then "No space left on device" else "Bad file descriptor")
  messages.forM fun message => warnAhead message.toList
  return status

end ImportResolver.Tool
