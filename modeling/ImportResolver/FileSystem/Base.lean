import ImportResolver.FileSystem.Lookup
/- The tree that work starts from. -/
namespace ImportResolver.FileSystem

/-- The programs that are there from the start. -/
def tools : List String :=
  ["[", "arch", "awk", "base32", "base64", "basename", "bash", "cat", "chgrp", "chmod", "chown",
    "cksum", "cmp", "comm", "cp", "csplit", "cut", "dash", "date", "dd", "diff", "dirname", "echo",
    "egrep", "env", "expand", "expr", "factor", "false", "fgrep", "find", "fmt", "fold", "getopt",
    "grep", "groups", "head", "hostname", "id", "install", "join", "link", "ln", "logname", "ls",
    "md5sum", "mkdir", "mkfifo", "mktemp", "mv", "nice", "nl", "nohup", "nproc", "numfmt", "od",
    "paste", "perl", "printenv", "printf", "pwd", "readlink", "realpath", "rev", "rm", "rmdir",
    "sed", "seq", "setsid", "sha1sum", "sha224sum", "sha256sum", "sha384sum", "sha512sum", "shuf",
    "sleep", "sort", "split", "stat", "sum", "sync", "tac", "tail", "tee", "test", "timeout",
    "touch", "tr", "true", "truncate", "tsort", "tty", "uname", "unexpand", "uniq", "unlink", "wc",
    "which", "whoami", "xargs", "yes"]

/-- The directories that are there from the start, innermost name first. -/
def systemDirectories : List Location :=
  [["usr"], ["bin", "usr"], ["lib", "usr"], ["local", "usr"], ["bin", "local", "usr"],
    ["sbin", "usr"], ["share", "usr"], ["boot"], ["dev"], ["etc"], ["home"], ["media"], ["mnt"],
    ["opt"], ["proc"], ["root"], ["run"], ["srv"], ["sys"], ["var"], ["lib", "var"],
    ["log", "var"]]

/-- Directories in which all may make files, but remove only their own. -/
def sharedDirectories : List Location := [["tmp"], ["tmp", "var"]]

def systemLinks : List (Location × String) :=
  [(["bin"], "usr/bin"), (["lib"], "usr/lib"), (["sbin"], "usr/sbin"),
    (["sh", "bin", "usr"], "dash"), (["fd", "dev"], "/proc/self/fd"),
    (["stdin", "dev"], "/proc/self/fd/0"), (["stdout", "dev"], "/proc/self/fd/1"),
    (["stderr", "dev"], "/proc/self/fd/2")]

def devices : List (String × Device) :=
  [("null", .null), ("zero", .zero), ("full", .full), ("random", .random), ("urandom", .random),
    ("tty", .terminal)]

/-- Users with their numbers, names in full, directories and first programs. -/
def users : List (String × Nat × String × String × String) :=
  let none := "/usr/sbin/nologin"
  [("root", 0, "root", "/root", "/bin/bash"), ("daemon", 1, "daemon", "/usr/sbin", none),
    ("bin", 2, "bin", "/bin", none), ("sys", 3, "sys", "/dev", none),
    ("sync", 4, "sync", "/bin", "/bin/sync"), ("games", 5, "games", "/usr/games", none),
    ("man", 6, "man", "/var/cache/man", none), ("lp", 7, "lp", "/var/spool/lpd", none),
    ("mail", 8, "mail", "/var/mail", none), ("news", 9, "news", "/var/spool/news", none),
    ("uucp", 10, "uucp", "/var/spool/uucp", none), ("proxy", 13, "proxy", "/bin", none),
    ("www-data", 33, "www-data", "/var/www", none),
    ("backup", 34, "backup", "/var/backups", none),
    ("list", 38, "Mailing List Manager", "/var/list", none),
    ("irc", 39, "ircd", "/run/ircd", none), ("_apt", 42, "", "/nonexistent", none),
    ("nobody", 65534, "nobody", "/nonexistent", none)]

/-- The directory of a user. -/
def homeOf? (user : String) : Option String :=
  (users.find? (·.1 = user)).map fun (_, _, _, home, _) => home

/-- The number of the group that is a user's own; most often it is the user's number. -/
def groupOf (name : String) (number : Nat) : Nat :=
  if name = "sync" || name = "_apt" then 65534
  else if name = "games" then 60
  else if name = "man" then 12
  else number

/-- The line that tells of a user. -/
def userLine : String × Nat × String × String × String → String
  | (name, number, full, home, program) =>
    ":".intercalate
      [name, "x", toString number, toString (groupOf name number), full, home, program] ++ "\n"

/-- A tree with one directory, in which work goes on, beside the directories, devices and programs
of the system. -/
def base (name : String) : FileSystem where
  tree := ⟨([name], .directory 0o755) ::
    systemLinks.map (fun e => (e.1, .link e.2)) ++
    devices.map (fun e => ([e.1, "dev"], .device e.2 0o666)) ++
    systemDirectories.map (fun loc => (loc, .directory 0o755)) ++
    sharedDirectories.map (fun loc => (loc, .directory 0o1777)) ++
    (["passwd", "etc"], .file (Text.Utf8.encode (String.join (users.map userLine))) 0o644) ::
    tools.map fun tool => ([tool, "bin", "usr"], .tool tool)⟩
  cwd := [name]

end ImportResolver.FileSystem
