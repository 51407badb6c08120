import ImportResolver.Tool.Regex
/- Programs that say what is to be done with the lines of files. -/
namespace ImportResolver.Tool.Awk

open Shell

inductive Operator where
  | plus
  | minus
  | times
  | over
  | modulo
  | power
  | joined
  | less
  | atMost
  | equal
  | unequal
  | greater
  | atLeast
  deriving DecidableEq

/-- A variable: one of the program, or one of the function that runs. -/
inductive Name where
  | shared (number : Nat)
  | own (number : Nat)
  deriving DecidableEq

/-- Functions that are always there. -/
inductive Builtin where
  | length
  | index
  | substr
  | split
  | sub
  | gsub
  | match_
  | sprintf
  | sin
  | cos
  | atan2
  | exp
  | log
  | sqrt
  | int
  | rand
  | srand
  | toLower
  | toUpper
  | system
  | close
  | fflush
  | systime
  | strftime
  | mktime
  deriving DecidableEq

mutual

inductive Expr where
  | number (x : Float)
  | text (cs : Chars)
  | regex (r : Regex)
  | value (p : Place)
  /-- Some expressions between parentheses. -/
  | several (es : List Expr)
  | assign (op : Option Operator) (p : Place) (e : Expr)
  | choice (c a b : Expr)
  | both (a b : Expr)
  | either (a b : Expr)
  | negation (e : Expr)
  | negative (e : Expr)
  | positive (e : Expr)
  | binary (op : Operator) (a b : Expr)
  /-- Adds a number to what stands at a place; the result is what stood there before, or stands
  there after. -/
  | step (before : Bool) (amount : Float) (p : Place)
  | matches (isNegated : Bool) (e pattern : Expr)
  | member (keys : List Expr) (a : Name)
  | call (function : Chars) (args : List Expr)
  | builtin (f : Builtin) (args : List Expr)
  | readMain (goal : Option Place)
  | readFile (goal : Option Place) (file : Expr)
  | readCommand (goal : Option Place) (command : Expr)

/-- What a value can be given to. -/
inductive Place where
  | variable (n : Name)
  | field (e : Expr)
  | element (a : Name) (keys : List Expr)

end

/-- Where something is printed to. -/
inductive Outlet where
  | file (appends : Bool)
  | command
  deriving DecidableEq

inductive Statement where
  | expr (e : Expr)
  | print (es : List Expr) (outlet : Option (Outlet × Expr))
  | printf (es : List Expr) (outlet : Option (Outlet × Expr))
  | block (ss : List Statement)
  | choice (c : Expr) (s : Statement) (t : Option Statement)
  | loop (c : Expr) (s : Statement)
  | loopAfter (s : Statement) (c : Expr)
  | count (start : Option Statement) (c : Option Expr) (step : Option Statement) (s : Statement)
  | each (p : Place) (a : Name) (s : Statement)
  | delete (a : Name) (keys : List Expr)
  | deleteAll (a : Name)
  | next
  | nextFile
  | leave (e : Option Expr)
  | exit (e : Option Expr)
  | breaks
  | continues

inductive Condition where
  | begin
  | finish
  | always
  | holds (e : Expr)
  | range (first last : Expr)

structure Rule where
  condition : Condition
  body : Statement

structure Function where
  name : Chars
  parameters : List Chars
  body : Statement

structure Program where
  rules : List Rule := []
  functions : List Function := []
  /-- The variables that are shared, in order of their numbers. -/
  shared : List Chars := []
  /-- The parameters, by function and number, that are arrays. -/
  arrays : List (Chars × Nat) := []
  /-- The shared variables that are arrays. -/
  sharedArrays : List Nat := []

def specialNames : List String :=
  ["NR", "FNR", "ARGC", "FILENAME", "OFS", "ORS", "RLENGTH", "RSTART", "SUBSEP", "NF", "FS", "RS",
    "CONVFMT", "OFMT", "ARGV", "ENVIRON"]

namespace Special

def records : Nat := 0
def fileRecords : Nat := 1
def argumentCount : Nat := 2
def fileName : Nat := 3
def outputSeparator : Nat := 4
def recordEnd : Nat := 5
def matchLength : Nat := 6
def matchStart : Nat := 7
def keySeparator : Nat := 8
def fieldCount : Nat := 9
def fieldSeparator : Nat := 10
def recordSeparator : Nat := 11
def textFormat : Nat := 12
def outputFormat : Nat := 13
def arguments : Nat := 14
def environment : Nat := 15

end Special

end ImportResolver.Tool.Awk
