import ImportResolver.Tool.Names
/- Programs that tell two files apart. -/
namespace ImportResolver.Tool

open Shell Shell.Action

namespace Difference

def known : Known :=
  { flags := "sbl", valued := "ni"
    long := [("quiet", 's'), ("silent", 's'), ("print-bytes", 'b'), ("verbose", 'l'),
      ("bytes", 'n'), ("ignore-initial", 'i')]
    usage := fun name =>
      name ++ ": Try '".toList ++ name ++ " --help' for more information.\n".toList }

def visible (c : Char) : Chars :=
  let n := c.toNat
  let (mark, n) : Chars × Nat := if 128 ≤ n then (['M', '-'], n - 128) else ([], n)
  if n < 32 then mark ++ ['^', Char.ofNat (n + 64)]
  else if n = 127 then mark ++ ['^', '?']
  else mark ++ [Char.ofNat n]

def octal (c : Char) : Chars := padded 3 (Nat.toDigits 8 c.toNat)

end Difference

open Difference in
def cmp (args : List Chars) : Action Nat :=
  withArguments known 2 args fun a => do
    match a.operands with
    | [] => misused known 2 ("missing operand after ".toList ++ inQuotes (← process).name)
    | x :: rest =>
      let y := rest.headD ['-']
      let skipText := (a.value? 'i').getD ['0']
      let (firstSkip, secondSkip) := skipText.span (· ≠ ':')
      let number (cs : Chars) : Option Nat := size? cs
      let skips : List Chars :=
        match rest.drop 1 with
        | [] => [firstSkip, if secondSkip = [] then firstSkip else secondSkip.drop 1]
        | [m] => [m, ['0']]
        | m :: n :: _ => [m, n]
      match skips.find? fun cs => (number cs).isNone with
      | some wrong =>
        misused known 2 ("invalid --ignore-initial value ".toList ++ inQuotes wrong)
      | none =>
        if 4 < a.operands.length then
          return ← misused known 2 (extraOperand (a.operands.getD 4 []))
        if a.has 's' && a.has 'l' then
          return ← misused known 2 "options -l and -s are incompatible".toList
        let most? := (a.value? 'n').bind size?
        if a.has 'n' && most?.isNone then
          return ← misused known 2
            ("invalid --bytes value ".toList ++ inQuotes ((a.value? 'n').getD []))
        if x = y then return 0
        let limited (skip : Chars) (cs : Chars) : Chars :=
          let cs := cs.drop ((number skip).getD 0)
          match most? with
          | some n => cs.take n
          | none => cs
        let fail (p : Chars) (why : String) : Action Nat := do
          if !a.has 's' then warn (p ++ ": ".toList ++ why.toList)
          return 2
        match ← contentOf x with
        | .error why => fail x why
        | .ok xs =>
          match ← contentOf y with
          | .error why => fail y why
          | .ok ys =>
            let xs := limited (skips.getD 0 []) xs
            let ys := limited (skips.getD 1 []) ys
            if xs = ys then return 0
            if a.has 's' then return 1
            let common := min xs.length ys.length
            let shorter := if xs.length < ys.length then x else y
            let endsEarly := xs.length ≠ ys.length
            let pairs := (xs.zip ys).zipIdx 1
            let differing := pairs.filter fun e => e.1.1 ≠ e.1.2
            if a.has 'l' then
              let width := (decimal (max xs.length ys.length)).length
              differing.forM fun e =>
                printLine (padded width (decimal e.2) ++ ' ' :: octal e.1.1 ++
                  (if a.has 'b' then ' ' :: (visible e.1.1 ++
                    List.replicate (4 - (visible e.1.1).length) ' ') else []) ++
                  ' ' :: octal e.1.2 ++ (if a.has 'b' then ' ' :: visible e.1.2 else []))
              if endsEarly then
                warnAhead ("EOF on ".toList ++ shorter ++
                  (if common = 0 then " which is empty".toList
                    else " after byte ".toList ++ decimal common))
              return 1
            match differing with
            | ((b, c), place) :: _ =>
              let line := (xs.take (place - 1)).count '\n' + 1
              let unit := if a.has 'b' then "byte" else "char"
              let bytes :=
                if a.has 'b' then
                  " is ".toList ++ octal b ++ ' ' :: visible b ++ ' ' :: octal c ++ ' ' :: visible c
                else []
              sayLines [x ++ ' ' :: y ++ " differ: ".toList ++ unit.toList ++ ' ' ::
                decimal place ++ ", line ".toList ++ decimal line ++ bytes] 1
            | [] =>
              let newlines := (xs.take common).count '\n'
              let ended := ((xs.take common).getLast?) = some '\n'
              warn ("EOF on ".toList ++ shorter ++
                (if common = 0 then " which is empty".toList
                  else " after byte ".toList ++ decimal common ++
                    (if ended then ", line ".toList ++ decimal newlines
                      else ", in line ".toList ++ decimal (newlines + 1))))
              return 1

end ImportResolver.Tool
