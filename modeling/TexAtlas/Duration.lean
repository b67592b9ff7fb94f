/-
Lengths of time, counted in milliseconds.
-/

namespace TexAtlas

structure Duration where
  milliseconds : Nat
  deriving DecidableEq, Repr

namespace Duration

/-- The digits of a fraction of a second, without zeros at the end. -/
def fractionDigits (thousandths : Nat) : List Char :=
  let digits := [thousandths / 100, thousandths / 10 % 10, thousandths % 10]
  ((digits.map (fun digit => Char.ofNat (48 + digit))).reverse.dropWhile (· == '0')).reverse

/-- A duration below a second is shown in milliseconds, any other in seconds with as
many decimals as it needs. No time at all is shown in nanoseconds. -/
def text (duration : Duration) : String :=
  if duration.milliseconds = 0 then "0ns"
  else if duration.milliseconds < 1000 then toString duration.milliseconds ++ "ms"
  else
    let whole := toString (duration.milliseconds / 1000)
    match fractionDigits (duration.milliseconds % 1000) with
    | [] => whole ++ "s"
    | digits => whole ++ "." ++ String.ofList digits ++ "s"

end Duration

end TexAtlas
