import HttpGateway.Text.Decimal

/-!
# Spans of time

Time limits and delays are whole numbers of milliseconds. A message shows a span in seconds, with as
many decimals as it needs, from one second on, and in milliseconds below; an empty span has no
unit to scale to and is shown as no nanoseconds.
-/

namespace HttpGateway

/-- A span of time in milliseconds. -/
structure Duration where
  millis : Nat
  deriving DecidableEq, Repr

namespace Duration

/-- A span of whole seconds. -/
def ofSeconds (n : Nat) : Duration := ⟨1000 * n⟩

/-- The decimals of a fraction of a thousand, without trailing zeros. -/
def decimals (n : Nat) : List Char :=
  let all := [n / 100, n / 10 % 10, n % 10].map Nat.digitChar
  (all.reverse.dropWhile (· == '0')).reverse

/-- The text of a span in messages. -/
def text (d : Duration) : String :=
  if d.millis = 0 then "0ns"
  else if d.millis < 1000 then Decimal.text d.millis ++ "ms"
  else
    let whole := Decimal.text (d.millis / 1000)
    if d.millis % 1000 = 0 then whole ++ "s"
    else whole ++ "." ++ String.ofList (decimals (d.millis % 1000)) ++ "s"

end Duration
end HttpGateway
