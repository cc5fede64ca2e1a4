import FleetDashboard.Time.Instant

/-!
# Spans of time

Spans are counted in milliseconds. A message shows a span in the largest unit that it fills, with
the fraction that is left and no zeros at its end.
-/

namespace FleetDashboard.Span

/-- The text of a span of `ms` milliseconds: `0ns`, `250ms`, `1.5s`. -/
def text (ms : Nat) : String :=
  if ms = 0 then "0ns"
  else if ms < 1000 then toString ms ++ "ms"
  else
    let fraction :=
      ((Instant.padded 3 (ms % 1000)).toList.reverse.dropWhile (· == '0')).reverse
    if fraction.isEmpty then toString (ms / 1000) ++ "s"
    else toString (ms / 1000) ++ "." ++ String.ofList fraction ++ "s"

end FleetDashboard.Span
