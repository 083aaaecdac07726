import Baseball.Report.Leaders
import Baseball.Season
import Baseball.Text.Quoted

/-!
# One-line summaries

What a season or a leaderboard is set up to do, in one line, for logs.

## Main definitions

* `Season.summary`, `Metric.summary`, `Leaderboard.summary`
-/

namespace Baseball

/-- A name with fields in braces. -/
def bracedText (name : String) (fields : List (String × String)) : String :=
  name ++ " \x7b " ++ ", ".intercalate (fields.map fun (key, value) => key ++ ": " ++ value)
    ++ " \x7d"

/-- How a truth value is written. -/
def truthText (b : Bool) : String := if b then "true" else "false"

variable {L ρ μ : Type}

/-- What a metric measures. -/
def Metric.summary (m : Metric L) : String :=
  bracedText "Metric" [("name", quoted m.name), ("fewer_is_better", truthText m.fewerIsBetter)]

/-- What a leaderboard ranks. -/
def Leaderboard.summary (board : Leaderboard L) : String :=
  bracedText "Leaderboard" [("metric", board.metric.summary), ("limit", board.limit.repr),
    ("qualified", truthText board.qualify?.isSome)]

/-- What a season is scanned for. -/
def Season.summary (s : Season ρ μ) : String :=
  bracedText "Season" [("reports", "[" ++ ", ".intercalate (s.names.map quoted) ++ "]"),
    ("filtered", truthText s.filter?.isSome), ("monitored", truthText s.monitor?.isSome)]

end Baseball
