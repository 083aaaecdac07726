import Baseball.BoxScore.Basic
import Baseball.BoxScore.Posting
import Baseball.BoxScore.Scorer
import Baseball.BoxScore.TeamBox
import Baseball.BoxScore.Text
import Baseball.Compare.Basic
import Baseball.Compare.Csv
import Baseball.Compare.Roles
import Baseball.Compare.Text
import Baseball.Date.Basic
import Baseball.Date.Text
import Baseball.Decimal.Binary
import Baseball.Decimal.Fixed
import Baseball.Decimal.Rate
import Baseball.Game.Attempt
import Baseball.Game.Basic
import Baseball.Game.ScoringError
import Baseball.Json.Amendment
import Baseball.Json.BoxScore
import Baseball.Json.Choice
import Baseball.Json.Compare
import Baseball.Json.Game
import Baseball.Json.Line
import Baseball.Json.Parse
import Baseball.Json.Play
import Baseball.Json.Print
import Baseball.Json.Report
import Baseball.Json.Scorebook
import Baseball.Json.Situation
import Baseball.Json.Token
import Baseball.Json.Value
import Baseball.Keyed
import Baseball.Line.Batting
import Baseball.Line.Fielding
import Baseball.Line.Pitching
import Baseball.Line.Record
import Baseball.Live.Bases
import Baseball.Live.Replay
import Baseball.Live.Situation
import Baseball.Live.Squad
import Baseball.Live.State
import Baseball.Play.Advance
import Baseball.Play.Amendment
import Baseball.Play.Basic
import Baseball.Play.Kind
import Baseball.Position
import Baseball.Proofs.Account
import Baseball.Proofs.AccountedFor
import Baseball.Proofs.AddingUp
import Baseball.Proofs.Agreement
import Baseball.Proofs.Alignment
import Baseball.Proofs.Amending
import Baseball.Proofs.BattingOrder
import Baseball.Proofs.BoxScore
import Baseball.Proofs.Coherence
import Baseball.Proofs.Columns
import Baseball.Proofs.Comparison
import Baseball.Proofs.Counts
import Baseball.Proofs.Dailies
import Baseball.Proofs.Deciding
import Baseball.Proofs.DoubleEntry
import Baseball.Proofs.Dropped
import Baseball.Proofs.Entering
import Baseball.Proofs.FailedStep
import Baseball.Proofs.Fielding
import Baseball.Proofs.FieldingLedger
import Baseball.Proofs.Finishing
import Baseball.Proofs.FloatOrder
import Baseball.Proofs.Following
import Baseball.Proofs.GameOver
import Baseball.Proofs.Gathering
import Baseball.Proofs.HalfInnings
import Baseball.Proofs.Headings
import Baseball.Proofs.HomeRuns
import Baseball.Proofs.Ignored
import Baseball.Proofs.Inherited
import Baseball.Proofs.Innings
import Baseball.Proofs.Known
import Baseball.Proofs.Ledger
import Baseball.Proofs.Linescore
import Baseball.Proofs.Markup
import Baseball.Proofs.Mound
import Baseball.Proofs.NoPlay
import Baseball.Proofs.Personal
import Baseball.Proofs.Ranking
import Baseball.Proofs.ReadBack
import Baseball.Proofs.Reports
import Baseball.Proofs.Roster
import Baseball.Proofs.Runners
import Baseball.Proofs.RunningRecord
import Baseball.Proofs.Scan
import Baseball.Proofs.Scorekeeping
import Baseball.Proofs.Shape
import Baseball.Proofs.Simultaneous
import Baseball.Proofs.Sorting
import Baseball.Proofs.TeamBox
import Baseball.Proofs.Together
import Baseball.Proofs.Totals
import Baseball.Proofs.WonLost
import Baseball.Proofs.WrittenDates
import Baseball.Report.Any
import Baseball.Report.Choice
import Baseball.Report.Dailies
import Baseball.Report.GameLog
import Baseball.Report.HomeRuns
import Baseball.Report.Leaders
import Baseball.Report.Observer
import Baseball.Report.Register
import Baseball.Report.Standings
import Baseball.Report.StatLine
import Baseball.Report.Summary
import Baseball.Report.Tally
import Baseball.Report.TeamTotals
import Baseball.Scorebook
import Baseball.Season
import Baseball.Side
import Baseball.Table.Basic
import Baseball.Table.Html
import Baseball.Table.Text
import Baseball.Text.Blank
import Baseball.Text.Hidden
import Baseball.Text.Layout
import Baseball.Text.Quoted
import Baseball.Text.Utf8
