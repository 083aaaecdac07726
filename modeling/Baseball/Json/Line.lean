import Baseball.Json.Play
import Baseball.Line.Batting
import Baseball.Line.Fielding
import Baseball.Line.Pitching
import Baseball.Line.Record

/-!
# Lines as JSON

A line is an object. A count that is 0 is left out when it is written, and a count that is missing
is 0 when it is read. A missing text is empty, and a fielding line without a position is a pitcher's.

A rate is an array: its value or null, and its text with the usual places and in a field.

## Main definitions

* `Rate.toJson`
* `BattingLine.toJson`, `BattingLine.ofJson`, and the same for `PitchingLine`, `FieldingLine`,
  `TeamFielding` and `TeamRecord`
-/

namespace Baseball

open Json

/-- A rate as its value and two texts. -/
def Rate.toJson (r : Rate) : Json :=
  .array [.ofOption .real r.value?, .string (r.text Rate.defaultPlaces), .string (r.field 7 2)]

/-! ### Writing -/

/-- The counts that are not 0. -/
def Json.ofCounts (counts : List (String × Nat)) : List (String × Json) :=
  (counts.filter fun c => c.2 != 0).map fun (name, n) => (name, .ofNat n)

/-- The games of a line. -/
def Json.ofGames (games : IdSet) : String × Json := ("games", .ofTexts games.toList)

/-- A batting line as an object. -/
def BattingLine.toJson (l : BattingLine) : Json :=
  .object ([("player", .string l.player), ("team", .string l.team), Json.ofGames l.games]
    ++ Json.ofCounts l.counts.fields)

/-- A pitching line as an object. -/
def PitchingLine.toJson (l : PitchingLine) : Json :=
  .object ([("player", .string l.player), ("team", .string l.team), Json.ofGames l.games]
    ++ Json.ofCounts l.counts.fields)

/-- A fielding line as an object. -/
def FieldingLine.toJson (l : FieldingLine) : Json :=
  .object ([("player", .string l.player), ("team", .string l.team),
    ("position", l.position.toJson), Json.ofGames l.games] ++ Json.ofCounts l.counts.fields)

/-- The fielding of a team as an object. -/
def TeamFielding.toJson (l : TeamFielding) : Json :=
  .object ([("team", .string l.team), Json.ofGames l.games] ++ Json.ofCounts l.counts.fields)

/-- A record as an object. -/
def TeamRecord.toJson (r : TeamRecord) : Json :=
  .object (("team", .string r.team) :: Json.ofCounts r.counts.fields)

/-! ### Reading -/

/-- A count of a line. -/
def Json.countField (fs : List (String × Json)) (name : String) : Decoded Nat :=
  fieldD fs name toCount 0

/-- A text of a line. -/
def Json.textField (fs : List (String × Json)) (name : String) : Decoded String :=
  fieldD fs name toText ""

/-- The games of a line. -/
def Json.gamesField (fs : List (String × Json)) : Decoded IdSet :=
  IdSet.ofList <$> fieldD fs "games" (toList toText) []

/-- Batting counts from the fields of a line. -/
def BattingCounts.ofFields (fs : List (String × Json)) : Decoded BattingCounts := do
  return {
    pa := ← countField fs "pa"
    ab := ← countField fs "ab"
    r := ← countField fs "r"
    h := ← countField fs "h"
    b2 := ← countField fs "b2"
    b3 := ← countField fs "b3"
    hr := ← countField fs "hr"
    rbi := ← countField fs "rbi"
    bb := ← countField fs "bb"
    ibb := ← countField fs "ibb"
    so := ← countField fs "so"
    hbp := ← countField fs "hbp"
    sh := ← countField fs "sh"
    sf := ← countField fs "sf"
    sb := ← countField fs "sb"
    cs := ← countField fs "cs"
    gdp := ← countField fs "gdp" }

/-- A batting line from an object. -/
def BattingLine.ofJson (j : Json) : Decoded BattingLine := do
  let fs ← j.objectFields
  return {
    player := ← textField fs "player"
    team := ← textField fs "team"
    games := ← gamesField fs
    counts := ← BattingCounts.ofFields fs }

/-- Pitching counts from the fields of a line. -/
def PitchingCounts.ofFields (fs : List (String × Json)) : Decoded PitchingCounts := do
  return {
    gs := ← countField fs "gs"
    cg := ← countField fs "cg"
    sho := ← countField fs "sho"
    gf := ← countField fs "gf"
    w := ← countField fs "w"
    l := ← countField fs "l"
    sv := ← countField fs "sv"
    outs := ← countField fs "outs"
    bf := ← countField fs "bf"
    h := ← countField fs "h"
    b2 := ← countField fs "b2"
    b3 := ← countField fs "b3"
    hr := ← countField fs "hr"
    r := ← countField fs "r"
    er := ← countField fs "er"
    bb := ← countField fs "bb"
    ibb := ← countField fs "ibb"
    so := ← countField fs "so"
    hb := ← countField fs "hb"
    wp := ← countField fs "wp"
    bk := ← countField fs "bk"
    sh := ← countField fs "sh"
    sf := ← countField fs "sf" }

/-- A pitching line from an object. -/
def PitchingLine.ofJson (j : Json) : Decoded PitchingLine := do
  let fs ← j.objectFields
  return {
    player := ← textField fs "player"
    team := ← textField fs "team"
    games := ← gamesField fs
    counts := ← PitchingCounts.ofFields fs }

/-- Fielding counts from the fields of a line. -/
def FieldingCounts.ofFields (fs : List (String × Json)) : Decoded FieldingCounts := do
  return {
    gs := ← countField fs "gs"
    outs := ← countField fs "outs"
    fieldedOuts := ← countField fs "fielded_outs"
    po := ← countField fs "po"
    a := ← countField fs "a"
    e := ← countField fs "e"
    dp := ← countField fs "dp"
    tp := ← countField fs "tp"
    pb := ← countField fs "pb" }

/-- A fielding line from an object. -/
def FieldingLine.ofJson (j : Json) : Decoded FieldingLine := do
  let fs ← j.objectFields
  return {
    player := ← textField fs "player"
    team := ← textField fs "team"
    position := ← fieldD fs "position" Position.ofJson .pitcher
    games := ← gamesField fs
    counts := ← FieldingCounts.ofFields fs }

/-- Fielding counts of a team from the fields of a line. -/
def TeamFieldingCounts.ofFields (fs : List (String × Json)) : Decoded TeamFieldingCounts := do
  return {
    outs := ← countField fs "outs"
    po := ← countField fs "po"
    a := ← countField fs "a"
    e := ← countField fs "e"
    dp := ← countField fs "dp"
    tp := ← countField fs "tp"
    pb := ← countField fs "pb" }

/-- The fielding of a team from an object. -/
def TeamFielding.ofJson (j : Json) : Decoded TeamFielding := do
  let fs ← j.objectFields
  return {
    team := ← textField fs "team"
    games := ← gamesField fs
    counts := ← TeamFieldingCounts.ofFields fs }

/-- The counts of a record from its fields. -/
def RecordCounts.ofFields (fs : List (String × Json)) : Decoded RecordCounts := do
  return {
    hw := ← countField fs "hw"
    hl := ← countField fs "hl"
    ht := ← countField fs "ht"
    rw := ← countField fs "rw"
    rl := ← countField fs "rl"
    rt := ← countField fs "rt"
    ow := ← countField fs "ow"
    ol := ← countField fs "ol"
    xw := ← countField fs "xw"
    xl := ← countField fs "xl"
    rs := ← countField fs "rs"
    ra := ← countField fs "ra" }

/-- A record from an object. -/
def TeamRecord.ofJson (j : Json) : Decoded TeamRecord := do
  let fs ← j.objectFields
  return { team := ← textField fs "team", counts := ← RecordCounts.ofFields fs }

end Baseball
