import Baseball.Report.StatLine
import Baseball.Report.Tally
import Baseball.Scorebook
import Baseball.Table.Basic

/-!
# Registers

A register has one line for each player and team, and for fielding each position: the lines of all
games merged.

## Main definitions

* `Register` — the lines by key
* `Register.add` — merges a line in
* `Register.filter`, `Register.atPosition` — the lines that satisfy a condition
* `Register.sorted` — the lines as a register prints them
* `Register.battingTable`, `pitchingTable`, `fieldingTable`
-/

namespace Baseball

/-- Lines by their keys. -/
structure Register (L : Type) where
  lines : Keyed LineKey L := ∅

namespace Register

variable {L : Type} [StatLine L]

/-- Merges a line into the one with the same key. -/
def add (r : Register L) (l : L) : Register L :=
  ⟨r.lines.upsert (StatLine.key l) fun old => (old.map (StatLine.merge · l)).getD l⟩

/-- Merges several lines in, one after the other. -/
def addAll (r : Register L) (ls : List L) : Register L := ls.foldl add r

/-- The register of a list of lines. -/
def ofList (ls : List L) : Register L := addAll {} ls

/-- The line with a key. -/
def get? (r : Register L) (k : LineKey) : Option L := r.lines.get? k

/-- The lines in key order. -/
def toList (r : Register L) : List L := r.lines.values

/-- How many lines there are. -/
def size (r : Register L) : Nat := r.lines.size

/-- Whether there is no line. -/
def isEmpty (r : Register L) : Bool := r.lines.isEmpty

/-- The lines that `keep` accepts. -/
def filter (r : Register L) (keep : L → Bool) : Register L := ⟨r.lines.filter fun _ l => keep l⟩

/-- The fielding lines at a position. -/
def atPosition (r : Register FieldingLine) (p : Position) : Register FieldingLine :=
  r.filter (·.position == p)

/-- What printed registers are ordered by: the name that players are sorted by, then identifier and
team. -/
def sortKey (book : Scorebook) (l : L) : String × String × String :=
  (book.sortName (StatLine.player l), StatLine.player l, StatLine.team l)

/-- Whether a sort key may stand before another. -/
def sortKeyLE (a b : String × String × String) : Bool :=
  (compareLex (compareOn (·.1)) (compareLex (compareOn (·.2.1)) (compareOn (·.2.2))) a b).isLE

/-- The lines as a register prints them; what the sort key cannot tell apart stays in key order. -/
def sorted (book : Scorebook) (r : Register L) : List L :=
  r.toList.mergeSort fun a b => sortKeyLE (sortKey book a) (sortKey book b)

/-- Each game adds its lines. -/
instance : GameTally (Register L) where
  addBox r _ b := r.addAll (StatLine.ofBox b)

/-! ### Tables -/

/-- A register's table before its columns of numbers. -/
def tableHead (title : String) : Table :=
  ({ title } : Table).withLeft "Player" 24 |>.withLeft "Tm" 4

/-- The printed batting register. -/
def battingTable (book : Scorebook) (r : Register BattingLine) : Table :=
  (tableHead "Batting register"
    |>.withRights ["G", "AB", "R", "H", "2B", "3B", "HR", "RBI", "BB", "IBB", "SO", "HBP", "SH",
        "SF", "SB", "CS", "GDP"] 4
    |>.withRights ["AVG", "OBP", "SLG"] 5).withRows <|
  (r.sorted book).map fun l =>
    let c := l.counts
    [book.sortName l.player, l.team]
      ++ [l.gamesPlayed, c.ab, c.r, c.h, c.b2, c.b3, c.hr, c.rbi, c.bb, c.ibb, c.so, c.hbp, c.sh,
          c.sf, c.sb, c.cs, c.gdp].map Nat.repr
      ++ [l.average, l.onBase, l.slugging].map (·.text Rate.defaultPlaces)

/-- The printed pitching register. -/
def pitchingTable (book : Scorebook) (r : Register PitchingLine) : Table :=
  (tableHead "Pitching register"
    |>.withRights ["G", "GS", "CG", "SHO", "GF", "W", "L", "SV"] 4
    |>.withRights ["IP"] 6
    |>.withRights ["BF", "H", "HR", "R", "ER", "BB", "IBB", "SO", "HB", "WP", "BK"] 4
    |>.withRights ["PCT"] 5
    |>.withRights ["ERA"] 6).withRows <|
  (r.sorted book).map fun l =>
    let c := l.counts
    [book.sortName l.player, l.team]
      ++ [l.gamesPlayed, c.gs, c.cg, c.sho, c.gf, c.w, c.l, c.sv].map Nat.repr
      ++ [l.innings]
      ++ [c.bf, c.h, c.hr, c.r, c.er, c.bb, c.ibb, c.so, c.hb, c.wp, c.bk].map Nat.repr
      ++ [l.winningPercentage.text Rate.defaultPlaces, l.earnedRunAverage.text 2]

/-- The printed fielding register. -/
def fieldingTable (book : Scorebook) (r : Register FieldingLine) : Table :=
  (tableHead "Fielding register"
    |>.withLeft "Pos" 4
    |>.withRights ["G", "GS"] 4
    |>.withRights ["INN"] 6
    |>.withRights ["PO", "A", "E", "DP", "TP", "PB"] 4
    |>.withRights ["PCT", "RF"] 5).withRows <|
  (r.sorted book).map fun l =>
    let c := l.counts
    [book.sortName l.player, l.team, l.position.abbreviation]
      ++ [l.gamesPlayed, c.gs].map Nat.repr
      ++ [inningsText c.outs]
      ++ [c.po, c.a, c.e, c.dp, c.tp, c.pb].map Nat.repr
      ++ [l.fieldingPercentage.text Rate.defaultPlaces, l.rangeFactor.text 2]

end Register

end Baseball
