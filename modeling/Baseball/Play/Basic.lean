import Baseball.Play.Kind
import Baseball.Play.Advance
import Baseball.Position

/-!
# Plays

A play is what a scorer writes down for one event: its kind, where the batter and the runners end
up, the outs and runs batted in, and who handled the ball. Entries for empty bases are ignored by
everything that applies the play to a game.

## Main definitions

* `Play` — one structured play
* `Play.runs` — the runs its advance claims
* `Play.recount` — outs and runs batted in as its advance implies them
* `Play.ofKind` — the conventional play of a kind
-/

namespace Baseball

/-- One structured play. -/
@[ext]
structure Play where
  kind : PlayKind
  /-- The scorer's notation, kept for display only. -/
  text : String
  /-- Where the batter and the runners end up. -/
  advance : ByOrigin Destination
  outs : Nat
  rbi : Nat
  /-- Whether the batter is charged with an official at-bat. -/
  atBat : Bool
  /-- Whether the play ends the batter's plate appearance. -/
  batterEvent : Bool
  sacrificeHit : Bool
  sacrificeFly : Bool
  groundedIntoDoublePlay : Bool
  doublePlay : Bool
  triplePlay : Bool
  wildPitch : Bool
  passedBall : Bool
  /-- The runners who stole a base; the entry of the plate is not used. -/
  stolenBase : ByOrigin Bool
  /-- The runners who were caught stealing; the entry of the plate is not used. -/
  caughtStealing : ByOrigin Bool
  /-- One entry for each error charged. -/
  errors : List Position
  /-- One entry for each putout, in the order they were credited. -/
  putouts : List Position
  assists : List Position
  /-- Who handled the ball. -/
  fieldedBy? : Option Position
deriving DecidableEq, Inhabited

namespace Play

/-- Whether the entry of an origin speaks of a man the play concerns: the batter only when his
plate appearance ends. -/
def concerns (p : Play) : Origin → Bool
  | .plate => p.batterEvent
  | .on _ => true

/-- The runs a play claims, entries for empty bases included. -/
def runs (p : Play) : Nat :=
  Origin.all.countP fun o => p.concerns o && (p.advance.get o).isRun

/-- The outs that the advance of a play claims, entries for empty bases included. -/
def outsInAdvance (p : Play) : Nat :=
  Origin.all.countP fun o => p.concerns o && p.advance.get o == .out

/-- The runs batted in that go with the runs of a play: none on an error or when the batter grounds
into a double play, and none unless his plate appearance ends. -/
def rbiInAdvance (p : Play) : Nat :=
  if p.batterEvent && p.kind != .error && !p.groundedIntoDoublePlay then p.runs else 0

/-- Counts outs and runs batted in anew from the advance. -/
def recount (p : Play) : Play :=
  { p with outs := p.outsInAdvance, rbi := p.rbiInAdvance }

/-- Where a play of a kind sends the batter unless something else is said. -/
def conventionalBatter : PlayKind → Destination
  | .single | .walk | .intentionalWalk | .hitByPitch | .interference | .error
  | .fieldersChoice => .safe .first
  | .double => .safe .second
  | .triple => .safe .third
  | .homeRun => .scored
  | _ => .out

/-- The conventional play of a kind: the runners hold, the batter is out or reaches the base he is
awarded, and the counts follow from that. -/
def ofKind (kind : PlayKind) : Play :=
  recount {
    kind
    text := ""
    advance := ⟨conventionalBatter kind, .safe .first, .safe .second, .safe .third⟩
    outs := 0
    rbi := 0
    atBat := kind.isOfficialAtBat
    batterEvent := kind.endsPlateAppearance
    sacrificeHit := false
    sacrificeFly := false
    groundedIntoDoublePlay := false
    doublePlay := false
    triplePlay := false
    wildPitch := kind == .wildPitch
    passedBall := kind == .passedBall
    stolenBase := .replicate false
    caughtStealing := .replicate false
    errors := []
    putouts := []
    assists := []
    fieldedBy? := none }

end Play

end Baseball
