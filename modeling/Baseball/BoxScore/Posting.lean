import Baseball.BoxScore.Basic
import Baseball.Live.Situation

/-!
# Posting a play

What a play is worth to the box score is worked out as a list of postings: credits to one side or
the other, and points at which somebody is needed who is not there. The postings are made in order,
up to the first that cannot be.

## Main definitions

* `Posting` — one credit, or a gap
* `Play.battingCredit`, `Play.pitchingCredit` — what a play gives the batter and the pitcher
* `BoxScore.postings` — the postings of a play
* `BoxScore.post`, `BoxScore.postAll` — the box score after them
-/

namespace Baseball

/-- One step of posting a play. -/
inductive Posting where
  /-- A credit in the box of one side. -/
  | credit (side : Side) (entry : TeamBox.Entry)
  /-- Somebody is needed here and missing. -/
  | gap (role : Role)
deriving DecidableEq

namespace Play

/-- What a play gives the batter. -/
def battingCredit (p : Play) : BattingCounts where
  pa := p.batterEvent.toNat
  ab := p.atBat.toNat
  h := p.kind.isHit.toNat
  b2 := (p.kind == .double).toNat
  b3 := (p.kind == .triple).toNat
  hr := (p.kind == .homeRun).toNat
  rbi := p.rbi
  bb := p.kind.isWalk.toNat
  ibb := (p.kind == .intentionalWalk).toNat
  so := (p.kind == .strikeout).toNat
  hbp := (p.kind == .hitByPitch).toNat
  sh := p.sacrificeHit.toNat
  sf := p.sacrificeFly.toNat
  gdp := p.groundedIntoDoublePlay.toNat

/-- What a play gives the pitcher. -/
def pitchingCredit (p : Play) : PitchingCounts where
  outs := p.outs
  bf := p.batterEvent.toNat
  h := p.kind.isHit.toNat
  b2 := (p.kind == .double).toNat
  b3 := (p.kind == .triple).toNat
  hr := (p.kind == .homeRun).toNat
  bb := p.kind.isWalk.toNat
  ibb := (p.kind == .intentionalWalk).toNat
  so := (p.kind == .strikeout).toNat
  hb := (p.kind == .hitByPitch).toNat
  bk := (p.kind == .balk).toNat
  wp := p.wildPitch.toNat
  sh := p.sacrificeHit.toNat
  sf := p.sacrificeFly.toNat

/-- What a run gives the pitcher charged with it. -/
def runCharge (d : Destination) : PitchingCounts where
  r := 1
  er := d.isEarnedToPitcher.toNat

/-- What a play gives the fielding side at once. -/
def teamFieldingCredit (p : Play) : TeamFieldingCounts where
  outs := p.outs
  po := p.putouts.length
  a := p.assists.length
  e := p.errors.length

/-- What a play gives the fielding side once its fielders are credited. -/
def teamFieldingExtras (p : Play) : TeamFieldingCounts where
  pb := p.passedBall.toNat
  tp := p.triplePlay.toNat
  dp := (p.doublePlay && !p.triplePlay).toNat

/-- The positions that had a part in a play, in scorer's order. -/
def involved (p : Play) : List Position :=
  Position.all.filter fun q => q ∈ p.putouts ∨ q ∈ p.assists

/-- What each position is credited with for a play, in the order in which it is entered: putouts,
assists, errors, a passed ball, the ball fielded into an out, and the part in a double or triple
play. -/
def fieldingCredits (p : Play) : List (Position × FieldingCounts) :=
  p.putouts.map (·, { po := 1 })
    ++ p.assists.map (·, { a := 1 })
    ++ p.errors.map (·, { e := 1 })
    ++ (if p.passedBall then [(.catcher, { pb := 1 })] else [])
    ++ (if 0 < p.outs then p.fieldedBy?.toList.map (·, { fieldedOuts := 1 }) else [])
    ++ (if p.triplePlay then p.involved.map (·, { tp := 1 })
        else if p.doublePlay then p.involved.map (·, { dp := 1 }) else [])

end Play

namespace BoxScore

/-! ### The postings of a play -/

/-- The postings for the batter, if the play concerns him. -/
def batterPostings (s : Situation) (p : Play) : List Posting :=
  if p.batterEvent || p.atBat then
    match s.batter? with
    | none => [.gap .batter]
    | some batter =>
      (if p.atBat then [.credit s.half .atBat] else [])
        ++ [.credit s.half (.batting batter p.battingCredit)]
  else []

/-- The posting for the pitcher on the mound. -/
def pitcherPostings (s : Situation) (p : Play) (pitcher? : Option String) : List Posting :=
  match pitcher? with
  | none => [.gap .pitcher]
  | some pitcher => [.credit s.half.opponent (.pitching pitcher p.pitchingCredit)]

/-- The posting of a credit for whoever holds a position. -/
def fielderPosting (s : Situation) (q : Position) (c : FieldingCounts) : Posting :=
  match s.fielder? s.half.opponent q with
  | none => .gap (.fielder q)
  | some player => .credit s.half.opponent (.fielding player q c)

/-- The postings of the outs for everybody in the field; empty positions are passed over. -/
def outsPostings (s : Situation) (outs : Nat) : List Posting :=
  if 0 < outs then
    Position.field.filterMap fun q =>
      (s.fielder? s.half.opponent q).map fun player =>
        .credit s.half.opponent (.fielding player q { outs })
  else []

/-- The postings for the side in the field. -/
def fieldingPostings (s : Situation) (p : Play) : List Posting :=
  .credit s.half.opponent (.teamFielding p.teamFieldingCredit)
    :: outsPostings s p.outs
    ++ p.fieldingCredits.map (fun (q, c) => fielderPosting s q c)
    ++ [.credit s.half.opponent (.teamFielding p.teamFieldingExtras)]

/-- The outs go to those who stand in the field. -/
theorem mem_outsPostings {s : Situation} {outs : Nat} {x : Posting} (hx : x ∈ outsPostings s outs) :
    ∃ player q, q ∈ Position.field ∧ s.fielder? s.half.opponent q = some player ∧
      x = .credit s.half.opponent (.fielding player q { outs }) := by
  rw [outsPostings] at hx
  split at hx
  · obtain ⟨q, hq, hx⟩ := List.mem_filterMap.mp hx
    obtain ⟨player, hplayer, rfl⟩ := Option.map_eq_some_iff.mp hx
    exact ⟨player, q, hq, hplayer, rfl⟩
  · cases hx

theorem fielderPosting_cases (s : Situation) (q : Position) (c : FieldingCounts) :
    fielderPosting s q c = .gap (.fielder q) ∨
      ∃ player, s.fielder? s.half.opponent q = some player ∧
        fielderPosting s q c = .credit s.half.opponent (.fielding player q c) := by
  rw [fielderPosting]
  rcases s.fielder? s.half.opponent q with _ | player
  · exact .inl rfl
  · exact .inr ⟨player, rfl, rfl⟩

/-- **What is posted to the side in the field**: counts of the team, gaps, and credits of men at
positions they hold, which are in the field or named by the play. -/
theorem mem_fieldingPostings {s : Situation} {p : Play} {x : Posting}
    (hx : x ∈ fieldingPostings s p) :
    (∃ c, x = .credit s.half.opponent (.teamFielding c)) ∨ (∃ role, x = .gap role) ∨
      ∃ player q c, x = .credit s.half.opponent (.fielding player q c) ∧
        s.fielder? s.half.opponent q = some player ∧
        (q ∈ Position.field ∨ (q, c) ∈ p.fieldingCredits) := by
  simp only [fieldingPostings, List.mem_append, List.mem_cons, List.mem_map, List.not_mem_nil,
    or_false] at hx
  rcases hx with ((rfl | hx) | ⟨⟨q, c⟩, hq, rfl⟩) | rfl
  · exact .inl ⟨_, rfl⟩
  · obtain ⟨player, q, hq, hplayer, rfl⟩ := mem_outsPostings hx
    exact .inr (.inr ⟨player, q, _, rfl, hplayer, .inl hq⟩)
  · rcases fielderPosting_cases s q c with hgap | ⟨player, hplayer, hcredit⟩
    · exact .inr (.inl ⟨_, hgap⟩)
    · exact .inr (.inr ⟨player, q, c, hcredit, hplayer, .inr hq⟩)
  · exact .inl ⟨_, rfl⟩

/-- The man a play may move from an origin, as the box score sees him. -/
def man? (s : Situation) (p : Play) : Origin → Option String
  | .plate => if p.batterEvent then s.batter? else none
  | .on b => s.runner? b

/-- The pitcher charged with the man from an origin: the one on the mound for the batter. -/
def charged? (s : Situation) (pitcher? : Option String) : Origin → Option String
  | .plate => pitcher?
  | .on b => s.responsiblePitcher? b

/-- The postings of a run that a man scores. -/
def runPostings (s : Situation) (pitcher? : Option String) (man : String) (o : Origin)
    (d : Destination) : List Posting :=
  [.credit s.half (.run s.inning), .credit s.half (.batting man { r := 1 })]
    ++ (match charged? s pitcher? o with
      | none => [.gap .responsiblePitcher]
      | some pitcher =>
        .credit s.half.opponent (.pitching pitcher (Play.runCharge d))
          :: if d.isEarnedToTeam then [.credit s.half.opponent .earnedRun] else [])

/-- The postings of what a runner did on the bases. -/
def runningPostings (s : Situation) (p : Play) (man : String) : Origin → List Posting
  | .plate => []
  | o =>
    (if p.stolenBase.get o then [.credit s.half (.batting man { sb := 1 })] else [])
      ++ if p.caughtStealing.get o then [.credit s.half (.batting man { cs := 1 })] else []

/-- The postings for the man from an origin, none if nobody is there. -/
def originPostings (s : Situation) (p : Play) (pitcher? : Option String) (o : Origin) :
    List Posting :=
  match man? s p o with
  | none => []
  | some man =>
    (if (p.advance.get o).isRun then runPostings s pitcher? man o (p.advance.get o) else [])
      ++ runningPostings s p man o

/-- The postings of a play: the inning is opened, then the batter, the pitcher and the fielders are
credited, and then the men from the plate and from each base. -/
def postings (b : BoxScore) (s : Situation) (p : Play) : List Posting :=
  let pitcher? := (b.team s.half.opponent).currentPitcher?.map PitchingLine.player
  .credit s.half (.bats s.inning)
    :: batterPostings s p
    ++ pitcherPostings s p pitcher?
    ++ fieldingPostings s p
    ++ Origin.all.flatMap (originPostings s p pitcher?)

/-! ### Making them -/

/-- The box score after one posting. -/
def post (gameId : String) (b : BoxScore) : Posting → Attempt BoxScore
  | .credit side entry => b.onSide side (·.post gameId entry)
  | .gap role => .fail b (.missingOccupant gameId role)

/-- The box score after several postings, up to the first that cannot be made. -/
def postAll (gameId : String) (b : BoxScore) (ps : List Posting) : Attempt BoxScore :=
  Attempt.forEach (post gameId) b ps

/-- The box score after a play. -/
def postPlay (gameId : String) (b : BoxScore) (s : Situation) (p : Play) : Attempt BoxScore :=
  b.postAll gameId (b.postings s p)

end BoxScore

end Baseball
