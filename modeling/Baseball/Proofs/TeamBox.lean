import Baseball.BoxScore.Scorer
import Baseball.Proofs.Counts
import Mathlib.Data.List.Perm.Basic

/-!
# What happens to a team box

During a game a team box is changed in two ways: somebody comes in, and somebody is credited. Both
are described here once, and nothing later looks into the operations again.

## The contract

Coming in adds lines without counts and never touches a line that is there. A credit adds to one
line or one count, and leaves the names in place; it is refused exactly if the line is missing. What
is entered when a game is opened and closed is no play's: it leaves a box that is
`TeamBox.SamePlay`.

## Main definitions

* `TeamBox.batters`, `pitcherNames`, `fieldingPosts` — who has a line
* `TeamBox.SameNames`, `TeamBox.NamesIn` — two boxes with the same names, or with more
* `TeamBox.SamePlay` — two boxes in which plays have entered the same

## Main results

* `TeamBox.enter_eq_ok_iff` — the box after somebody has come in
* `TeamBox.post_batting_eq_ok_iff` and its companions — the box after a credit
* `TeamBox.map_stints_post` and its companions — what every credit keeps, made or refused
* `TeamBox.error?_post_eq_none_iff` — when a credit is made
* `TeamBox.stintsInOrder_perm` — a box lists every stint once
-/

namespace Baseball

/-! ### Changing one element of a list -/

section ModifyFirst

variable {α β M : Type} {p : α → Bool} {f : α → α} {l l' : List α}

/-- The element that is changed, and those around it. -/
theorem modifyFirst?_eq_some (h : modifyFirst? p f l = some l') :
    ∃ before x after, l = before ++ x :: after ∧ p x ∧ l' = before ++ f x :: after := by
  induction l generalizing l' with
  | nil => cases h
  | cons x l ih =>
    rw [modifyFirst?] at h
    split at h
    · next hx =>
      cases h
      exact ⟨[], x, l, rfl, hx, rfl⟩
    · obtain ⟨m, hm, rfl⟩ := Option.map_eq_some_iff.mp h
      obtain ⟨before, y, after, rfl, hy, rfl⟩ := ih hm
      exact ⟨x :: before, y, after, rfl, hy, rfl⟩

/-- What the change keeps of each element it keeps of the list. -/
theorem map_modifyFirst? (h : modifyFirst? p f l = some l') {k : α → β} (hk : ∀ x, k (f x) = k x) :
    l'.map k = l.map k := by
  obtain ⟨before, x, after, rfl, -, rfl⟩ := modifyFirst?_eq_some h
  rw [List.map_append, List.map_append, List.map_cons, List.map_cons, hk]

/-- What the change adds to the element that it finds it adds to the sum. -/
theorem sum_modifyFirst? [AddCommMonoid M] (h : modifyFirst? p f l = some l') {w : α → M} {d : M}
    (hw : ∀ x, p x → w (f x) = w x + d) : (l'.map w).sum = (l.map w).sum + d := by
  obtain ⟨before, x, after, rfl, hx, rfl⟩ := modifyFirst?_eq_some h
  rw [List.map_append, List.map_append, List.sum_append, List.sum_append, List.map_cons,
    List.map_cons, List.sum_cons, List.sum_cons, hw x hx, add_right_comm (w x), ← add_assoc]

end ModifyFirst

namespace TeamBox

variable {gameId player : String} {slot : Nat} {p : Position} {t t' : TeamBox}

/-! ### Who has a line -/

/-- The players with a stint, in the order in which they came in. -/
def batters (t : TeamBox) : List String := t.stints.map fun s => s.line.player

/-- The players with a pitching line, in order of appearance. -/
def pitcherNames (t : TeamBox) : List String := t.pitchers.map PitchingLine.player

/-- The players and positions with a fielding line. -/
def fieldingPosts (t : TeamBox) : List (String × Position) :=
  t.fielders.map fun l => (l.player, l.position)

theorem hasStint_iff : t.hasStint player ↔ player ∈ t.batters := by
  simp [hasStint, batters]

theorem hasFielding_iff : t.hasFielding player p ↔ (player, p) ∈ t.fieldingPosts := by
  simp [hasFielding, fieldingPosts, Prod.ext_iff]

/-! ### Slot by slot -/

/-- Slot by slot up to some slot, the stints of these slots are listed once. -/
theorem flatMap_slot_perm (t : TeamBox) (n : Nat) :
    ((List.range n).flatMap t.slot).Perm (t.stints.filter fun s => s.slot.val < n) := by
  induction n with
  | zero => simp
  | succ n ih =>
    have hlow : (t.stints.filter fun s => s.slot.val < n + 1).filter (fun s => s.slot.val < n)
        = t.stints.filter fun s => s.slot.val < n := by
      rw [List.filter_filter]
      refine List.filter_congr fun s _ => ?_
      simp only [← Bool.decide_and, decide_eq_decide]
      omega
    have htop : (t.stints.filter fun s => s.slot.val < n + 1).filter (fun s => !(s.slot.val < n))
        = t.slot n := by
      rw [List.filter_filter]
      refine List.filter_congr fun s _ => ?_
      rw [Bool.eq_iff_iff]
      simp
      omega
    have hsplit := List.filter_append_perm (fun s : Stint => decide (s.slot.val < n))
      (t.stints.filter fun s => s.slot.val < n + 1)
    rw [hlow, htop] at hsplit
    rw [List.range_succ, List.flatMap_append, List.flatMap_singleton]
    exact (ih.append_right _).trans hsplit

/-- Slot by slot, every stint is listed once. -/
theorem stintsInOrder_perm (t : TeamBox) : t.stintsInOrder.Perm t.stints := by
  have hall : (t.stints.filter fun s => s.slot.val < slotCount) = t.stints :=
    List.filter_eq_self.mpr fun s _ => decide_eq_true s.slot.isLt
  have hperm := t.flatMap_slot_perm slotCount
  rwa [hall] at hperm

/-! ### Coming in -/

theorem enterStint_eq (t : TeamBox) (gameId player : String) (slot : Fin slotCount) (p : Position) :
    t.enterStint gameId player slot p
      = { t with stints := (t.enterStint gameId player slot p).stints } := by
  rw [enterStint]
  split <;> rfl

theorem enterFielder_eq (t : TeamBox) (gameId player : String) (p : Position)
    (stints : List Stint) :
    { t with stints }.enterFielder gameId player p
      = { t with stints, fielders := (t.enterFielder gameId player p).fielders } := by
  have hfield : { t with stints }.hasFielding player p = t.hasFielding player p := rfl
  rw [enterFielder, enterFielder, hfield]
  split <;> rfl

theorem enterPitcher_eq (t : TeamBox) (gameId player : String) (stints : List Stint)
    (fielders : List FieldingLine) :
    { t with stints, fielders }.enterPitcher gameId player =
      { t with
        stints
        fielders
        pitchers := (t.enterPitcher gameId player).pitchers
        currentPitcher := (t.enterPitcher gameId player).currentPitcher } := by
  rw [enterPitcher, enterPitcher]
  cases t.pitchers.findIdx? fun l => l.player == player <;> rfl

/-- **Coming in** needs a slot that lineups have. Stints, fielding lines and pitchers are then seen
to one by one, and nothing else changes. -/
theorem enter_eq_ok_iff :
    t.enter gameId player slot p = .ok t' ↔ ∃ hs : slot < slotCount, t' =
      { t with
        stints := (t.enterStint gameId player ⟨slot, hs⟩ p).stints
        fielders := (t.enterFielder gameId player p).fielders
        pitchers := if p = .pitcher then (t.enterPitcher gameId player).pitchers else t.pitchers
        currentPitcher :=
          if p = .pitcher then (t.enterPitcher gameId player).currentPitcher
          else t.currentPitcher } := by
  rw [enter]
  split
  · next hs =>
    rw [enterStint_eq, enterFielder_eq, Except.ok.injEq, exists_prop_of_true hs, eq_comm]
    by_cases hp : p = .pitcher
    · simp only [if_pos hp, enterPitcher_eq]
    · simp only [if_neg hp]
  · next hs => simp [hs]

/-- A player who comes in and has no stint gets one without counts. -/
theorem stints_enterStint_cases (t : TeamBox) (gameId player : String) (slot : Fin slotCount)
    (p : Position) :
    (modifyFirst? (fun s : Stint => s.line.player == player) (·.addPosition p) t.stints
        = some (t.enterStint gameId player slot p).stints) ∨
      player ∉ t.batters ∧ (t.enterStint gameId player slot p).stints = t.stints ++
        [{ slot, line := { player, team := t.team, games := .singleton gameId }, positions := [p] }]
    := by
  rw [enterStint]
  split
  · next stints h => exact .inl h
  · next h =>
    refine .inr ⟨fun hmem => ?_, rfl⟩
    have hsome := modifyFirst?_isSome (f := (·.addPosition p)).mpr
      (List.any_eq_true.mp (hasStint_iff.mpr hmem))
    rw [h] at hsome
    cases hsome

theorem addPosition_line (s : Stint) (p : Position) : (s.addPosition p).line = s.line := by
  rw [Stint.addPosition]
  split <;> rfl

theorem addPosition_slot (s : Stint) (p : Position) : (s.addPosition p).slot = s.slot := by
  rw [Stint.addPosition]
  split <;> rfl

/-- The batters after somebody has come in are those before, and he. -/
theorem mem_batters_enterStint {x : String} {slot : Fin slotCount} :
    x ∈ (t.enterStint gameId player slot p).batters ↔ x ∈ t.batters ∨ x = player := by
  rcases stints_enterStint_cases t gameId player slot p with h | ⟨-, h⟩
  · have hmap := map_modifyFirst? h (k := fun s => s.line.player)
      fun s => by rw [addPosition_line]
    have hplayer : player ∈ t.batters := by
      have hfound := modifyFirst?_isSome.mp (Option.isSome_of_eq_some h)
      exact hasStint_iff.mp (List.any_eq_true.mpr hfound)
    rw [batters, hmap]
    constructor
    · exact .inl
    · rintro (hx | rfl)
      · exact hx
      · exact hplayer
  · rw [batters, h]
    simp [batters]

theorem mem_fieldingPosts_enterFielder {x : String × Position} :
    x ∈ (t.enterFielder gameId player p).fieldingPosts ↔
      x ∈ t.fieldingPosts ∨ x = (player, p) ∧ p.isFielding := by
  rw [enterFielder]
  split
  · next h =>
    rw [Bool.and_eq_true] at h
    simp [fieldingPosts, h.1]
  · next h =>
    rw [Bool.and_eq_true, Bool.not_eq_true', not_and, Bool.not_eq_false, hasFielding_iff] at h
    constructor
    · exact .inl
    · rintro (hx | ⟨rfl, hp⟩)
      · exact hx
      · exact h hp

theorem mem_pitcherNames_enterPitcher {x : String} :
    x ∈ (t.enterPitcher gameId player).pitcherNames ↔ x ∈ t.pitcherNames ∨ x = player := by
  rw [enterPitcher]
  split
  · next index h =>
    have hplayer : player ∈ t.pitcherNames := by
      have hfound := List.findIdx?_isSome.symm.trans (Option.isSome_of_eq_some h)
      obtain ⟨l, hl, hname⟩ := List.any_eq_true.mp hfound
      exact List.mem_map.mpr ⟨l, hl, by simpa using hname⟩
    constructor
    · exact .inl
    · rintro (hx | rfl)
      · exact hx
      · exact hplayer
  · simp [pitcherNames]

/-- Whoever comes in has a stint, a fielding line if his position is in the field, and a pitching
line if he pitches; everybody else has what he had. -/
theorem mem_batters_enter {x : String} (h : t.enter gameId player slot p = .ok t') :
    x ∈ t'.batters ↔ x ∈ t.batters ∨ x = player := by
  obtain ⟨hs, rfl⟩ := enter_eq_ok_iff.mp h
  exact mem_batters_enterStint

theorem mem_fieldingPosts_enter {x : String × Position}
    (h : t.enter gameId player slot p = .ok t') :
    x ∈ t'.fieldingPosts ↔ x ∈ t.fieldingPosts ∨ x = (player, p) ∧ p.isFielding := by
  obtain ⟨hs, rfl⟩ := enter_eq_ok_iff.mp h
  exact mem_fieldingPosts_enterFielder

theorem mem_pitcherNames_enter {x : String} (h : t.enter gameId player slot p = .ok t') :
    x ∈ t'.pitcherNames ↔ x ∈ t.pitcherNames ∨ x = player ∧ p = .pitcher := by
  obtain ⟨hs, rfl⟩ := enter_eq_ok_iff.mp h
  by_cases hp : p = .pitcher
  · simp only [hp, and_true]
    exact mem_pitcherNames_enterPitcher
  · simp only [hp, and_false, or_false]
    exact Iff.rfl

/-! ### Credits -/

theorem post_batting_eq_ok_iff {c : BattingCounts} :
    t.post gameId (.batting player c) = .ok t' ↔ ∃ stints,
      modifyFirst? (fun s : Stint => s.line.player == player)
          (fun s => { s with line := s.line.credit c }) t.stints = some stints ∧
        { t with stints } = t' := by
  rw [post, Attempt.require_eq_ok]
  simp only [Attempt.ok_inj, exists_eq_right]
  exact Option.map_eq_some_iff

theorem post_pitching_eq_ok_iff {c : PitchingCounts} :
    t.post gameId (.pitching player c) = .ok t' ↔ ∃ pitchers,
      modifyFirst? (fun l : PitchingLine => l.player == player) (·.credit c) t.pitchers
          = some pitchers ∧
        { t with pitchers } = t' := by
  rw [post, Attempt.require_eq_ok]
  simp only [Attempt.ok_inj, exists_eq_right]
  exact Option.map_eq_some_iff

theorem post_fielding_eq_ok_iff {c : FieldingCounts} :
    t.post gameId (.fielding player p c) = .ok t' ↔ ∃ fielders,
      modifyFirst? (fun l : FieldingLine => l.player == player && l.position == p) (·.credit c)
          t.fielders = some fielders ∧
        { t with fielders } = t' := by
  rw [post, Attempt.require_eq_ok]
  simp only [Attempt.ok_inj, exists_eq_right]
  exact Option.map_eq_some_iff

/-- Of the stints a credit keeps whatever it keeps of the one it goes to, and of the pitching and the
fielding lines likewise, whether it is made or refused. -/
theorem map_stints_post {β : Type} (t : TeamBox) (gameId : String) (e : Entry) {k : Stint → β}
    (hk : ∀ c s, k { s with line := s.line.credit c } = k s) :
    (t.post gameId e).state.stints.map k = t.stints.map k := by
  cases e with
  | batting player c =>
    rw [post]
    rcases h : t.creditBatting? player c with _ | u
    · rfl
    · obtain ⟨stints, hm, rfl⟩ := Option.map_eq_some_iff.mp h
      exact map_modifyFirst? hm (hk c)
  | pitching player c =>
    rw [post, creditPitching?]
    cases modifyFirst? _ _ t.pitchers <;> rfl
  | fielding player p c =>
    rw [post, creditFielding?]
    cases modifyFirst? _ _ t.fielders <;> rfl
  | _ => rfl

theorem map_pitchers_post {β : Type} (t : TeamBox) (gameId : String) {e : Entry}
    {k : PitchingLine → β} (hk : ∀ player c, e = .pitching player c → ∀ l, k (l.credit c) = k l) :
    (t.post gameId e).state.pitchers.map k = t.pitchers.map k := by
  cases e with
  | batting player c =>
    rw [post, creditBatting?]
    cases modifyFirst? _ _ t.stints <;> rfl
  | pitching player c =>
    rw [post]
    rcases h : t.creditPitching? player c with _ | u
    · rfl
    · obtain ⟨pitchers, hm, rfl⟩ := Option.map_eq_some_iff.mp h
      exact map_modifyFirst? hm (hk player c rfl)
  | fielding player p c =>
    rw [post, creditFielding?]
    cases modifyFirst? _ _ t.fielders <;> rfl
  | _ => rfl

theorem map_fielders_post {β : Type} (t : TeamBox) (gameId : String) (e : Entry)
    {k : FieldingLine → β} (hk : ∀ c l, k (l.credit c) = k l) :
    (t.post gameId e).state.fielders.map k = t.fielders.map k := by
  cases e with
  | batting player c =>
    rw [post, creditBatting?]
    cases modifyFirst? _ _ t.stints <;> rfl
  | pitching player c =>
    rw [post, creditPitching?]
    cases modifyFirst? _ _ t.pitchers <;> rfl
  | fielding player p c =>
    rw [post]
    rcases h : t.creditFielding? player p c with _ | u
    · rfl
    · obtain ⟨fielders, hm, rfl⟩ := Option.map_eq_some_iff.mp h
      exact map_modifyFirst? hm (hk c)
  | _ => rfl

/-- Nor does it change whose box it is, or the place of the pitcher on the mound. -/
theorem team_currentPitcher_post (t : TeamBox) (gameId : String) (e : Entry) :
    (t.post gameId e).state.team = t.team ∧
      (t.post gameId e).state.currentPitcher = t.currentPitcher := by
  cases e with
  | batting player c =>
    rw [post, creditBatting?]
    cases modifyFirst? _ _ t.stints <;> exact ⟨rfl, rfl⟩
  | pitching player c =>
    rw [post, creditPitching?]
    cases modifyFirst? _ _ t.pitchers <;> exact ⟨rfl, rfl⟩
  | fielding player p c =>
    rw [post, creditFielding?]
    cases modifyFirst? _ _ t.fielders <;> exact ⟨rfl, rfl⟩
  | _ => exact ⟨rfl, rfl⟩

/-- Two boxes with the same names in the same places. -/
structure SameNames (t u : TeamBox) : Prop where
  batters : u.batters = t.batters
  pitchers : u.pitcherNames = t.pitcherNames
  posts : u.fieldingPosts = t.fieldingPosts

theorem SameNames.refl (t : TeamBox) : SameNames t t := ⟨rfl, rfl, rfl⟩

theorem SameNames.trans {u v : TeamBox} (h : SameNames t u) (k : SameNames u v) : SameNames t v :=
  ⟨k.batters.trans h.batters, k.pitchers.trans h.pitchers, k.posts.trans h.posts⟩

/-- A box with all the names of another. -/
structure NamesIn (t u : TeamBox) : Prop where
  batters : ∀ {x}, x ∈ t.batters → x ∈ u.batters
  pitchers : ∀ {x}, x ∈ t.pitcherNames → x ∈ u.pitcherNames
  posts : ∀ {x}, x ∈ t.fieldingPosts → x ∈ u.fieldingPosts

theorem NamesIn.refl (t : TeamBox) : NamesIn t t := ⟨id, id, id⟩

theorem NamesIn.trans {u v : TeamBox} (h : NamesIn t u) (k : NamesIn u v) : NamesIn t v :=
  ⟨fun hx => k.batters (h.batters hx), fun hx => k.pitchers (h.pitchers hx),
    fun hx => k.posts (h.posts hx)⟩

theorem SameNames.namesIn {u : TeamBox} (h : SameNames t u) : NamesIn t u :=
  ⟨fun hx => h.batters.symm ▸ hx, fun hx => h.pitchers.symm ▸ hx, fun hx => h.posts.symm ▸ hx⟩

/-- Coming in takes no name away. -/
theorem namesIn_enter (h : t.enter gameId player slot p = .ok t') : NamesIn t t' where
  batters hx := (mem_batters_enter h).mpr (.inl hx)
  pitchers hx := (mem_pitcherNames_enter h).mpr (.inl hx)
  posts hx := (mem_fieldingPosts_enter h).mpr (.inl hx)

/-- A credit leaves the names in place, whether it is made or refused. -/
theorem sameNames_post (t : TeamBox) (gameId : String) (e : Entry) :
    SameNames t (t.post gameId e).state where
  batters := map_stints_post t gameId e fun _ _ => rfl
  pitchers := map_pitchers_post t gameId fun _ _ _ _ => rfl
  posts := map_fielders_post t gameId e fun _ _ => rfl

/-- Whoever a credit goes to has a line for it. -/
def Entry.Known (t : TeamBox) : Entry → Prop
  | .batting player _ => player ∈ t.batters
  | .pitching player _ => player ∈ t.pitcherNames
  | .fielding player p _ => (player, p) ∈ t.fieldingPosts
  | _ => True

theorem Entry.Known.of_sameNames {u : TeamBox} {e : Entry} (hk : e.Known t) (h : SameNames t u) :
    e.Known u := by
  cases e with
  | batting player c =>
    rw [Known, h.batters]
    exact hk
  | pitching player c =>
    rw [Known, h.pitchers]
    exact hk
  | fielding player p c =>
    rw [Known, h.posts]
    exact hk
  | _ => trivial

/-- **A credit is made** exactly if whoever it goes to has a line for it. -/
theorem error?_post_eq_none_iff {e : Entry} : (t.post gameId e).error? = none ↔ e.Known t := by
  have hrequire (o : Option TeamBox) (error : ScoringError) :
      (Attempt.require o t error .ok).error? = none ↔ o.isSome := by
    cases o <;> simp [Attempt.require]
  cases e with
  | batting player c =>
    rw [post, hrequire, creditBatting?, Option.isSome_map, modifyFirst?_isSome, Entry.Known,
      batters, List.mem_map]
    simp
  | pitching player c =>
    rw [post, hrequire, creditPitching?, Option.isSome_map, modifyFirst?_isSome, Entry.Known,
      pitcherNames, List.mem_map]
    simp
  | fielding player p c =>
    rw [post, hrequire, creditFielding?, Option.isSome_map, modifyFirst?_isSome, Entry.Known,
      fieldingPosts, List.mem_map]
    simp
  | _ => simp [post, Entry.Known]

/-! ### Credits that no play gives -/

/-- Two boxes in which plays have entered the same. They may differ in what is entered when a game
is opened and closed, and in who is on the mound. -/
structure SamePlay (t u : TeamBox) : Prop where
  stints : u.stints = t.stints
  pitchers : u.pitchers.map PitchingLine.inPlay = t.pitchers.map PitchingLine.inPlay
  fielders : u.fielders.map FieldingLine.inPlay = t.fielders.map FieldingLine.inPlay
  fielding : u.fielding = t.fielding
  linescore : u.linescore = t.linescore
  atBats : u.atBats = t.atBats
  earnedRuns : u.earnedRuns = t.earnedRuns

theorem SamePlay.refl (t : TeamBox) : SamePlay t t := ⟨rfl, rfl, rfl, rfl, rfl, rfl, rfl⟩

theorem SamePlay.trans {u v : TeamBox} (h : SamePlay t u) (k : SamePlay u v) : SamePlay t v where
  stints := k.stints.trans h.stints
  pitchers := k.pitchers.trans h.pitchers
  fielders := k.fielders.trans h.fielders
  fielding := k.fielding.trans h.fielding
  linescore := k.linescore.trans h.linescore
  atBats := k.atBats.trans h.atBats
  earnedRuns := k.earnedRuns.trans h.earnedRuns

theorem SamePlay.sameNames {u : TeamBox} (h : SamePlay t u) : SameNames t u where
  batters := by rw [batters, h.stints, batters]
  pitchers := by
    have hmap := congrArg (List.map PitchingLine.player) h.pitchers
    simpa [PitchingLine.inPlay, pitcherNames, Function.comp_def] using hmap
  posts := by
    have hmap := congrArg (List.map fun l : FieldingLine => (l.player, l.position)) h.fielders
    simpa [FieldingLine.inPlay, fieldingPosts, Function.comp_def] using hmap

theorem exists_creditPitching?_getD (t : TeamBox) (player : String) (c : PitchingCounts) :
    ∃ pitchers, (t.creditPitching? player c).getD t = { t with pitchers } := by
  rcases h : t.creditPitching? player c with _ | u
  · exact ⟨t.pitchers, rfl⟩
  · obtain ⟨pitchers, -, rfl⟩ := Option.map_eq_some_iff.mp h
    exact ⟨pitchers, rfl⟩

theorem exists_creditFielding?_getD (t : TeamBox) (player : String) (p : Position)
    (c : FieldingCounts) :
    ∃ fielders, (t.creditFielding? player p c).getD t = { t with fielders } := by
  rcases h : t.creditFielding? player p c with _ | u
  · exact ⟨t.fielders, rfl⟩
  · obtain ⟨fielders, -, rfl⟩ := Option.map_eq_some_iff.mp h
    exact ⟨fielders, rfl⟩

/-- A credit to a pitcher that no play gives. -/
theorem samePlay_creditPitching? {c : PitchingCounts} (hc : c.inPlay = 0) :
    SamePlay t ((t.creditPitching? player c).getD t) := by
  rcases h : t.creditPitching? player c with _ | u
  · exact .refl t
  · obtain ⟨pitchers, hm, rfl⟩ := Option.map_eq_some_iff.mp h
    exact ⟨rfl, map_modifyFirst? hm (PitchingLine.inPlay_credit hc), rfl, rfl, rfl, rfl, rfl⟩

/-- A credit to a fielder that no play gives. -/
theorem samePlay_creditFielding? {c : FieldingCounts} (hc : c.inPlay = 0) :
    SamePlay t ((t.creditFielding? player p c).getD t) := by
  rcases h : t.creditFielding? player p c with _ | u
  · exact .refl t
  · obtain ⟨fielders, hm, rfl⟩ := Option.map_eq_some_iff.mp h
    exact ⟨rfl, rfl, map_modifyFirst? hm (FieldingLine.inPlay_credit hc), rfl, rfl, rfl, rfl⟩

end TeamBox

end Baseball
