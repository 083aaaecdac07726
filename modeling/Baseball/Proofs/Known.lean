import Baseball.BoxScore.Posting
import Baseball.Proofs.BoxScore

/-!
# Whom a play is posted to

A play is posted to the lines of the men whom the game names: the batter, the runners, the pitchers
charged with them, and the fielders. If all of them have lines, no posting is refused because of a
player who is unknown; a play may still fail for want of somebody, a batter or a pitcher or a man at
a position. Positions outside the field have no fielding lines, so a play must not name them.

## Main definitions

* `Play.InField` — a play whose fielders are at positions in the field
* `BoxScore.Knows` — whoever the game may name has the line it takes
* `Posting.Known` — whoever a posting goes to has a line for it

## Main results

* `BoxScore.Knows.postings` — then the postings of a play go to players who are known
* `BoxScore.Knows.error?_postPlay_ne` — and none of them is refused because of a player
-/

namespace Baseball

/-! ### Positions in the field -/

/-- A play whose fielders are all at positions in the field. -/
def Play.InField (p : Play) : Prop :=
  ∀ q ∈ p.putouts ++ p.assists ++ p.errors ++ p.fieldedBy?.toList, q.isFielding

instance (p : Play) : Decidable p.InField := inferInstanceAs (Decidable (∀ q ∈ _, _))

/-- What such a play credits to fielders it credits to positions in the field. -/
theorem Play.InField.isFielding {p : Play} (h : p.InField) {q : Position} {c : FieldingCounts}
    (hq : (q, c) ∈ p.fieldingCredits) : q.isFielding := by
  have hputout (hmem : q ∈ p.putouts) : q.isFielding := h q (by simp [hmem])
  have hassist (hmem : q ∈ p.assists) : q.isFielding := h q (by simp [hmem])
  have herror (hmem : q ∈ p.errors) : q.isFielding := h q (by simp [hmem])
  have hfielded (hmem : q ∈ p.fieldedBy?.toList) : q.isFielding :=
    h q (List.mem_append_right _ hmem)
  have hinvolved (hmem : q ∈ p.involved) : q.isFielding :=
    (of_decide_eq_true (List.mem_filter.mp hmem).2).elim hputout hassist
  have hfst {l : List Position} {d : FieldingCounts} (hmem : (q, c) ∈ l.map (·, d)) : q ∈ l := by
    obtain ⟨r, hr, heq⟩ := List.mem_map.mp hmem
    exact (Prod.mk.inj heq).1 ▸ hr
  rw [Play.fieldingCredits] at hq
  simp only [List.mem_append] at hq
  rcases hq with ((((hq | hq) | hq) | hq) | hq) | hq
  · exact hputout (hfst hq)
  · exact hassist (hfst hq)
  · exact herror (hfst hq)
  · split at hq
    · rw [(Prod.mk.inj (List.mem_singleton.mp hq)).1]
      rfl
    · cases hq
  · split at hq
    · exact hfielded (hfst hq)
    · cases hq
  · split at hq
    · exact hinvolved (hfst hq)
    · split at hq
      · exact hinvolved (hfst hq)
      · cases hq

/-- Whoever a posting goes to has a line for it. -/
def Posting.Known (b : BoxScore) : Posting → Prop
  | .credit side e => e.Known (b.team side)
  | .gap _ => True

namespace BoxScore

open TeamBox

variable {gameId : String} {σ : Situation} {p : Play} {b b' : BoxScore}

/-! ### What the box knows -/

/-- **Whoever the game may name has the line it takes** in the box of the side he plays for. -/
structure Knows (b : BoxScore) (σ : Situation) : Prop where
  batter : ∀ {x}, σ.batter? = some x → x ∈ (b.team σ.half).batters
  runner : ∀ {base x}, σ.runner? base = some x → x ∈ (b.team σ.half).batters
  responsiblePitcher : ∀ {base x}, σ.responsiblePitcher? base = some x →
    x ∈ (b.team σ.half.opponent).pitcherNames
  fielder : ∀ {side q x}, q.isFielding → σ.fielder? side q = some x →
    (x, q) ∈ (b.team side).fieldingPosts

theorem Knows.batterPostings (hk : b.Knows σ) (p : Play) :
    ∀ x ∈ batterPostings σ p, x.Known b := by
  intro x hx
  rw [BoxScore.batterPostings] at hx
  split at hx
  · rcases hbatter : σ.batter? with _ | batter
    · rw [hbatter] at hx
      rw [List.mem_singleton.mp hx]
      trivial
    · rw [hbatter] at hx
      rcases List.mem_append.mp hx with hx | hx
      · split at hx
        · rw [List.mem_singleton.mp hx]
          trivial
        · cases hx
      · rw [List.mem_singleton.mp hx]
        exact hk.batter hbatter
  · cases hx

theorem known_pitcherPostings {pitcher? : Option String} (σ : Situation) (p : Play)
    (hpitcher : ∀ x, pitcher? = some x → x ∈ (b.team σ.half.opponent).pitcherNames) :
    ∀ x ∈ pitcherPostings σ p pitcher?, x.Known b := by
  intro x hx
  rcases pitcher? with _ | pitcher
  · rw [List.mem_singleton.mp hx]
    trivial
  · rw [List.mem_singleton.mp hx]
    exact hpitcher pitcher rfl

theorem Knows.fieldingPostings (hk : b.Knows σ) (hp : p.InField) :
    ∀ x ∈ fieldingPostings σ p, x.Known b := by
  intro x hx
  rcases mem_fieldingPostings hx with ⟨c, rfl⟩ | ⟨role, rfl⟩ | ⟨player, q, c, rfl, hplayer, hq⟩
  · trivial
  · trivial
  · refine hk.fielder ?_ hplayer
    exact hq.elim Position.mem_field_iff.mp hp.isFielding

/-- The man from an origin is one who bats. -/
theorem Knows.man_mem_batters (hk : b.Knows σ) {o : Origin} {man : String}
    (h : man? σ p o = some man) : man ∈ (b.team σ.half).batters := by
  cases o with
  | plate =>
    rw [man?] at h
    split at h
    · exact hk.batter h
    · cases h
  | on base => exact hk.runner h

/-- The pitcher charged with the man from an origin has pitched. -/
theorem Knows.charged_mem_pitcherNames {pitcher? : Option String} (hk : b.Knows σ)
    (hpitcher : ∀ x, pitcher? = some x → x ∈ (b.team σ.half.opponent).pitcherNames) {o : Origin}
    {pitcher : String} (h : charged? σ pitcher? o = some pitcher) :
    pitcher ∈ (b.team σ.half.opponent).pitcherNames := by
  cases o with
  | plate => exact hpitcher pitcher h
  | on base => exact hk.responsiblePitcher h

theorem Knows.runPostings {pitcher? : Option String} (hk : b.Knows σ)
    (hpitcher : ∀ x, pitcher? = some x → x ∈ (b.team σ.half.opponent).pitcherNames) {man : String}
    (hman : man ∈ (b.team σ.half).batters) (o : Origin) (d : Destination) :
    ∀ x ∈ runPostings σ pitcher? man o d, x.Known b := by
  intro x hx
  rw [BoxScore.runPostings] at hx
  rcases List.mem_append.mp hx with hx | hx
  · rcases List.mem_cons.mp hx with rfl | hx
    · trivial
    · rw [List.mem_singleton.mp hx]
      exact hman
  · rcases hcharged : charged? σ pitcher? o with _ | pitcher
    · rw [hcharged] at hx
      rw [List.mem_singleton.mp hx]
      trivial
    · rw [hcharged] at hx
      rcases List.mem_cons.mp hx with rfl | hx
      · exact hk.charged_mem_pitcherNames hpitcher hcharged
      · split at hx
        · rw [List.mem_singleton.mp hx]
          trivial
        · cases hx

theorem known_runningPostings (p : Play) {man : String} (hman : man ∈ (b.team σ.half).batters)
    (o : Origin) : ∀ x ∈ runningPostings σ p man o, x.Known b := by
  intro x hx
  cases o with
  | plate => cases hx
  | on base =>
    rcases List.mem_append.mp hx with hx | hx
    · split at hx
      · rw [List.mem_singleton.mp hx]
        exact hman
      · cases hx
    · split at hx
      · rw [List.mem_singleton.mp hx]
        exact hman
      · cases hx

theorem Knows.originPostings {pitcher? : Option String} (hk : b.Knows σ) (p : Play)
    (hpitcher : ∀ x, pitcher? = some x → x ∈ (b.team σ.half.opponent).pitcherNames) (o : Origin) :
    ∀ x ∈ originPostings σ p pitcher? o, x.Known b := by
  intro x hx
  rw [BoxScore.originPostings] at hx
  rcases h : man? σ p o with _ | man
  · rw [h] at hx
    cases hx
  have hman := hk.man_mem_batters h
  rw [h] at hx
  rcases List.mem_append.mp hx with hx | hx
  · split at hx
    · exact hk.runPostings hpitcher hman o _ x hx
    · cases hx
  · exact known_runningPostings p hman o x hx

/-- **A box that knows everybody knows whom a play is posted to.** -/
theorem Knows.postings (hk : b.Knows σ) (hp : p.InField) : ∀ x ∈ b.postings σ p, x.Known b := by
  have hpitcher (x : String) (h : (b.team σ.half.opponent).currentPitcher?.map
      PitchingLine.player = some x) : x ∈ (b.team σ.half.opponent).pitcherNames := by
    obtain ⟨l, hl, rfl⟩ := Option.map_eq_some_iff.mp h
    exact List.mem_map_of_mem (List.mem_of_getElem? hl)
  intro x hx
  simp only [BoxScore.postings, List.mem_append, List.mem_cons, List.mem_flatMap] at hx
  rcases hx with (((rfl | hx) | hx) | hx) | ⟨o, -, hx⟩
  · trivial
  · exact hk.batterPostings p x hx
  · exact known_pitcherPostings σ p hpitcher x hx
  · exact hk.fieldingPostings hp x hx
  · exact hk.originPostings p hpitcher o x hx

/-! ### Posting a play -/

theorem sameNames_postOne (b : BoxScore) (gameId : String) (x : Posting) (side : Side) :
    SameNames (b.team side) ((b.post gameId x).state.team side) :=
  postOne_induction (P := SameNames (b.team side)) (.refl _) fun _ => sameNames_post _ gameId _

theorem sameNames_postPlay (b : BoxScore) (gameId : String) (σ : Situation) (p : Play)
    (side : Side) :
    SameNames (b.team side) ((b.postPlay gameId σ p).state.team side) :=
  postPlay_induction (P := SameNames (b.team side)) (.refl _)
    fun _ h => h.trans (sameNames_post _ gameId _)

/-- A posting to somebody who is known is made; otherwise somebody is missing. -/
theorem error?_postOne_ne {x : Posting} (hx : x.Known b) (id player : String) :
    (b.post gameId x).error? ≠ some (.unknownPlayer id player) := by
  intro herr
  cases x with
  | credit side e =>
    have hmade : ((b.team side).post gameId e).error? = none := error?_post_eq_none_iff.mpr hx
    have hnone : (b.post gameId (.credit side e)).error? = none := hmade
    rw [hnone] at herr
    cases herr
  | gap role => cases herr

/-- **A play never meets a player who is unknown.** -/
theorem Knows.error?_postPlay_ne (hk : b.Knows σ) (hp : p.InField) (id player : String) :
    (b.postPlay gameId σ p).error? ≠ some (.unknownPlayer id player) := by
  intro herr
  obtain ⟨b', hsame, x, hx, herr⟩ := Attempt.error?_forEach_eq_some
    (P := fun b' => ∀ side, SameNames (b.team side) (b'.team side)) (fun _ => .refl _)
    (fun b' x _ h side => (h side).trans (sameNames_postOne b' gameId x side)) herr
  refine error?_postOne_ne ?_ id player herr
  have hknown := hk.postings hp x hx
  cases x with
  | credit side e => exact hknown.of_sameNames (hsame side)
  | gap role => trivial

end BoxScore

end Baseball
