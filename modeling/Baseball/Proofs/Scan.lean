import Baseball.Proofs.Reports
import Baseball.Season

/-!
# What a scan leaves behind

A scan shows the chosen games to all reports, one game after the other. It ends when the games are
used up, when the monitor stops it between two games, or at the first game that breaks off. However
it ends, it came to a number of whole games, and each report made from box scores has added the box
scores of exactly these to its tally. Nothing of a game that broke off is in it, and nothing that
was left over in the report before the scan.

## Main definitions

* `watchGames` — shows some games to the same observers
* `Report.Added` — a report has added the box scores of some games
* `Season.EndedAfter` — how many whole games a scan came to

## Main results

* `forall₂_watchGames` — observers who watched some games have each watched them alone
* `Report.added_of_watchGames` — what a report has made of them
* `Season.reports_scan` — what a scan leaves of the reports, and of each of them alone
-/

namespace Baseball

variable {ρ μ : Type} {g : Game} {gs : List Game}

/-! ### Lists side by side -/

theorem forall₂_trans {α β γ : Type} {R : α → β → Prop} {S : β → γ → Prop} {T : α → γ → Prop}
    (h : ∀ a b c, R a b → S b c → T a c) {as : List α} {bs : List β} {cs : List γ}
    (hR : List.Forall₂ R as bs) (hS : List.Forall₂ S bs cs) : List.Forall₂ T as cs := by
  induction hR generalizing cs with
  | nil =>
    cases hS
    exact .nil
  | cons hab _ ih =>
    obtain ⟨c, cs', hbc, hrest, rfl⟩ := List.forall₂_cons_left_iff.mp hS
    exact .cons (h _ _ _ hab hbc) (ih hrest)

/-! ### Several games -/

/-- Shows some games to the same observers, one after the other, up to the first that breaks off. -/
def watchGames [Observer ρ] (rs : List ρ) (gs : List Game) : Attempt (List ρ) :=
  Attempt.forEach (fun rs g => watchGame g rs) rs gs

section Watching

variable [Observer ρ] {r r' : ρ} {rs rs' : List ρ}

/-- One observer watches some games, the first and then the others. -/
theorem watchGames_singleton_cons_iff :
    watchGames [r] (g :: gs) = .ok rs' ↔ ∃ m, (∃ s, (State.ofGame g).run g.id g.events = .ok s) ∧
      Observer.watch g r = .ok m ∧ watchGames [m] gs = .ok rs' := by
  rw [watchGames, Attempt.forEach_cons, Attempt.andThen_eq_ok]
  simp only [watchGame_eq_ok_iff, tellEach_singleton, Attempt.map_eq_ok]
  constructor
  · rintro ⟨_, ⟨hrun, m, hm, rfl⟩, hrest⟩
    exact ⟨m, hrun, hm, hrest⟩
  · rintro ⟨m, hrun, hm, hrest⟩
    exact ⟨_, ⟨hrun, m, hm, rfl⟩, hrest⟩

/-- Observers who watched a game together have each watched it alone. -/
theorem forall₂_watchGame (h : watchGame g rs = .ok rs') :
    List.Forall₂ (fun r r' => watchGame g [r] = .ok [r']) rs rs' := by
  obtain ⟨hrun, htell⟩ := watchGame_eq_ok_iff.mp h
  refine (tellEach_eq_ok_iff_forall₂.mp htell).imp fun r r' hr => ?_
  refine watchGame_eq_ok_iff.mpr ⟨hrun, ?_⟩
  rw [tellEach_singleton, hr, Attempt.map_ok]

/-- **Observers who watched some games together have each watched them alone.** -/
theorem forall₂_watchGames (h : watchGames rs gs = .ok rs') :
    List.Forall₂ (fun r r' => watchGames [r] gs = .ok [r']) rs rs' := by
  induction gs generalizing rs with
  | nil =>
    obtain rfl : rs = rs' := Attempt.ok_inj.mp h
    exact List.forall₂_same.mpr fun r _ => rfl
  | cons g gs ih =>
    rw [watchGames, Attempt.forEach_cons] at h
    obtain ⟨ms, hms, hrest⟩ := Attempt.andThen_eq_ok.mp h
    refine forall₂_trans (fun r m r' hm hr' => ?_) (forall₂_watchGame hms) (ih hrest)
    rw [watchGames, Attempt.forEach_cons, hm, Attempt.andThen_ok]
    exact hr'

end Watching

/-- From `r` to `r'` a report that is made from box scores has added those of exactly the games `gs`
to its tally, in order. -/
def Report.Added (gs : List Game) (r r' : Report) : Prop :=
  ∀ t, r.tally? = some t → ∃ boxes, List.Forall₂ (fun g b => BoxScore.ofGame g = .ok b) gs boxes ∧
    r'.tally? = some (GameTally.addGames t (gs.zip boxes))

/-- **What a report has made of some games**, whatever it was doing before. -/
theorem Report.added_of_watchGames {r r' : Report} (h : watchGames [r] gs = .ok [r']) :
    Report.Added gs r r' := by
  induction gs generalizing r with
  | nil =>
    obtain rfl : r = r' := by simpa using Attempt.ok_inj.mp h
    exact fun t ht => ⟨[], .nil, ht⟩
  | cons g gs ih =>
    intro t ht
    obtain ⟨m, hrun, hm, hrest⟩ := watchGames_singleton_cons_iff.mp h
    obtain ⟨b, hb, hmt⟩ := Report.tally?_watch hrun hm ht
    obtain ⟨boxes, hboxes, hr'⟩ := ih hrest _ hmt
    exact ⟨b :: boxes, .cons hb hboxes, hr'⟩

/-- Games have one list of box scores. -/
theorem eq_of_forall₂_ofGame {boxes boxes' : List BoxScore}
    (h : List.Forall₂ (fun g b => BoxScore.ofGame g = .ok b) gs boxes)
    (h' : List.Forall₂ (fun g b => BoxScore.ofGame g = .ok b) gs boxes') : boxes = boxes' :=
  List.right_unique_forall₂' (fun _ _ _ hb hb' => Except.ok.inj (hb.symm.trans hb')) h h'

/-- What a tally with its scorer has made of some games. -/
theorem Report.Kind.of_watchGames {α : Type} [GameTally α] {c : Tallied α → Report}
    {view : α → Report.Tally} (hkind : Report.Kind c view) {u : Tallied α} {r' : Report}
    (h : watchGames [c u] gs = .ok [r']) :
    ∃ u' boxes, r' = c u' ∧ List.Forall₂ (fun g b => BoxScore.ofGame g = .ok b) gs boxes ∧
      u'.tally = GameTally.addGames u.tally (gs.zip boxes) := by
  induction gs generalizing u with
  | nil =>
    obtain rfl : c u = r' := by simpa using Attempt.ok_inj.mp h
    exact ⟨u, [], rfl, .nil, rfl⟩
  | cons g gs ih =>
    obtain ⟨m, hrun, hm, hrest⟩ := watchGames_singleton_cons_iff.mp h
    rw [hkind.embeds.watch, Attempt.map_eq_ok] at hm
    obtain ⟨v, hv, rfl⟩ := hm
    obtain ⟨b, hb, rfl⟩ := ((Observer.keepsBox_tallied g u).watch_eq_ok_iff hrun).mp hv
    obtain ⟨u', boxes, hr', hboxes, hu'⟩ := ih hrest
    exact ⟨u', b :: boxes, hr', .cons hb hboxes, hu'⟩

/-- Reports that are made from box scores watch every game that has a box score. -/
theorem Report.exists_watchGame {rs : List Report} (hrs : ∀ r ∈ rs, r.tally?.isSome)
    (hg : ∃ b, BoxScore.ofGame g = .ok b) :
    ∃ rs', watchGame g rs = .ok rs' ∧ ∀ r ∈ rs', r.tally?.isSome := by
  obtain ⟨b, hb⟩ := hg
  obtain ⟨hrun, -⟩ := BoxScore.ofGame_eq_ok_iff.mp hb
  have hwatch (r : Report) (hr : r ∈ rs) :
      (Observer.watch g r).error? = none ∧ (Observer.watch g r).state.tally?.isSome := by
    obtain ⟨t, ht⟩ := Option.isSome_iff_exists.mp (hrs r hr)
    obtain ⟨keeping, made, hkeeps, hmade⟩ := Report.exists_keepsBox g ht
    have hmakes := (hkeeps.watch_eq_ok_iff hrun).mpr ⟨b, hb, rfl⟩
    rw [hmakes, Attempt.state_ok, hmade]
    exact ⟨rfl, rfl⟩
  refine ⟨_, watchGame_eq_ok_iff.mpr ⟨hrun, tellEach_eq_ok_iff.mpr ⟨fun r hr => (hwatch r hr).1,
    rfl⟩⟩, ?_⟩
  rw [List.forall_mem_map]
  exact fun r hr => (hwatch r hr).2

theorem Report.exists_watchGames {rs : List Report} (hrs : ∀ r ∈ rs, r.tally?.isSome)
    (hgs : ∀ g ∈ gs, ∃ b, BoxScore.ofGame g = .ok b) : ∃ rs', watchGames rs gs = .ok rs' := by
  induction gs generalizing rs with
  | nil => exact ⟨rs, rfl⟩
  | cons g gs ih =>
    obtain ⟨hg, hrest⟩ := List.forall_mem_cons.mp hgs
    obtain ⟨ms, hms, htally⟩ := exists_watchGame hrs hg
    obtain ⟨rs', hrs'⟩ := ih htally hrest
    refine ⟨rs', ?_⟩
    rw [watchGames, Attempt.forEach_cons, hms, Attempt.andThen_ok]
    exact hrs'

namespace Season

/-! ### How a scan ends -/

/-- A scan of the reports `rs` over `games` came to the first `k` of them, and this is how it
ended. -/
inductive EndedAfter [Observer ρ] (rs : List ρ) (games : List Game) :
    Nat → Except ScoringError ScanOutcome → Prop
  /-- Every game was scanned. -/
  | complete : EndedAfter rs games games.length (.ok (.complete games.length))
  /-- The monitor stopped the scan before game `k`. -/
  | incomplete {k : Nat} (more : k < games.length) :
      EndedAfter rs games k (.ok (.incomplete k games.length))
  /-- Game `k` broke off, after the games before it had been watched. -/
  | failed {k : Nat} {g : Game} {rs' : List ρ} {e : ScoringError} (next : games[k]? = some g)
      (before : watchGames rs (games.take k) = .ok rs')
      (breaks : (watchGame g rs').error? = some e) : EndedAfter rs games k (.error e)

variable {s s' : Season ρ μ} {result : Except ScoringError ScanOutcome} {done total : Nat}

/-! ### Reports under their names -/

theorem reports_withReports (s : Season ρ μ) (rs : List ρ) :
    (s.withReports rs).reports = s.names.zip rs := by
  rw [withReports, names, List.zip, List.zipWith_map_left]

theorem map_snd_withReports {rs : List ρ} (h : rs.length = s.reports.length) :
    (s.withReports rs).reports.map Prod.snd = rs := by
  rw [reports_withReports, List.map_snd_zip]
  rw [names, List.length_map]
  exact Nat.le_of_eq h

theorem names_withReports {rs : List ρ} (h : rs.length = s.reports.length) :
    (s.withReports rs).names = s.names := by
  rw [names, reports_withReports, List.map_fst_zip]
  rw [names, List.length_map]
  exact Nat.le_of_eq h.symm

theorem withReports_map_snd (s : Season ρ μ) :
    (s.withReports (s.reports.map Prod.snd)).reports = s.reports := by
  rw [reports_withReports, names, List.zip_map', List.map_id']

/-- What relates reports position by position relates them under their names. -/
theorem forall₂_withReports {R : ρ → ρ → Prop} {rs : List ρ}
    (h : List.Forall₂ R (s.reports.map Prod.snd) rs) :
    List.Forall₂ (fun a a' => a'.1 = a.1 ∧ R a.2 a'.2) s.reports (s.withReports rs).reports := by
  rw [List.forall₂_map_left_iff] at h
  rw [reports_withReports, names]
  generalize s.reports = l at h
  induction h with
  | nil => exact .nil
  | cons hr _ ih => exact .cons ⟨rfl, hr⟩ ih

/-! ### Going through the games -/

theorem reports_of_poll {s₁ : Season ρ μ} {goOn : Bool}
    (h : s.poll done total g = (goOn, s₁)) : s₁.reports = s.reports := by
  rcases s with ⟨l, filter?, _ | m⟩ <;> cases h <;> rfl

/-- The monitor is not asked about the reports. -/
theorem poll_with {s₁ : Season ρ μ} {goOn : Bool} (h : s.poll done total g = (goOn, s₁))
    (reports : List (String × ρ)) :
    ({ s with reports } : Season ρ μ).poll done total g = (goOn, { s₁ with reports }) := by
  rcases s with ⟨l, filter?, _ | m⟩ <;> cases h <;> rfl

section Going

variable [Observer ρ] {s₁ s₂ : Season ρ μ} {games : List Game}

theorem scanGame_eq_ok_iff :
    s.scanGame g = .ok s' ↔ ∃ rs, watchGame g (s.reports.map Prod.snd) = .ok rs ∧
      s.withReports rs = s' :=
  Attempt.map_eq_ok

theorem scanFrom_of_stopped (hpoll : s.poll done total g = (false, s₁)) (games : List Game) :
    s.scanFrom done total (g :: games) = (s₁, .ok (.incomplete done total)) := by
  rw [scanFrom, hpoll]

theorem scanFrom_of_ok (hpoll : s.poll done total g = (true, s₁)) (hgame : s₁.scanGame g = .ok s₂)
    (games : List Game) :
    s.scanFrom done total (g :: games) = s₂.scanFrom (done + 1) total games := by
  simp only [scanFrom, hpoll, hgame, Attempt.error?_ok, Attempt.state_ok]

theorem scanFrom_of_error {e : ScoringError} (hpoll : s.poll done total g = (true, s₁))
    (hgame : (s₁.scanGame g).error? = some e) (games : List Game) :
    s.scanFrom done total (g :: games) = ((s₁.scanGame g).state, .error e) := by
  simp only [scanFrom, hpoll, hgame]

/-- **The games that a scan comes to.** The reports watch some games from the first on, and then the
games are used up, or the monitor stops the scan, or the next game breaks off. -/
theorem scanFrom_cases (s : Season ρ μ) (done total : Nat) (games : List Game) :
    ∃ k rs left, watchGames (s.reports.map Prod.snd) (games.take k) = .ok rs ∧
      (s.scanFrom done total games).1.reports = (s.withReports left).reports ∧
      (left = rs ∧ (s.scanFrom done total games).2 = .ok (.complete total) ∧ k = games.length ∨
       left = rs ∧ (s.scanFrom done total games).2 = .ok (.incomplete (done + k) total) ∧
          k < games.length ∨
       ∃ g e, games[k]? = some g ∧ (watchGame g rs).error? = some e ∧
          left = (watchGame g rs).state ∧ (s.scanFrom done total games).2 = .error e) := by
  induction games generalizing s done with
  | nil => exact ⟨0, _, _, rfl, (withReports_map_snd s).symm, .inl ⟨rfl, rfl, rfl⟩⟩
  | cons g games ih =>
    rcases hpoll : s.poll done total g with ⟨_ | _, s₁⟩
    · have hreports := reports_of_poll hpoll
      rw [scanFrom_of_stopped hpoll]
      refine ⟨0, _, _, rfl, ?_, .inr (.inl ⟨rfl, rfl, Nat.zero_lt_succ _⟩)⟩
      exact hreports.trans (withReports_map_snd s).symm
    · have hreports := reports_of_poll hpoll
      rcases Attempt.eq_ok_or_error (s₁.scanGame g) with ⟨s₂, hs₂⟩ | ⟨e, he⟩
      · rw [scanFrom_of_ok hpoll hs₂]
        obtain ⟨rs₁, hrs₁, rfl⟩ := scanGame_eq_ok_iff.mp hs₂
        have hlength : rs₁.length = s₁.reports.length := by
          rw [← (forall₂_watchGame hrs₁).length_eq, List.length_map]
        obtain ⟨k, rs, left, hrs, hleft, hend⟩ := ih (s₁.withReports rs₁) (done + 1)
        rw [map_snd_withReports hlength] at hrs
        rw [reports_withReports, names_withReports hlength] at hleft
        refine ⟨k + 1, rs, left, ?_, ?_, ?_⟩
        · rw [List.take_succ_cons, watchGames, Attempt.forEach_cons, ← hreports, hrs₁]
          exact hrs
        · rw [hleft, reports_withReports, names, names, hreports]
        · rcases hend with ⟨h, hres, hk⟩ | ⟨h, hres, hk⟩ | ⟨g', e, hg', he, h, hres⟩
          · exact .inl ⟨h, hres, congrArg (· + 1) hk⟩
          · refine .inr (.inl ⟨h, ?_, Nat.succ_lt_succ hk⟩)
            rw [hres, Nat.add_assoc, Nat.add_comm 1 k]
          · exact .inr (.inr ⟨g', e, hg', he, h, hres⟩)
      · rw [scanFrom_of_error hpoll he]
        refine ⟨0, _, _, rfl, ?_, .inr (.inr ⟨g, e, rfl, ?_, rfl, rfl⟩)⟩
        · have hstate : (s₁.scanGame g).state.reports =
              (s₁.withReports (watchGame g (s₁.reports.map Prod.snd)).state).reports := rfl
          rw [hstate, reports_withReports, reports_withReports, names, names, hreports]
        · rw [← hreports]
          exact he

/-- **A report that is scanned alone** goes through the same games and ends where it ends among the
others, if the scan does not fail. -/
theorem scanFrom_alone {outcome : ScanOutcome}
    (h : s.scanFrom done total games = (s', .ok outcome)) :
    List.Forall₂ (fun a a' => a'.1 = a.1 ∧
      ({ s with reports := [a] } : Season ρ μ).scanFrom done total games =
        ({ s' with reports := [a'] }, .ok outcome)) s.reports s'.reports := by
  induction games generalizing s done with
  | nil =>
    obtain ⟨rfl, rfl⟩ : s = s' ∧ outcome = .complete total := by simpa [scanFrom, eq_comm] using h
    exact List.forall₂_same.mpr fun a _ => ⟨rfl, rfl⟩
  | cons g games ih =>
    rcases hpoll : s.poll done total g with ⟨_ | _, s₁⟩
    · have hreports := reports_of_poll hpoll
      rw [scanFrom_of_stopped hpoll] at h
      obtain ⟨rfl, hout⟩ := Prod.mk.inj h
      rw [hreports]
      refine List.forall₂_same.mpr fun a _ => ⟨rfl, ?_⟩
      rw [scanFrom_of_stopped (poll_with hpoll [a]), hout]
    · have hreports := reports_of_poll hpoll
      rcases Attempt.eq_ok_or_error (s₁.scanGame g) with ⟨s₂, hs₂⟩ | ⟨e, he⟩
      · rw [scanFrom_of_ok hpoll hs₂] at h
        obtain ⟨rs₁, hrs₁, rfl⟩ := scanGame_eq_ok_iff.mp hs₂
        rw [← hreports]
        refine forall₂_trans ?_ (forall₂_withReports (forall₂_watchGame hrs₁)) (ih h)
        rintro a m a' ⟨hm, hwatch⟩ ⟨ha', hrest⟩
        refine ⟨ha'.trans hm, ?_⟩
        have hgame : ({ s₁ with reports := [a] } : Season ρ μ).scanGame g =
            .ok { s₁ with reports := [m] } := by
          have hnamed : (a.1, m.2) = m := Prod.ext hm.symm rfl
          refine scanGame_eq_ok_iff.mpr ⟨_, hwatch, ?_⟩
          exact congrArg (fun m => ({ s₁ with reports := [m] } : Season ρ μ)) hnamed
        rw [scanFrom_of_ok (poll_with hpoll [a]) hgame]
        exact hrest
      · rw [scanFrom_of_error hpoll he] at h
        cases (Prod.mk.inj h).2

/-- A scan that nobody monitors is complete if the reports can watch all games. -/
theorem scanFrom_complete (hmonitor : s.monitor? = none) {rs : List ρ}
    (h : watchGames (s.reports.map Prod.snd) games = .ok rs) (done total : Nat) :
    (s.scanFrom done total games).2 = .ok (.complete total) := by
  induction games generalizing s done with
  | nil => rfl
  | cons g games ih =>
    rw [watchGames, Attempt.forEach_cons] at h
    obtain ⟨ms, hms, hrest⟩ := Attempt.andThen_eq_ok.mp h
    have hpoll : s.poll done total g = (true, s) := by rw [poll, hmonitor]
    have hlength : ms.length = s.reports.length := by
      rw [← (forall₂_watchGame hms).length_eq, List.length_map]
    rw [scanFrom_of_ok hpoll (scanGame_eq_ok_iff.mpr ⟨ms, hms, rfl⟩)]
    rw [← map_snd_withReports hlength] at hrest
    exact ih (show (s.withReports ms).monitor? = none from hmonitor) hrest _

end Going

/-! ### Scans that did not fail -/

section Ended

variable [Observer ρ] {book : Scorebook} {outcome : ScanOutcome}

/-- **A scan that did not fail** has shown to every report, alone, the games it came to. -/
theorem forall₂_scan (h : (s.scan book).2 = .ok outcome) :
    List.Forall₂ (fun a a' => a'.1 = a.1 ∧
      watchGames [a.2] ((s.selection book).take outcome.games) = .ok [a'.2])
      s.reports (s.scan book).1.reports := by
  obtain ⟨k, rs, left, hrs, hreports, hend⟩ :=
    scanFrom_cases s 0 (s.selection book).length (s.selection book)
  obtain ⟨rfl, rfl⟩ : left = rs ∧ outcome.games = k := by
    rcases hend with ⟨rfl, hres, rfl⟩ | ⟨rfl, hres, -⟩ | ⟨g, e, -, -, -, hres⟩
    · obtain rfl : ScanOutcome.complete _ = outcome := Except.ok.inj (hres.symm.trans h)
      exact ⟨rfl, rfl⟩
    · obtain rfl : ScanOutcome.incomplete _ _ = outcome := Except.ok.inj (hres.symm.trans h)
      exact ⟨rfl, Nat.zero_add k⟩
    · cases hres.symm.trans h
  rw [scan, hreports]
  exact forall₂_withReports (forall₂_watchGames hrs)

/-- The report of a name is found after a scan if it was there before, with the games that the scan
came to. -/
theorem find_scan {α : Type} {view : ρ → Option α} {name : String} {x : α}
    (hfind : s.find view name = .ok x) (h : (s.scan book).2 = .ok outcome) :
    ∃ r r', view r = some x ∧
      watchGames [r] ((s.selection book).take outcome.games) = .ok [r'] ∧
      ∀ y, view r' = some y → (s.scan book).1.find view name = .ok y := by
  have hscan := forall₂_scan h
  rw [find] at hfind
  simp only [find]
  generalize s.reports = as at hfind hscan
  generalize (s.scan book).1.reports = as' at hscan
  induction hscan with
  | nil => cases hfind
  | @cons a a' as as' ha _ ih =>
    obtain ⟨hname, hwatch⟩ := ha
    rw [List.find?_cons] at hfind
    rw [List.find?_cons, hname]
    cases hn : a.1 == name with
    | false =>
      rw [hn] at hfind
      exact ih hfind
    | true =>
      rw [hn] at hfind
      rcases hview : view a.2 with _ | x'
      · simp [hview] at hfind
      · obtain rfl : x' = x := by simpa [hview] using hfind
        exact ⟨a.2, a'.2, hview, hwatch, fun y hy => by simp [hy]⟩

/-- A tally with its scorer is found after a scan with the box scores of the games that the scan
came to. -/
theorem find_scan_tallied {α : Type} [GameTally α] {c : Tallied α → Report}
    {kind : α → Report.Tally} {view : Report → Option (Tallied α)} {s : Season Report μ}
    {name : String} {u : Tallied α} (hkind : Report.Kind c kind)
    (hview : ∀ {r u}, view r = some u ↔ r = c u) (hfind : s.find view name = .ok u)
    (h : (s.scan book).2 = .ok outcome) :
    ∃ u' boxes, (s.scan book).1.find view name = .ok u' ∧
      List.Forall₂ (fun g b => BoxScore.ofGame g = .ok b)
        ((s.selection book).take outcome.games) boxes ∧
      u'.tally =
        GameTally.addGames u.tally (((s.selection book).take outcome.games).zip boxes) := by
  obtain ⟨r, r', hr, hwatch, hfound⟩ := find_scan hfind h
  obtain rfl := hview.mp hr
  obtain ⟨u', boxes, rfl, hboxes, htally⟩ := hkind.of_watchGames hwatch
  exact ⟨u', boxes, hfound u' (hview.mpr rfl), hboxes, htally⟩

end Ended

/-- What a scan leaves of the reports that are made from box scores. -/
theorem added_scan (s : Season Report μ) (book : Scorebook) :
    ∃ k, EndedAfter (s.reports.map Prod.snd) (s.selection book) k (s.scan book).2 ∧
      List.Forall₂ (fun a a' => a'.1 = a.1 ∧ a.2.Added ((s.selection book).take k) a'.2)
        s.reports (s.scan book).1.reports := by
  obtain ⟨k, rs, left, hrs, hreports, hend⟩ :=
    scanFrom_cases s 0 (s.selection book).length (s.selection book)
  refine ⟨k, ?_, ?_⟩
  · rcases hend with ⟨-, hres, rfl⟩ | ⟨-, hres, hk⟩ | ⟨g, e, hg, he, -, hres⟩
    · rw [scan, hres]
      exact .complete
    · rw [scan, hres, Nat.zero_add]
      exact .incomplete hk
    · rw [scan, hres]
      exact .failed hg hrs he
  · -- A game that breaks off leaves every tally as it was.
    have hleft : rs.map Report.tally? = left.map Report.tally? := by
      rcases hend with ⟨rfl, -⟩ | ⟨rfl, -⟩ | ⟨g, e, -, he, rfl, -⟩
      · rfl
      · rfl
      · exact (Report.map_tally?_watchGame_of_error he).symm
    have hstays : List.Forall₂ (fun r r' => r.tally? = r'.tally?) rs left := by
      rwa [← List.forall₂_eq_eq_eq, List.forall₂_map_left_iff, List.forall₂_map_right_iff]
        at hleft
    have hadded : List.Forall₂ (Report.Added ((s.selection book).take k))
        (s.reports.map Prod.snd) left := by
      refine forall₂_trans (fun r m r' hm hr' t ht => ?_) (forall₂_watchGames hrs) hstays
      rw [← hr']
      exact Report.added_of_watchGames hm t ht
    rw [scan, hreports]
    exact forall₂_withReports hadded

/-- **A scan is the fold of whole games.** However a scan ends, it came to a number of whole games:
to every report made from box scores it added the box scores of exactly these games, in order, and
nothing else. And if it did not fail, each report holds what it would hold had it been the only one,
whatever the others are and in whatever order they stand. -/
theorem reports_scan (s : Season Report μ) (book : Scorebook) :
    (∃ k, EndedAfter (s.reports.map Prod.snd) (s.selection book) k (s.scan book).2 ∧
      List.Forall₂ (fun a a' => a'.1 = a.1 ∧ a.2.Added ((s.selection book).take k) a'.2)
        s.reports (s.scan book).1.reports) ∧
    ∀ outcome, (s.scan book).2 = .ok outcome →
      List.Forall₂ (fun a a' => a'.1 = a.1 ∧
        ({ s with reports := [a] } : Season Report μ).scan book =
          ({ (s.scan book).1 with reports := [a'] }, .ok outcome))
        s.reports (s.scan book).1.reports :=
  ⟨added_scan s book, fun _ h => scanFrom_alone (Prod.ext rfl h)⟩

end Season

end Baseball
