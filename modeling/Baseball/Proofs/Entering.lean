import Baseball.Scorebook
import Mathlib.Data.List.Induction

/-!
# Scorebooks built call by call

A scorebook starts empty and is filled by calls, each of which enters a team, a player or a game. A
team or player that is there already is replaced; nothing is ever taken out. A game is entered only
if the book knows every name in it at that moment, and is refused otherwise.

## The argument

The names of a game are looked up in a fixed order, teams before players, and the first one that is
missing is reported (`unresolved?_eq`). What a book knows is what the calls so far have entered
(`knows_built`), so it only grows, and a game that could be entered once can be entered ever after.
Hence no game of a book that was built by calls ever lacks a name.

## Main definitions

* `Mention`, `Game.mentions` — the names in a game, in the order in which they are looked up
* `Scorebook.Call`, `Scorebook.built` — a call, and the book after several
* `FirstMissing` — the first name of a list that is not among some others

## Main results

* `Scorebook.knows_built` — what a book knows
* `Scorebook.addGame_built` — a book built by calls is valid, and which games it takes
-/

namespace Baseball

/-! ### The names in a game -/

/-- A name that a game looks up in a scorebook. -/
inductive Mention where
  | team (id : String)
  | player (id : String)
deriving DecidableEq

/-- What is reported of a game if a name in it is missing. -/
def Mention.error (gameId : String) : Mention → ScoringError
  | team id => .unresolvedTeam gameId id
  | player id => .unresolvedPlayer gameId id

/-- The names in a game in the order in which they are looked up: the visitors and the hosts, the
visitors' starters and the hosts', the substitutes in event order, and the winner, the loser and the
save. -/
def Game.mentions (g : Game) : List Mention :=
  [.team g.visitor, .team g.home]
    ++ (g.starters.visitor ++ g.starters.home).map (fun s => .player s.player)
    ++ (g.events.flatMap Event.substitutions).map (fun sub => .player sub.player)
    ++ [g.decisions.winner?, g.decisions.loser?, g.decisions.save?].filterMap (·.map .player)

theorem Game.mentions_eq (g : Game) : g.mentions =
    [g.visitor, g.home].map .team ++ (g.playerIds ++ g.decisions.toList).map .player := by
  simp only [mentions, playerIds, substitutions, Decisions.toList, BySide.toList, List.map_append,
    List.map_map, List.map_filterMap, List.flatten_cons, List.flatten_nil, List.append_nil,
    List.append_assoc]
  rfl

/-- The first name of a list that is not among some others. -/
def FirstMissing (names known : List Mention) (m : Mention) : Prop :=
  ∃ before after, names = before ++ m :: after ∧ (∀ x ∈ before, x ∈ known) ∧ m ∉ known

namespace Scorebook

/-! ### Calls -/

/-- A call that fills a scorebook. -/
inductive Call where
  | team (team : Team)
  | player (player : Player)
  | game (game : Game)
deriving DecidableEq

/-- The name that a call puts into the book. -/
def Call.name? : Call → Option Mention
  | team t => some (.team t.id)
  | player p => some (.player p.id)
  | game _ => none

/-- The book after a call, which may be refused. -/
def call (book : Scorebook) : Call → Attempt Scorebook
  | .team t => .ok (book.addTeam t)
  | .player p => .ok (book.addPlayer p)
  | .game g => book.addGame g

/-- A new book after several calls, whether they were refused or not. -/
def built (year : Int) (calls : List Call) : Scorebook :=
  calls.foldl (fun book c => (book.call c).state) { year }

variable {book book' : Scorebook} {g : Game} {m : Mention}

/-! ### Looking names up -/

/-- Whether a name is in the book. -/
def knows (book : Scorebook) : Mention → Bool
  | .team id => book.teams.contains id
  | .player id => book.players.contains id

/-- **What is reported of a game** is the first of its names that the book does not know. -/
theorem unresolved?_eq (book : Scorebook) (g : Game) : book.unresolved? g =
    (g.mentions.find? fun m => !book.knows m).map (Mention.error g.id) := by
  have hteam : (fun m => !book.knows m) ∘ Mention.team = fun id => !book.teams.contains id := rfl
  have hplayer : (fun m => !book.knows m) ∘ Mention.player = fun id => !book.players.contains id :=
    rfl
  rw [Game.mentions_eq, List.find?_append, List.find?_map, List.find?_map, hteam, hplayer,
    unresolved?, unresolvedTeam?, unresolvedPlayer?]
  cases [g.visitor, g.home].find? fun id => !book.teams.contains id with
  | some team => rfl
  | none =>
    cases (g.playerIds ++ g.decisions.toList).find? fun id => !book.players.contains id <;> rfl

theorem unresolved?_eq_none_iff : book.unresolved? g = none ↔ ∀ m ∈ g.mentions, book.knows m := by
  rw [unresolved?_eq, Option.map_eq_none_iff, List.find?_eq_none]
  simp

/-- A book is valid if it knows every name in its games. -/
theorem invalid?_eq_none_iff :
    book.invalid? = none ↔ ∀ g ∈ book.games, ∀ m ∈ g.mentions, book.knows m := by
  simp only [invalid?, List.findSome?_eq_none_iff, unresolved?_eq_none_iff]

theorem error?_addGame (book : Scorebook) (g : Game) :
    (book.addGame g).error? = book.unresolved? g := by
  rw [addGame]
  cases book.unresolved? g <;> rfl

/-- A game is entered at the end, or nothing is changed. -/
theorem state_addGame (book : Scorebook) (g : Game) : (book.addGame g).state =
    if (book.addGame g).error? = none then book.pushGame g else book := by
  rw [addGame]
  cases book.unresolved? g <;> rfl

/-! ### What a book knows -/

/-- A call lets the book know one name more at most, and forgets none. -/
theorem knows_call (book : Scorebook) (c : Call) (m : Mention) :
    (book.call c).state.knows m ↔ c.name? = some m ∨ book.knows m := by
  cases c with
  | team t =>
    cases m with
    | team id => simp [call, addTeam, knows, Keyed.contains_insert, Call.name?, @eq_comm _ id]
    | player id => simp [call, addTeam, knows, Call.name?]
  | player p =>
    cases m with
    | team id => simp [call, addPlayer, knows, Call.name?]
    | player id => simp [call, addPlayer, knows, Keyed.contains_insert, Call.name?, @eq_comm _ id]
  | game g =>
    have hsame : (book.addGame g).state.knows m = book.knows m := by
      rw [state_addGame]
      split <;> cases m <;> rfl
    rw [call, hsame, Call.name?]
    simp

theorem built_append (year : Int) (calls : List Call) (c : Call) :
    built year (calls ++ [c]) = ((built year calls).call c).state := by
  rw [built, List.foldl_append]
  rfl

/-- **A book knows the names that the calls have put into it**, whatever was replaced or refused. -/
theorem knows_built (year : Int) (calls : List Call) (m : Mention) :
    (built year calls).knows m ↔ m ∈ calls.filterMap Call.name? := by
  induction calls using List.reverseRecOn with
  | nil => cases m <;> simp [built, knows, Keyed.contains]
  | append_singleton calls c ih =>
    rw [built_append, knows_call, ih, List.filterMap_append, List.mem_append, or_comm]
    cases hc : c.name? <;> simp [hc, eq_comm]

/-! ### Valid books -/

/-- The games after a call are those before, and a game all of whose names the book knew. -/
theorem mem_games_call {c : Call} (h : g ∈ (book.call c).state.games) :
    g ∈ book.games ∨ book.unresolved? g = none := by
  cases c with
  | team t => exact .inl h
  | player p => exact .inl h
  | game new =>
    rw [call, state_addGame] at h
    split at h
    · next hnone =>
      rcases List.mem_append.mp h with h | h
      · exact .inl h
      · rw [List.mem_singleton.mp h, ← error?_addGame]
        exact .inr hnone
    · exact .inl h

/-- A call keeps a book valid. -/
theorem invalid?_call (h : book.invalid? = none) (c : Call) :
    (book.call c).state.invalid? = none := by
  rw [invalid?_eq_none_iff] at h ⊢
  intro g hg m hm
  refine (knows_call book c m).mpr (.inr ?_)
  rcases mem_games_call hg with hold | hnew
  · exact h g hold m hm
  · exact unresolved?_eq_none_iff.mp hnew m hm

theorem invalid?_built (year : Int) (calls : List Call) : (built year calls).invalid? = none := by
  induction calls using List.reverseRecOn with
  | nil => rfl
  | append_singleton calls c ih =>
    rw [built_append]
    exact invalid?_call ih c

/-! ### Games that are taken and games that are refused -/

/-- The name that is reported is the first that no call has entered. -/
theorem find?_mentions_eq_some_iff (year : Int) (calls : List Call) (names : List Mention)
    (m : Mention) :
    names.find? (fun m => !(built year calls).knows m) = some m ↔
      FirstMissing names (calls.filterMap Call.name?) m := by
  simp only [List.find?_eq_some_iff_append, Bool.not_not, Bool.not_eq_true', ← Bool.not_eq_true,
    knows_built, FirstMissing]
  constructor
  · rintro ⟨hmissing, before, after, heq, hbefore⟩
    exact ⟨before, after, heq, hbefore, hmissing⟩
  · rintro ⟨before, after, heq, hbefore, hmissing⟩
    exact ⟨hmissing, before, after, heq, hbefore⟩

/-- **A book that was built by calls** is valid. A game is taken exactly if the calls so far have
entered every name in it, and is then the last game of the book; if not, the first missing name is
reported, and the book stays as it was. -/
theorem addGame_built (year : Int) (calls : List Call) (g : Game) :
    (built year calls).invalid? = none ∧
    (((built year calls).addGame g).error? = none ↔
      ∀ m ∈ g.mentions, m ∈ calls.filterMap Call.name?) ∧
    (∀ e, ((built year calls).addGame g).error? = some e ↔
      ∃ m, FirstMissing g.mentions (calls.filterMap Call.name?) m ∧ e = m.error g.id) ∧
    ((built year calls).addGame g).state =
      if ((built year calls).addGame g).error? = none then (built year calls).pushGame g
      else built year calls := by
  refine ⟨invalid?_built year calls, ?_, fun e => ?_, state_addGame ..⟩
  · rw [error?_addGame, unresolved?_eq_none_iff]
    simp only [knows_built]
  · rw [error?_addGame, unresolved?_eq, Option.map_eq_some_iff]
    simp only [find?_mentions_eq_some_iff, @eq_comm _ e]

end Scorebook

end Baseball
