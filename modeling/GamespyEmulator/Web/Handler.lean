import GamespyEmulator.Admin.Api
import GamespyEmulator.Lib.Interference
import GamespyEmulator.Sessions.Accounts
import GamespyEmulator.Web.Document

/-!
`HttpClient::HandleBF2Web` of `http.client.cpp`, among the sessions that use the player
database at the same time.

What a request returns is empty, `OK`, or a document whose lines of data fit their headers
(`web_answer`). A player's id is read with two statements, and sessions may come between
them: the second one still finds the account the first one saw (`playerId_answer`).
-/

namespace GamespyEmulator

open Wire Coroutine

namespace BF2Web

/-! ### Pages -/

structure UnlockInfo where
  id : UInt16
  kidId : UInt8
  name : Bytes
  desc : Bytes

/-- `g_Unlocks`. -/
def unlocks : List UnlockInfo := [
  ⟨11, 0, ascii "Chsht_protecta", ascii "Protecta shotgun with slugs"⟩,
  ⟨22, 1, ascii "Usrif_g3a3", ascii "H&K G3"⟩,
  ⟨33, 2, ascii "USSHT_Jackhammer", ascii "Jackhammer shotgun"⟩,
  ⟨44, 3, ascii "Usrif_sa80", ascii "SA-80"⟩,
  ⟨55, 4, ascii "Usrif_g36c", ascii "G36C"⟩,
  ⟨66, 5, ascii "RULMG_PKM", ascii "PKM"⟩,
  ⟨77, 6, ascii "USSNI_M95_Barret", ascii "Barret M82A2 (.50 cal rifle)"⟩,
  ⟨88, 1, ascii "sasrif_fn2000", ascii "FN2000"⟩,
  ⟨99, 2, ascii "sasrif_mp7", ascii "MP-7"⟩,
  ⟨111, 3, ascii "sasrif_g36e", ascii "G36E"⟩,
  ⟨222, 4, ascii "usrif_fnscarl", ascii "FN SCAR - L"⟩,
  ⟨333, 5, ascii "sasrif_mg36", ascii "MG36"⟩,
  ⟨444, 0, ascii "eurif_fnp90", ascii "P90"⟩,
  ⟨555, 6, ascii "gbrif_l96a1", ascii "L96A1"⟩]

def header (names : List String) : Call := .append .header (names.map fun name => .text (ascii name))

def awardsInfo (pid : UInt32) (now : Int) : List Call :=
  [header ["pid", "asof"], .append .data [.integer pid.toNat, .integer now],
    header ["award", "level", "when", "first"]]

def backendInfo (now : Int) : List Call :=
  [header ["ver", "now"], .append .data [.text (ascii "0.1"), .integer now],
    header ["id", "kit", "name", "descr"]] ++
    unlocks.map fun unlock => .append .data
      [.integer unlock.id.toNat, .integer unlock.kidId.toNat, .text unlock.name, .text unlock.desc]

def leaderboard (now : Int) : List Call :=
  [header ["size", "asof"], .append .data [.integer 0, .integer now]]

/-- An error with nothing but its text. -/
def errorText (text : String) : List Call :=
  [.setError true 0, header ["error"], .append .data [.text (ascii text)]]

/-- An error with the time. -/
def errorAsOf (code : UInt32) (now : Int) (text : String) : List Call :=
  [.setError true code, header ["asof", "error"], .append .data [.integer now, .text (ascii text)]]

def mapInfo : List Call := errorText "Map Data Not Found!"

def noNick : List Call := errorText "No nick provided!"

def longNick : List Call := errorText "Nick Specified is larger than 32 characters!"

def notFound (now : Int) : List Call := errorAsOf 0 now "Player Not Found!"

def foundPlayer (id : UInt64) : List Call :=
  [header ["pid"], .append .data [.integer id.toNat]]

def overview (pid : UInt32) (now : Int) : List Call :=
  [header ["pid", "nick", "country", "asof"],
    .append .data [.integer pid.toNat, .text (ascii "PlayerName"), .text (ascii "US"), .integer now]]

def rankInfo : List Call :=
  [header ["rank", "chng", "decr"], .append .data [.integer 0, .integer 0, .integer 0]]

def unlocksInfo (pid : UInt32) (now : Int) : List Call :=
  [header ["pid", "nick", "asof"],
    .append .data [.integer pid.toNat, .text (ascii "All_Unlocks"), .integer now],
    header ["enlisted", "officer"], .append .data [.integer 0, .integer 0],
    header ["id", "state"]] ++
    unlocks.map fun unlock => .append .data [.integer unlock.id.toNat, .text (ascii "s")]

/-! ### Pages are in shape -/

/-- The values of a call can be read back. -/
def Call.plain : Call → Bool
  | .setError _ _ => true
  | .append _ args => args.all fun
      | .integer _ => true
      | .text elem => !elem.contains tab && !elem.contains newline

theorem Call.plain_iff {call : Call} : call.plain ↔ call.Plain := by
  cases call with
  | setError error code => simp [plain, Plain]
  | append t args =>
      simp only [plain, Plain, List.all_eq_true]
      refine forall₂_congr fun arg _ => ?_
      cases arg <;> simp [Element.Plain]

/-- The calls of a page give a document whose lines of data fit their headers. -/
structure Shaped (calls : List Call) : Prop where
  plain : ∀ call ∈ calls, call.Plain
  rectangular : (Document.of calls).Rectangular

theorem shaped_of_eq {calls : List Call} (plain : calls.all Call.plain = true)
    (rectangular : (Document.of calls).Rectangular) : Shaped calls where
  plain call mem := Call.plain_iff.mp (List.all_eq_true.mp plain call mem)
  rectangular := rectangular

section Pages

variable (pid : UInt32) (now : Int)

theorem awardsInfo_shaped : Shaped (awardsInfo pid now) := shaped_of_eq rfl ⟨rfl, trivial⟩

theorem backendInfo_shaped : Shaped (backendInfo now) := by
  refine shaped_of_eq rfl ⟨rfl, ?_⟩
  iterate 14 refine ⟨rfl, ?_⟩
  trivial

theorem leaderboard_shaped : Shaped (leaderboard now) := shaped_of_eq rfl ⟨rfl, trivial⟩

theorem errorText_shaped {text : String}
    (plain : Call.plain (.append .data [.text (ascii text)]) = true) : Shaped (errorText text) := by
  apply shaped_of_eq
  · simp only [errorText, List.all_cons, plain]
    rfl
  · exact ⟨rfl, trivial⟩

theorem errorAsOf_shaped (code : UInt32) {text : String}
    (plain : Call.plain (.append .data [.integer now, .text (ascii text)]) = true) :
    Shaped (errorAsOf code now text) := by
  apply shaped_of_eq
  · simp only [errorAsOf, List.all_cons, plain]
    rfl
  · exact ⟨rfl, trivial⟩

theorem foundPlayer_shaped (id : UInt64) : Shaped (foundPlayer id) :=
  shaped_of_eq rfl ⟨rfl, trivial⟩

theorem overview_shaped : Shaped (overview pid now) := shaped_of_eq rfl ⟨rfl, trivial⟩

theorem rankInfo_shaped : Shaped rankInfo := shaped_of_eq rfl ⟨rfl, trivial⟩

theorem unlocksInfo_shaped : Shaped (unlocksInfo pid now) := by
  refine shaped_of_eq rfl ⟨rfl, rfl, ?_⟩
  iterate 14 refine ⟨rfl, ?_⟩
  trivial

end Pages

end BF2Web

/-! ### Requests -/

/-- The target of a request: `encoded_path()`, and the decoded parameters in their order. -/
structure WebTarget where
  path : Bytes
  params : List (Bytes × Bytes)

namespace HttpClient

open BF2Web

/-- `params.find`. -/
def param? (uri : WebTarget) (key : Bytes) : Option Bytes :=
  (uri.params.find? fun param => param.1 = key).map Prod.snd

/-- `pid`, and none when the parameter is not a number. -/
def pid? (uri : WebTarget) : Option UInt32 :=
  match param? uri (ascii "pid") with
  | some value => Utils.parseUInt32 value
  | none => some 0

/-- `ToString` behind the calls on a new response, whose `error_code` has no initializer. -/
def document (errorCode : UInt32) (calls : List BF2Web.Call) : Bytes :=
  (Response.after errorCode calls).toString

def time : Awaitable Int := do
  let emulator : Emulator ← @world sessions
  return emulator.time

/-- `/asp/getplayerid.aspx` with a nick that is not too long. -/
def playerId (errorCode : UInt32) (nick : Bytes) : Awaitable Bytes := do
  let has ← PlayerDBMySQL.Suspending.hasPlayer nick
  if !has then
    let now ← time
    return document errorCode (notFound now)
  else
    let player ← PlayerDBMySQL.Suspending.getPlayerByName nick
    match player with
    -- `player->GetProfileID()`
    | none => .fault .undefined
    | some player => return document errorCode (foundPlayer player.id)

/-- `/asp/getplayerinfo.aspx`. -/
def playerInfo (uri : WebTarget) (pid : UInt32) (now : Int) : List BF2Web.Call :=
  if pid = 0 then errorAsOf 107 now "Invalid Syntax!"
  else
    match param? uri (ascii "info") with
    | none => errorAsOf 0 now "Parameter Error!"
    | some info =>
        if info = ascii "overview" then overview pid now
        else errorAsOf 0 now "Invalid Syntax!"

def handleBF2Web (errorCode : UInt32) (uri : WebTarget) : Awaitable Bytes :=
  match pid? uri with
  | none => return []
  | some pid => do
      let path := uri.path.map toLower
      if path = ascii "/asp/createplayer.aspx" then
        return ascii "OK"
      else if path = ascii "/asp/getawardsinfo.aspx" then
        let now ← time
        return document errorCode (awardsInfo pid now)
      else if path = ascii "/asp/getbackendinfo.aspx" then
        let now ← time
        return document errorCode (backendInfo now)
      else if path = ascii "/asp/getleaderboard.aspx" then
        let now ← time
        return document errorCode (leaderboard now)
      else if path = ascii "/asp/getmapinfo.aspx" then
        return document errorCode mapInfo
      else if path = ascii "/asp/getplayerid.aspx" then
        match param? uri (ascii "nick") with
        | none => return document errorCode noNick
        | some nick =>
            if nick.length > 32 then return document errorCode longNick
            else playerId errorCode nick
      else if path = ascii "/asp/getplayerinfo.aspx" then
        let now ← time
        return document errorCode (playerInfo uri pid now)
      else if path = ascii "/asp/getrankinfo.aspx" then
        return document errorCode rankInfo
      else if path = ascii "/asp/getunlocksinfo.aspx" then
        let now ← time
        return document errorCode (unlocksInfo pid now)
      else return []

/-! ### What a request returns -/

/-- An answer of the service: empty, `OK`, or a document whose lines of data fit their
headers. -/
inductive WellFormed : Bytes → Prop where
  | empty : WellFormed []
  | ok : WellFormed (ascii "OK")
  | document {text : Bytes} {document : Document} (reads : Document.read text = some document)
      (rectangular : document.Rectangular) : WellFormed text

variable {errorCode : UInt32} {uri : WebTarget}

theorem document_reads {calls : List BF2Web.Call} (shaped : Shaped calls) :
    Document.read (document errorCode calls) = some (Document.of calls) :=
  read_toString errorCode calls shaped.plain

theorem document_wellFormed {calls : List BF2Web.Call} (shaped : Shaped calls) :
    WellFormed (document errorCode calls) :=
  .document (document_reads shaped) shaped.rectangular

theorem playerInfo_shaped (uri : WebTarget) (pid : UInt32) (now : Int) :
    Shaped (playerInfo uri pid now) := by
  unfold playerInfo
  split
  · exact errorAsOf_shaped now 107 rfl
  · split
    · exact errorAsOf_shaped now 0 rfl
    · split
      · exact overview_shaped pid now
      · exact errorAsOf_shaped now 0 rfl

section Along

variable {T : Type} {around : Surrounding sessions T} {state state' : T} {ended : Ended sessions Bytes}

/-- The requests that look at nothing but the clock return a well-formed text. -/
def Returns (ended : Ended sessions Bytes) : Prop := ∃ body, ended = .returned body ∧ WellFormed body

theorem returns_ret {body : Bytes} (formed : WellFormed body)
    (along : Along around state (.ret body) state' ended) : Returns ended :=
  ⟨body, along.of_ret.2, formed⟩

theorem returns_page {calls : Int → List BF2Web.Call} (shaped : ∀ now, Shaped (calls now))
    (along : Along around state
      (time >>= fun now => .ret (document errorCode (calls now))) state' ended) :
    Returns ended := by
  obtain ⟨world, rest⟩ := along.of_look
  exact returns_ret (document_wellFormed (shaped world.time)) rest

/-- A request asks for the id of a player, or returns a well-formed text. -/
theorem handle_cases (along : Along around state (handleBF2Web errorCode uri) state' ended) :
    Returns ended ∨ ∃ nick, Along around state (playerId errorCode nick) state' ended := by
  unfold handleBF2Web at along
  split at along
  · exact .inl (returns_ret .empty along)
  · rename_i pid _
    dsimp only at along
    split_ifs at along
    · exact .inl (returns_ret .ok along)
    · exact .inl (returns_page (awardsInfo_shaped pid) along)
    · exact .inl (returns_page backendInfo_shaped along)
    · exact .inl (returns_page leaderboard_shaped along)
    · exact .inl (returns_ret (document_wellFormed (errorText_shaped rfl)) along)
    · split at along
      · exact .inl (returns_ret (document_wellFormed (errorText_shaped rfl)) along)
      · split_ifs at along
        · exact .inl (returns_ret (document_wellFormed (errorText_shaped rfl)) along)
        · exact .inr ⟨_, along⟩
    · exact .inl (returns_page (playerInfo_shaped uri pid) along)
    · exact .inl (returns_ret (document_wellFormed rankInfo_shaped) along)
    · exact .inl (returns_page (unlocksInfo_shaped pid) along)
    · exact .inl (returns_ret .empty along)

end Along

/-- A request for the id of a player. -/
structure AsksFor (uri : WebTarget) (nick : Bytes) : Prop where
  number : (pid? uri).isSome
  path : uri.path.map toLower = ascii "/asp/getplayerid.aspx"
  given : param? uri (ascii "nick") = some nick
  short : nick.length ≤ 32

theorem handle_playerId {nick : Bytes} (asks : AsksFor uri nick) :
    handleBF2Web errorCode uri = playerId errorCode nick := by
  obtain ⟨pid, number⟩ := Option.isSome_iff_exists.mp asks.number
  have short : ¬nick.length > 32 := not_lt.mpr asks.short
  simp only [handleBF2Web, number, asks.path, asks.given, if_neg short]
  rfl

end HttpClient

/-! ### Among the sessions -/

namespace AccountServer

variable {sqlite : Sqlite} {snapshotEndpoint : Option Endpoint}
  {server : AccountServer sqlite snapshotEndpoint}

theorem Sound.events (sound : server.Sound) (events : List AccountEvent) :
    (Run.final AccountServer.step server events).Sound ∧
      server.table.Keeps (Run.final AccountServer.step server events).table := by
  induction events using List.reverseRecOn with
  | nil => exact ⟨sound, .refl _⟩
  | append_singleton events event ih =>
      rw [Run.final_snoc]
      exact ⟨ih.1.step event, ih.2.trans (ih.1.keeps event)⟩

/-- What surrounds a web request: the sessions go on while it waits, and the table answers
its statements. A statement can fail, and may have been executed before. -/
def surrounding : Surrounding GamespyEmulator.sessions (AccountServer sqlite snapshotEndpoint) where
  moves server server' := ∃ events, server' = Run.final AccountServer.step server events
  serves server operation server' result :=
    (server' = server ∧ result = none) ∨
      (server' = { server with table := server.table.behind operation } ∧
        (result = none ∨ ∃ answers, result = server.table.answer answers operation))

variable {server' : AccountServer sqlite snapshotEndpoint} {A : Type} {ended : Ended GamespyEmulator.sessions A}

/-- A query fails, or it is answered by the table as it is when the query is executed. -/
theorem Sound.query (sound : server.Sound) {operation : Operation}
    (reads : ∀ table : PlayerTable, table.behind (.execute operation) = table)
    {next : operation.Rows → Awaitable A}
    (along : Along surrounding server (PlayerDBMySQL.Suspending.query operation >>= next) server'
      ended) :
    ended = .failed ∨ ∃ moved : AccountServer sqlite snapshotEndpoint, ∃ rows,
      moved.Sound ∧ server.table.Keeps moved.table ∧
        (moved.table.execute operation).2 = some rows ∧
        Along surrounding moved (next rows) server' ended := by
  obtain ⟨_, ⟨events, rfl⟩, failed | ⟨prepared, _, served, along⟩⟩ := along.of_await
  · exact .inl failed.2
  have first := sound.events events
  have same : prepared = Run.final AccountServer.step server events := by
    rcases served with ⟨-, none⟩ | ⟨behind, -⟩
    · cases none
    · exact behind
  subst same
  obtain ⟨_, ⟨later, rfl⟩, failed | ⟨answered, rows, served, along⟩⟩ := along.of_await
  · exact .inl failed.2
  have second := first.1.events later
  rcases served with ⟨-, none⟩ | ⟨behind, none | ⟨answers, answer⟩⟩
  · cases none
  · cases none
  · rw [reads] at behind
    subst behind
    exact .inr ⟨_, rows, second.1, first.2.trans second.2, answer.symm, along⟩

/-- How a request for the id of a player ends: its statement fails, the row cannot be read,
the nick was not there, or the account of the nick is there. -/
theorem Sound.playerId (sound : server.Sound) {errorCode : UInt32} {nick : Bytes}
    {ended : Ended GamespyEmulator.sessions Bytes}
    (along : Along surrounding server (HttpClient.playerId errorCode nick) server' ended) :
    ended = .failed ∨ ended = .fault .thrown ∨
      (∃ now, ended = .returned (HttpClient.document errorCode (BF2Web.notFound now)) ∧
        ∀ row ∈ server.table.rows, row.name ≠ nick) ∨
      (server.table.Keeps server'.table ∧ ∃ row ∈ server'.table.rows, row.name = nick ∧
        ended = .returned (HttpClient.document errorCode (BF2Web.foundPlayer row.id))) := by
  rcases sound.query (fun _ => rfl) along with failed | ⟨first, count, soundFirst, keeps, counted, rest⟩
  · exact .inl failed
  have number : count = (first.table.byName nick).length := (Option.some.inj counted).symm
  change Along surrounding first (if !(decide (count > 0)) then _ else _) server' ended at rest
  by_cases has : count > 0
  · rw [if_neg (by simp [has])] at rest
    rcases soundFirst.query (fun _ => rfl) rest with failed | ⟨second, rows, -, kept, found, rest⟩
    · exact .inl failed
    have named : rows = second.table.byName nick := (Option.some.inj found).symm
    -- The account that was counted is still there.
    obtain ⟨row, mem⟩ := List.exists_mem_of_length_pos (number ▸ has)
    obtain ⟨inside, name⟩ := List.mem_filter.mp mem
    obtain ⟨row', inside', same⟩ := kept row inside
    have mem' : row' ∈ rows := by
      rw [named]
      exact List.mem_filter.mpr ⟨inside', by rw [same.name]; exact name⟩
    cases rows with
    | nil => exact absurd mem' List.not_mem_nil
    | cons head others =>
        have first' : head ∈ second.table.byName nick := by
          rw [← named]
          exact List.mem_cons_self
        obtain ⟨headMem, headName⟩ := List.mem_filter.mp first'
        obtain ⟨id, name, password, _ | email, country⟩ := head
        · exact .inr (.inl rest.of_fault.2)
        · obtain ⟨rfl, returned⟩ := rest.of_ret
          exact .inr (.inr (.inr ⟨keeps.trans kept, _, headMem, of_decide_eq_true headName,
            returned⟩))
  · rw [if_pos (by simp [has])] at rest
    obtain ⟨world, rest⟩ := rest.of_look
    refine .inr (.inr (.inl ⟨world.time, rest.of_ret.2, fun row mem name => has ?_⟩))
    obtain ⟨row', inside, same⟩ := keeps row mem
    rw [number]
    exact List.length_pos_of_mem
      (List.mem_filter.mpr ⟨inside, decide_eq_true (same.name.trans name)⟩)

section Requests

variable (sqlite snapshotEndpoint) (table : PlayerTable) (events : List AccountEvent)
  {errorCode : UInt32} {uri : WebTarget} {server' : AccountServer sqlite snapshotEndpoint}

/-- **What a web request returns.** Whatever the sessions do while it waits, a request uses
no row that is not there, and what it returns is empty, `OK`, or a document whose lines of
data fit their headers. -/
theorem web_answer {ended : Ended GamespyEmulator.sessions Bytes}
    (along : Along surrounding (behind sqlite snapshotEndpoint table events)
      (HttpClient.handleBF2Web errorCode uri) server' ended) :
    ended ≠ .fault .undefined ∧
      ∀ body, ended = .returned body → HttpClient.WellFormed body := by
  have sound := run_sound sqlite snapshotEndpoint table events
  have formed {text : Bytes} (formed : HttpClient.WellFormed text) :
      (Ended.returned text : Ended GamespyEmulator.sessions Bytes) ≠ .fault .undefined ∧
        ∀ body, (Ended.returned text : Ended GamespyEmulator.sessions Bytes) = .returned body →
          HttpClient.WellFormed body := by
    refine ⟨nofun, fun body same => ?_⟩
    cases same
    exact formed
  rcases HttpClient.handle_cases along with ⟨body, rfl, returned⟩ | ⟨nick, along⟩
  · exact formed returned
  · rcases sound.playerId along with rfl | rfl | ⟨now, rfl, -⟩ | ⟨-, row, -, -, rfl⟩
    · exact ⟨nofun, nofun⟩
    · exact ⟨nofun, nofun⟩
    · exact formed (HttpClient.document_wellFormed (BF2Web.errorAsOf_shaped now 0 rfl))
    · exact formed (HttpClient.document_wellFormed (BF2Web.foundPlayer_shaped row.id))

/-- **The id of a player.** The answer for a nick that had an account when the request came
is the id of that account, and for one without an account when it is answered, an error. -/
theorem playerId_answer {nick body : Bytes} (asks : HttpClient.AsksFor uri nick)
    (along : Along surrounding (behind sqlite snapshotEndpoint table events)
      (HttpClient.handleBF2Web errorCode uri) server' (.returned body)) :
    (∀ row ∈ (behind sqlite snapshotEndpoint table events).table.rows, row.name = nick →
      BF2Web.Document.read body = some ⟨none, [⟨.header, [ascii "pid"]⟩,
        ⟨.data, [Numeral.decimal row.id.toNat]⟩]⟩) ∧
    ((∀ row ∈ server'.table.rows, row.name ≠ nick) →
      ∃ now, BF2Web.Document.read body = some ⟨some 0, [⟨.header, [ascii "asof", ascii "error"]⟩,
        ⟨.data, [Numeral.integer now, ascii "Player Not Found!"]⟩]⟩) := by
  have sound := run_sound sqlite snapshotEndpoint table events
  rw [HttpClient.handle_playerId asks] at along
  rcases sound.playerId along with failed | thrown | ⟨now, returned, absent⟩ |
    ⟨keeps, row, mem, name, returned⟩
  · cases failed
  · cases thrown
  · cases returned
    refine ⟨fun row mem named => (absent row mem named).elim, fun _ => ⟨now, ?_⟩⟩
    exact HttpClient.document_reads (BF2Web.errorAsOf_shaped now 0 rfl)
  · cases returned
    refine ⟨fun account held named => ?_, fun absent => (absent row mem name).elim⟩
    obtain ⟨account', held', same⟩ := keeps account held
    cases server'.table.row_unique mem held' (name.trans (same.name.trans named).symm)
    rw [← same.id]
    exact HttpClient.document_reads (BF2Web.foundPlayer_shaped row.id)

end Requests

end AccountServer

namespace LoginSample

/-- A request for the id of the player of the table. -/
def asked : WebTarget :=
  ⟨ascii "/ASP/getplayerid.aspx", [(ascii "nick", ascii "a"), (ascii "pid", ascii "12")]⟩

def initial : AccountServer StoreSample.sqlite none := AccountServer.behind StoreSample.sqlite none table []

theorem asked_along : Along AccountServer.surrounding initial (HttpClient.handleBF2Web 0 asked)
    initial (.returned (HttpClient.document 0 (BF2Web.foundPlayer 7))) := by
  have asks : HttpClient.AsksFor asked (ascii "a") := by constructor <;> decide +kernel
  have serves (operation : SessionOperation) (result : operation.Result)
      (reads : initial.table.behind operation = initial.table)
      (answer : some result = initial.table.answer answers operation) :
      AccountServer.surrounding.serves initial operation initial (some result) := by
    refine .inr ⟨?_, .inr ⟨answers, answer⟩⟩
    rw [reads]
  have statement (operation : Operation) :
      AccountServer.surrounding.serves initial (.prepare .players operation.statement) initial
        (some ()) :=
    serves (.prepare .players operation.statement) () rfl rfl
  rw [HttpClient.handle_playerId asks]
  refine .served () ⟨[], rfl⟩ (statement (.hasPlayer _)) ?_
  refine .served (1 : Nat) ⟨[], rfl⟩ (serves _ _ rfl rfl) ?_
  refine .served () ⟨[], rfl⟩ (statement (.getPlayerByName _)) ?_
  refine .served [row] ⟨[], rfl⟩ (serves _ _ rfl rfl) ?_
  exact .ret _ _

theorem web_answer_asked :
    (Ended.returned (HttpClient.document 0 (BF2Web.foundPlayer 7)) : Ended sessions Bytes) ≠
        .fault .undefined ∧
      ∀ body, (Ended.returned (HttpClient.document 0 (BF2Web.foundPlayer 7)) :
        Ended sessions Bytes) = .returned body → HttpClient.WellFormed body :=
  AccountServer.web_answer StoreSample.sqlite none table [] asked_along

theorem playerId_answer_asked :
    BF2Web.Document.read (HttpClient.document 0 (BF2Web.foundPlayer 7)) =
      some ⟨none, [⟨.header, [ascii "pid"]⟩, ⟨.data, [Numeral.decimal 7]⟩]⟩ := by
  have asks : HttpClient.AsksFor asked (ascii "a") := by constructor <;> decide +kernel
  exact (AccountServer.playerId_answer StoreSample.sqlite none table [] asks asked_along).1 row
    (List.mem_singleton.mpr rfl) rfl

end LoginSample

end GamespyEmulator
