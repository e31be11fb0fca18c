import GamespyEmulator.Sessions.Clients
import GamespyEmulator.Stats.Client

/-!
All sessions at once. Login, search, stats and browser sessions share two MySQL
connections, one for players and one for ranked servers; nothing queues or locks their
calls. `one_operation_iff` says in which runs a connection never has two operations
outstanding: those in which no session begins a call while another session is inside one
on the same connection.
-/

namespace GamespyEmulator

open Wire Coroutine Utils

/-! ### The service -/

/-- Who connects, with the random texts its client draws. -/
inductive Peer where
  | login (serverChallenge loginTicket : Bytes)
  | search
  | stats (serverChallenge : Bytes)
  | browser (cryptKey serverChallenge : Bytes)

/-- A session between two inputs. -/
inductive SessionState where
  | login (client : LoginClient)
  | search
  | authenticating (serverChallenge : Bytes)
  | stats (key : Int32)
  | browser (cryptKey serverChallenge : Bytes)
  | browsing

/-- A packet, as the reader of the session yields it, or a message queued for a
browser. -/
inductive SessionInput where
  | packet (bytes : Bytes)
  | signal (bytes : Bytes)

/-- `ServerBrowsingPacket::Type::server_list_request`. -/
def serverListRequest : UInt8 := 0

namespace Sessions

/-- A session up to its first input. -/
def greet : Peer → Awaitable (Option SessionState)
  | .login serverChallenge loginTicket => do
      let client ← LoginClient.Suspending.sendChallenge serverChallenge loginTicket
      return some (.login client)
  | .search => return some .search
  | .stats serverChallenge => do
      StatsClient.sendChallenge serverChallenge
      return some (.authenticating serverChallenge)
  | .browser cryptKey serverChallenge => return some (.browser cryptKey serverChallenge)

section Handle

variable (sqlite : Sqlite) (snapshotEndpoint : Option Endpoint)

/-- The first packet of a browser. -/
def handleFirst (cryptKey serverChallenge : Bytes) : Bytes → Awaitable (Option SessionState)
  | [] => return none
  | type :: data =>
      if type ≠ serverListRequest then return none
      else do
        let goesOn ← BrowserClient.handleServerListRequest sqlite cryptKey serverChallenge data
        return if goesOn then some .browsing else none

/-- An input. A browser that has sent a queued message then takes a packet where there
is none. -/
def handle : SessionState → SessionInput → Awaitable (Option SessionState)
  | .login client, .packet bytes => do
      let client? ← LoginClient.Suspending.handle client bytes
      return client?.map .login
  | .search, .packet bytes => do
      SearchClient.Suspending.handle bytes
      return some .search
  | .authenticating serverChallenge, .packet bytes => do
      let key? ← StatsClient.authenticate serverChallenge bytes
      return key?.map .stats
  | .stats key, .packet bytes => do
      StatsClient.process snapshotEndpoint key bytes
      return some (.stats key)
  | .browser cryptKey serverChallenge, .packet bytes =>
      handleFirst sqlite cryptKey serverChallenge bytes
  | .browsing, .packet _ => return some .browsing
  | .browsing, .signal bytes => do
      asyncSend (.text bytes)
      .fault .thrown
  | state, .signal _ => return some state

/-- The four servers of the emulator. -/
def service : Service sessions where
  Idle := SessionState
  Peer := Peer
  Input := SessionInput
  greet := greet
  handle := handle sqlite snapshotEndpoint

end Handle

/-! ### Where a call begins -/

end Sessions

/-- A login packet for which the player database is asked. -/
def LoginClient.Asks (client : LoginClient) (packet : Bytes) : Prop :=
  if (ascii "\\login\\").isPrefixOf packet then
    client.state = .authenticating ∧ (∃ name, LoginClient.loginName packet = some name ∧ name ≠ []) ∧
      (valueForKey packet (ascii "\\challenge\\")).isSome ∧
      (valueForKey packet (ascii "\\response\\")).isSome
  else if (ascii "\\newuser\\").isPrefixOf packet then
    client.state = .authenticating ∧ (valueForKey packet (ascii "\\email\\")).isSome ∧
      (valueForKey packet (ascii "\\nick\\")).isSome ∧
      (valueForKey packet (ascii "\\passwordenc\\")).isSome
  else (ascii "\\updatepro\\").isPrefixOf packet ∧ client.state = .authenticated ∧
    client.playerData.isSome ∧ (valueForKey packet (ascii "\\countrycode\\")).isSome

/-- A search packet for which the player database is asked. -/
def SearchClient.Asks (packet : Bytes) : Prop :=
  if (ascii "\\nicks\\").isPrefixOf packet then
    (∃ digest, SearchClient.passwordMD5 packet = some digest ∧ digest ≠ []) ∧
      (valueForKey packet (ascii "\\email\\")).isSome
  else (ascii "\\check\\").isPrefixOf packet ∧ SearchClient.profileName packet ≠ []

/-- A stats packet for which the player database is asked. -/
def StatsClient.Asks (packet : Bytes) : Prop :=
  (ascii "\\authp\\").isPrefixOf packet ∧
    (∃ localID, valueForKey packet (ascii "\\lid\\") = some localID ∧ localID ≠ []) ∧
    valueForKey packet (ascii "\\authtoken\\") = none ∧
    (numberForKey packet (ascii "\\pid\\")).isSome

/-- A list request for which the stats database is asked. -/
def BrowserClient.Asks (sqlite : Sqlite) (emulator : Emulator) (request : ServerListRequest) : Prop :=
  ∃ game, emulator.games[request.toGame]? = some game ∧ BrowserClient.Listed game request ∧
    game.data.name = bf2Data.name ∧
    BF2.asksStats emulator.hasParams (BF2.listed sqlite game request.serverFilter request.fieldList
      (Listing.limit request) 0)

/-! ### The entry points -/

namespace Sessions

variable (sqlite : Sqlite) (snapshotEndpoint : Option Endpoint)

/-- A call begins at a packet its client asks the player database for, or behind the
header of a list that has to be ranked. -/
def points : EntryPoints (service sqlite snapshotEndpoint) Database where
  input _ state input c := match state, input with
    | .login client, .packet bytes => c = .players ∧ client.Asks bytes
    | .search, .packet bytes => c = .players ∧ SearchClient.Asks bytes
    | .stats _, .packet bytes => c = .players ∧ StatsClient.Asks bytes
    | _, _ => False
  completion emulator operation c := match operation with
    | .send (.header request) => c = .stats ∧ BrowserClient.Asks sqlite emulator request
    | _ => False

variable {sqlite : Sqlite} {snapshotEndpoint : Option Endpoint}

section Parts

variable {A B : Type} {asks : Prop} {t : Awaitable A}

theorem send_silent (bytes : Bytes) :
    (asyncSend (.text bytes)).Silent SessionOperation.database? (points sqlite snapshotEndpoint) :=
  ⟨rfl, fun _ _ => id, fun _ => trivial⟩

theorem query_within (operation : Operation) :
    (PlayerDBMySQL.Suspending.query operation).Within SessionOperation.database?
      (points sqlite snapshotEndpoint) .players :=
  ⟨rfl, fun _ _ => id, fun _ => ⟨rfl, fun _ _ => id, fun _ => trivial⟩⟩

theorem await_within (read : Ending A) (c : Database) :
    read.await.Within SessionOperation.database? (points sqlite snapshotEndpoint) c := by
  cases read <;> trivial

theorem hasPlayer_within (name : Bytes) :
    (PlayerDBMySQL.Suspending.hasPlayer name).Within SessionOperation.database?
      (points sqlite snapshotEndpoint) .players :=
  query_within (.hasPlayer name)

theorem getPlayerByName_within (name : Bytes) :
    (PlayerDBMySQL.Suspending.getPlayerByName name).Within SessionOperation.database?
      (points sqlite snapshotEndpoint) .players :=
  ⟨rfl, fun _ _ => id, fun _ => ⟨rfl, fun _ _ => id, fun _ => await_within _ _⟩⟩

theorem getPlayerByPID_within (pid : UInt64) :
    (PlayerDBMySQL.Suspending.getPlayerByPID pid).Within SessionOperation.database?
      (points sqlite snapshotEndpoint) .players :=
  ⟨rfl, fun _ _ => id, fun _ => ⟨rfl, fun _ _ => id, fun _ => await_within _ _⟩⟩

theorem getPlayerByMailAndPassword_within (email password : Bytes) :
    (PlayerDBMySQL.Suspending.getPlayerByMailAndPassword email password).Within
      SessionOperation.database? (points sqlite snapshotEndpoint) .players :=
  query_within (.getPlayerByMailAndPassword email password)

theorem createPlayer_within (player : PlayerData) :
    (PlayerDBMySQL.Suspending.createPlayer player).Within SessionOperation.database?
      (points sqlite snapshotEndpoint) .players :=
  query_within (.createPlayer player)

/-- A handler that asks the player database at once, or not at all. -/
inductive Starts (sqlite : Sqlite) (snapshotEndpoint : Option Endpoint) (asks : Prop)
    (t : Awaitable A) : Prop where
  | asked (asked : asks)
      (uses : t.UsesFirst SessionOperation.database? (points sqlite snapshotEndpoint) .players)
      (begins : ∀ emulator, (t.waitsFor emulator).bind SessionOperation.database? = some .players)
  | silent (unasked : ¬ asks)
      (silent : t.Silent SessionOperation.database? (points sqlite snapshotEndpoint))

theorem Starts.bind {next : A → Awaitable B} (starts : Starts sqlite snapshotEndpoint asks t)
    (later : ∀ a, (next a).Silent SessionOperation.database? (points sqlite snapshotEndpoint))
    (returns : ∀ a emulator, (next a).waitsFor emulator = none) :
    Starts sqlite snapshotEndpoint asks (t >>= next) := by
  cases starts with
  | asked asked uses begins =>
      refine .asked asked (uses.bind_silent later) fun emulator => ?_
      rw [waitsFor_bind (returns · emulator)]
      exact begins emulator
  | silent unasked silent => exact .silent unasked (silent.bind later)

theorem Starts.congr {asks' : Prop} (starts : Starts sqlite snapshotEndpoint asks t)
    (same : asks ↔ asks') : Starts sqlite snapshotEndpoint asks' t := by
  rwa [← propext same]

theorem Starts.entersBy (starts : Starts sqlite snapshotEndpoint asks t) :
    t.EntersBy SessionOperation.database? (points sqlite snapshotEndpoint) := by
  cases starts with
  | asked _ uses _ => exact uses.entersBy
  | silent _ silent => exact silent.entersBy

theorem Starts.waitsFor_iff (starts : Starts sqlite snapshotEndpoint asks t) (emulator : Emulator)
    (c : Database) :
    (t.waitsFor emulator).bind SessionOperation.database? = some c ↔ c = .players ∧ asks := by
  cases starts with
  | asked asked _ begins =>
      rw [begins emulator, Option.some_inj, eq_comm]
      exact (and_iff_left asked).symm
  | silent unasked silent =>
      rw [silent.waitsFor emulator]
      exact iff_of_false (by simp) fun both => unasked both.2

end Parts

/-! ### The handlers -/

section Handlers

variable (client : LoginClient) (packet : Bytes)

theorem reply_silent (bytes : Bytes) :
    (LoginClient.Suspending.reply client bytes).Silent SessionOperation.database?
      (points sqlite snapshotEndpoint) :=
  Silent.bind (send_silent bytes) fun _ => trivial

theorem handleLogin_starts :
    Starts sqlite snapshotEndpoint
      (client.state = .authenticating ∧
        (∃ name, LoginClient.loginName packet = some name ∧ name ≠ []) ∧
        (valueForKey packet (ascii "\\challenge\\")).isSome ∧
        (valueForKey packet (ascii "\\response\\")).isSome)
      (LoginClient.Suspending.handleLogin client packet) := by
  unfold LoginClient.Suspending.handleLogin
  split
  · rename_i other
    exact .silent (fun asks => other asks.1) trivial
  · rename_i authenticating
    rw [ne_eq, not_not] at authenticating
    split
    · rename_i name challenge response named challenged responded
      split
      · rename_i empty
        refine .silent ?_ (reply_silent client _)
        rintro ⟨-, ⟨name', named', nonempty⟩, -⟩
        rw [named] at named'
        cases named'
        exact nonempty (List.isEmpty_iff.mp empty)
      · rename_i nonempty
        refine .asked ⟨authenticating, ⟨name, named, mt List.isEmpty_iff.mpr nonempty⟩, ?_, ?_⟩ ?_
          fun _ => rfl
        · rw [challenged]
          rfl
        · rw [responded]
          rfl
        · refine Within.bind_usesFirst (hasPlayer_within _) fun found => ?_
          split
          · exact (reply_silent client _).usesFirst
          · refine Within.bind_usesFirst (getPlayerByName_within _) fun player => ?_
            split
            · trivial
            · split
              · exact (reply_silent client _).usesFirst
              · exact Silent.usesFirst (Silent.bind (send_silent _) fun _ => trivial)
    · rename_i incomplete
      refine .silent ?_ (reply_silent client _)
      rintro ⟨-, ⟨name, named, -⟩, challenged, responded⟩
      obtain ⟨challenge, challenged⟩ := Option.isSome_iff_exists.mp challenged
      obtain ⟨response, responded⟩ := Option.isSome_iff_exists.mp responded
      exact incomplete name challenge response named challenged responded

theorem handleNewUser_starts :
    Starts sqlite snapshotEndpoint
      (client.state = .authenticating ∧ (valueForKey packet (ascii "\\email\\")).isSome ∧
        (valueForKey packet (ascii "\\nick\\")).isSome ∧
        (valueForKey packet (ascii "\\passwordenc\\")).isSome)
      (LoginClient.Suspending.handleNewUser client packet) := by
  unfold LoginClient.Suspending.handleNewUser
  split
  · rename_i other
    exact .silent (fun asks => other asks.1) (reply_silent client _)
  · rename_i authenticating
    rw [ne_eq, not_not] at authenticating
    split
    · rename_i email nick passwordEnc mailed named encoded
      refine .asked ⟨authenticating, ?_, ?_, ?_⟩ ?_ fun _ => rfl
      · rw [mailed]
        rfl
      · rw [named]
        rfl
      · rw [encoded]
        rfl
      · refine Within.bind_usesFirst (hasPlayer_within _) fun found => ?_
        split
        · exact (reply_silent client _).usesFirst
        · split
          · trivial
          · split
            · exact (reply_silent client _).usesFirst
            · split
              · exact (reply_silent client _).usesFirst
              · refine Within.bind_usesFirst (createPlayer_within _) fun player => ?_
                exact Silent.usesFirst (Silent.bind (send_silent _) fun _ => trivial)
    · rename_i incomplete
      refine .silent ?_ (reply_silent client _)
      rintro ⟨-, mailed, named, encoded⟩
      obtain ⟨email, mailed⟩ := Option.isSome_iff_exists.mp mailed
      obtain ⟨nick, named⟩ := Option.isSome_iff_exists.mp named
      obtain ⟨passwordEnc, encoded⟩ := Option.isSome_iff_exists.mp encoded
      exact incomplete email nick passwordEnc mailed named encoded

theorem handleGetProfile_silent :
    (LoginClient.Suspending.handleGetProfile client packet).Silent SessionOperation.database?
      (points sqlite snapshotEndpoint) := by
  unfold LoginClient.Suspending.handleGetProfile
  split
  · exact reply_silent client _
  · split
    · exact reply_silent client _
    · split
      · trivial
      · exact reply_silent client _

theorem handleUpdateProfile_starts :
    Starts sqlite snapshotEndpoint
      (client.state = .authenticated ∧ client.playerData.isSome ∧
        (valueForKey packet (ascii "\\countrycode\\")).isSome)
      (LoginClient.Suspending.handleUpdateProfile client packet) := by
  unfold LoginClient.Suspending.handleUpdateProfile
  split
  · rename_i other
    exact .silent (fun asks => other asks.1) (reply_silent client _)
  · rename_i authenticated
    rw [ne_eq, not_not] at authenticated
    split
    · rename_i missing
      refine .silent (fun asks => ?_) trivial
      rw [missing] at asks
      cases asks.2.2
    · rename_i countryCode given
      split
      · rename_i absent
        refine .silent (fun asks => ?_) trivial
        rw [absent] at asks
        cases asks.2.1
      · rename_i player held
        refine .asked ⟨authenticated, ?_, ?_⟩ ?_ fun _ => rfl
        · rw [held]
          rfl
        · rw [given]
          rfl
        · exact Within.bind_usesFirst (query_within _) fun _ => trivial

theorem login_starts :
    Starts sqlite snapshotEndpoint (client.Asks packet)
      (LoginClient.Suspending.handle client packet) := by
  have done : ∀ c : LoginClient, (Coroutine.ret (some c) : Awaitable (Option LoginClient)).Silent
      SessionOperation.database? (points sqlite snapshotEndpoint) := fun _ => trivial
  unfold LoginClient.Suspending.handle LoginClient.Asks
  split
  · exact (handleLogin_starts client packet).bind done fun _ _ => rfl
  · split
    · exact (handleNewUser_starts client packet).bind done fun _ _ => rfl
    · split
      · rename_i getprofile
        refine .silent (fun asks => ?_) (Silent.bind (handleGetProfile_silent client packet) done)
        exact not_isPrefixOf getprofile (by decide) asks.1
      · split
        · rename_i updatepro
          refine ((handleUpdateProfile_starts client packet).bind done fun _ _ => rfl).congr ?_
          rw [and_iff_right updatepro]
        · rename_i other
          split
          · exact .silent (fun asks => other asks.1) trivial
          · exact .silent (fun asks => other asks.1) (Silent.bind (reply_silent client _) done)

theorem search_starts :
    Starts sqlite snapshotEndpoint (SearchClient.Asks packet)
      (SearchClient.Suspending.handle packet) := by
  have sends (reply : SearchReply) : (SearchClient.Suspending.send reply).Silent
      SessionOperation.database? (points sqlite snapshotEndpoint) := by
    cases reply with
    | threw => trivial
    | error errorCode errorMessage fatal => exact send_silent _
    | nicks players => exact send_silent _
    | profile id => exact send_silent _
  unfold SearchClient.Suspending.handle SearchClient.Asks
  split
  · unfold SearchClient.Suspending.handleSearchNicks
    split
    · rename_i undecodable
      refine .silent ?_ trivial
      rintro ⟨⟨digest, decoded, -⟩, -⟩
      rw [undecodable] at decoded
      cases decoded
    · rename_i digest decoded
      split
      · rename_i missing
        refine .silent (fun asks => ?_) (sends _)
        rw [missing] at asks
        cases asks.2
      · rename_i email given
        split
        · rename_i empty
          refine .silent ?_ (sends _)
          rintro ⟨⟨digest', decoded', nonempty⟩, -⟩
          rw [decoded] at decoded'
          cases decoded'
          exact nonempty (List.isEmpty_iff.mp empty)
        · rename_i nonempty
          refine .asked ⟨⟨digest, decoded, mt List.isEmpty_iff.mpr nonempty⟩, ?_⟩ ?_ fun _ => rfl
          · rw [given]
            rfl
          · refine Within.bind_usesFirst (getPlayerByMailAndPassword_within _ _) fun players => ?_
            split <;> exact (sends _).usesFirst
  · split
    · rename_i check
      unfold SearchClient.Suspending.handleProfileExists
      split
      · rename_i empty
        exact .silent (fun asks => asks.2 (List.isEmpty_iff.mp empty)) (sends _)
      · rename_i nonempty
        refine .asked ⟨check, mt List.isEmpty_iff.mpr nonempty⟩ ?_ fun _ => rfl
        refine Within.bind_usesFirst (hasPlayer_within _) fun found => ?_
        split
        · refine Within.bind_usesFirst (getPlayerByName_within _) fun player => ?_
          split
          · trivial
          · exact (sends _).usesFirst
        · exact (sends _).usesFirst
    · rename_i other
      exact .silent (fun asks => other asks.1) (sends _)

theorem handeSnapshot_silent (data : Bytes) (final : Bool) :
    (StatsClient.handeSnapshot snapshotEndpoint data final).Silent SessionOperation.database?
      (points sqlite snapshotEndpoint) := by
  cases snapshotEndpoint with
  | none => trivial
  | some endpoint =>
      exact ⟨rfl, fun _ _ => id, fun _ => ⟨rfl, fun _ _ => id, fun _ => ⟨rfl, fun _ _ => id,
        fun _ => trivial⟩⟩⟩

theorem authp_starts (key : Int32) :
    Starts sqlite snapshotEndpoint
      ((∃ localID, valueForKey packet (ascii "\\lid\\") = some localID ∧ localID ≠ []) ∧
        valueForKey packet (ascii "\\authtoken\\") = none ∧
        (numberForKey packet (ascii "\\pid\\")).isSome)
      (StatsClient.authp key packet) := by
  unfold StatsClient.authp
  split
  · rename_i missing
    refine .silent ?_ (send_silent _)
    rintro ⟨⟨localID, given, -⟩, -⟩
    rw [missing] at given
    cases given
  · rename_i localID given
    split
    · rename_i empty
      refine .silent ?_ (send_silent _)
      rintro ⟨⟨localID', given', nonempty⟩, -⟩
      rw [given] at given'
      cases given'
      exact nonempty (List.isEmpty_iff.mp empty)
    · rename_i nonempty
      split
      · rename_i token
        refine .silent (fun asks => ?_) trivial
        rw [asks.2.1] at token
        cases token
      · rename_i tokenless
        rw [Option.not_isSome_iff_eq_none] at tokenless
        split
        · rename_i missing
          refine .silent (fun asks => ?_) trivial
          rw [missing] at asks
          cases asks.2.2
        · rename_i pid found
          refine .asked ⟨⟨localID, given, mt List.isEmpty_iff.mpr nonempty⟩, tokenless, ?_⟩ ?_
            fun _ => rfl
          · rw [found]
            rfl
          · refine Within.bind_usesFirst (getPlayerByPID_within _) fun player => ?_
            dsimp only
            split
            · split <;> exact Silent.usesFirst (send_silent _)
            · exact Silent.usesFirst (send_silent _)

theorem stats_starts (key : Int32) :
    Starts sqlite snapshotEndpoint (StatsClient.Asks packet)
      (StatsClient.process snapshotEndpoint key packet) := by
  have other {word : Bytes} (begins : word.isPrefixOf packet)
      (apart : ¬ word <+: ascii "\\authp\\" ∧ ¬ ascii "\\authp\\" <+: word) :
      ¬ StatsClient.Asks packet := fun asks => not_isPrefixOf begins apart asks.1
  unfold StatsClient.process
  split
  · rename_i getpid
    exact .silent (other getpid (by decide)) trivial
  · split
    · rename_i getpd
      exact .silent (other getpd (by decide)) trivial
    · split
      · rename_i authp
        exact (authp_starts packet key).congr (and_iff_right authp).symm
      · rename_i apart
        refine .silent (fun asks => apart asks.1) ?_
        split
        · trivial
        · split
          · split
            · trivial
            · exact handeSnapshot_silent _ _
          · trivial

theorem authenticate_silent (serverChallenge : Bytes) :
    (StatsClient.authenticate serverChallenge packet).Silent SessionOperation.database?
      (points sqlite snapshotEndpoint) := by
  unfold StatsClient.authenticate
  split
  · trivial
  · split
    · trivial
    · split
      · trivial
      · intro emulator
        dsimp only
        split
        · exact Silent.bind (send_silent _) fun _ => trivial
        · split
          · exact Silent.bind (send_silent _) fun _ => trivial
          · exact Silent.bind (send_silent _) fun _ => trivial

variable (request : ServerListRequest)

theorem currentGame_silent (name : Bytes) :
    (BrowserClient.currentGame name).Silent SessionOperation.database?
      (points sqlite snapshotEndpoint) := by
  intro emulator
  dsimp only
  split <;> trivial

theorem sendServers_silent (servers : List SavedServer) :
    (BrowserClient.sendServers request servers).Silent SessionOperation.database?
      (points sqlite snapshotEndpoint) := by
  induction servers with
  | nil => exact send_silent _
  | cons server rest ih =>
      refine Silent.bind (currentGame_silent _) fun game => ?_
      split
      · trivial
      · exact Silent.bind (send_silent _) fun _ => ih

theorem statsServers_within (game : Game) (hasParams : Bool) (query : Bytes) (fields : List Bytes)
    (limit skip : Nat) :
    (BF2.Suspending.getServers sqlite game hasParams query fields limit skip).Within
      SessionOperation.database? (points sqlite snapshotEndpoint) .stats := by
  unfold BF2.Suspending.getServers
  dsimp only
  split
  · exact ⟨rfl, fun _ _ => id, fun _ => ⟨rfl, fun _ _ => id, fun _ => trivial⟩⟩
  · trivial

theorem getServers_within :
    (BrowserClient.getServers sqlite request).Within SessionOperation.database?
      (points sqlite snapshotEndpoint) .stats := by
  intro emulator
  dsimp only
  split
  · trivial
  · split
    · exact statsServers_within _ _ _ _ _ _
    · trivial

theorem sendList_usesFirst :
    (BrowserClient.sendList sqlite request).UsesFirst SessionOperation.database?
      (points sqlite snapshotEndpoint) .stats := by
  have looks : (BrowserClient.currentGame request.toGame).Within SessionOperation.database?
      (points sqlite snapshotEndpoint) .stats := by
    intro emulator
    dsimp only
    split <;> trivial
  refine Within.bind_usesFirst looks fun game => ?_
  split
  · exact Within.bind_usesFirst (getServers_within request) fun servers =>
      (sendServers_silent request servers).usesFirst
  · trivial

section Waits

variable {request} {emulator : Emulator} {game : Game}
  (held : emulator.games[request.toGame]? = some game)
include held

theorem sendList_waitsFor_current :
    (BrowserClient.sendList sqlite request).waitsFor emulator =
      (if BrowserClient.Listed game request then
        BrowserClient.getServers sqlite request >>= BrowserClient.sendServers request
      else .ret ()).waitsFor emulator := by
  unfold BrowserClient.sendList BrowserClient.currentGame
  simp only [look_bind, waitsFor, held, ret_bind]
  rfl

theorem getServers_asks {next : List SavedServer → Awaitable A} (bf2 : game.data.name = bf2Data.name)
    (asks : BF2.asksStats emulator.hasParams (BF2.listed sqlite game request.serverFilter
      request.fieldList (Listing.limit request) 0)) :
    (BrowserClient.getServers sqlite request >>= next).waitsFor emulator =
      some (.prepare .stats BF2.statsStatement) := by
  simp only [BrowserClient.getServers, look_bind, waitsFor, held, if_pos bf2,
    BF2.Suspending.getServers, if_pos asks]
  rfl

theorem getServers_returns {next : List SavedServer → Awaitable A}
    (silent : ¬ (game.data.name = bf2Data.name ∧
      BF2.asksStats emulator.hasParams (BF2.listed sqlite game request.serverFilter
        request.fieldList (Listing.limit request) 0))) :
    ∃ servers, (BrowserClient.getServers sqlite request >>= next).waitsFor emulator =
      (next servers).waitsFor emulator := by
  simp only [BrowserClient.getServers, look_bind, waitsFor, held]
  by_cases bf2 : game.data.name = bf2Data.name
  · have quiet := fun asks => silent ⟨bf2, asks⟩
    simp only [if_pos bf2, BF2.Suspending.getServers, if_neg quiet]
    exact ⟨_, rfl⟩
  · simp only [if_neg bf2]
    exact ⟨_, rfl⟩

end Waits

theorem sendList_waitsFor (emulator : Emulator) (c : Database) :
    ((BrowserClient.sendList sqlite request).waitsFor emulator).bind
        SessionOperation.database? = some c ↔
      c = .stats ∧ BrowserClient.Asks sqlite emulator request := by
  cases held : emulator.games[request.toGame]? with
  | none =>
      have ended : (BrowserClient.sendList sqlite request).waitsFor emulator = none := by
        unfold BrowserClient.sendList BrowserClient.currentGame
        simp only [look_bind, waitsFor, held, fault_bind]
      rw [ended]
      refine iff_of_false (by simp) ?_
      rintro ⟨-, game, held', -⟩
      rw [held] at held'
      cases held'
  | some game =>
      have asks_iff : BrowserClient.Asks sqlite emulator request ↔
          BrowserClient.Listed game request ∧ game.data.name = bf2Data.name ∧
            BF2.asksStats emulator.hasParams (BF2.listed sqlite game request.serverFilter
              request.fieldList (Listing.limit request) 0) := by
        simp [BrowserClient.Asks, held]
      rw [sendList_waitsFor_current held, asks_iff]
      split
      · rename_i listed
        by_cases asks : game.data.name = bf2Data.name ∧
            BF2.asksStats emulator.hasParams (BF2.listed sqlite game request.serverFilter
              request.fieldList (Listing.limit request) 0)
        · rw [getServers_asks held asks.1 asks.2]
          simp [SessionOperation.database?, listed, asks, eq_comm]
        · obtain ⟨servers, returns⟩ : ∃ servers,
              (BrowserClient.getServers sqlite request >>=
                BrowserClient.sendServers request).waitsFor emulator =
              (BrowserClient.sendServers request servers).waitsFor emulator :=
            getServers_returns held asks
          rw [returns, (@sendServers_silent sqlite none request servers).waitsFor emulator]
          exact iff_of_false (by simp) fun both => asks both.2.2
      · rename_i unlisted
        exact iff_of_false (by simp [waitsFor]) fun both => unlisted both.2.1

theorem handleServerListRequest_entersBy (cryptKey serverChallenge bytes : Bytes) :
    (BrowserClient.handleServerListRequest sqlite cryptKey serverChallenge bytes).EntersBy
      SessionOperation.database? (points sqlite snapshotEndpoint) := by
  unfold BrowserClient.handleServerListRequest
  split
  · trivial
  · rename_i request parsed
    intro emulator
    dsimp only
    split
    · trivial
    · -- The send of the response header is the entry point.
      refine fun _ => ⟨fun _ => ⟨?_, fun emulator c _ => ?_⟩, fun emulator c _ => ?_⟩
      · exact (sendList_usesFirst request).entersBy.bind (fun _ => trivial) fun _ _ => rfl
      · refine Iff.trans ?_ (sendList_waitsFor request emulator c)
        have same : (BrowserClient.sendList sqlite request >>= fun _ =>
            (Coroutine.ret true : Awaitable Bool)).waitsFor emulator =
              (BrowserClient.sendList sqlite request).waitsFor emulator :=
          waitsFor_bind fun _ => rfl
        rw [← same]
        rfl
      · exact iff_of_false (fun uses => by cases uses) id

end Handlers

/-! ### One operation at a time -/

theorem greet_silent (peer : Peer) :
    (greet peer).Silent SessionOperation.database? (points sqlite snapshotEndpoint) := by
  cases peer with
  | login serverChallenge loginTicket =>
      exact Silent.bind (Silent.bind (send_silent _) fun _ => trivial) fun _ => trivial
  | search => trivial
  | stats serverChallenge => exact Silent.bind (send_silent _) fun _ => trivial
  | browser cryptKey serverChallenge => trivial

theorem handleFirst_entersBy (cryptKey serverChallenge bytes : Bytes) :
    (handleFirst sqlite cryptKey serverChallenge bytes).EntersBy SessionOperation.database?
      (points sqlite snapshotEndpoint) := by
  unfold handleFirst
  split
  · trivial
  · split
    · trivial
    · exact (handleServerListRequest_entersBy _ _ _).bind (fun _ => trivial) fun _ _ => rfl

theorem handleFirst_waitsFor (cryptKey serverChallenge bytes : Bytes) (emulator : Emulator) :
    ((handleFirst sqlite cryptKey serverChallenge bytes).waitsFor emulator).bind
      SessionOperation.database? = none := by
  unfold handleFirst
  split
  · rfl
  · split
    · rfl
    · unfold BrowserClient.handleServerListRequest
      split
      · rfl
      · simp only [look_bind, waitsFor]
        split <;> rfl

/-- What `EntryPoints.Sound` asks of the handler of an input. -/
def Keeps (sqlite : Sqlite) (snapshotEndpoint : Option Endpoint) (state : SessionState)
    (input : SessionInput) : Prop :=
  (handle sqlite snapshotEndpoint state input).EntersBy SessionOperation.database?
      (points sqlite snapshotEndpoint) ∧
    ∀ emulator c, ((handle sqlite snapshotEndpoint state input).waitsFor emulator).bind
        SessionOperation.database? = some c ↔
      (points sqlite snapshotEndpoint).input emulator state input c

theorem keeps_of_starts {state : SessionState} {input : SessionInput} {asks : Prop}
    (starts : Starts sqlite snapshotEndpoint asks (handle sqlite snapshotEndpoint state input))
    (entry : ∀ emulator c, (points sqlite snapshotEndpoint).input emulator state input c ↔
      c = .players ∧ asks) : Keeps sqlite snapshotEndpoint state input := by
  refine ⟨starts.entersBy, fun emulator c => ?_⟩
  rw [entry]
  exact starts.waitsFor_iff emulator c

theorem keeps_of_silent {state : SessionState} {input : SessionInput}
    (silent : (handle sqlite snapshotEndpoint state input).Silent SessionOperation.database?
      (points sqlite snapshotEndpoint))
    (noEntry : ∀ emulator c, ¬ (points sqlite snapshotEndpoint).input emulator state input c) :
    Keeps sqlite snapshotEndpoint state input := by
  refine ⟨silent.entersBy, fun emulator c => iff_of_false ?_ (noEntry emulator c)⟩
  rw [silent.waitsFor emulator]
  simp

theorem handle_keeps (state : SessionState) (input : SessionInput) :
    Keeps sqlite snapshotEndpoint state input := by
  cases input with
  | packet bytes =>
      cases state with
      | login client =>
          exact keeps_of_starts ((login_starts client bytes).bind (fun _ => trivial) fun _ _ => rfl)
            fun _ _ => Iff.rfl
      | search =>
          exact keeps_of_starts ((search_starts bytes).bind (fun _ => trivial) fun _ _ => rfl)
            fun _ _ => Iff.rfl
      | authenticating serverChallenge =>
          exact keeps_of_silent (Silent.bind (authenticate_silent bytes serverChallenge)
            fun _ => trivial) fun _ _ => id
      | stats key =>
          exact keeps_of_starts ((stats_starts bytes key).bind (fun _ => trivial) fun _ _ => rfl)
            fun _ _ => Iff.rfl
      | browser cryptKey serverChallenge =>
          refine ⟨handleFirst_entersBy cryptKey serverChallenge bytes, fun emulator c => ?_⟩
          refine iff_of_false (fun uses => ?_) id
          rw [handle, handleFirst_waitsFor] at uses
          cases uses
      | browsing => exact keeps_of_silent trivial fun _ _ => id
  | signal bytes =>
      cases state with
      | browsing =>
          exact keeps_of_silent (Silent.bind (send_silent bytes) fun _ => trivial) fun _ _ => id
      | login client => exact keeps_of_silent trivial fun _ _ => id
      | search => exact keeps_of_silent trivial fun _ _ => id
      | authenticating serverChallenge => exact keeps_of_silent trivial fun _ _ => id
      | stats key => exact keeps_of_silent trivial fun _ _ => id
      | browser cryptKey serverChallenge => exact keeps_of_silent trivial fun _ _ => id

theorem points_sound : (points sqlite snapshotEndpoint).Sound SessionOperation.database? where
  greets := greet_silent
  handles state input := (handle_keeps state input).1
  inputs emulator state input c := (handle_keeps state input).2 emulator c

/-- An event by which a session begins a call: an input its handler asks the player
database for, or the end of the send of a header whose list is ranked. -/
def Begins (sqlite : Sqlite) (snapshotEndpoint : Option Endpoint)
    (pool : Pool (service sqlite snapshotEndpoint)) :
    PoolEvent (service sqlite snapshotEndpoint) → Database → Prop
  | .input i _ (.packet bytes), database => database = .players ∧
      ((∃ client, pool i = .idle (.login client) ∧ client.Asks bytes) ∨
        (pool i = .idle .search ∧ SearchClient.Asks bytes) ∨
        ∃ key, pool i = .idle (.stats key) ∧ StatsClient.Asks bytes)
  | .completed i emulator _, database => database = .stats ∧
      ∃ request, (pool i).operation? = some (.send (.header request)) ∧
        BrowserClient.Asks sqlite emulator request
  | .input _ _ (.signal _), _ => False
  | .accepted _ _ _, _ => False
  | .failed _, _ => False

theorem calls_iff (pool : Pool (service sqlite snapshotEndpoint))
    (event : PoolEvent (service sqlite snapshotEndpoint)) (database : Database) :
    pool.Calls SessionOperation.database? (points sqlite snapshotEndpoint) event database ↔
      Begins sqlite snapshotEndpoint pool event database := by
  cases event with
  | accepted i emulator peer => exact Iff.rfl
  | failed i => exact Iff.rfl
  | input i emulator input =>
      cases input with
      | signal bytes =>
          refine iff_of_false ?_ id
          rintro ⟨state, -, entry⟩
          cases state <;> exact entry
      | packet bytes =>
          constructor
          · rintro ⟨state, idle, entry⟩
            cases state with
            | login client => exact ⟨entry.1, .inl ⟨client, idle, entry.2⟩⟩
            | search => exact ⟨entry.1, .inr (.inl ⟨idle, entry.2⟩)⟩
            | stats key => exact ⟨entry.1, .inr (.inr ⟨key, idle, entry.2⟩)⟩
            | authenticating serverChallenge => exact entry.elim
            | browser cryptKey serverChallenge => exact entry.elim
            | browsing => exact entry.elim
          · rintro ⟨players, ⟨client, idle, asks⟩ | ⟨idle, asks⟩ | ⟨key, idle, asks⟩⟩
            · exact ⟨.login client, idle, players, asks⟩
            · exact ⟨.search, idle, players, asks⟩
            · exact ⟨.stats key, idle, players, asks⟩
  | completed i emulator result =>
      constructor
      · rintro ⟨operation, waits, -, entry⟩
        rcases operation with _ | _ | _ | (_ | request) | _ | _ | _ <;> try exact entry.elim
        exact ⟨entry.1, request, waits, entry.2⟩
      · rintro ⟨stats, request, waits, asks⟩
        refine ⟨_, waits, ?_, stats, asks⟩
        simp [SessionOperation.database?]

/-- **In every run, each connection has at most one operation outstanding exactly when no
session begins a call while another is inside one on the same connection.** -/
theorem one_operation_iff (sqlite : Sqlite) (snapshotEndpoint : Option Endpoint)
    (events : List (PoolEvent (service sqlite snapshotEndpoint))) :
    (∀ front, front <+: events →
        (Run.final Pool.step Pool.start front).Exclusive SessionOperation.database?) ↔
      Run.StepsMeet Pool.step (fun pool event => ∀ database,
        Begins sqlite snapshotEndpoint pool event database →
          ∀ i, ¬ pool.Uses SessionOperation.database? database i) Pool.start events := by
  have rule := Pool.exclusive_calls_iff (@points_sound sqlite snapshotEndpoint) events
  simp only [calls_iff] at rule
  exact rule

end Sessions

namespace LoginSample

/-- Nothing is listed. -/
def emulator : Emulator := ⟨∅, false, 0⟩

/-- Every operation succeeds, with one row of each kind. -/
def answers : (operation : SessionOperation) → operation.Result
  | .prepare _ _ => ()
  | .execute (.hasPlayer _) => (1 : Nat)
  | .execute (.getPlayerByName _) => []
  | .execute (.getPlayerByPID _) => []
  | .execute (.getPlayerByMailAndPassword _ _) => []
  | .execute (.createPlayer _) => (0 : UInt64)
  | .execute (.updatePlayer _) => ()
  | .executeStats => []
  | .send _ => ()
  | .connect _ => ()
  | .write _ => ()
  | .read => ()

def login : Bytes := ascii "\\login\\\\challenge\\c\\uniquenick\\a\\response\\r\\final\\"

/-- Two players connect and log in; the first statement of each is being prepared. -/
def together : List (PoolEvent (Sessions.service StoreSample.sqlite none)) :=
  [.accepted 0 emulator (.login (ascii "A") (ascii "0__")), .completed 0 emulator answers,
    .accepted 1 emulator (.login (ascii "B") (ascii "1__")), .completed 1 emulator answers,
    .input 0 emulator (.packet login), .input 1 emulator (.packet login)]

theorem one_operation_fails_together :
    ¬ ∀ (sqlite : Sqlite) (snapshotEndpoint : Option Endpoint)
      (events : List (PoolEvent (Sessions.service sqlite snapshotEndpoint))) front,
      front <+: events →
        (Run.final Pool.step Pool.start front).Exclusive SessionOperation.database? := by
  intro claimed
  have exclusive := claimed StoreSample.sqlite none together together (List.prefix_refl _)
  have first : (Run.final Pool.step Pool.start together).Uses SessionOperation.database?
      .players 0 := rfl
  have second : (Run.final Pool.step Pool.start together).Uses SessionOperation.database?
      .players 1 := rfl
  cases exclusive .players 0 1 first second

end LoginSample

end GamespyEmulator
