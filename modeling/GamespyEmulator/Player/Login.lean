import GamespyEmulator.Player.Session

/-!
What a login session may do. `LoginEffect` lists the effects of a handler with the facts
that lead to each; from it `session_authorised` follows for every run: profiles and
updates concern one player, the one a packet of this session logged in before.
-/

namespace GamespyEmulator

open Wire Utils

/-! ### Players and actions -/

/-- The same player; only country and session key may differ. -/
structure SamePlayer (a b : PlayerData) : Prop where
  id : a.id = b.id
  name : a.name = b.name
  email : a.email = b.email
  password : a.password = b.password

theorem SamePlayer.refl (a : PlayerData) : SamePlayer a a := ⟨rfl, rfl, rfl, rfl⟩

theorem SamePlayer.trans {a b c : PlayerData} (ab : SamePlayer a b) (bc : SamePlayer b c) :
    SamePlayer a c :=
  ⟨ab.id.trans bc.id, ab.name.trans bc.name, ab.email.trans bc.email,
    ab.password.trans bc.password⟩

/-- The player an action discloses or writes. -/
def Action.player? : Action → Option PlayerData
  | .profile player _ => some player
  | .updatePlayer player => some player
  | .send _ => none
  | .createPlayer _ => none
  | .undefined => none

/-- An action that concerns no logged-in player. -/
structure Action.Quiet (action : Action) : Prop where
  player : action.player? = none
  defined : action ≠ .undefined

theorem quiet_send (bytes : Bytes) : (Action.send bytes).Quiet := ⟨rfl, Action.noConfusion⟩

/-- A login packet whose response is right for the stored password of the player it
names and for the session's challenge. -/
structure LogsIn (table : PlayerTable) (serverChallenge packet : Bytes) (player : PlayerData) :
    Prop where
  login : (ascii "\\login\\").isPrefixOf packet
  named : LoginClient.loginName packet = some player.name
  stored : PlayerDBSQLite.getPlayerByName table player.name = some player
  response : ∃ clientChallenge, valueForKey packet (ascii "\\challenge\\") = some clientChallenge ∧
    valueForKey packet (ascii "\\response\\") =
      some (generateChallenge player.name player.password clientChallenge serverChallenge)

/-! ### One packet -/

/-- The effects of a handler. -/
inductive LoginEffect (client : LoginClient) (table : PlayerTable) (packet : Bytes) (sent : Bool) :
    Handled → Prop where
  /-- A reply that concerns no player, an exception, the end of the session, or nothing. -/
  | refused {actions : List Action} {threw closed : Bool}
      (sends : ∀ action ∈ actions, ∃ reply, action = .send reply) :
      LoginEffect client table packet sent
        { client := client, table := table, actions := actions, threw := threw, closed := closed }
  /-- The use of a player that is not set. -/
  | unset (authenticated : client.state = .authenticated) (absent : client.playerData = none) :
      LoginEffect client table packet sent
        { client := client, table := table, actions := [.undefined] }
  /-- A right response. When the reply is lost, the player is set and the state is not. -/
  | loggedIn (player : PlayerData) (session : UInt16) (reply : Bytes)
      (authenticating : client.state = .authenticating)
      (logsIn : LogsIn table client.serverChallenge packet player) :
      LoginEffect client table packet sent
        { client :=
            { client with
              playerData := some { player with session := session }
              state := if sent then .authenticated else client.state }
          table := table
          actions := [.send reply]
          threw := !sent }
  /-- A registration that the statement refuses. -/
  | failed (data : PlayerData) (authenticating : client.state = .authenticating) :
      LoginEffect client table packet sent
        { client := { client with playerData := some data }, table := table, threw := true }
  /-- A registration. -/
  | created (data : PlayerData) (created : PlayerTable) (id : UInt64) (reply : Bytes)
      (authenticating : client.state = .authenticating)
      (inserted : table.insert data = some (created, id))
      (named : valueForKey packet (ascii "\\nick\\") = some data.name)
      (mail : valueForKey packet (ascii "\\email\\") = some data.email)
      (hashed : ∃ passwordEnc password,
        valueForKey packet (ascii "\\passwordenc\\") = some passwordEnc ∧
        passdecode passwordEnc = some password ∧ 3 ≤ password.length ∧
        data.password = Md5.md5 password) :
      LoginEffect client table packet sent
        { client := { client with playerData := some { data with id := id } }
          table := created
          actions := [.createPlayer { data with id := id }, .send reply]
          threw := !sent }
  /-- The profile of the player. -/
  | shown (data : PlayerData) (reply : Bytes) (authenticated : client.state = .authenticated)
      (held : client.playerData = some data) : LoginEffect client table packet sent
        { client := client, table := table, actions := [.profile data reply], threw := !sent }
  /-- Another country for the player. -/
  | updated (data : PlayerData) (country : Bytes) (authenticated : client.state = .authenticated)
      (held : client.playerData = some data) : LoginEffect client table packet sent
        { client := { client with playerData := some { data with country := country } }
          table := table.update { data with country := country }
          actions := [.updatePlayer { data with country := country }] }

theorem getPlayerByName_of_hasPlayer {table : PlayerTable} {name : Bytes}
    (has : PlayerDBSQLite.hasPlayer table name = true) :
    ∃ player, PlayerDBSQLite.getPlayerByName table name = some player ∧ player.name = name := by
  unfold PlayerDBSQLite.hasPlayer at has
  unfold PlayerDBSQLite.getPlayerByName
  cases found : table.byName name with
  | nil => simp [found] at has
  | cons row rest => exact ⟨_, rfl, rfl⟩

section Handlers

variable {client : LoginClient} {table : PlayerTable} {packet : Bytes} {sent : Bool}

theorem reply_effect (bytes : Bytes) :
    LoginEffect client table packet sent (client.reply table sent bytes) :=
  .refused (List.forall_mem_singleton.mpr ⟨bytes, rfl⟩)

theorem silent_effect {threw closed : Bool} : LoginEffect client table packet sent
    { client := client, table := table, threw := threw, closed := closed } :=
  .refused (by simp)

theorem handleLogin_effect (login : (ascii "\\login\\").isPrefixOf packet) :
    LoginEffect client table packet sent (client.handleLogin table packet sent) := by
  unfold LoginClient.handleLogin
  split
  · exact silent_effect
  · rename_i authenticating
    split
    · rename_i playerName clientChallenge challengeResponse named challenged responded
      split
      · exact reply_effect _
      · split
        · exact reply_effect _
        · rename_i known
          obtain ⟨player, stored, rfl⟩ :=
            getPlayerByName_of_hasPlayer (by simpa using known)
          rw [stored]
          dsimp only
          split
          · exact reply_effect _
          · rename_i right
            rw [ne_eq, not_not] at right authenticating
            have logsIn : LogsIn table client.serverChallenge packet player :=
              ⟨login, named, stored, clientChallenge, challenged, right ▸ responded⟩
            have effect := @LoginEffect.loggedIn client table packet sent player
              (crc16 player.name) (loginReply { player with session := crc16 player.name }
                client.loginTicket
                (generateChallenge player.name player.password client.serverChallenge
                  clientChallenge)) authenticating logsIn
            cases sent with
            | false => exact effect
            | true => exact effect
    · exact reply_effect _

theorem handleNewUser_effect :
    LoginEffect client table packet sent (client.handleNewUser table packet sent) := by
  unfold LoginClient.handleNewUser
  split
  · exact reply_effect _
  · rename_i authenticating
    rw [ne_eq, not_not] at authenticating
    split
    · rename_i email nick passwordEnc mailed named encoded
      split
      · exact reply_effect _
      · split
        · exact silent_effect
        · rename_i password decoded
          split
          · exact reply_effect _
          · rename_i long
            split
            · exact reply_effect _
            · dsimp only
              split
              · exact .failed _ authenticating
              · rename_i table' player created
                obtain ⟨⟨table'', id⟩, inserted, eq⟩ := Option.map_eq_some_iff.mp created
                cases eq
                exact .created _ _ id _ authenticating inserted named mailed
                  ⟨passwordEnc, password, encoded, decoded, not_lt.mp long, rfl⟩
    · exact reply_effect _

theorem handleGetProfile_effect :
    LoginEffect client table packet sent (client.handleGetProfile table packet sent) := by
  unfold LoginClient.handleGetProfile
  split
  · exact reply_effect _
  · split
    · exact reply_effect _
    · rename_i authenticated
      rw [ne_eq, not_not] at authenticated
      split
      · rename_i absent
        exact .unset authenticated absent
      · rename_i player held
        exact .shown player _ authenticated held

theorem handleUpdateProfile_effect :
    LoginEffect client table packet sent (client.handleUpdateProfile table packet sent) := by
  unfold LoginClient.handleUpdateProfile
  split
  · exact reply_effect _
  · rename_i authenticated
    rw [ne_eq, not_not] at authenticated
    split
    · exact silent_effect
    · rename_i countryCode given
      split
      · rename_i absent
        exact .unset authenticated absent
      · rename_i player held
        exact .updated player (countryCode.map toUpper) authenticated held

theorem handle_effect :
    LoginEffect client table packet sent (client.handle table packet sent) := by
  unfold LoginClient.handle
  split
  · rename_i login
    exact handleLogin_effect login
  · split
    · exact handleNewUser_effect
    · split
      · exact handleGetProfile_effect
      · split
        · exact handleUpdateProfile_effect
        · split
          · exact silent_effect
          · exact reply_effect _

end Handlers

/-! ### The session -/

/-- What a handler can do to a session: nothing that concerns a player, log a player
in, or act for the player that is logged in. -/
inductive SessionStep (client : LoginClient) (table : PlayerTable) (packet : Bytes) (sent : Bool)
    (out : Handled) : Prop where
  | quiet (state : out.client.state = client.state)
      (player : client.state = .authenticated → out.client.playerData = client.playerData)
      (challenge : out.client.serverChallenge = client.serverChallenge)
      (actions : ∀ action ∈ out.actions, action.Quiet)
  | login (player data : PlayerData) (logsIn : LogsIn table client.serverChallenge packet player)
      (replied : sent = true) (before : client.state = .authenticating)
      (state : out.client.state = .authenticated)
      (set : out.client.playerData = some data) (same : SamePlayer data player)
      (challenge : out.client.serverChallenge = client.serverChallenge)
      (actions : ∀ action ∈ out.actions, action.Quiet)
  | acts (data data' : PlayerData) (before : client.state = .authenticated)
      (held : client.playerData = some data) (state : out.client.state = .authenticated)
      (set : out.client.playerData = some data') (same : SamePlayer data' data)
      (challenge : out.client.serverChallenge = client.serverChallenge)
      (actions : ∀ action ∈ out.actions, ∃ player, action.player? = some player ∧
        SamePlayer player data)

/-- A session that is logged in has its player. -/
theorem handle_step {client : LoginClient} {table : PlayerTable} {packet : Bytes} {sent : Bool}
    (set : client.state = .authenticated → ∃ data, client.playerData = some data) :
    SessionStep client table packet sent (client.handle table packet sent) := by
  have notDone : client.state = .authenticating → client.state ≠ .authenticated := by
    intro authenticating
    rw [authenticating]
    exact States.noConfusion
  have single {reply : Bytes} : ∀ action ∈ [Action.send reply], action.Quiet :=
    List.forall_mem_singleton.mpr (quiet_send reply)
  generalize effect : client.handle table packet sent = out
  have handled := @handle_effect client table packet sent
  rw [effect] at handled
  cases handled with
  | refused sends =>
      refine .quiet rfl (fun _ => rfl) rfl fun action mem => ?_
      obtain ⟨reply, rfl⟩ := sends action mem
      exact quiet_send reply
  | unset authenticated absent =>
      obtain ⟨data, held⟩ := set authenticated
      rw [absent] at held
      cases held
  | loggedIn player session reply authenticating logsIn =>
      cases sent with
      | false => exact .quiet rfl (fun done => absurd done (notDone authenticating)) rfl single
      | true => exact .login player _ logsIn rfl authenticating rfl rfl ⟨rfl, rfl, rfl, rfl⟩ rfl single
  | failed data authenticating =>
      exact .quiet rfl (fun done => absurd done (notDone authenticating)) rfl (by simp)
  | created data table' id reply authenticating _ _ _ _ =>
      refine .quiet rfl (fun done => absurd done (notDone authenticating)) rfl ?_
      exact List.forall_mem_cons.mpr ⟨⟨rfl, Action.noConfusion⟩, single⟩
  | shown data reply authenticated held =>
      exact .acts data data authenticated held authenticated held (.refl data) rfl
        (List.forall_mem_singleton.mpr ⟨data, rfl, .refl data⟩)
  | updated data country authenticated held =>
      exact .acts data _ authenticated held authenticated rfl ⟨rfl, rfl, rfl, rfl⟩ rfl
        (List.forall_mem_singleton.mpr ⟨_, rfl, rfl, rfl, rfl, rfl⟩)

/-! ### Runs -/

section Runs

variable {serverChallenge loginTicket : Bytes} {table : PlayerTable}

/-- The run so far logged a player in with its packet behind `before`, acted for no
player up to there, and for this one only since. -/
structure LoggedIn (serverChallenge loginTicket : Bytes) (table : PlayerTable)
    (past before : List Connection.Event) (player : PlayerData) : Prop where
  packet : ∃ packet after, past = before ++ .packet packet true :: after ∧
    LogsIn (Run.final Connection.step (.start serverChallenge loginTicket table) before).table
      serverChallenge packet player ∧
    ∀ action ∈ Run.outputs Connection.step (.start serverChallenge loginTicket table)
      (before ++ [.packet packet true]), action.player? = none
  only : ∀ action ∈ Run.outputs Connection.step (.start serverChallenge loginTicket table) past,
    ∀ data, action.player? = some data → SamePlayer data player

/-- What is known of a session by its state. -/
structure SessionInv (serverChallenge loginTicket : Bytes) (table : PlayerTable)
    (past : List Connection.Event) (connection : Connection) : Prop where
  challenge : connection.client.serverChallenge = serverChallenge
  defined : .undefined ∉
    Run.outputs Connection.step (.start serverChallenge loginTicket table) past
  before : connection.client.state ≠ .authenticated →
    ∀ action ∈ Run.outputs Connection.step (.start serverChallenge loginTicket table) past,
      action.player? = none
  behind : connection.client.state = .authenticated → ∃ before player data,
    LoggedIn serverChallenge loginTicket table past before player ∧
      connection.client.playerData = some data ∧ SamePlayer data player

/-- A step without an action for a player keeps the login. -/
theorem LoggedIn.snoc {past before : List Connection.Event} {player : PlayerData}
    (loggedIn : LoggedIn serverChallenge loginTicket table past before player)
    (event : Connection.Event)
    (only : ∀ action ∈ (Connection.step (Run.final Connection.step
      (.start serverChallenge loginTicket table) past) event).2, ∀ data,
      action.player? = some data → SamePlayer data player) :
    LoggedIn serverChallenge loginTicket table (past ++ [event]) before player := by
  obtain ⟨packet, after, rfl, logsIn, quiet⟩ := loggedIn.packet
  constructor
  · exact ⟨packet, after ++ [event], by simp, logsIn, quiet⟩
  · intro action mem
    rw [Run.outputs_snoc, List.mem_append] at mem
    rcases mem with earlier | now
    · exact loggedIn.only action earlier
    · exact only action now

section Step

variable {past : List Connection.Event} {connection : Connection}
  (state : connection = Run.final Connection.step (.start serverChallenge loginTicket table) past)
  (inv : SessionInv serverChallenge loginTicket table past connection)
include state

theorem outputs_step (event : Connection.Event) :
    Run.outputs Connection.step (.start serverChallenge loginTicket table) (past ++ [event]) =
      Run.outputs Connection.step (.start serverChallenge loginTicket table) past ++
        (connection.step event).2 := by
  rw [Run.outputs_snoc, ← state]

include inv

theorem SessionInv.defined_step {event : Connection.Event}
    (actions : .undefined ∉ (connection.step event).2) : .undefined ∉
      Run.outputs Connection.step (.start serverChallenge loginTicket table) (past ++ [event]) := by
  rw [outputs_step state, List.mem_append]
  rintro (earlier | here)
  · exact inv.defined earlier
  · exact actions here

/-- Before a login no action concerns a player, and a quiet step adds none. -/
theorem SessionInv.before_step {event : Connection.Event}
    (notDone : connection.client.state ≠ .authenticated)
    (actions : ∀ action ∈ (connection.step event).2, action.Quiet) :
    ∀ action ∈ Run.outputs Connection.step (.start serverChallenge loginTicket table)
      (past ++ [event]), action.player? = none := by
  intro action mem
  rw [outputs_step state, List.mem_append] at mem
  rcases mem with earlier | here
  · exact inv.before notDone action earlier
  · exact (actions action here).player

/-- A step that concerns no player. -/
theorem SessionInv.quiet {event : Connection.Event}
    (same : (connection.step event).1.client.state = connection.client.state)
    (player : connection.client.state = .authenticated →
      (connection.step event).1.client.playerData = connection.client.playerData)
    (challenge : (connection.step event).1.client.serverChallenge =
      connection.client.serverChallenge)
    (actions : ∀ action ∈ (connection.step event).2, action.Quiet) :
    SessionInv serverChallenge loginTicket table (past ++ [event]) (connection.step event).1 := by
  refine ⟨challenge.trans inv.challenge, ?_, ?_, ?_⟩
  · exact inv.defined_step state fun here => (actions _ here).defined rfl
  · intro notDone
    exact inv.before_step state (same ▸ notDone) actions
  · intro done
    have authenticated : connection.client.state = .authenticated := same ▸ done
    obtain ⟨before, logged, data, loggedIn, held, alike⟩ := inv.behind authenticated
    refine ⟨before, logged, data, loggedIn.snoc _ ?_, (player authenticated).trans held, alike⟩
    intro action mem data concerns
    rw [← state] at mem
    rw [(actions action mem).player] at concerns
    cases concerns

/-- The login itself: nothing before it concerned a player. -/
theorem SessionInv.login {bytes : Bytes} {player data : PlayerData}
    (logsIn : LogsIn connection.table connection.client.serverChallenge bytes player)
    (authenticating : connection.client.state = .authenticating)
    (done : (connection.step (.packet bytes true)).1.client.state = .authenticated)
    (held : (connection.step (.packet bytes true)).1.client.playerData = some data)
    (same : SamePlayer data player)
    (challenge : (connection.step (.packet bytes true)).1.client.serverChallenge =
      connection.client.serverChallenge)
    (actions : ∀ action ∈ (connection.step (.packet bytes true)).2, action.Quiet) :
    SessionInv serverChallenge loginTicket table (past ++ [.packet bytes true])
      (connection.step (.packet bytes true)).1 := by
  have none := inv.before_step state (by rw [authenticating]; exact States.noConfusion) actions
  refine ⟨challenge.trans inv.challenge, ?_, fun notDone => absurd done notDone, fun _ => ?_⟩
  · exact inv.defined_step state fun here => (actions _ here).defined rfl
  · refine ⟨past, player, data, ⟨⟨bytes, [], rfl, ?_, none⟩, ?_⟩, held, same⟩
    · rw [← state, ← inv.challenge]
      exact logsIn
    · intro action mem data concerns
      rw [none action mem] at concerns
      cases concerns

/-- A step that acts for the player that is logged in. -/
theorem SessionInv.acts {event : Connection.Event} {data data' : PlayerData}
    (authenticated : connection.client.state = .authenticated)
    (held : connection.client.playerData = some data)
    (stays : (connection.step event).1.client.state = .authenticated)
    (held' : (connection.step event).1.client.playerData = some data')
    (same : SamePlayer data' data)
    (challenge : (connection.step event).1.client.serverChallenge =
      connection.client.serverChallenge)
    (actions : ∀ action ∈ (connection.step event).2, ∃ player, action.player? = some player ∧
      SamePlayer player data) :
    SessionInv serverChallenge loginTicket table (past ++ [event]) (connection.step event).1 := by
  obtain ⟨before, logged, data₀, loggedIn, held₀, alike⟩ := inv.behind authenticated
  rw [held] at held₀
  cases held₀
  refine ⟨challenge.trans inv.challenge, ?_, fun notDone => absurd stays notDone, fun _ => ?_⟩
  · refine inv.defined_step state fun here => ?_
    obtain ⟨player, concerns, -⟩ := actions _ here
    cases concerns
  · refine ⟨before, logged, data', loggedIn.snoc _ ?_, held', same.trans alike⟩
    intro action mem data₁ concerns
    rw [← state] at mem
    obtain ⟨player, concerns', alike'⟩ := actions action mem
    rw [concerns] at concerns'
    cases concerns'
    exact alike'.trans alike

theorem sessionInv_packet (bytes : Bytes) (sent : Bool) (isOpen : connection.isOpen = true) :
    SessionInv serverChallenge loginTicket table (past ++ [.packet bytes sent])
      (connection.step (.packet bytes sent)).1 := by
  have set : connection.client.state = .authenticated →
      ∃ data, connection.client.playerData = some data := by
    intro authenticated
    obtain ⟨-, -, data, -, held, -⟩ := inv.behind authenticated
    exact ⟨data, held⟩
  have client : (connection.step (.packet bytes sent)).1.client =
      (connection.client.handle connection.table bytes sent).client := by
    simp [Connection.step, isOpen]
  have actions : (connection.step (.packet bytes sent)).2 =
      (connection.client.handle connection.table bytes sent).actions := by
    simp [Connection.step, isOpen]
  rcases @handle_step connection.client connection.table bytes sent set with
    ⟨same, player, challenge, quiet⟩ |
    ⟨player, data, logsIn, rfl, authenticating, done, held, same, challenge, quiet⟩ |
    ⟨data, data', authenticated, held, stays, held', same, challenge, acts⟩
  · rw [← client] at same player challenge
    rw [← actions] at quiet
    exact inv.quiet state same player challenge quiet
  · rw [← client] at done held challenge
    rw [← actions] at quiet
    exact inv.login state logsIn authenticating done held same challenge quiet
  · rw [← client] at stays held' challenge
    rw [← actions] at acts
    exact inv.acts state authenticated held stays held' same challenge acts

end Step

theorem sessionInv (events : List Connection.Event) :
    SessionInv serverChallenge loginTicket table events
      (Run.final Connection.step (.start serverChallenge loginTicket table) events) := by
  refine @Run.history_stable _ _ _ Connection.step events
    (SessionInv serverChallenge loginTicket table) _ ?_ ?_
  · refine ⟨rfl, List.not_mem_nil, fun _ action mem => ?_, fun done => by cases done⟩
    cases mem
  · intro past event inv
    cases event with
    | packet bytes sent =>
        cases isOpen : (Run.final Connection.step (.start serverChallenge loginTicket table)
            past).isOpen with
        | true => exact sessionInv_packet rfl inv bytes sent isOpen
        | false =>
            have closed : (Run.final Connection.step (.start serverChallenge loginTicket table)
                past).step (.packet bytes sent) =
                  (Run.final Connection.step (.start serverChallenge loginTicket table) past, []) :=
              by simp [Connection.step, isOpen]
            exact inv.quiet rfl (by rw [closed]) (by rw [closed]; simp) (by rw [closed]) (by rw [closed]; simp)
    | others table => exact inv.quiet rfl rfl (fun _ => rfl) rfl fun _ mem => absurd mem List.not_mem_nil
    | disconnected => exact inv.quiet rfl rfl (fun _ => rfl) rfl fun _ mem => absurd mem List.not_mem_nil

/-- **A session discloses and writes one player, which a packet of this session logged
in before**, and never uses a player that is not set. -/
theorem session_authorised (serverChallenge loginTicket : Bytes) (table : PlayerTable)
    (events : List Connection.Event) :
    let outputs := Run.outputs Connection.step (.start serverChallenge loginTicket table) events
    .undefined ∉ outputs ∧
      ((∀ action ∈ outputs, action.player? = none) ∨
        ∃ before player,
          LoggedIn serverChallenge loginTicket table events before player) := by
  have inv := @sessionInv serverChallenge loginTicket table events
  refine ⟨inv.defined, ?_⟩
  by_cases authenticated : (Run.final Connection.step (.start serverChallenge loginTicket table)
      events).client.state = .authenticated
  · obtain ⟨before, player, -, loggedIn, -, -⟩ := inv.behind authenticated
    exact .inr ⟨before, player, loggedIn⟩
  · exact .inl (inv.before authenticated)

end Runs

end GamespyEmulator
