import GamespyEmulator.Lib.Record
import GamespyEmulator.Player.Login
import GamespyEmulator.Sessions.Pool

/-!
On whose authority the sessions act. A login session discloses and writes the player of an
earlier login packet of its own, and a stats session forwards snapshots and confirms
players behind a handshake of its own. Neither depends on what other sessions do in
between, nor on what the databases answer: the contract `Authority.contract` is checked
for each handler alone, and `Recorded.run_meets` carries it through every interleaving.
-/

namespace GamespyEmulator

open Wire Coroutine Utils

/-! ### What a record shows -/

/-- What happened to a session of the emulator since its peer connected. -/
abbrev SessionRecord (sqlite : Sqlite) (snapshotEndpoint : Option Endpoint) :=
  Record (Sessions.service sqlite snapshotEndpoint)

namespace SessionRecord

variable {sqlite : Sqlite} {snapshotEndpoint : Option Endpoint}

/-- The packet a session handles, or handled last. -/
def lastPacket (record : SessionRecord sqlite snapshotEndpoint) : Option Bytes :=
  record.foldl (fun last happening => match happening with
    | .accepted _ _ => none
    | .input _ (.packet bytes) => some bytes
    | .input _ (.signal _) => none
    | .completed _ _ _ => last) none

/-- The peer a session began with. -/
def BeganWith (record : SessionRecord sqlite snapshotEndpoint) (peer : Peer) : Prop :=
  ∃ world, record.head? = some (.accepted world peer)

/-- A login packet whose response is right for the password of the row the database then
answered with, and for the session's challenge. -/
def LoggedIn (record : SessionRecord sqlite snapshotEndpoint) (serverChallenge : Bytes)
    (player : PlayerData) : Prop :=
  ∃ (front back : SessionRecord sqlite snapshotEndpoint) (world : Emulator)
    (packet clientChallenge : Bytes) (row : PlayerRow) (others : List PlayerRow),
    record = front ++
        .completed world (.execute (.getPlayerByName player.name)) (row :: others) :: back ∧
      front.lastPacket = some packet ∧ (ascii "\\login\\").isPrefixOf packet ∧
      LoginClient.loginName packet = some player.name ∧
      valueForKey packet (ascii "\\challenge\\") = some clientChallenge ∧
      valueForKey packet (ascii "\\response\\") =
        some (generateChallenge player.name row.password clientChallenge serverChallenge) ∧
      row.id = player.id ∧ row.email = some player.email ∧ row.password = player.password

/-- A packet whose response is right for the secret key of a game and for the session's
challenge, and the session key the clock then gives. -/
def ShookHands (record : SessionRecord sqlite snapshotEndpoint) (serverChallenge : Bytes)
    (key : Int32) : Prop :=
  ∃ (front back : SessionRecord sqlite snapshotEndpoint) (world : Emulator)
    (packet gamename : Bytes) (game : Game),
    record = front ++ .input world (.packet packet) :: back ∧
      (ascii "\\auth\\").isPrefixOf packet ∧
      valueForKey packet (ascii "\\gamename\\") = some gamename ∧
      world.games[gamename]? = some game ∧
      valueForKey packet (ascii "\\response\\") =
        some (Md5.md5 (signedText (gCrc32 serverChallenge) ++ game.data.secretKey)) ∧
      key = sessionKey world.time

/-- The packet that is handled names a player id and answers for the password of the row
the database returned for it. -/
def Confirms (record : SessionRecord sqlite snapshotEndpoint) (key : Int32)
    (reply : Bytes) : Prop :=
  ∃ (front back : SessionRecord sqlite snapshotEndpoint) (world : Emulator)
    (packet localID : Bytes) (pid : UInt32) (row : PlayerRow) (others : List PlayerRow),
    record = front ++
        .completed world (.execute (.getPlayerByPID pid.toUInt64)) (row :: others) :: back ∧
      front.lastPacket = some packet ∧ numberForKey packet (ascii "\\pid\\") = some pid ∧
      valueForKey packet (ascii "\\lid\\") = some localID ∧
      valueForKey packet (ascii "\\resp\\") =
        some (Md5.md5 (row.password ++ createChallenge (key ^^^ challengeXor))) ∧
      reply = ascii "\\pauthr\\" ++ text pid.toNat ++ ascii "\\lid\\" ++ localID

variable {record : SessionRecord sqlite snapshotEndpoint} {serverChallenge : Bytes}
  {player : PlayerData} {key : Int32}

theorem lastPacket_completed (world : Emulator) (operation : SessionOperation)
    (result : operation.Result) :
    lastPacket (record ++ [.completed world operation result]) = record.lastPacket := by
  rw [lastPacket, List.foldl_append]
  rfl

theorem lastPacket_input (world : Emulator) (bytes : Bytes) :
    lastPacket (record ++ [.input world (.packet bytes)]) = some bytes := by
  rw [lastPacket, List.foldl_append]
  rfl

theorem BeganWith.append {peer : Peer} (began : record.BeganWith peer)
    (later : SessionRecord sqlite snapshotEndpoint) : BeganWith (record ++ later) peer := by
  obtain ⟨world, first⟩ := began
  refine ⟨world, ?_⟩
  rw [List.head?_append, first]
  rfl

theorem BeganWith.unique {peer peer' : Peer} (began : record.BeganWith peer)
    (began' : record.BeganWith peer') : peer = peer' := by
  obtain ⟨world, first⟩ := began
  obtain ⟨world', first'⟩ := began'
  rw [first] at first'
  cases first'
  rfl

theorem LoggedIn.append (loggedIn : record.LoggedIn serverChallenge player)
    (later : SessionRecord sqlite snapshotEndpoint) :
    LoggedIn (record ++ later) serverChallenge player := by
  obtain ⟨front, back, world, packet, clientChallenge, row, others, rfl, facts⟩ := loggedIn
  exact ⟨front, back ++ later, world, packet, clientChallenge, row, others, by simp, facts⟩

theorem ShookHands.append (shook : record.ShookHands serverChallenge key)
    (later : SessionRecord sqlite snapshotEndpoint) :
    ShookHands (record ++ later) serverChallenge key := by
  obtain ⟨front, back, world, packet, gamename, game, rfl, facts⟩ := shook
  exact ⟨front, back ++ later, world, packet, gamename, game, by simp, facts⟩

end SessionRecord

/-! ### The contract -/

namespace Authority

variable {sqlite : Sqlite} {snapshotEndpoint : Option Endpoint}

/-- The player of a login session, if it has one, logged in to it. -/
structure LoginIdle (record : SessionRecord sqlite snapshotEndpoint) (client : LoginClient) :
    Prop where
  began : record.BeganWith (.login client.serverChallenge client.loginTicket)
  loggedIn : client.state = .authenticated → ∃ player known, client.playerData = some player ∧
    record.LoggedIn client.serverChallenge known ∧ SamePlayer player known

/-- A text that accepts a login or discloses a profile is about a player who logged in to
the session. -/
structure Discloses (record : SessionRecord sqlite snapshotEndpoint) (bytes : Bytes) : Prop where
  login : ∀ serverChallenge loginTicket, record.BeganWith (.login serverChallenge loginTicket) →
    (ascii "\\lc\\2\\").isPrefixOf bytes → ∃ player known proof,
      bytes = loginReply player loginTicket proof ∧
        record.LoggedIn serverChallenge known ∧ SamePlayer player known
  profile : ∀ serverChallenge loginTicket, record.BeganWith (.login serverChallenge loginTicket) →
    (ascii "\\pi\\").isPrefixOf bytes → ∃ player known requestId,
      bytes = playerReply player loginTicket requestId ∧
        record.LoggedIn serverChallenge known ∧ SamePlayer player known

/-- A text that confirms a player does so behind the session's handshake. -/
def ConfirmsPlayer (record : SessionRecord sqlite snapshotEndpoint) (bytes : Bytes) : Prop :=
  ∀ serverChallenge, record.BeganWith (.stats serverChallenge) →
    (ascii "\\pauthr\\").isPrefixOf bytes → ¬ (ascii "\\pauthr\\-1").isPrefixOf bytes →
    ∃ key, record.ShookHands serverChallenge key ∧ record.Confirms key bytes

/-- The operations that need an authority. -/
def allowed (record : SessionRecord sqlite snapshotEndpoint) : SessionOperation → Prop
  | .execute (.updatePlayer player) => ∃ serverChallenge loginTicket known,
      record.BeganWith (.login serverChallenge loginTicket) ∧
        record.LoggedIn serverChallenge known ∧ SamePlayer player known
  | .send (.text bytes) => Discloses record bytes ∧ ConfirmsPlayer record bytes
  | .connect endpoint => snapshotEndpoint = some endpoint ∧ ∃ serverChallenge key,
      record.BeganWith (.stats serverChallenge) ∧ record.ShookHands serverChallenge key
  | .write body => (∃ serverChallenge key,
      record.BeganWith (.stats serverChallenge) ∧ record.ShookHands serverChallenge key) ∧
      ∃ packet final, record.lastPacket = some packet ∧
        snapshotArguments packet = some (body, final)
  | _ => True

/-- What a session is between two inputs. -/
def idle (record : SessionRecord sqlite snapshotEndpoint) : SessionState → Prop
  | .login client => LoginIdle record client
  | .search => record.BeganWith .search
  | .authenticating serverChallenge => record.BeganWith (.stats serverChallenge)
  | .stats key => ∃ serverChallenge,
      record.BeganWith (.stats serverChallenge) ∧ record.ShookHands serverChallenge key
  | .browser cryptKey serverChallenge => record.BeganWith (.browser cryptKey serverChallenge)
  | .browsing => ∃ cryptKey serverChallenge, record.BeganWith (.browser cryptKey serverChallenge)

def contract : Contract (Sessions.service sqlite snapshotEndpoint) := ⟨allowed, idle⟩

/-! ### Texts -/

variable {record : SessionRecord sqlite snapshotEndpoint} {world : Emulator} {bytes : Bytes}

/-- The words of the texts that need an authority. -/
def authorised : List Bytes := [ascii "\\lc\\2\\", ascii "\\pi\\", ascii "\\pauthr\\"]

/-- Neither word begins the other. -/
def Apart (word word' : Bytes) : Prop := ¬ word <+: word' ∧ ¬ word' <+: word

instance (word word' : Bytes) : Decidable (Apart word word') := inferInstanceAs (Decidable (_ ∧ _))

/-- A text that begins with a word of its own needs no authority. -/
theorem allowed_of_begins {word : Bytes} (begins : word.isPrefixOf bytes)
    (apart : ∀ word' ∈ authorised, Apart word word') : allowed record (.send (.text bytes)) := by
  have other {word' : Bytes} (mem : word' ∈ authorised) : ¬ word'.isPrefixOf bytes := by
    apply not_isPrefixOf begins
    exact apart word' mem
  refine ⟨⟨fun _ _ _ shown => ?_, fun _ _ _ shown => ?_⟩, fun _ _ confirmed _ => ?_⟩
  · exact absurd shown (other (by simp [authorised]))
  · exact absurd shown (other (by simp [authorised]))
  · exact absurd confirmed (other (by simp [authorised]))

/-- A session that is no login session discloses nothing. -/
theorem discloses_of_peer {peer : Peer} (began : record.BeganWith peer)
    (login : ∀ serverChallenge loginTicket, peer ≠ .login serverChallenge loginTicket) :
    Discloses record bytes :=
  ⟨fun serverChallenge loginTicket other _ =>
      absurd (began.unique other) (login serverChallenge loginTicket),
    fun serverChallenge loginTicket other _ =>
      absurd (began.unique other) (login serverChallenge loginTicket)⟩

theorem confirms_of_peer {peer : Peer} (began : record.BeganWith peer)
    (stats : ∀ serverChallenge, peer ≠ .stats serverChallenge) : ConfirmsPlayer record bytes :=
  fun serverChallenge other _ _ => absurd (began.unique other) (stats serverChallenge)

/-- A session that began with another kind of peer may send any text. -/
theorem allowed_of_peer {peer : Peer} (began : record.BeganWith peer)
    (login : ∀ serverChallenge loginTicket, peer ≠ .login serverChallenge loginTicket)
    (stats : ∀ serverChallenge, peer ≠ .stats serverChallenge) :
    allowed record (.send (.text bytes)) :=
  ⟨discloses_of_peer began login, confirms_of_peer began stats⟩

theorem isPrefixOf_append (front back : Bytes) : front.isPrefixOf (front ++ back) := by
  rw [List.isPrefixOf_iff_prefix]
  exact List.prefix_append front back

theorem errorReply_begins (requestId : UInt32) (errorCode : Nat) (errorMessage : Bytes)
    (fatal : Bool) :
    (ascii "\\error\\").isPrefixOf (errorReply requestId errorCode errorMessage fatal) := by
  have word : ascii "\\error\\\\err\\" = ascii "\\error\\" ++ ascii "\\err\\" := by decide
  simp only [errorReply, word, List.append_assoc]
  exact isPrefixOf_append _ _

theorem newUserReply_begins (player : PlayerData) :
    (ascii "\\nur\\\\userid\\").isPrefixOf (newUserReply player) := by
  simp only [newUserReply, List.append_assoc]
  exact isPrefixOf_append _ _

theorem loginReply_apart (player : PlayerData) (loginTicket proof : Bytes) :
    ¬ (ascii "\\pi\\").isPrefixOf (loginReply player loginTicket proof) := by
  simp only [loginReply, List.append_assoc]
  exact not_isPrefixOf (isPrefixOf_append _ _) (by decide)

theorem playerReply_apart (player : PlayerData) (loginTicket : Bytes) (requestId : UInt32) :
    ¬ (ascii "\\lc\\2\\").isPrefixOf (playerReply player loginTicket requestId) := by
  simp only [playerReply, List.append_assoc]
  exact not_isPrefixOf (isPrefixOf_append _ _) (by decide)

/-! ### Database calls -/

/-- What a handler has added to a record, without a new packet. -/
def Later (record record' : SessionRecord sqlite snapshotEndpoint) : Prop :=
  (∃ later, record' = record ++ later) ∧ record'.lastPacket = record.lastPacket

theorem Later.completed {record' : SessionRecord sqlite snapshotEndpoint}
    (later : Later record record') (world : Emulator) (operation : SessionOperation)
    (result : operation.Result) : Later record (record' ++ [.completed world operation result]) := by
  obtain ⟨⟨added, rfl⟩, same⟩ := later
  refine ⟨⟨added ++ [.completed world operation result], List.append_assoc ..⟩, ?_⟩
  rw [SessionRecord.lastPacket_completed, same]

theorem Later.refl (record : SessionRecord sqlite snapshotEndpoint) : Later record record :=
  ⟨⟨[], (List.append_nil _).symm⟩, rfl⟩

/-- A statement that needs no authority. -/
theorem query_guarded {operation : Operation}
    (may : ∀ record : SessionRecord sqlite snapshotEndpoint, allowed record (.execute operation)) :
    (PlayerDBMySQL.Suspending.query operation).Guarded allowed
      (fun _ record' rows => ∃ front world, Later record front ∧
        record' = front ++ [.completed world (.execute operation) rows]) world record :=
  ⟨trivial, fun _ _ => ⟨may _, fun world _ => ⟨_, world, (Later.refl record).completed _ _ _, rfl⟩⟩⟩

theorem hasPlayer_guarded (name : Bytes) :
    (PlayerDBMySQL.Suspending.hasPlayer name).Guarded allowed
      (fun _ record' _ => Later record record') world record := by
  refine Guarded.bind (query_guarded fun _ => trivial) ?_
  rintro _ _ count ⟨front, world, later, rfl⟩
  exact later.completed _ _ _

theorem createPlayer_guarded (player : PlayerData) :
    (PlayerDBMySQL.Suspending.createPlayer player).Guarded allowed
      (fun _ record' _ => Later record record') world record := by
  refine Guarded.bind (query_guarded fun _ => trivial) ?_
  rintro _ _ id ⟨front, world, later, rfl⟩
  exact later.completed _ _ _

/-- A player that was read is the first row of its answer. -/
theorem getPlayerByName_guarded (name : Bytes) :
    (PlayerDBMySQL.Suspending.getPlayerByName name).Guarded allowed
      (fun _ record' player? => ∀ player, player? = some player →
        ∃ front world row others, Later record front ∧ player.name = name ∧
          record' = front ++ [.completed world (.execute (.getPlayerByName name)) (row :: others)] ∧
          row.id = player.id ∧ row.email = some player.email ∧ row.password = player.password)
      world record := by
  refine Guarded.bind (query_guarded fun _ => trivial) ?_
  rintro _ _ rows ⟨front, world, later, rfl⟩
  cases rows with
  | nil => trivial
  | cons row others =>
      cases mail : row.email with
      | none =>
          simp only [PlayerDBMySQL.front, PlayerDBMySQL.asString, mail]
          trivial
      | some email =>
          simp only [PlayerDBMySQL.front, PlayerDBMySQL.asString, mail]
          rintro player ⟨⟩
          exact ⟨front, world, row, others, later, rfl, rfl, rfl, mail, rfl⟩

theorem getPlayerByPID_guarded (pid : UInt64) :
    (PlayerDBMySQL.Suspending.getPlayerByPID pid).Guarded allowed
      (fun _ record' player? => Later record record' ∧ ∀ player, player? = some player →
        ∃ front world row others, Later record front ∧ player.id = pid ∧
          record' = front ++ [.completed world (.execute (.getPlayerByPID pid)) (row :: others)] ∧
          row.password = player.password)
      world record := by
  refine Guarded.bind (query_guarded fun _ => trivial) ?_
  rintro _ _ rows ⟨front, world, later, rfl⟩
  cases rows with
  | nil => trivial
  | cons row others =>
      cases mail : row.email with
      | none =>
          simp only [PlayerDBMySQL.front, PlayerDBMySQL.asString, mail]
          trivial
      | some email =>
          simp only [PlayerDBMySQL.front, PlayerDBMySQL.asString, mail]
          refine ⟨later.completed _ _ _, ?_⟩
          rintro player ⟨⟩
          exact ⟨front, world, row, others, later, rfl, rfl, rfl⟩

/-! ### Login -/

section Login

variable {client : LoginClient} {packet : Bytes}

/-- What a login handler leaves. -/
def leavesLogin (_ : Emulator) (record : SessionRecord sqlite snapshotEndpoint)
    (client : LoginClient) : Prop :=
  LoginIdle record client

theorem LoginIdle.append (idle : LoginIdle record client)
    (later : SessionRecord sqlite snapshotEndpoint) : LoginIdle (record ++ later) client := by
  refine ⟨idle.began.append later, fun authenticated => ?_⟩
  obtain ⟨player, known, held, loggedIn, same⟩ := idle.loggedIn authenticated
  exact ⟨player, known, held, loggedIn.append later, same⟩

theorem LoginIdle.later {record' : SessionRecord sqlite snapshotEndpoint}
    (idle : LoginIdle record client) (later : Later record record') : LoginIdle record' client := by
  obtain ⟨⟨added, rfl⟩, -⟩ := later
  exact idle.append added

theorem reply_guarded (idle : LoginIdle record client)
    (may : allowed record (.send (.text bytes))) :
    (LoginClient.Suspending.reply client bytes).Guarded allowed leavesLogin world record :=
  ⟨may, fun _ _ => idle.append _⟩

theorem refuse_guarded (idle : LoginIdle record client) (requestId : UInt32) (errorCode : Nat)
    (errorMessage : Bytes) :
    (LoginClient.Suspending.refuse client requestId errorCode errorMessage).Guarded allowed
      leavesLogin world record :=
  reply_guarded idle (allowed_of_begins (errorReply_begins _ _ _ _) (by decide))

/-- Behind a right response the session has the player of the packet. -/
theorem handleLogin_guarded (idle : LoginIdle record client)
    (handled : record.lastPacket = some packet) (login : (ascii "\\login\\").isPrefixOf packet) :
    (LoginClient.Suspending.handleLogin client packet).Guarded allowed leavesLogin world record := by
  unfold LoginClient.Suspending.handleLogin
  split
  · exact idle
  split
  rotate_left
  · exact refuse_guarded idle _ _ _
  rename_i playerName clientChallenge response named challenge answered
  split
  · exact refuse_guarded idle _ _ _
  refine Guarded.bind (hasPlayer_guarded playerName) ?_
  rintro world record' found later
  have idle' := idle.later later
  split
  · exact refuse_guarded idle' _ _ _
  refine Guarded.bind (getPlayerByName_guarded playerName) ?_
  intro world record'' player? read
  split
  · trivial
  rename_i player
  obtain ⟨front, answered', row, others, later', sameName, rfl, id, email, password⟩ :=
    read player rfl
  have idle'' : LoginIdle (front ++ [.completed answered' (.execute (.getPlayerByName playerName))
      (row :: others)]) client := (idle'.later later').append _
  split
  · exact refuse_guarded idle'' _ _ _
  rename_i right
  have loggedIn : SessionRecord.LoggedIn (front ++ [.completed answered'
      (.execute (.getPlayerByName playerName)) (row :: others)]) client.serverChallenge player := by
    refine ⟨front, [], answered', packet, clientChallenge, row, others, by rw [sameName], ?_, login,
      by rw [named, sameName], challenge, ?_, id, email, password⟩
    · rw [later'.2, later.2, handled]
    · rw [answered, not_ne_iff.mp right, sameName, password]
  refine ⟨⟨⟨fun serverChallenge loginTicket began _ => ?_, fun _ _ _ shown => ?_⟩, ?_⟩,
    fun _ _ => ?_⟩
  · cases idle''.began.unique began
    exact ⟨_, player, _, rfl, loggedIn, rfl, rfl, rfl, rfl⟩
  · exact absurd shown (loginReply_apart _ _ _)
  · exact confirms_of_peer idle''.began nofun
  · exact ⟨idle''.began.append _, fun _ => ⟨_, player, rfl, loggedIn.append _, rfl, rfl, rfl, rfl⟩⟩

theorem handleNewUser_guarded (idle : LoginIdle record client) :
    (LoginClient.Suspending.handleNewUser client packet).Guarded allowed leavesLogin world record := by
  unfold LoginClient.Suspending.handleNewUser
  split
  · exact refuse_guarded idle _ _ _
  rename_i authenticating
  split
  rotate_left
  · exact refuse_guarded idle _ _ _
  refine Guarded.bind (hasPlayer_guarded _) ?_
  rintro world record' found later
  have idle' := idle.later later
  split
  · exact refuse_guarded idle' _ _ _
  split
  · trivial
  split
  · exact refuse_guarded idle' _ _ _
  split
  · exact refuse_guarded idle' _ _ _
  refine Guarded.bind (createPlayer_guarded _) ?_
  intro world record'' player later'
  refine ⟨allowed_of_begins (newUserReply_begins _) (by decide), fun _ _ => ?_⟩
  refine ⟨(idle'.later later').began.append _, fun authenticated => ?_⟩
  exact absurd (authenticated.symm.trans (not_ne_iff.mp authenticating)) (by decide)

/-- A profile that is shown is that of the session's player. -/
theorem handleGetProfile_guarded (idle : LoginIdle record client) :
    (LoginClient.Suspending.handleGetProfile client packet).Guarded allowed leavesLogin world
      record := by
  unfold LoginClient.Suspending.handleGetProfile
  split
  · exact refuse_guarded idle _ _ _
  rename_i requestId _
  split
  · exact refuse_guarded idle _ _ _
  rename_i authenticated
  obtain ⟨player, known, held, loggedIn, same⟩ := idle.loggedIn (not_ne_iff.mp authenticated)
  rw [held]
  refine reply_guarded idle ⟨⟨fun _ _ _ accepted => ?_, fun _ _ began _ => ?_⟩, ?_⟩
  · exact absurd accepted (playerReply_apart _ _ _)
  · cases idle.began.unique began
    exact ⟨player, known, requestId, rfl, loggedIn, same⟩
  · exact confirms_of_peer idle.began nofun

/-- What is written back is the session's player. -/
theorem handleUpdateProfile_guarded (idle : LoginIdle record client) :
    (LoginClient.Suspending.handleUpdateProfile client packet).Guarded allowed leavesLogin world
      record := by
  unfold LoginClient.Suspending.handleUpdateProfile
  split
  · exact refuse_guarded idle _ _ _
  rename_i authenticated
  split
  · exact idle
  rename_i countryCode given
  obtain ⟨player, known, held, loggedIn, same⟩ := idle.loggedIn (not_ne_iff.mp authenticated)
  rw [held]
  have written : SamePlayer { player with country := countryCode.map toUpper } known :=
    ⟨same.id, same.name, same.email, same.password⟩
  refine ⟨trivial, fun world _ => ⟨?_, fun world' _ => ?_⟩⟩
  · exact ⟨client.serverChallenge, client.loginTicket, known, idle.began.append _,
      loggedIn.append _, written⟩
  · refine ⟨(idle.began.append _).append _, fun _ => ?_⟩
    exact ⟨_, known, rfl, (loggedIn.append _).append _, written⟩

/-- The dispatch of a login session. -/
theorem login_guarded (idle : LoginIdle record client) (handled : record.lastPacket = some packet) :
    (LoginClient.Suspending.handle client packet).Guarded allowed
      (fun _ record client? => ∀ client, client? = some client → LoginIdle record client) world
      record := by
  have some' {t : Awaitable LoginClient} (guarded : t.Guarded allowed leavesLogin world record) :
      (some <$> t).Guarded allowed
        (fun _ record client? => ∀ client, client? = some client → LoginIdle record client) world
        record := by
    refine Guarded.bind guarded ?_
    rintro _ record' client' idle' _ ⟨⟩
    exact idle'
  unfold LoginClient.Suspending.handle
  split
  · rename_i login
    exact some' (handleLogin_guarded idle handled login)
  split
  · exact some' (handleNewUser_guarded idle)
  split
  · exact some' (handleGetProfile_guarded idle)
  split
  · exact some' (handleUpdateProfile_guarded idle)
  split
  · exact fun _ none => nomatch none
  · exact some' (reply_guarded idle
      (allowed_of_begins (errorReply_begins _ _ _ _) (by decide)))

end Login

/-! ### Stats -/

section Stats

variable {serverChallenge packet : Bytes} {key : Int32}

/-- What a stats handler leaves. -/
def leavesStats (key : Int32) (_ : Emulator) (record : SessionRecord sqlite snapshotEndpoint)
    (_ : Unit) : Prop :=
  idle record (.stats key)

theorem stats_append (stats : idle record (.stats key))
    (later : SessionRecord sqlite snapshotEndpoint) : idle (record ++ later) (.stats key) := by
  obtain ⟨serverChallenge, began, shook⟩ := stats
  exact ⟨serverChallenge, began.append later, shook.append later⟩

theorem sendPacket_guarded (stats : idle record (.stats key))
    (may : allowed record (.send (.text bytes))) :
    (StatsClient.sendPacket bytes).Guarded allowed (leavesStats key) world record :=
  ⟨may, fun _ _ => stats_append stats _⟩

/-- Snapshots are forwarded behind the handshake, as the packet has them. -/
theorem handeSnapshot_guarded (stats : idle record (.stats key)) {data : Bytes} {final : Bool}
    (handled : record.lastPacket = some packet)
    (given : snapshotArguments packet = some (data, final)) :
    (StatsClient.handeSnapshot snapshotEndpoint data final).Guarded allowed (leavesStats key)
      world record := by
  unfold StatsClient.handeSnapshot
  split
  · exact stats
  rename_i endpoint
  obtain ⟨serverChallenge, began, shook⟩ := stats
  refine ⟨⟨rfl, serverChallenge, key, began, shook⟩, fun _ _ => ⟨⟨?_, ?_⟩, fun _ _ => ⟨trivial, ?_⟩⟩⟩
  · exact ⟨serverChallenge, key, began.append _, shook.append _⟩
  · refine ⟨packet, final, ?_, given⟩
    rw [SessionRecord.lastPacket_completed, handled]
  · exact fun _ _ => stats_append ⟨serverChallenge, (began.append _).append _,
      (shook.append _).append _⟩ _

theorem stats_later {record' : SessionRecord sqlite snapshotEndpoint}
    (stats : idle record (.stats key)) (later : Later record record') :
    idle record' (.stats key) := by
  obtain ⟨⟨added, rfl⟩, -⟩ := later
  exact stats_append stats added

/-- A refusal names no player. -/
theorem refused_allowed (stats : idle record (.stats key)) (localID : Bytes) :
    allowed record (.send (.text (ascii "\\pauthr\\-1\\lid\\" ++ localID))) := by
  obtain ⟨serverChallenge, began, -⟩ := stats
  refine ⟨discloses_of_peer began nofun, fun _ _ _ confirmed => ?_⟩
  have word : ascii "\\pauthr\\-1\\lid\\" = ascii "\\pauthr\\-1" ++ ascii "\\lid\\" := by decide
  rw [word, List.append_assoc] at confirmed
  exact absurd (isPrefixOf_append _ _) confirmed

/-- A player is confirmed only behind a right response. -/
theorem authReply_guarded (stats : idle record (.stats key)) {pid : UInt32} {localID : Bytes}
    (handled : record.lastPacket = some packet)
    (named : numberForKey packet (ascii "\\pid\\") = some pid)
    (given : valueForKey packet (ascii "\\lid\\") = some localID) :
    (StatsClient.authReply key pid localID (valueForKey packet (ascii "\\resp\\"))).Guarded allowed
      (leavesStats key) world record := by
  refine Guarded.bind (getPlayerByPID_guarded _) ?_
  rintro world record' player? ⟨later, read⟩
  have stats' := stats_later stats later
  dsimp only
  split
  rotate_left
  · exact sendPacket_guarded stats' (refused_allowed stats' _)
  rename_i player resp responded
  obtain ⟨front, answered, row, others, later', id, rfl, password⟩ := read player rfl
  split
  rotate_left
  · exact sendPacket_guarded stats' (refused_allowed stats' _)
  rename_i right
  have stats'' := stats'
  obtain ⟨serverChallenge, began, shook⟩ := stats''
  refine sendPacket_guarded stats' ⟨discloses_of_peer began nofun, fun _ other _ _ => ?_⟩
  · cases began.unique other
    refine ⟨key, shook, front, [], answered, packet, localID, pid, row, others, rfl, ?_, named,
      given, ?_, ?_⟩
    · rw [later'.2, handled]
    · rw [responded, right, password]
    · rw [id, UInt32.toNat_toUInt64]

theorem authp_guarded (stats : idle record (.stats key))
    (handled : record.lastPacket = some packet) :
    (StatsClient.authp key packet).Guarded allowed (leavesStats key) world record := by
  have missing : allowed record (.send (.text
      (ascii "\\error\\\\err\\0\\fatal\\\\errmsg\\missing lid parameter\\id\\1"))) :=
    allowed_of_begins (List.isPrefixOf_iff_prefix.mpr (List.prefix_refl _)) (by decide)
  unfold StatsClient.authp
  split
  · exact sendPacket_guarded stats missing
  rename_i localID given
  split
  · exact sendPacket_guarded stats missing
  split
  · exact stats
  split
  · exact stats
  rename_i pid named
  exact authReply_guarded stats handled named given

/-- One packet of a stats session. -/
theorem process_guarded (stats : idle record (.stats key))
    (handled : record.lastPacket = some packet) :
    (StatsClient.process snapshotEndpoint key packet).Guarded allowed (leavesStats key) world
      record := by
  unfold StatsClient.process
  split
  · exact stats
  split
  · exact stats
  split
  · exact authp_guarded stats handled
  split
  · exact stats
  split
  rotate_left
  · exact stats
  split
  · exact stats
  rename_i gamedata final given
  exact handeSnapshot_guarded stats handled given

/-- The handshake: a session key is left only behind a right response. -/
theorem authenticate_guarded (began : record.BeganWith (.stats serverChallenge))
    (front : SessionRecord sqlite snapshotEndpoint)
    (received : record = front ++ [.input world (.packet packet)]) :
    (StatsClient.authenticate serverChallenge packet).Guarded allowed
      (fun _ record key? => ∀ key, key? = some key → idle record (.stats key)) world record := by
  have ended {record' : SessionRecord sqlite snapshotEndpoint} :
      ∀ key, (none : Option Int32) = some key → idle record' (.stats key) :=
    fun _ none => nomatch none
  unfold StatsClient.authenticate
  split
  · exact ended
  rename_i auth
  split
  · exact ended
  rename_i gamename named
  split
  · exact ended
  rw [Guarded]
  split
  · exact ⟨allowed_of_begins (List.isPrefixOf_iff_prefix.mpr (List.prefix_refl _))
      (by decide), fun _ _ => ended⟩
  rename_i game found
  split
  · exact ⟨allowed_of_begins (List.isPrefixOf_iff_prefix.mpr (List.prefix_refl _))
      (by decide), fun _ _ => ended⟩
  rename_i right
  have shook : record.ShookHands serverChallenge (sessionKey world.time) := by
    refine ⟨front, [], world, packet, gamename, game, received, ?_, named, found,
      not_ne_iff.mp right, rfl⟩
    simpa using auth
  refine ⟨⟨discloses_of_peer began nofun, ?_⟩, ?_⟩
  · intro _ _ confirmed
    simp only [List.append_assoc] at confirmed
    exact absurd confirmed (not_isPrefixOf (isPrefixOf_append _ _) (by decide))
  · rintro _ _ key ⟨⟩
    exact ⟨serverChallenge, began.append _, shook.append _⟩

end Stats

/-! ### Search and browser -/

/-- The operations that need no authority but that of their texts. -/
def Harmless : SessionOperation → Prop
  | .execute (.updatePlayer _) => False
  | .connect _ => False
  | .write _ => False
  | _ => True

/-- A peer whose session has no profile to show and no player to confirm. -/
structure Plain (peer : Peer) : Prop where
  login : ∀ serverChallenge loginTicket, peer ≠ .login serverChallenge loginTicket
  stats : ∀ serverChallenge, peer ≠ .stats serverChallenge

theorem harmless_guarded {A : Type} {t : Awaitable A} {peer : Peer} (plain : Plain peer)
    (performs : t.Performs Harmless) (began : record.BeganWith peer) :
    t.Guarded allowed
      (fun _ (record : SessionRecord sqlite snapshotEndpoint) _ => record.BeganWith peer) world
      record := by
  refine performs.guarded ?_ (fun _ happening began => began.append [happening]) began
  intro record operation began harmless
  cases operation with
  | prepare _ _ => trivial
  | execute operation =>
      cases operation with
      | updatePlayer _ => exact harmless.elim
      | hasPlayer _ => trivial
      | getPlayerByName _ => trivial
      | getPlayerByPID _ => trivial
      | getPlayerByMailAndPassword _ _ => trivial
      | createPlayer _ => trivial
  | executeStats => trivial
  | send message =>
      cases message with
      | text bytes => exact allowed_of_peer began plain.login plain.stats
      | header request => trivial
  | connect _ => exact harmless.elim
  | write _ => exact harmless.elim
  | read => trivial

theorem searchSend_performs (reply : SearchReply) :
    (SearchClient.Suspending.send reply).Performs Harmless := by
  cases reply with
  | threw => trivial
  | error _ _ _ => exact ⟨trivial, fun _ => trivial⟩
  | nicks _ => exact ⟨trivial, fun _ => trivial⟩
  | profile _ => exact ⟨trivial, fun _ => trivial⟩

theorem ending_performs {A : Type} (read : Ending A) : read.await.Performs Harmless := by
  cases read <;> trivial

theorem search_performs (packet : Bytes) :
    (SearchClient.Suspending.handle packet).Performs Harmless := by
  unfold SearchClient.Suspending.handle
  split
  · unfold SearchClient.Suspending.handleSearchNicks
    split
    · trivial
    split
    · exact searchSend_performs _
    split
    · exact searchSend_performs _
    refine Performs.bind ⟨trivial, fun _ => ⟨trivial, fun _ => trivial⟩⟩ fun players => ?_
    split
    · exact searchSend_performs _
    · exact searchSend_performs _
  split
  · unfold SearchClient.Suspending.handleProfileExists
    split
    · exact searchSend_performs _
    refine Performs.bind ⟨trivial, fun _ => ⟨trivial, fun _ => trivial⟩⟩ fun found => ?_
    split
    · refine Performs.bind ⟨trivial, fun _ => ⟨trivial, fun _ => ending_performs _⟩⟩ fun player? => ?_
      split
      · trivial
      · exact searchSend_performs _
    · exact searchSend_performs _
  · exact searchSend_performs _

section Browser

variable (request : ServerListRequest)

theorem currentGame_performs (name : Bytes) :
    (BrowserClient.currentGame name).Performs Harmless := by
  intro emulator
  dsimp only
  split <;> trivial

theorem sendServers_performs (servers : List SavedServer) :
    (BrowserClient.sendServers request servers).Performs Harmless := by
  induction servers with
  | nil => exact ⟨trivial, fun _ => trivial⟩
  | cons server rest ih =>
      refine Performs.bind (currentGame_performs _) fun game => ?_
      split
      · trivial
      · exact ⟨trivial, fun _ => ih⟩

theorem getServers_performs :
    (BrowserClient.getServers sqlite request).Performs Harmless := by
  intro emulator
  dsimp only
  split
  · trivial
  split
  · unfold BF2.Suspending.getServers
    dsimp only
    split
    · exact ⟨trivial, fun _ => ⟨trivial, fun _ => trivial⟩⟩
    · trivial
  · trivial

theorem sendList_performs :
    (BrowserClient.sendList sqlite request).Performs Harmless := by
  refine Performs.bind (currentGame_performs _) fun game => ?_
  split
  · exact Performs.bind (getServers_performs request) fun servers => sendServers_performs request servers
  · trivial

end Browser

theorem handleServerListRequest_performs (cryptKey serverChallenge packet : Bytes) :
    (BrowserClient.handleServerListRequest sqlite cryptKey serverChallenge packet).Performs
      Harmless := by
  unfold BrowserClient.handleServerListRequest
  split
  · trivial
  rename_i request parsed
  intro emulator
  dsimp only
  split
  · trivial
  refine Performs.bind ⟨trivial, fun _ => trivial⟩ fun _ => ?_
  refine Performs.bind ⟨trivial, fun _ => trivial⟩ fun _ => ?_
  exact Performs.bind (sendList_performs request) fun _ => trivial

theorem plain_search : Plain .search := ⟨nofun, nofun⟩

theorem plain_browser (cryptKey serverChallenge : Bytes) :
    Plain (.browser cryptKey serverChallenge) := ⟨nofun, nofun⟩

theorem handleFirst_guarded {cryptKey serverChallenge : Bytes}
    (began : record.BeganWith (.browser cryptKey serverChallenge)) (packet : Bytes) :
    (Sessions.handleFirst sqlite cryptKey serverChallenge packet).Guarded allowed
      (Contract.leaves contract) world record := by
  have ended {world : Emulator} {record' : SessionRecord sqlite snapshotEndpoint} :
      Contract.leaves contract world record' none := fun _ none => nomatch none
  unfold Sessions.handleFirst
  split
  · exact ended
  split
  · exact ended
  refine Guarded.bind (harmless_guarded (plain_browser _ _)
    (handleServerListRequest_performs _ _ _) began) ?_
  intro world record' goesOn began'
  split
  · rintro state ⟨⟩
    exact ⟨cryptKey, serverChallenge, began'⟩
  · exact ended

/-! ### All sessions -/

theorem idle_append {state : SessionState} (holds : idle record state)
    (later : SessionRecord sqlite snapshotEndpoint) : idle (record ++ later) state := by
  cases state with
  | login client => exact LoginIdle.append holds later
  | search => exact holds.append later
  | authenticating serverChallenge => exact holds.append later
  | stats key => exact stats_append holds later
  | browser cryptKey serverChallenge => exact holds.append later
  | browsing =>
      obtain ⟨cryptKey, serverChallenge, began⟩ := holds
      exact ⟨cryptKey, serverChallenge, began.append later⟩

theorem greet_guarded (world : Emulator) (peer : Peer) :
    ((Sessions.service sqlite snapshotEndpoint).greet peer).Guarded allowed
      (Contract.leaves contract) world [.accepted world peer] := by
  have began : SessionRecord.BeganWith
      ([.accepted world peer] : SessionRecord sqlite snapshotEndpoint) peer := ⟨world, rfl⟩
  cases peer with
  | login serverChallenge loginTicket =>
      refine ⟨?_, fun _ _ => ?_⟩
      · simp only [List.append_assoc]
        exact allowed_of_begins (isPrefixOf_append _ _) (by decide)
      · rintro state ⟨⟩
        exact ⟨began.append _, fun authenticated => nomatch authenticated⟩
  | search =>
      rintro state ⟨⟩
      exact began
  | stats serverChallenge =>
      refine ⟨?_, fun _ _ => ?_⟩
      · simp only [List.append_assoc]
        exact allowed_of_begins (isPrefixOf_append _ _) (by decide)
      · rintro state ⟨⟩
        exact began.append _
  | browser cryptKey serverChallenge =>
      rintro state ⟨⟩
      exact began

theorem handle_guarded (world : Emulator) (state : SessionState) (input : SessionInput)
    (holds : idle record state) :
    ((Sessions.service sqlite snapshotEndpoint).handle state input).Guarded allowed
      (Contract.leaves contract) world (record ++ [.input world input]) := by
  have holds' := idle_append holds [.input world input]
  have stays : Contract.leaves (contract : Contract (Sessions.service sqlite snapshotEndpoint))
      world (record ++ [.input world input]) (some state) := by
    rintro _ ⟨⟩
    exact holds'
  cases input with
  | signal bytes =>
      cases state with
      | browsing =>
          obtain ⟨cryptKey, serverChallenge, began⟩ := holds'
          exact ⟨allowed_of_peer began (plain_browser _ _).login (plain_browser _ _).stats,
            fun _ _ => trivial⟩
      | login _ => exact stays
      | search => exact stays
      | authenticating _ => exact stays
      | stats _ => exact stays
      | browser _ _ => exact stays
  | packet bytes =>
      have handled := @SessionRecord.lastPacket_input _ _ record world bytes
      cases state with
      | login client =>
          refine Guarded.bind (login_guarded holds' handled) ?_
          rintro _ record' client? idle' state set
          cases client? with
          | none => cases set
          | some client' =>
              cases set
              exact idle' client' rfl
      | search =>
          refine Guarded.bind (harmless_guarded plain_search (search_performs bytes) holds') ?_
          rintro _ record' _ began state ⟨⟩
          exact began
      | authenticating serverChallenge =>
          refine Guarded.bind (authenticate_guarded holds' record rfl) ?_
          rintro _ record' key? idle' state set
          cases key? with
          | none => cases set
          | some key =>
              cases set
              exact idle' key rfl
      | stats key =>
          refine Guarded.bind (process_guarded holds' handled) ?_
          rintro _ record' _ idle' state ⟨⟩
          exact idle'
      | browser cryptKey serverChallenge => exact handleFirst_guarded holds' bytes
      | browsing => exact stays

/-- **Every handler keeps the contract.** -/
theorem kept : (contract : Contract (Sessions.service sqlite snapshotEndpoint)).Kept :=
  ⟨greet_guarded, fun world _ state input holds => handle_guarded world state input holds⟩

/-! ### Runs -/

section Runs

variable (events : List (PoolEvent (Sessions.service sqlite snapshotEndpoint))) (i : Nat)

/-- What happened to a session in a run. -/
def recordIn : SessionRecord sqlite snapshotEndpoint :=
  (Run.final Recorded.step Recorded.start events).record i

/-- What a session is suspended on behind a run. -/
def suspendedOn : Option SessionOperation := (Run.final Pool.step Pool.start events i).operation?

variable {events i}

theorem suspended_allowed {operation : SessionOperation}
    (waits : suspendedOn events i = some operation) : allowed (recordIn events i) operation := by
  rw [suspendedOn, ← Recorded.final_pool] at waits
  exact Recorded.run_allowed kept events waits

/-- **Login sessions act for the player who logged in.** Whatever other sessions do and
the databases answer, a session that writes a player, accepts a login or shows a profile
does so for a player whose login packet it has checked. -/
theorem login_authority {operation : SessionOperation}
    (waits : suspendedOn events i = some operation) :
    (∀ player, operation = .execute (.updatePlayer player) →
      ∃ serverChallenge loginTicket known,
        (recordIn events i).BeganWith (.login serverChallenge loginTicket) ∧
        (recordIn events i).LoggedIn serverChallenge known ∧ SamePlayer player known) ∧
    ∀ bytes, operation = .send (.text bytes) → Discloses (recordIn events i) bytes := by
  have may := suspended_allowed waits
  constructor
  · rintro player rfl
    exact may
  · rintro bytes rfl
    exact may.1

/-- **Stats sessions act behind their handshake.** Whatever other sessions do and the
databases answer, a session that forwards a snapshot or confirms a player has answered the
challenge for a game; what it forwards is the game data of the packet it handles. -/
theorem stats_authority {operation : SessionOperation}
    (waits : suspendedOn events i = some operation) :
    (∀ endpoint, operation = .connect endpoint → snapshotEndpoint = some endpoint ∧
      ∃ serverChallenge key, (recordIn events i).BeganWith (.stats serverChallenge) ∧
        (recordIn events i).ShookHands serverChallenge key) ∧
    (∀ body, operation = .write body →
      (∃ serverChallenge key, (recordIn events i).BeganWith (.stats serverChallenge) ∧
        (recordIn events i).ShookHands serverChallenge key) ∧
      ∃ packet final, (recordIn events i).lastPacket = some packet ∧
        snapshotArguments packet = some (body, final)) ∧
    ∀ bytes, operation = .send (.text bytes) → ConfirmsPlayer (recordIn events i) bytes := by
  have may := suspended_allowed waits
  refine ⟨?_, ?_, ?_⟩
  · rintro endpoint rfl
    exact may
  · rintro body rfl
    exact may
  · rintro bytes rfl
    exact may.2

end Runs

end Authority

namespace LoginSample

deriving instance DecidableEq for Operation, SessionOperation

/-- The player who logs in. -/
def row : PlayerRow := ⟨7, ascii "a", ascii "p", some (ascii "m"), ascii "US"⟩

/-- Every operation succeeds, and the player is found. -/
def found : (operation : SessionOperation) → operation.Result
  | .execute (.getPlayerByName _) => [row]
  | operation => answers operation

/-- A player logs in with the right response and sends a new country. -/
def updated : List (PoolEvent (Sessions.service StoreSample.sqlite none)) :=
  [.accepted 0 emulator (.login (ascii "A") (ascii "0__")), .completed 0 emulator answers,
    .input 0 emulator (.packet (ascii "\\login\\\\challenge\\c\\uniquenick\\a\\response\\" ++
      generateChallenge (ascii "a") (ascii "p") (ascii "c") (ascii "A") ++ ascii "\\final\\")),
    .completed 0 emulator found, .completed 0 emulator found, .completed 0 emulator found,
    .completed 0 emulator found, .completed 0 emulator found,
    .input 0 emulator (.packet (ascii "\\updatepro\\\\countrycode\\de\\final\\")),
    .completed 0 emulator found]

theorem login_authority_updated : ∃ serverChallenge known,
    (Authority.recordIn updated 0).LoggedIn serverChallenge known ∧ known.name = ascii "a" := by
  have waits : Authority.suspendedOn updated 0 = some (.execute (.updatePlayer
      { id := 7, name := ascii "a", email := ascii "m", password := ascii "p"
        country := ascii "DE", session := crc16 (ascii "a") })) := by
    decide +kernel
  obtain ⟨serverChallenge, loginTicket, known, began, loggedIn, same⟩ :=
    (Authority.login_authority waits).1 _ rfl
  exact ⟨serverChallenge, known, loggedIn, same.name.symm⟩

end LoginSample

namespace StatsSample

/-- One game is served. -/
def emulator : Emulator :=
  ⟨OrdMap.emplaceAll [(ascii "g", Game.empty
      { name := ascii "g", secretKey := ascii "k", keys := [], missingKeyPolicy := .addAsString })]
    ∅, false, 5⟩

def endpoint : Endpoint := ⟨0x7F000001, 80⟩

/-- A server shakes hands and sends a snapshot. -/
def forwarded : List (PoolEvent (Sessions.service StoreSample.sqlite (some endpoint))) :=
  [.accepted 0 emulator (.stats (ascii "S")), .completed 0 emulator LoginSample.answers,
    .input 0 emulator (.packet (ascii "\\auth\\\\gamename\\g\\response\\" ++
      Md5.md5 (signedText (gCrc32 (ascii "S")) ++ ascii "k") ++ ascii "\\final\\")),
    .completed 0 emulator LoginSample.answers,
    .input 0 emulator (.packet (ascii "\\updgame\\\\gamedata\\x\\final\\")),
    .completed 0 emulator LoginSample.answers]

theorem stats_authority_forwarded : ∃ serverChallenge key,
    (Authority.recordIn forwarded 0).ShookHands serverChallenge key := by
  have waits : Authority.suspendedOn forwarded 0 = some (.write (ascii "x")) := by
    decide +kernel
  obtain ⟨⟨serverChallenge, key, began, shook⟩, packet, final, handled, given⟩ :=
    (Authority.stats_authority waits).2.1 _ rfl
  exact ⟨serverChallenge, key, shook⟩

end StatsSample

end GamespyEmulator
