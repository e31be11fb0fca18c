import GamespyEmulator.Browser.Subscription
import GamespyEmulator.Player.Search
import GamespyEmulator.Sessions.Operations

/-!
The login, search and browser clients with their suspension points. `login_alone` and
`search_alone` connect them to the handlers of `Player.Session` and `Player.Search`: on a
table both databases read alike, a handler that nothing comes between does what they do.

Messages to a browser are kept as they are before encryption; the slots a browser
connects for pushed updates are in `Browser.Subscription`.
-/

namespace GamespyEmulator

open Wire Coroutine Utils

/-! ### Login -/

namespace LoginClient

/-- `LoginClient::SendChallenge`. -/
def Suspending.sendChallenge (serverChallenge loginTicket : Bytes) : Awaitable LoginClient := do
  asyncSend (.text (ascii "\\lc\\1\\challenge\\" ++ serverChallenge ++ ascii "\\id\\1\\final\\"))
  return .sendChallenge serverChallenge loginTicket

section Handlers

variable (client : LoginClient) (packet : Bytes)

/-- A reply behind which the handler returns. -/
def Suspending.reply (bytes : Bytes) : Awaitable LoginClient := do
  asyncSend (.text bytes)
  return client

def Suspending.refuse (requestId : UInt32) (errorCode : Nat) (errorMessage : Bytes) :
    Awaitable LoginClient :=
  reply client (errorReply requestId errorCode errorMessage true)

/-- `LoginClient::HandleLogin`. -/
def Suspending.handleLogin : Awaitable LoginClient :=
  if client.state ≠ .authenticating then return client
  else match loginName packet, valueForKey packet (ascii "\\challenge\\"),
      valueForKey packet (ascii "\\response\\") with
    | some playerName, some clientChallenge, some challengeResponse =>
        if playerName.isEmpty then refuse client 1 0 invalidQuery
        else do
          let found ← PlayerDBMySQL.Suspending.hasPlayer playerName
          if !found then
            refuse client 1 265 (ascii "Username [" ++ playerName ++ ascii "] doesn't exist!")
          else do
            match ← PlayerDBMySQL.Suspending.getPlayerByName playerName with
            | none => .fault .undefined
            | some player =>
                if challengeResponse ≠ generateChallenge playerName player.password clientChallenge
                    client.serverChallenge then
                  refuse client 1 260 (ascii "The password provided is incorrect.")
                else do
                  let player := { player with session := crc16 playerName }
                  let proof := generateChallenge player.name player.password
                    client.serverChallenge clientChallenge
                  asyncSend (.text (loginReply player client.loginTicket proof))
                  return { client with playerData := some player, state := .authenticated }
    | _, _, _ => refuse client 1 0 invalidQuery

/-- `LoginClient::HandleNewUser`. -/
def Suspending.handleNewUser : Awaitable LoginClient :=
  if client.state ≠ .authenticating then refuse client 1 0 invalidQuery
  else match valueForKey packet (ascii "\\email\\"), valueForKey packet (ascii "\\nick\\"),
      valueForKey packet (ascii "\\passwordenc\\") with
    | some email, some nick, some passwordEnc => do
        let found ← PlayerDBMySQL.Suspending.hasPlayer nick
        if found then refuse client 1 516 (ascii "This account name is already in use!")
        else match passdecode passwordEnc with
          | none => .fault .thrown
          | some password =>
              if password.length < 3 then
                refuse client 1 0
                  (ascii "The password is too short, must be 3 characters at least!")
              else if 30 < password.length then
                refuse client 1 0
                  (ascii "The password is too long, must be 30 characters at most!")
              else do
                let player ← PlayerDBMySQL.Suspending.createPlayer
                  { name := nick, email := email, password := Md5.md5 password
                    country := ascii "??" }
                asyncSend (.text (newUserReply player))
                return { client with playerData := some player }
    | _, _, _ => refuse client 1 0 invalidQuery

/-- `LoginClient::HandleGetProfile`. -/
def Suspending.handleGetProfile : Awaitable LoginClient :=
  match numberForKey packet (ascii "\\id\\") with
  | none => refuse client 0 0 invalidQuery
  | some requestId =>
      if client.state ≠ .authenticated then refuse client requestId 0 invalidQuery
      else match client.playerData with
        | none => .fault .undefined
        | some player => reply client (playerReply player client.loginTicket requestId)

/-- `LoginClient::HandleUpdateProfile`. -/
def Suspending.handleUpdateProfile : Awaitable LoginClient :=
  if client.state ≠ .authenticated then refuse client 4294967295 0 invalidQuery
  else match valueForKey packet (ascii "\\countrycode\\") with
    | none => return client
    | some countryCode =>
        match client.playerData with
        | none => .fault .undefined
        | some player => do
            let player := { player with country := countryCode.map toUpper }
            PlayerDBMySQL.Suspending.updatePlayer player
            return { client with playerData := some player }

/-- The dispatch of `LoginClient::Process`; `none` is the end behind `HandleLogout`. -/
def Suspending.handle : Awaitable (Option LoginClient) :=
  if (ascii "\\login\\").isPrefixOf packet then some <$> handleLogin client packet
  else if (ascii "\\newuser\\").isPrefixOf packet then some <$> handleNewUser client packet
  else if (ascii "\\getprofile\\").isPrefixOf packet then some <$> handleGetProfile client packet
  else if (ascii "\\updatepro\\").isPrefixOf packet then
    some <$> handleUpdateProfile client packet
  else if (ascii "\\logout\\").isPrefixOf packet then return none
  else some <$> reply client (errorReply 0 0 invalidQuery false)

end Handlers

end LoginClient

/-! ### Search -/

namespace SearchClient

/-- A reply, or the exception in front of it. -/
def Suspending.send : SearchReply → Awaitable Unit
  | .threw => .fault .thrown
  | .error errorCode errorMessage fatal =>
      asyncSend (.text (SearchReply.error errorCode errorMessage fatal).bytes)
  | .nicks players => asyncSend (.text (SearchReply.nicks players).bytes)
  | .profile id => asyncSend (.text (SearchReply.profile id).bytes)

variable (packet : Bytes)

/-- The digest `HandleSearchNicks` looks for; `none` when the text is no base64. -/
def passwordMD5 : Option Bytes :=
  match valueForKey packet (ascii "\\pass\\"), valueForKey packet (ascii "\\passenc\\") with
  | some pass, _ => some (Md5.md5 pass)
  | none, some passEnc =>
      if passEnc.isEmpty then some []
      else (passdecode passEnc).map fun _ => Md5.md5 passEnc
  | none, none => some []

/-- `SearchClient::HandleSearchNicks`. -/
def Suspending.handleSearchNicks : Awaitable Unit :=
  match passwordMD5 packet with
  | none => .fault .thrown
  | some digest =>
      match valueForKey packet (ascii "\\email\\") with
      | none => send (.error 0 invalidQuery true)
      | some email =>
          if digest.isEmpty then send (.error 0 invalidQuery true)
          else do
            let players ← PlayerDBMySQL.Suspending.getPlayerByMailAndPassword
              (email.map toLower) digest
            if players.isEmpty then
              send (.error 551 (ascii "Unable to get any associated profiles.") true)
            else send (.nicks players)

/-- The name `HandleProfileExists` looks for. -/
def profileName : Bytes :=
  ((valueForKey packet (ascii "\\nick\\")).or (valueForKey packet (ascii "\\uniquenick\\"))).getD []

/-- `SearchClient::HandleProfileExists`. -/
def Suspending.handleProfileExists : Awaitable Unit :=
  if (profileName packet).isEmpty then send (.error 0 invalidQuery true)
  else do
    let found ← PlayerDBMySQL.Suspending.hasPlayer (profileName packet)
    if found then do
      match ← PlayerDBMySQL.Suspending.getPlayerByName (profileName packet) with
      | none => .fault .undefined
      | some player => send (.profile player.id)
    else send (.error 265 invalidQuery true)

/-- The dispatch of `SearchClient::Process`. -/
def Suspending.handle : Awaitable Unit :=
  if (ascii "\\nicks\\").isPrefixOf packet then handleSearchNicks packet
  else if (ascii "\\check\\").isPrefixOf packet then handleProfileExists packet
  else send (.error 0 invalidQuery false)

end SearchClient

/-! ### Browser -/

namespace BrowserClient

/-- The first message of `StartEncryption`. -/
def encryptionHeader (game : Game) (cryptKey serverChallenge : Bytes) : Bytes :=
  [UInt8.ofNat (cryptKey.length + 2) ^^^ 0xEC] ++ be16 (UInt16.ofNat game.data.backend.toNat) ++
    cryptKey ++ [UInt8.ofNat serverChallenge.length ^^^ 0xEA] ++ serverChallenge

/-- A request that is answered with a list. -/
def Listed (game : Game) (request : ServerListRequest) : Prop :=
  ¬ (request.options.shares Options.noServerList ∨ game.data.queryPort = 0xFFFF) ∧
    ¬ request.options.shares Options.sendGroups

instance (game : Game) (request : ServerListRequest) : Decidable (Listed game request) :=
  inferInstanceAs (Decidable (_ ∧ _))

/-- `m_Game`, as it is now. -/
def currentGame (name : Bytes) : Awaitable Game :=
  .look fun emulator => match emulator.games[name]? with
    | none => .fault .undefined
    | some game => .ret game

/-- `m_Game->GetServers`. -/
def getServers (sqlite : Sqlite) (request : ServerListRequest) : Awaitable (List SavedServer) :=
  .look fun emulator => match emulator.games[request.toGame]? with
    | none => .fault .undefined
    | some game =>
        if game.data.name = bf2Data.name then
          BF2.Suspending.getServers sqlite game emulator.hasParams request.serverFilter
            request.fieldList (Listing.limit request) 0
        else .ret (game.getServers sqlite request.serverFilter request.fieldList
          (Listing.limit request) 0)

/-- The list loop of `HandleServerListRequest`. -/
def sendServers (request : ServerListRequest) : List SavedServer → Awaitable Unit
  | [] => asyncSend (.text endMarker)
  | server :: rest => do
      let game ← currentGame request.toGame
      match prepareServer game server.toServerData request.fieldList true with
      | .error _ => .fault .thrown
      | .ok entry => do
          asyncSend (.text entry)
          sendServers request rest

/-- `HandleServerListRequest` behind the response header. -/
def sendList (sqlite : Sqlite) (request : ServerListRequest) : Awaitable Unit := do
  let game ← currentGame request.toGame
  if Listed game request then do
    let servers ← getServers sqlite request
    sendServers request servers
  else return ()

/-- `BrowserClient::HandleServerListRequest`; false when it closes the socket. -/
def handleServerListRequest (sqlite : Sqlite) (cryptKey serverChallenge bytes : Bytes) :
    Awaitable Bool :=
  match ServerListRequest.parse bytes with
  | .error _ => return false
  | .ok request =>
      .look fun emulator => match emulator.games[request.toGame]? with
        | none => return false
        | some game => do
            asyncSend (.text (encryptionHeader game cryptKey serverChallenge))
            asyncSend (.header request)
            sendList sqlite request
            return true

end BrowserClient

end GamespyEmulator
