import GamespyEmulator.Game.Servers

/-!
The game `BF2`: Battlefield 2, whose servers report themselves whether they are ranked.
Its `GetServers` overwrites the report by the rows of the stats database, read over
MySQL; its `AddOrUpdateServer` is that of `Game`.
-/

namespace GamespyEmulator

open Wire

namespace key

def text (name : String) : GameKey := ⟨ascii name, .asString, .asText⟩

def real (name : String) : GameKey := ⟨ascii name, .asString, .asReal⟩

def shrt (name : String) : GameKey := ⟨ascii name, .asShort, .asInteger⟩

def boolean (name : String) : GameKey := ⟨ascii name, .asByte, .asInteger⟩

def ipaddr (name : String) : GameKey := ⟨ascii name, .asString, .asText⟩

end key

def bf2Data : GameData where
  name := ascii "battlefield2"
  secretKey := ascii "hW6m9a"
  keys := [key.text "hostname", key.text "country", key.text "gamename", key.text "gamever",
    key.text "mapname", key.text "gametype", key.text "gamevariant", key.shrt "numplayers",
    key.shrt "maxplayers", key.text "gamemode", key.boolean "password", key.shrt "timelimit",
    key.shrt "roundtime", key.shrt "hostport", key.ipaddr "localip0", key.ipaddr "localip1",
    key.ipaddr "localip2", key.ipaddr "localip3", key.ipaddr "localip4", key.shrt "localport",
    key.boolean "natneg", key.boolean "statechanged", key.boolean "bf2_dedicated",
    key.boolean "bf2_ranked", key.boolean "bf2_anticheat", key.text "bf2_os",
    key.boolean "bf2_autorec", key.text "bf2_d_idx", key.text "bf2_d_dl", key.boolean "bf2_voip",
    key.boolean "bf2_autobalanced", key.boolean "bf2_friendlyfire", key.text "bf2_tkmode",
    key.real "bf2_startdelay", key.real "bf2_spawntime", key.text "bf2_sponsortext",
    key.text "bf2_sponsorlogo_url", key.text "bf2_communitylogo_url", key.shrt "bf2_scorelimit",
    key.real "bf2_ticketratio", key.real "bf2_teamratio", key.text "bf2_team1",
    key.text "bf2_team2", key.boolean "bf2_bots", key.boolean "bf2_pure", key.shrt "bf2_mapsize",
    key.boolean "bf2_globalunlocks", key.real "bf2_fps", key.boolean "bf2_plasma",
    key.shrt "bf2_reservedslots", key.real "bf2_coopbotratio", key.shrt "bf2_coopbotcount",
    key.real "bf2_coopbotdiff", key.boolean "bf2_novehicles"]

namespace BF2

/-! ### Queries -/

/-- A text at the first occurrence of `needle`. -/
def splitFirst (needle : Bytes) : Bytes → Option (Bytes × Bytes)
  | [] => if needle.isEmpty then some ([], []) else none
  | c :: rest =>
      if needle.isPrefixOf (c :: rest) then some ([], c :: rest)
      else (splitFirst needle rest).map fun (front, back) => (c :: front, back)

def blank : UInt8 := 32

def quote : UInt8 := 39

/-- The first repair: a blank and an `and` in front of a `gametype` that follows the
query without a blank. -/
def repairGametype (query : Bytes) : Bytes :=
  match splitFirst (ascii "gametype") query with
  | none => query
  | some (front, back) =>
      if front.isEmpty ∨ front.getLast? = some blank then query
      else front ++ ascii " and " ++ back

/-- The second repair: single quotes in a hostname are doubled. -/
def repairHostname (query : Bytes) : Bytes :=
  let hostnameQuery := ascii "hostname like '%"
  match splitFirst hostnameQuery query with
  | none => query
  | some (front, back) =>
      match splitFirst (ascii "%'") (back.drop hostnameQuery.length) with
      | none => query
      | some (hostname, rest) =>
          front ++ hostnameQuery ++
            (hostname.flatMap fun c => if c = quote then [quote, quote] else [c]) ++ rest

/-! ### Ranked servers -/

/-- A row of the stats database: an authorised server, as the code reads it. -/
structure StatsRow where
  ip : Bytes
  port : UInt16
  plasma : Bool
deriving DecidableEq, Repr

/-- The rows name the endpoint. -/
def Authorised (rows : List StatsRow) (publicIp : Bytes) (publicPort : UInt16) : Prop :=
  ∃ row ∈ rows, row.ip = publicIp ∧ row.port = publicPort

instance (rows : List StatsRow) (publicIp : Bytes) (publicPort : UInt16) :
    Decidable (Authorised rows publicIp publicPort) :=
  inferInstanceAs (Decidable (∃ row ∈ rows, _))

/-- `rankedServers`. -/
def rankedServers (rows : List StatsRow) : OrdMap RowKey Bool :=
  OrdMap.emplaceAll (rows.map fun row => (⟨row.ip, row.port⟩, row.plasma)) ∅

def rankedKey : Bytes := ascii "bf2_ranked"

def plasmaKey : Bytes := ascii "bf2_plasma"

def flag (value : Bool) : Bytes := if value then ascii "1" else ascii "0"

theorem flag_nulFree (value : Bool) : NulFree (flag value) := by
  cases value <;> decide

/-- `server.data[key] = value`. -/
def setFlag (server : SavedServer) (key : Bytes) (value : Bool) : SavedServer :=
  { server with
    data := server.data.insert key (flag value)
    data_free := by
      intro name text held
      rcases OrdMap.insert_eq_some.mp held with ⟨-, rfl⟩ | ⟨-, old⟩
      · exact flag_nulFree value
      · exact server.data_free name text old }

/-- One turn of the loop over the servers. -/
def rank (ranked : OrdMap RowKey Bool) (server : SavedServer) : SavedServer :=
  match ranked[(⟨server.publicIp, server.publicPort⟩ : RowKey)]? with
  | some plasma => setFlag (setFlag server rankedKey true) plasmaKey plasma
  | none => setFlag (setFlag server rankedKey false) plasmaKey false

/-- `BF2::GetServers`; without MySQL parameters there are no rows to read. -/
def getServers (sqlite : Sqlite) (game : Game) (rows : Option (List StatsRow)) (query : Bytes)
    (fields : List Bytes) (limit skip : Nat) : List SavedServer :=
  let servers := game.getServers sqlite (repairHostname (repairGametype query)) fields limit skip
  match rows with
  | none => servers
  | some rows => servers.map (rank (rankedServers rows))

/-- The statement that `GetServers` of the game with this name steps through. -/
def selectedText (name query : Bytes) (fields : List Bytes) (limit skip : Nat) : Bytes :=
  Game.selectText
    (if name = ascii "battlefield2" then repairHostname (repairGametype query) else query) fields
    limit skip

/-! ### What a list says -/

theorem rankedServers_iff {rows : List StatsRow} {publicIp : Bytes} {publicPort : UInt16} :
    (⟨publicIp, publicPort⟩ : RowKey) ∈ rankedServers rows ↔
      Authorised rows publicIp publicPort := by
  rw [rankedServers, OrdMap.mem_emplaceAll]
  simp [Authorised]

theorem rank_endpoint (ranked : OrdMap RowKey Bool) (server : SavedServer) :
    (rank ranked server).publicIp = server.publicIp ∧
      (rank ranked server).publicPort = server.publicPort := by
  unfold rank
  split <;> exact ⟨rfl, rfl⟩

theorem setFlag_value (server : SavedServer) (key name : Bytes) (value : Bool) :
    (setFlag server key value).toServerData.value name =
      if key = name then flag value else server.toServerData.value name := by
  have read : (setFlag server key value).data[name]? =
      if key = name then some (flag value) else server.data[name]? :=
    OrdMap.insert_getElem? server.data key name (flag value)
  rw [ServerData.value, SavedServer.toServerData, read]
  split <;> rfl

/-- A server is called ranked exactly when it is authorised. -/
theorem rank_value (rows : List StatsRow) (server : SavedServer) :
    (rank (rankedServers rows) server).toServerData.value rankedKey =
      flag (decide (Authorised rows server.publicIp server.publicPort)) := by
  have apart : plasmaKey ≠ rankedKey := by decide
  unfold rank
  split
  · rename_i plasma found
    have listed := rankedServers_iff.mp (OrdMap.mem_iff.mpr ⟨plasma, found⟩)
    rw [setFlag_value, if_neg apart, setFlag_value, if_pos rfl, decide_eq_true listed]
  · rename_i absent
    have unlisted := mt rankedServers_iff.mpr (OrdMap.notMem_iff.mpr absent)
    rw [setFlag_value, if_neg apart, setFlag_value, if_pos rfl, decide_eq_false unlisted]

/-! ### The registered keys -/

theorem connectKeys_params {sqlite : Sqlite} {game game' : Game} {keys : List GameKey}
    (connected : Game.connectKeys sqlite game keys = .ok game') :
    game'.params = keys.foldl (fun params key => params.insertIfNew key.name key) game.params := by
  induction keys generalizing game with
  | nil =>
      cases connected
      rfl
  | cons key rest ih =>
      unfold Game.connectKeys at connected
      split at connected
      · split at connected
        · cases connected
        · rename_i next added
          rw [ih connected, List.foldl_cons, (Game.register_inv added).2]
      · cases connected

/-- The report is sent as one byte. -/
theorem ranked_asByte {sqlite : Sqlite} {game : Game}
    (connected : Game.connect sqlite bf2Data = .ok game) :
    game.getParamSendType rankedKey = .asByte := by
  have registered : game.params =
      bf2Data.keys.foldl (fun params key => params.insertIfNew key.name key) ∅ :=
    connectKeys_params (Game.connectKeys_of_connect connected)
  rw [Game.getParamSendType, registered]
  decide +kernel

end BF2

end GamespyEmulator
