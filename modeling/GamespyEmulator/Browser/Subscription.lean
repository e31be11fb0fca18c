import GamespyEmulator.Browser.Request
import GamespyEmulator.Game.ReadBack

/-!
The server list of a subscribing browser. `HandleServerListRequest` takes the servers
in one query, sends them one by one, and connects the slots for changes behind the last
send. While a send is pending, other connections add and remove servers.

`list_describes_iff` shows when the list is right at the return of the handler: when
the calls since the query have left the set of servers as it was.
-/

namespace GamespyEmulator

open Wire Fallible

/-! ### The rows of a query -/

/-- An endpoint as a query reads it. -/
def RowKey.shown (key : RowKey) : RowKey := ⟨cstr key.publicIp, key.publicPort⟩

def ResultRow.rowKey (row : ResultRow) : RowKey := ⟨row.publicIp, row.publicPort⟩

/-- `SELECT … FROM server LIMIT limit` over columns of the table that can be selected, with
room for every row, yields each row once. -/
def SelectsRows (sqlite : Sqlite) : Prop :=
  ∀ (table : Table) (fields : List Bytes) (limit : Nat),
    (∀ field ∈ fields, isValidParamName field ∧ field ∈ table.columns.map (·.name)) →
    sqlite.Selectable fields → table.rows.size ≤ limit → limit ≤ maxLimit →
    ((sqlite.select table (Game.selectText [] fields limit 0)).map ResultRow.rowKey).Perm
      table.rows.keys

namespace Game

/-- The endpoints of the game's servers. -/
def endpoints (game : Game) : List RowKey := game.table.rows.keys.map RowKey.shown

/-- Two states of a game have the same servers. -/
def SameServers (game game' : Game) : Prop := ∀ key, key ∈ game.endpoints ↔ key ∈ game'.endpoints

theorem sameServers_of_eq {game game' : Game} (same : game.endpoints = game'.endpoints) :
    game.SameServers game' := fun key => by rw [same]

theorem getServers_endpoints {sqlite : Sqlite} (selects : SelectsRows sqlite) {game : Game}
    {fields : List Bytes} {limit : Nat}
    (registered : ∀ field ∈ fields, isValidParamName field ∧ field ∈ game.params)
    (selectable : sqlite.Selectable fields) (room : game.table.rows.size ≤ limit)
    (small : limit ≤ maxLimit) :
    ((game.getServers sqlite [] fields limit 0).map SavedServer.rowKey).Perm game.endpoints := by
  have rows := (selects game.table fields limit (fun field mem =>
    ⟨(registered field mem).1, game.params_columns field (registered field mem).2⟩) selectable
      room small).map RowKey.shown
  rw [List.map_map] at rows
  rw [getServers, List.map_map]
  exact rows

/-! ### Registered names -/

/-- Registered keys are valid column names. -/
def NamesValid (game : Game) : Prop := ∀ name ∈ game.params, isValidParamName name

theorem call_namesValid {sqlite : Sqlite} {game : Game} (valid : game.NamesValid) (call : Call) :
    (game.call sqlite call).game.NamesValid := by
  cases call with
  | subscribers fieldLists => exact valid
  | remove servers =>
      intro name mem
      rw [call, (removeServers_keeps game servers).1] at mem
      exact valid name mem
  | add server =>
      rcases addOrUpdateServer_cases sqlite game server with
        ⟨-, same, -⟩ | ⟨-, unfit, same, -⟩ | ⟨checked, fits, same, -⟩
      · rw [call, same]
        exact valid
      · intro name mem
        rw [call, same, addColumns_params_failed unfit] at mem
        exact valid name mem
      · intro name mem
        rw [call, same] at mem
        rcases (mem_stored_params fits).mp mem with old | new
        · exact valid name old
        · exact checked.names name new

theorem calls_namesValid {sqlite : Sqlite} {data : GameData} {game : Game}
    (connected : connect sqlite data = .ok game) (calls : List Call) :
    (Run.final (callStep sqlite) game calls).NamesValid :=
  @Run.stable _ _ _ (callStep sqlite) calls NamesValid game (connect_registered connected).valid
    fun _ call valid => call_namesValid valid call

end Game

/-! ### The handler -/

/-- Where `HandleServerListRequest` stands: in the send of the response header, of an
entry or of the end marker, or at its end. -/
inductive Listing.Phase where
  | header
  | entries (left : List SavedServer)
  | marker
  | returned
  | threw
deriving DecidableEq

structure Listing where
  game : Game
  phase : Listing.Phase := .header

/-- Another connection calls into the game, or the pending send completes. -/
inductive Listing.Event where
  | call (call : Call)
  | resume

/-- What the handler sends. -/
inductive Listing.Sent where
  | entry (server : SavedServer) (bytes : Bytes)
  | marker

namespace Listing

/-- `std::min<std::uint32_t>(request->limitResultCount.value_or(500), 500)`. -/
def limit (request : ServerListRequest) : Nat := (min (request.limitResultCount.getD 500) 500).toNat

/-- The next turn of the list loop. -/
def sendNext (game : Game) (request : ServerListRequest) :
    List SavedServer → Listing × List Sent
  | [] => (⟨game, .marker⟩, [.marker])
  | server :: rest =>
      match prepareServer game server.toServerData request.fieldList true with
      | .error _ => (⟨game, .threw⟩, [])
      | .ok bytes => (⟨game, .entries rest⟩, [.entry server bytes])

section Step

variable (sqlite : Sqlite) (request : ServerListRequest)

/-- `HandleServerListRequest` behind its first send. -/
def step (l : Listing) : Event → Listing × List Sent
  | .call call => ({ l with game := (l.game.call sqlite call).game }, [])
  | .resume =>
      match l.phase with
      | .header =>
          if request.options.shares Options.noServerList ∨ l.game.data.queryPort = 0xFFFF then
            ({ l with phase := .returned }, [])
          else if request.options.shares Options.sendGroups then
            ({ l with phase := .returned }, [])
          else sendNext l.game request (l.game.getServers sqlite request.serverFilter
            request.fieldList (limit request) 0)
      | .entries left => sendNext l.game request left
      | .marker =>
          let subscribers := if request.options.shares Options.pushUpdates then
            l.game.subscribers ++ [request.fieldList] else l.game.subscribers
          (⟨{ l.game with subscribers := subscribers }, .returned⟩, [])
      | .returned => (l, [])
      | .threw => (l, [])

/-- The servers a browser knows from what it was sent. -/
def known (sent : List Sent) : List RowKey :=
  sent.filterMap fun
    | .entry server _ => some server.rowKey
    | .marker => none

/-- The browser knows exactly the servers of the game. No change is queued for it yet:
its slots are connected at the return. -/
def Describes (sent : List Sent) (game : Game) : Prop :=
  ∀ key, key ∈ known sent ↔ key ∈ game.endpoints

/-! ### The list -/

variable {sqlite : Sqlite} {request : ServerListRequest} {servers : List SavedServer}

/-- How far the list of these servers has come, with the endpoints sent so far. -/
inductive Progress (servers : List SavedServer) : List RowKey → Phase → Prop where
  | entries (front left : List SavedServer) (split : servers = front ++ left) :
      Progress servers (front.map SavedServer.rowKey) (.entries left)
  | marker : Progress servers (servers.map SavedServer.rowKey) .marker
  | returned : Progress servers (servers.map SavedServer.rowKey) .returned
  | threw (keys : List RowKey) : Progress servers keys .threw

theorem known_append (front back : List Sent) : known (front ++ back) = known front ++ known back :=
  List.filterMap_append ..

theorem Progress.silent {keys : List RowKey} {phase : Phase}
    (progress : Progress servers keys phase) : Progress servers (keys ++ known []) phase := by
  rw [known, List.filterMap_nil, List.append_nil]
  exact progress

theorem sendNext_progress (game : Game) {front left : List SavedServer}
    (split : servers = front ++ left) :
    Progress servers (front.map SavedServer.rowKey ++ known (sendNext game request left).2)
      (sendNext game request left).1.phase := by
  cases left with
  | nil =>
      rw [List.append_nil] at split
      rw [← split]
      exact Progress.marker.silent
  | cons server rest =>
      rw [sendNext]
      split
      · exact .threw _
      · have sent : Progress servers ((front ++ [server]).map SavedServer.rowKey)
            (.entries rest) := .entries _ rest (by rw [split, List.append_assoc, List.singleton_append])
        rw [List.map_append] at sent
        exact sent

theorem step_progress {l : Listing} {keys : List RowKey} (progress : Progress servers keys l.phase)
    (event : Event) : Progress servers (keys ++ known (l.step sqlite request event).2)
      (l.step sqlite request event).1.phase := by
  cases event with
  | call call => exact progress.silent
  | resume =>
      obtain ⟨game, phase⟩ := l
      dsimp only at progress
      cases progress with
      | entries front left split => exact sendNext_progress game split
      | marker => exact Progress.returned.silent
      | returned => exact Progress.returned.silent
      | threw keys => exact .threw _

/-- The list of the servers that the query gave. -/
theorem progress_run {l : Listing} {keys : List RowKey} (progress : Progress servers keys l.phase)
    (events : List Event) :
    Progress servers (keys ++ known (Run.outputs (step sqlite request) l events))
      (Run.final (step sqlite request) l events).phase := by
  refine @Run.history_stable _ _ _ (step sqlite request) events
    (fun past l' => Progress servers
      (keys ++ known (Run.outputs (step sqlite request) l past)) l'.phase) l ?_ ?_
  · rw [Run.outputs, known, List.filterMap_nil, List.append_nil]
    exact progress
  · intro past event progress
    rw [Run.outputs_snoc, known_append, ← List.append_assoc]
    exact step_progress progress event

/-- Calls before the query. -/
theorem calls_run (game : Game) (calls : List Call) :
    Run.final (step sqlite request) ⟨game, .header⟩ (calls.map .call) =
        ⟨Run.final (Game.callStep sqlite) game calls, .header⟩ ∧
      Run.outputs (step sqlite request) ⟨game, .header⟩ (calls.map .call) = [] := by
  induction calls generalizing game with
  | nil => exact ⟨rfl, rfl⟩
  | cons call rest ih => exact ih (game.call sqlite call).game

/-- A handler that returned does nothing more. -/
theorem returned_run {l : Listing} (returned : l.phase = .returned) (events : List Event) :
    (Run.final (step sqlite request) l events).phase = .returned := by
  refine @Run.stable _ _ _ (step sqlite request) events (·.phase = .returned) l returned ?_
  intro l event returned
  cases event with
  | call call => exact returned
  | resume => simp [step, returned]

theorem Progress.keys_marker {keys : List RowKey} (progress : Progress servers keys .marker) :
    keys = servers.map SavedServer.rowKey := by
  cases progress
  rfl

/-- The browser was sent the servers of the query when the end marker is out. -/
theorem known_at_marker {game : Game} {before : List Call} {during : List Event}
    (atMarker : (Run.final (step sqlite request) ⟨game, .header⟩
      (before.map .call ++ .resume :: during)).phase = .marker) :
    known (Run.outputs (step sqlite request) ⟨game, .header⟩
        (before.map .call ++ .resume :: during)) =
      ((Run.final (Game.callStep sqlite) game before).getServers sqlite request.serverFilter
        request.fieldList (limit request) 0).map SavedServer.rowKey := by
  obtain ⟨asked, quiet⟩ := @calls_run sqlite request game before
  rw [Run.final_append, asked, Run.final_cons] at atMarker
  rw [Run.outputs_append, quiet, asked, List.nil_append, Run.outputs, known_append]
  generalize Run.final (Game.callStep sqlite) game before = snapshot at atMarker ⊢
  have stays := @returned_run sqlite request ⟨snapshot, .returned⟩ rfl during
  rw [step] at atMarker ⊢
  dsimp only at atMarker ⊢
  split at atMarker
  · rw [stays] at atMarker
    cases atMarker
  · rename_i listed
    rw [if_neg listed]
    split at atMarker
    · rw [stays] at atMarker
      cases atMarker
    · rename_i flat
      rw [if_neg flat]
      let servers := snapshot.getServers sqlite request.serverFilter request.fieldList
        (limit request) 0
      have first := @sendNext_progress request servers snapshot [] servers rfl
      have all := @progress_run sqlite request servers _ _ first during
      rw [atMarker] at all
      exact all.keys_marker

/-- **When the handler returns, the browser knows exactly the servers of the game if and
only if the calls since the query have left them as they were at the query.** -/
theorem list_describes_iff (selects : SelectsRows sqlite) {data : GameData} {game : Game}
    (connected : Game.connect sqlite data = .ok game) (all : request.serverFilter = [])
    {before : List Call} {during : List Event}
    (registered : ∀ field ∈ request.fieldList,
      field ∈ (Run.final (Game.callStep sqlite) game before).params)
    (selectable : sqlite.Selectable request.fieldList)
    (room : (Run.final (Game.callStep sqlite) game before).table.rows.size ≤ limit request)
    (atMarker : (Run.final (step sqlite request) ⟨game, .header⟩
      (before.map .call ++ .resume :: during)).phase = .marker) :
    let events := before.map Event.call ++ .resume :: during ++ [.resume]
    let returned := Run.final (step sqlite request) ⟨game, .header⟩ events
    returned.phase = .returned ∧
      (Describes (Run.outputs (step sqlite request) ⟨game, .header⟩ events) returned.game ↔
        (Run.final (Game.callStep sqlite) game before).SameServers returned.game) := by
  have valid := Game.calls_namesValid connected before
  have small : limit request ≤ maxLimit := by
    have := (min (request.limitResultCount.getD 500) 500).toNat_lt
    unfold limit maxLimit
    omega
  have listed := Game.getServers_endpoints selects
    (fun field mem => ⟨valid field (registered field mem), registered field mem⟩) selectable room
    small
  have sent := known_at_marker atMarker
  rw [all] at sent
  dsimp only
  refine ⟨?_, ?_⟩
  · rw [Run.final_snoc, step, atMarker]
  · -- The last step sends nothing.
    have same : known (Run.outputs (step sqlite request) ⟨game, .header⟩
        (before.map .call ++ .resume :: during ++ [.resume])) =
          ((Run.final (Game.callStep sqlite) game before).getServers sqlite [] request.fieldList
            (limit request) 0).map SavedServer.rowKey := by
      rw [Run.outputs_snoc, known_append, sent, step, atMarker]
      exact List.append_nil _
    unfold Describes Game.SameServers
    rw [same]
    exact forall_congr' fun key => by rw [listed.mem_iff]

end Step

end Listing

namespace StoreSample

theorem selectsRows : SelectsRows sqlite := by
  intro table fields limit columns selectable room small
  have keys : table.rows.toList.map Prod.fst = table.rows.keys :=
    Std.ExtTreeMap.map_fst_toList_eq_keys
  rw [← keys, sqlite, List.map_map]
  exact .refl _

def request : ServerListRequest where
  protocolVersion := 1
  encodingVersion := 3
  fromGameVersion := 0
  fromGame := ascii "gmtest"
  toGame := ascii "gmtest"
  challenge := Vector.replicate 8 65
  serverFilter := []
  fieldList := [ascii "hostname"]
  options := Options.pushUpdates
  alternateSourceIP := none
  limitResultCount := none

/-- The server joins before the query, and calls again while its entry is sent. -/
theorem list_describes_heartbeat :
    let events := [Call.add (server ["hostname"])].map Listing.Event.call ++
      .resume :: [.call (.add (server ["hostname"])), .resume] ++ [.resume]
    Listing.Describes (Run.outputs (Listing.step sqlite request) ⟨game, .header⟩ events)
      (Run.final (Listing.step sqlite request) ⟨game, .header⟩ events).game :=
  (@Listing.list_describes_iff sqlite request selectsRows data game connected rfl
    [.add (server ["hostname"])] [.call (.add (server ["hostname"])), .resume]
    (by decide) (by decide) (by decide) (by decide)).2.mpr
    (Game.sameServers_of_eq rfl)

/-- The first server joins while the end marker of the empty list is sent. -/
theorem list_describes_fails_joining :
    ¬ ∀ (sqlite : Sqlite) (request : ServerListRequest), SelectsRows sqlite →
      ∀ (data : GameData) (game : Game), Game.connect sqlite data = .ok game →
      request.serverFilter = [] → request.options.shares Options.pushUpdates →
      ∀ (before : List Call) (during : List Listing.Event),
      (∀ field ∈ request.fieldList,
        field ∈ (Run.final (Game.callStep sqlite) game before).params) →
      sqlite.Selectable request.fieldList →
      (Run.final (Game.callStep sqlite) game before).table.rows.size ≤ Listing.limit request →
      (Run.final (Listing.step sqlite request) ⟨game, .header⟩
        (before.map .call ++ .resume :: during)).phase = .marker →
      let events := before.map Listing.Event.call ++ .resume :: during ++ [.resume]
      Listing.Describes (Run.outputs (Listing.step sqlite request) ⟨game, .header⟩ events)
        (Run.final (Listing.step sqlite request) ⟨game, .header⟩ events).game := by
  intro claim
  have describes := claim sqlite request selectsRows data game connected rfl (by decide) []
    [.call (.add (server ["hostname"]))] (by decide) (by decide) (by decide)
    rfl
  have joined : (server ["hostname"]).rowKey ∈ (Run.final (Listing.step sqlite request)
      ⟨game, .header⟩ [.resume, .call (.add (server ["hostname"])), .resume]).game.endpoints := by
    decide
  have sent := (describes _).mpr joined
  revert sent
  decide

end StoreSample

end GamespyEmulator
