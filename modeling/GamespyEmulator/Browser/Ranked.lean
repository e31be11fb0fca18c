import GamespyEmulator.Browser.KeyList
import GamespyEmulator.Browser.Subscription
import GamespyEmulator.Game.BF2

/-!
What browsers are told about ranked servers. A list goes through `BF2::GetServers`,
which overwrites what the servers report. A push message is built from the report
itself, and from the names that the slot reads in its key list.

`ranked_honest_iff` shows in which runs no message calls a server ranked that the
stats database does not authorise.
-/

namespace GamespyEmulator.BF2

open Wire Fallible

/-! ### Messages -/

/-- An entry of a list, or a push message: the authorised rows when it was built, the
server's endpoint, the bytes for each requested key, and the whole. -/
structure Message where
  rows : List StatsRow
  publicIp : Bytes
  publicPort : UInt16
  values : List (Bytes × Bytes)
  bytes : Bytes

/-- The bytes `PrepareServer` writes for each key. -/
def sentValues (game : Game) (usePopularList : Bool) (server : ServerData)
    (fieldList : List Bytes) : List (Bytes × Bytes) :=
  fieldList.map fun key => (key,
    (prepareValue game usePopularList (game.getParamSendType key)
      (server.value key)).toOption.getD [])

/-- They are the values of the entry, in order. -/
theorem prepareValues_sentValues {game : Game} {usePopularList : Bool} {server : ServerData}
    {fieldList : List Bytes} {bytes : Bytes}
    (built : prepareValues game usePopularList server fieldList = .ok bytes) :
    bytes = (sentValues game usePopularList server fieldList).flatMap (·.2) := by
  induction fieldList generalizing bytes with
  | nil =>
      cases built
      rfl
  | cons key rest ih =>
      rw [prepareValues] at built
      obtain ⟨value, first, built⟩ := bind_eq_ok.mp built
      obtain ⟨values, others, eq⟩ := bind_eq_ok.mp built
      cases eq
      rw [ih others, sentValues, sentValues, List.map_cons, List.flatMap_cons, first]
      rfl

def message (rows : List StatsRow) (game : Game) (usePopularList : Bool) (fieldList : List Bytes)
    (server : ServerData) (bytes : Bytes) : Message where
  rows := rows
  publicIp := server.publicIp
  publicPort := server.publicPort
  values := sentValues game usePopularList server fieldList
  bytes := bytes

/-- The message sends `bf2_ranked` as 1. -/
def Message.SaysRanked (m : Message) : Prop := (rankedKey, [1]) ∈ m.values

/-- A server that is called ranked is authorised. -/
def Message.Honest (m : Message) : Prop := m.SaysRanked → Authorised m.rows m.publicIp m.publicPort

/-- What a browser is sent: a message, or whatever a slot makes of a name that is lost. -/
inductive Sent where
  | message (m : Message)
  | undefined

/-- Nothing is known of what is sent for a lost name. -/
def Sent.Honest : Sent → Prop
  | .message m => m.Honest
  | .undefined => False

/-! ### Runs -/

/-- The game, with the authorised rows of the stats database. -/
structure Ranking where
  game : Game
  rows : List StatsRow

/-- A heartbeat, a removal, a change of the database, a server-list request, or a browser
that leaves. -/
inductive Event where
  | add (server : ServerData)
  | remove (servers : List RowKey)
  | database (rows : List StatsRow)
  | list (request : ServerListRequest)
  | leave (slot : Nat)

/-- The messages that the slots queue for a server that was added: up to the first slot that
throws, or reads a lost name. -/
def pushes (layout : Layout) (rows : List StatsRow) (game : Game) (server : ServerData) :
    List (List Bytes) → List Sent
  | [] => []
  | keyList :: rest =>
      match (KeyList.ofFields layout keyList).pushMessage layout game server with
      | none => [.undefined]
      | some (.error _) => []
      | some (.ok bytes) =>
          .message (message rows game false keyList server bytes) ::
            pushes layout rows game server rest

/-- The server reports itself ranked. -/
def ReportsRanked (server : ServerData) : Prop :=
  (∀ c ∈ server.value rankedKey, Numeral.isDigit c) ∧
    Numeral.value (server.value rankedKey) = 1

/-- The slots that run keep their names, and whoever reports itself ranked to a browser that
asked for it is authorised. -/
def VouchedSlots (layout : Layout) (rows : List StatsRow) (game : Game) (server : ServerData) :
    List (List Bytes) → Prop
  | [] => True
  | keyList :: rest => layout.Keeps keyList ∧ (Encodable game server keyList →
      (rankedKey ∈ keyList → ReportsRanked server →
        Authorised rows server.publicIp server.publicPort) ∧
      VouchedSlots layout rows game server rest)

section Step

variable (layout : Layout) (sqlite : Sqlite)

/-- The requests that are answered without a list. -/
def Unlisted (game : Game) (request : ServerListRequest) : Prop :=
  request.options.shares Options.noServerList ∨ game.data.queryPort = 0xFFFF ∨
    request.options.shares Options.sendGroups

instance (game : Game) (request : ServerListRequest) : Decidable (Unlisted game request) :=
  inferInstanceAs (Decidable (_ ∨ _))

/-- One event; it emits the messages sent to browsers. -/
def step (s : Ranking) : Event → Ranking × List Sent
  | .add server =>
      let out := s.game.addOrUpdateServer sqlite server
      ({ s with game := out.game },
        if s.game.Checked server ∧
            Game.NewColumns sqlite s.game.table.columns (s.game.columnsToAdd server) then
          pushes layout s.rows out.game server out.game.subscribers
        else [])
  | .remove servers => ({ s with game := (s.game.removeServers servers).game }, [])
  | .database rows => ({ s with rows := rows }, [])
  | .list request =>
      if Unlisted s.game request then (s, [])
      else
        let servers := getServers sqlite s.game (some s.rows) request.serverFilter
          request.fieldList (Listing.limit request) 0
        let (entries, exception) := sendServerList s.game request.fieldList servers
        let subscribers := if exception = none ∧ request.options.shares Options.pushUpdates then
          s.game.subscribers ++ [request.fieldList] else s.game.subscribers
        ({ s with game := { s.game with subscribers := subscribers } },
          (servers.zip entries).map fun (server, bytes) =>
            .message (message s.rows s.game true request.fieldList server.toServerData bytes))
  | .leave slot =>
      ({ s with game := { s.game with subscribers := s.game.subscribers.eraseIdx slot } }, [])

/-- The slots of a server that is stored are vouched for. -/
def Vouched (s : Ranking) : Event → Prop
  | .add server => s.game.Checked server →
      Game.NewColumns sqlite s.game.table.columns (s.game.columnsToAdd server) →
      VouchedSlots layout s.rows s.game server s.game.subscribers
  | _ => True

end Step

/-! ### One message -/

theorem prepareValue_one {game : Game} {usePopularList : Bool} {value : Bytes} :
    (prepareValue game usePopularList .asByte value).toOption.getD [] = [1] ↔
      (∀ c ∈ value, Numeral.isDigit c) ∧ Numeral.value value = 1 := by
  by_cases empty : value = []
  · rw [empty]
    exact iff_of_false (by simp [prepareValue, Except.toOption]) (by simp [Numeral.value])
  · have whole : (∀ c ∈ value, Numeral.isDigit c) ∧ Numeral.value value = 1 ↔
        numberValue 255 .invalidByteValue value = .ok 1 := by
      rw [numberValue_ok, Numeral.fromChars_whole]
      constructor
      · rintro ⟨digits, one⟩
        exact ⟨empty, digits, one, by decide⟩
      · rintro ⟨-, digits, one, -⟩
        exact ⟨digits, one⟩
    rw [whole, prepareValue, if_neg (by simpa using empty)]
    cases read : numberValue 255 .invalidByteValue value with
    | error e => simp [Except.toOption, Except.map]
    | ok n =>
        have small : n ≤ 255 := (Numeral.fromChars_whole.mp (numberValue_ok.mp read)).2.2.2
        simp only [Except.map, Except.toOption, Option.getD_some, List.cons.injEq, and_true,
          Except.ok.injEq]
        constructor
        · intro same
          have := congrArg UInt8.toNat same
          simpa [Nat.mod_eq_of_lt (Nat.lt_succ_of_le small)] using this
        · rintro rfl
          rfl

theorem saysRanked_iff {rows : List StatsRow} {game : Game} {usePopularList : Bool}
    {fieldList : List Bytes} {server : ServerData} {bytes : Bytes}
    (asByte : game.getParamSendType rankedKey = .asByte) :
    (message rows game usePopularList fieldList server bytes).SaysRanked ↔
      rankedKey ∈ fieldList ∧ ReportsRanked server := by
  rw [ReportsRanked, ← @prepareValue_one game usePopularList, ← asByte]
  constructor
  · intro mem
    obtain ⟨key, requested, eq⟩ := List.mem_map.mp mem
    obtain ⟨rfl, value⟩ := Prod.mk.inj eq
    exact ⟨requested, value⟩
  · rintro ⟨requested, value⟩
    exact List.mem_map.mpr ⟨rankedKey, requested, by rw [value]⟩

/-! ### One event -/

/-- The messages are honest exactly when the slots that run are vouched for. -/
theorem pushes_honest_iff {layout : Layout} {rows : List StatsRow} {game : Game}
    (asByte : game.getParamSendType rankedKey = .asByte) (server : ServerData)
    (keyLists : List (List Bytes)) :
    (∀ sent ∈ pushes layout rows game server keyLists, sent.Honest) ↔
      VouchedSlots layout rows game server keyLists := by
  induction keyLists with
  | nil => exact iff_of_true (fun sent mem => absurd mem List.not_mem_nil) trivial
  | cons keyList rest ih =>
      have whole : VouchedSlots layout rows game server (keyList :: rest) ↔
          layout.Keeps keyList ∧ (Encodable game server keyList →
            (rankedKey ∈ keyList → ReportsRanked server →
              Authorised rows server.publicIp server.publicPort) ∧
            VouchedSlots layout rows game server rest) := Iff.rfl
      rw [pushes, KeyList.pushMessage_ofFields, whole]
      by_cases keeps : layout.Keeps keyList
      · rw [if_pos keeps, and_iff_right keeps, ← pushMessage_returns]
        cases built : pushMessage game server keyList with
        | error e =>
            refine iff_of_true (fun sent mem => absurd mem List.not_mem_nil) fun returns => ?_
            exact absurd returns (not_returns_error e)
        | ok bytes =>
            have honest : (message rows game false keyList server bytes).Honest ↔
                (rankedKey ∈ keyList → ReportsRanked server →
                  Authorised rows server.publicIp server.publicPort) := by
              rw [Message.Honest, saysRanked_iff asByte, and_imp]
              exact Iff.rfl
            have first : (Sent.message (message rows game false keyList server bytes)).Honest ↔
                (message rows game false keyList server bytes).Honest := Iff.rfl
            rw [List.forall_mem_cons, ih, first, honest]
            exact ⟨fun both _ => both, fun both => both (returns_ok bytes)⟩
      · rw [if_neg keeps]
        refine iff_of_false (fun honest => ?_) fun both => keeps both.1
        exact honest .undefined (List.mem_singleton_self _)

/-- Only the send types of the game matter to that. -/
theorem vouchedSlots_congr {layout : Layout} {rows : List StatsRow} {game game' : Game}
    (same : Game.SameConfig game game') (server : ServerData) (keyLists : List (List Bytes)) :
    VouchedSlots layout rows game' server keyLists ↔ VouchedSlots layout rows game server keyLists := by
  induction keyLists with
  | nil => exact Iff.rfl
  | cons keyList rest ih =>
      exact and_congr_right fun _ => imp_congr same.encodable_iff (and_congr_right fun _ => ih)

section Step

variable {layout : Layout} {sqlite : Sqlite} {s : Ranking}

theorem add_honest_iff (asByte : s.game.getParamSendType rankedKey = .asByte)
    (server : ServerData) :
    (∀ sent ∈ (step layout sqlite s (.add server)).2, sent.Honest) ↔
      Vouched layout sqlite s (.add server) := by
  have same := Game.addOrUpdateServer_sameConfig sqlite s.game server
  have asByte' := (same.sendType rankedKey).trans asByte
  rw [step, Vouched]
  dsimp only
  split
  · rename_i stored
    rw [pushes_honest_iff asByte', vouchedSlots_congr same, same.subscribers]
    exact ⟨fun vouched _ _ => vouched, fun vouched => vouched stored.1 stored.2⟩
  · rename_i refused
    refine iff_of_true (fun sent mem => absurd mem List.not_mem_nil) fun checked fits => ?_
    exact absurd ⟨checked, fits⟩ refused

/-- No list calls a server ranked that is not authorised. -/
theorem list_honest (asByte : s.game.getParamSendType rankedKey = .asByte)
    (request : ServerListRequest) :
    ∀ sent ∈ (step layout sqlite s (.list request)).2, sent.Honest := by
  intro m mem
  rw [step] at mem
  split at mem
  · cases mem
  · obtain ⟨⟨server, bytes⟩, sent, rfl⟩ := List.mem_map.mp mem
    intro claimed
    obtain ⟨saved, -, rfl⟩ := List.mem_map.mp (List.of_mem_zip sent).1
    obtain ⟨-, reports⟩ := (saysRanked_iff asByte).mp claimed
    obtain ⟨ip, port⟩ := rank_endpoint (rankedServers s.rows) saved
    rw [ReportsRanked, rank_value] at reports
    have authorised : Authorised s.rows saved.publicIp saved.publicPort := by
      by_contra unlisted
      rw [decide_eq_false unlisted] at reports
      exact absurd reports.2 (by decide)
    have here : Authorised s.rows (rank (rankedServers s.rows) saved).publicIp
        (rank (rankedServers s.rows) saved).publicPort := by
      rw [ip, port]
      exact authorised
    exact here

theorem step_asByte (asByte : s.game.getParamSendType rankedKey = .asByte) (event : Event) :
    (step layout sqlite s event).1.game.getParamSendType rankedKey = .asByte := by
  cases event with
  | add server =>
      exact ((Game.addOrUpdateServer_sameConfig sqlite s.game server).sendType rankedKey).trans
        asByte
  | remove servers =>
      rw [step, Game.getParamSendType, (Game.removeServers_keeps s.game servers).1]
      exact asByte
  | database rows => exact asByte
  | list request =>
      rw [step]
      split
      · exact asByte
      · exact asByte
  | leave slot => exact asByte

/-- **No message to a browser calls a server ranked that is not authorised, exactly when
at every heartbeat the slots that run keep their names, and pushed to a browser that asked for
the flag, a server that reports itself ranked is authorised.** No list is ever forged
(`list_honest`). -/
theorem ranked_honest_iff {game : Game} (connected : Game.connect sqlite bf2Data = .ok game)
    (rows : List StatsRow) (events : List Event) :
    (∀ sent ∈ Run.outputs (step layout sqlite) ⟨game, rows⟩ events, sent.Honest) ↔
      Run.StepsMeet (step layout sqlite) (Vouched layout sqlite) ⟨game, rows⟩ events := by
  refine @Run.forall_outputs_iff _ _ _ (step layout sqlite) (Vouched layout sqlite)
    (fun s => s.game.getParamSendType rankedKey = .asByte) Sent.Honest ⟨game, rows⟩
    (ranked_asByte connected) (fun _ event asByte => step_asByte asByte event) ?_ events
  intro s event asByte
  cases event with
  | add server => exact add_honest_iff asByte server
  | list request => exact iff_of_true (list_honest asByte request) trivial
  | remove servers => exact iff_of_true (fun m mem => absurd mem List.not_mem_nil) trivial
  | database rows => exact iff_of_true (fun m mem => absurd mem List.not_mem_nil) trivial
  | leave slot => exact iff_of_true (fun m mem => absurd mem List.not_mem_nil) trivial

end Step

namespace RankedSample

open StoreSample (layout sqlite)

/-- The connected game. -/
def game : Game := (Game.connect sqlite bf2Data).toOption.getD (Game.empty bf2Data)

theorem game_connected : Game.connect sqlite bf2Data = .ok game := by
  have connects : Returns (Game.connect sqlite bf2Data) := by decide
  obtain ⟨g, connected⟩ := connects
  simp [game, connected, Except.toOption]

/-- A browser that subscribes to the flag. -/
def request : ServerListRequest := { StoreSample.request with fieldList := [rankedKey] }

/-- A server that reports itself ranked. -/
def server : ServerData where
  publicIp := ascii "192.168.0.7"
  publicPort := 16567
  data := OrdMap.emplaceAll [(rankedKey, ascii "1")] ∅

/-- Its provider is authorised. -/
def row : StatsRow := ⟨ascii "192.168.0.7", 16567, false⟩

theorem ranked_honest_authorised :
    (Run.outputs (step layout sqlite) ⟨game, [row]⟩ [.list request, .add server]).length = 1 ∧
      ∀ sent ∈ Run.outputs (step layout sqlite) ⟨game, [row]⟩ [.list request, .add server],
        sent.Honest := by
  have authorised : Authorised [row] server.publicIp server.publicPort := by decide
  have listed : (step layout sqlite ⟨game, [row]⟩ (.list request)).1.rows = [row] ∧
      (step layout sqlite ⟨game, [row]⟩ (.list request)).1.game.subscribers = [[rankedKey]] := by
    decide +kernel
  refine ⟨by decide +kernel, (ranked_honest_iff game_connected [row] _).mpr ⟨trivial, ?_, trivial⟩⟩
  intro _ _
  rw [listed.1, listed.2]
  exact ⟨by decide, fun _ => ⟨fun _ _ => authorised, trivial⟩⟩

/-- A message calls a server ranked, and there are no authorised rows. -/
def Sent.claims : Sent → Bool
  | .message m => m.rows.isEmpty && m.values.contains (rankedKey, [1])
  | .undefined => false

/-- No row authorises it. -/
theorem ranked_honest_fails_push :
    ¬ ∀ (layout : Layout) (sqlite : Sqlite) (game : Game),
      Game.connect sqlite bf2Data = .ok game → ∀ (rows : List StatsRow) (events : List Event),
        ∀ sent ∈ Run.outputs (step layout sqlite) ⟨game, rows⟩ events, sent.Honest := by
  intro claim
  have honest := claim layout sqlite game game_connected [] [.list request, .add server]
  have forged : (Run.outputs (step layout sqlite) ⟨game, []⟩ [.list request, .add server]).any
      Sent.claims = true := by decide +kernel
  obtain ⟨sent, mem, claims⟩ := List.any_eq_true.mp forged
  cases sent with
  | undefined => exact honest .undefined mem
  | message m =>
      obtain ⟨none, called⟩ := Bool.and_eq_true_iff.mp claims
      rw [List.isEmpty_iff] at none
      obtain ⟨row, inside, -⟩ := honest (.message m) mem (List.contains_iff_mem.mp called)
      rw [none] at inside
      cases inside

end RankedSample

end GamespyEmulator.BF2
