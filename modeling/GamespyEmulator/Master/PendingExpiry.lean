import GamespyEmulator.Master.LostReplies

/-!
What the expiry of a pending entry does. One loop body of `Cleanup` serves both maps: it
deletes the row of the endpoint from the entry's game and signals its removal, although
a pending entry has no row of its own. `pending_expiry_iff` says when nobody notices.
-/

namespace GamespyEmulator

open Wire Run

/-! ### One removal -/

namespace Game

theorem signal_constant (bytes : Bytes) (keyLists : List (List Bytes)) :
    signal (fun _ => .ok bytes) keyLists = (keyLists.map fun _ => bytes, none) := by
  induction keyLists with
  | nil => rfl
  | cons keyList rest ih => simp [signal, ih]

/-- The removal of an endpoint's row is announced to every slot. -/
theorem removeServers_queued (game : Game) (client : Endpoint) :
    (game.removeServers [client.rowKey]).queued =
      game.subscribers.map fun _ => [0x04, 0, 6] ++ (toBytes client.address ++ be16 client.port) := by
  have message : deleteMessage client.rowKey.publicIp client.rowKey.publicPort =
      .ok ([0x04, 0, 6] ++ (toBytes client.address ++ be16 client.port)) := by
    simp [deleteMessage, addressBytes, Endpoint.rowKey, Except.map]
  rw [removeServers]
  dsimp only
  rw [message, signal_constant]
  simp [removeServers]

/-- The removal of a row leaves the table exactly when there was none. -/
theorem removeServers_table_iff (game : Game) (key : RowKey) :
    (game.removeServers [key]).game.table = game.table ↔ key ∉ game.table.rows := by
  constructor
  · intro same mem
    rw [← same, mem_removeServers_singleton] at mem
    exact mem.1 rfl
  · intro absent
    have rows : game.table.rows.erase key = game.table.rows := by
      apply OrdMap.ext_some
      intro k row
      rw [OrdMap.erase_eq_some]
      refine and_iff_right_of_imp fun held same => ?_
      exact absent (OrdMap.mem_iff.mpr ⟨row, same ▸ held⟩)
    rw [removeServers_singleton, rows]

end Game

namespace MasterServer

/-! ### One turn of the loop -/

/-- The body of the loop in `Cleanup` for an expired entry. -/
def expireEntry (st : OrdMap Endpoint ServerEntry × GameDB) (e : Endpoint × ServerEntry) :
    OrdMap Endpoint ServerEntry × GameDB :=
  (st.1.erase e.1, st.2.update e.2.gamename fun game => (game.removeServers [e.1.rowKey]).game)

/-- What `OnServerRemoved` queues for browsers in that turn. -/
def expiryMessages (db : GameDB) (e : Endpoint × ServerEntry) : List Bytes :=
  (db[e.2.gamename]?.map fun game => (game.removeServers [e.1.rowKey]).queued).getD []

/-- A pass over a map takes one turn for each expired entry. -/
theorem expire_turns (now : Int) (servers : OrdMap Endpoint ServerEntry) (db : GameDB) :
    expire now servers db =
      (servers.toList.filter fun e => expired now e.2).foldl expireEntry (servers, db) := by
  suffices turns : ∀ (entries : List (Endpoint × ServerEntry))
      (st : OrdMap Endpoint ServerEntry × GameDB),
      (entries.filter fun e => expired now e.2).foldl expireEntry st =
        (OrdMap.eraseAll (fun e => expired now e.2) entries st.1,
          entries.foldl (fun db e =>
            if expired now e.2 then db.update e.2.gamename fun game =>
              (game.removeServers [e.1.rowKey]).game
            else db) st.2) from (turns servers.toList (servers, db)).symm
  intro entries
  induction entries with
  | nil => exact fun st => rfl
  | cons e rest ih =>
      intro st
      simp only [OrdMap.eraseAll, List.foldl_cons] at ih ⊢
      by_cases dead : expired now e.2 = true
      · rw [List.filter_cons, if_pos dead, List.foldl_cons, ih, if_pos dead, if_pos dead]
        rfl
      · rw [List.filter_cons, if_neg dead, ih, if_neg dead, if_neg dead]

/-- The turn for a pending entry. -/
def expirePending (s : MasterServer) (e : Endpoint × ServerEntry) : MasterServer :=
  let st := expireEntry (s.awaitingValidation, s.db) e
  { s with awaitingValidation := st.1, db := st.2 }

/-- The pending entry goes, and nothing else is changed or signalled. -/
structure ExpiresUnseen (s : MasterServer) (e : Endpoint × ServerEntry) : Prop where
  gone : e.1 ∉ (s.expirePending e).awaitingValidation
  others : ∀ other, other ≠ e.1 →
    (s.expirePending e).awaitingValidation[other]? = s.awaitingValidation[other]?
  validated : (s.expirePending e).validated = s.validated
  tables : ∀ gamename : Bytes, ((s.expirePending e).db[gamename]?.map (·.table)) =
    s.db[gamename]?.map (·.table)
  silent : expiryMessages s.db e = []

section Expiry

variable {s : MasterServer} {e : Endpoint × ServerEntry} {game : Game}

theorem expirePending_tables_iff (known : s.db[e.2.gamename]? = some game) :
    (∀ gamename : Bytes, ((s.expirePending e).db[gamename]?.map (·.table)) =
      s.db[gamename]?.map (·.table)) ↔ e.1.rowKey ∉ game.table.rows := by
  rw [← Game.removeServers_table_iff]
  constructor
  · intro tables
    have table := tables e.2.gamename
    rw [expirePending, expireEntry, GameDB.update_getElem?, if_pos rfl, known] at table
    exact Option.some.inj table
  · intro same gamename
    rw [expirePending, expireEntry, GameDB.update_getElem?]
    split
    · rename_i named
      rw [← named, known]
      exact congrArg some same
    · rfl

theorem expiresUnseen_iff (known : s.db[e.2.gamename]? = some game) :
    s.ExpiresUnseen e ↔ e.1.rowKey ∉ game.table.rows ∧ game.subscribers = [] := by
  have messages : expiryMessages s.db e = [] ↔ game.subscribers = [] := by
    rw [expiryMessages, known, Option.map_some, Option.getD_some, Game.removeServers_queued,
      List.map_eq_nil_iff]
  constructor
  · intro unseen
    exact ⟨(expirePending_tables_iff known).mp unseen.tables, messages.mp unseen.silent⟩
  · rintro ⟨rowless, unsubscribed⟩
    refine ⟨?_, ?_, rfl, (expirePending_tables_iff known).mpr rowless, messages.mpr unsubscribed⟩
    · simp [expirePending, expireEntry]
    · intro other different
      rw [expirePending, expireEntry, OrdMap.erase_getElem?, if_neg (Ne.symm different)]

end Expiry

end MasterServer

namespace Machine

variable {sqlite : Sqlite} {start : Machine}

/-- **A pending entry expires unseen exactly when its game has no row at the endpoint and no
browser is subscribed to it**, in every reachable state. -/
theorem pending_expiry_iff (initial : start.Initial) (events : List Event) {client : Endpoint}
    {entry : ServerEntry}
    (held : (final (step sqlite) start events).server.awaitingValidation[client]? = some entry) :
    ∃ game, (final (step sqlite) start events).server.db[entry.gamename]? = some game ∧
      ((final (step sqlite) start events).server.ExpiresUnseen (client, entry) ↔
        client.rowKey ∉ game.table.rows ∧ game.subscribers = []) := by
  have challenged := @challenged_run sqlite start initial events
  obtain ⟨text, key, -, secret, -⟩ := challenged.latest client entry held
  rw [← challenged.secretKeys] at secret
  obtain ⟨game, known⟩ := OrdMap.mem_iff.mp (GameDB.mem_iff_secretKey?.mpr ⟨key, secret⟩)
  exact ⟨game, known, MasterServer.expiresUnseen_iff known⟩

end Machine

namespace MasterSample

open Machine

/-- The endpoint's row, added through the admin API. -/
def adminServer : ServerData := { publicIp := client.rowKey.publicIp, publicPort := 6500, data := ∅ }

def adminRun : List Machine.Event :=
  [.datagram first true, .background (.addServer (ascii "gmtest") adminServer)]

theorem pending_expiry_handshake :
    (final (step sqlite) start [.datagram first true]).server.ExpiresUnseen (client, entry) := by
  have state : final (step sqlite) start [.datagram first true] = pending := by
    rw [final_cons, start_first]
    rfl
  have held : (final (step sqlite) start [.datagram first true]).server.awaitingValidation[client]? =
      some entry := by
    rw [state]
    rfl
  obtain ⟨game, known, exact'⟩ := pending_expiry_iff start_initial [.datagram first true] held
  refine exact'.mpr ?_
  rw [state] at known
  have same : pending.server.db[entry.gamename]? = some gmtest := rfl
  rw [same] at known
  rw [← Option.some.inj known]
  exact ⟨by decide, rfl⟩

/-- The expiry of the pending entry takes the row of the admin API along. -/
theorem pending_expiry_fails_admin :
    ¬ ∀ (sqlite : Sqlite) (start : Machine), start.Initial →
      ∀ (events : List Event) (client : Endpoint) (entry : ServerEntry),
        (final (step sqlite) start events).server.awaitingValidation[client]? = some entry →
        client ∉ (final (step sqlite) start events).server.validated →
        (final (step sqlite) start events).server.ExpiresUnseen (client, entry) := by
  intro claimed
  have state : final (step sqlite) start adminRun =
      (pending.step sqlite (.background (.addServer (ascii "gmtest") adminServer))).1 := by
    rw [adminRun, final_cons, start_first]
    rfl
  have unseen := claimed sqlite start start_initial adminRun client entry
    (by rw [state]; decide) (by rw [state]; decide)
  have table := unseen.tables (ascii "gmtest")
  rw [state] at table
  have rows := congrArg (Option.map fun table : Table => decide (client.rowKey ∈ table.rows)) table
  revert rows
  decide

end MasterSample

end GamespyEmulator
