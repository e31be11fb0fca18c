import GamespyEmulator.Admin.Api

/-!
The port in a request to `/api/server`. `parseInt` reads it, and a cast cuts it down to 16
bits; `writes_exactly_iff` says for which texts the row that is written is the one the text
names, and both parsers of the emulator agree.
-/

namespace GamespyEmulator.Admin

open Wire Exec

/-! ### `parseInt` -/

/-- A text of digits only. -/
def AllDigits (str : Bytes) : Prop := ∀ c ∈ str, Numeral.isDigit c

instance : DecidablePred AllDigits := fun str =>
  inferInstanceAs (Decidable (∀ c ∈ str, Numeral.isDigit c))

/-- A decimal numeral of a number below `limit`. -/
structure NumeralBelow (limit : Nat) (str : Bytes) : Prop where
  digits : AllDigits str
  nonempty : str ≠ []
  below : Numeral.value str < limit

section Parse

variable {str : Bytes} {limit : Nat}

theorem fromChars_digits (digits : AllDigits str) :
    Numeral.fromChars limit str =
      if str.isEmpty then .invalidArgument
      else if Numeral.value str ≤ limit then .ok (Numeral.value str) []
      else .resultOutOfRange := by
  have take : str.takeWhile Numeral.isDigit = str := List.takeWhile_eq_self_iff.mpr digits
  have drop : str.dropWhile Numeral.isDigit = [] := List.dropWhile_eq_nil_iff.mpr digits
  rw [Numeral.fromChars, take, drop]

theorem fromChars_ok_rest {value : Nat} {rest : Bytes}
    (read : Numeral.fromChars limit str = .ok value rest) :
    rest = str.dropWhile Numeral.isDigit := by
  unfold Numeral.fromChars at read
  dsimp only at read
  split at read
  · cases read
  · split at read
    · cases read
      rfl
    · cases read

theorem parseInt_text (text : ¬ AllDigits str) : parseInt str = none := by
  have rest : str.dropWhile Numeral.isDigit ≠ [] := fun drop =>
    text (List.dropWhile_eq_nil_iff.mp drop)
  unfold parseInt
  split
  · rename_i read
    exact absurd (fromChars_ok_rest read).symm rest
  · rfl
  · refine if_neg fun empty => text ?_
    rw [List.isEmpty_iff.mp empty]
    intro c mem
    cases mem
  · exact if_neg fun digits => text (List.all_eq_true.mp digits)

theorem parseInt_numeral (numeral : NumeralBelow (2 ^ 32) str) :
    parseInt str = some (.set (UInt32.ofNat (Numeral.value str))) := by
  have small : Numeral.value str ≤ 4294967295 := by
    have := numeral.below
    omega
  have filled : ¬ str.isEmpty = true := by simpa using numeral.nonempty
  rw [parseInt, fromChars_digits numeral.digits, if_neg filled, if_pos small]

/-- The empty text and a number that does not fit leave the variable as it is. -/
theorem parseInt_unset (digits : AllDigits str) (large : ¬ NumeralBelow (2 ^ 32) str) :
    parseInt str = some .unset := by
  rw [parseInt, fromChars_digits digits]
  by_cases empty : str.isEmpty = true
  · rw [if_pos empty]
    exact if_pos empty
  · have far : ¬ Numeral.value str ≤ 4294967295 := fun small =>
      large ⟨digits, by simpa using empty, by omega⟩
    rw [if_neg empty, if_neg far]
    exact if_pos (List.all_eq_true.mpr digits)

theorem parseUInt32_numeral (numeral : NumeralBelow (2 ^ 32) str) :
    Utils.parseUInt32 str = some (UInt32.ofNat (Numeral.value str)) := by
  have read : Numeral.fromChars 4294967295 str = .ok (Numeral.value str) [] :=
    Numeral.fromChars_whole.mpr ⟨numeral.nonempty, numeral.digits, rfl, by
      have := numeral.below
      omega⟩
  rw [Utils.parseUInt32, read]

theorem parseUInt32_other (other : ¬ NumeralBelow (2 ^ 32) str) :
    Utils.parseUInt32 str = none := by
  unfold Utils.parseUInt32
  split
  · rename_i value read
    obtain ⟨nonempty, digits, rfl, small⟩ := Numeral.fromChars_whole.mp read
    exact absurd ⟨digits, nonempty, by omega⟩ other
  · rfl

/-- The admin's parser agrees with the other one, except on what leaves it unset. -/
theorem parse_agree_iff :
    parseInt str = (Utils.parseUInt32 str).map .set ↔
      ¬ AllDigits str ∨ NumeralBelow (2 ^ 32) str := by
  by_cases numeral : NumeralBelow (2 ^ 32) str
  · rw [parseInt_numeral numeral, parseUInt32_numeral numeral]
    exact iff_of_true rfl (.inr numeral)
  · rw [parseUInt32_other numeral]
    by_cases digits : AllDigits str
    · rw [parseInt_unset digits numeral]
      refine iff_of_false (by simp) ?_
      rintro (text | below)
      · exact text digits
      · exact numeral below
    · rw [parseInt_text digits]
      exact iff_of_true rfl (.inl digits)

end Parse

/-! ### The rows that are written -/

/-- A handler that writes no row. -/
abbrev WritesNone {A : Type} (handler : Handler A) : Prop :=
  Exec.Leaves (fun x y => y.acts = x.acts ∧ y.games = x.games) handler

theorem WritesNone.bind {A B : Type} {first : Handler A} {next : A → Handler B}
    (before : WritesNone first) (behind : ∀ a, WritesNone (next a)) :
    WritesNone (first >>= next) :=
  Leaves.bind (fun left right => ⟨right.1.trans left.1, right.2.trans left.2⟩) before behind

section Rows

variable (setting : AdminSetting) (request : ApiRequest) (name : Bytes) (game : Game)

theorem writesNone_respond (status : Status) (body : Option Json) (result : Bool) :
    WritesNone (respond setting status body result) := by
  intro x
  cases body with
  | none => exact ⟨rfl, rfl⟩
  | some json =>
      rw [exec_respond]
      split <;> exact ⟨rfl, rfl⟩

theorem writesNone_reject (message : String) : WritesNone (reject setting message) :=
  writesNone_respond setting .badRequest _ false

theorem writesNone_read (scanned : Scanned) : WritesNone (scanned.read setting) := by
  intro x
  cases scanned <;> exact ⟨rfl, rfl⟩

theorem writesNone_number (value : Bytes) : WritesNone (number setting value) := by
  unfold number
  split
  · exact fun x => ⟨rfl, rfl⟩
  · exact writesNone_read setting _

theorem writesNone_handleGames : WritesNone (handleGames setting request) := by
  unfold handleGames
  split
  · exact writesNone_reject setting _
  · exact WritesNone.bind (fun x => ⟨rfl, rfl⟩) fun x => writesNone_respond setting _ _ _

theorem writesNone_handleServers : WritesNone (handleServers setting request name game) := by
  have reads (value? : Option Bytes) (default : UInt32) :
      WritesNone (numberOr setting value? default) := by
    cases value? with
    | none => exact fun x => ⟨rfl, rfl⟩
    | some value => exact writesNone_number setting value
  unfold handleServers
  split
  · exact writesNone_reject setting _
  · have steps (statement : Bytes) : WritesNone (stepThrough setting game statement) := by
      intro x
      rw [exec_stepThrough]
      exact ⟨rfl, rfl⟩
    refine WritesNone.bind (reads _ _) fun limit => WritesNone.bind (reads _ _) fun skip =>
      WritesNone.bind (steps _) fun _ => ?_
    unfold sendServers
    split
    · exact fun x => ⟨rfl, rfl⟩
    · exact writesNone_respond setting _ _ _

/-- The parameters of a request name a row, as the code reads them. -/
structure Names (unset : UInt32) (request : ApiRequest) (key : RowKey) : Prop where
  ip : request.param? "ip" = some key.publicIp
  port : ∃ value scanned, request.param? "port" = some value ∧ parseInt value = some scanned ∧
    key.publicPort = (scanned.value unset).toUInt16

/-- An operation of a game that writes the row of `act`, or none. -/
def WritesOnly (game : Game) (act : ServerAct) (wrote : Bool) (out : Outcome) : Prop :=
  ∀ key, (wrote = true → act.key ≠ key) → out.game.table.rows[key]? = game.table.rows[key]?

theorem rows_of_not_inserted {sqlite : Sqlite} {server : ServerData}
    (refused : inserted (game.addOrUpdateServer sqlite server) = false) :
    (game.addOrUpdateServer sqlite server).game.table.rows = game.table.rows := by
  unfold Game.addOrUpdateServer at refused ⊢
  split
  · rfl
  · rename_i endpoint
    rw [if_neg endpoint] at refused
    split
    · rfl
    · rename_i columnsToAdd valuesToInsert planned
      rw [planned] at refused
      have rows := Game.addColumns_rows sqlite game columnsToAdd
      dsimp only at refused
      split
      · rename_i game' added
        rw [added] at rows
        exact rows
      · -- Behind the `INSERT` only a slot can throw.
        rename_i game' added
        rw [added] at refused
        dsimp only [inserted] at refused
        cases threw : (signal (pushMessage (game'.insertRow server valuesToInsert) server)
            (game'.insertRow server valuesToInsert).subscribers).2 with
        | none =>
            rw [threw] at refused
            cases refused
        | some e =>
            rw [threw] at refused
            cases refused

theorem addOrUpdateServer_writes (sqlite : Sqlite) (server : ServerData) :
    WritesOnly game (.add server.rowKey) (inserted (game.addOrUpdateServer sqlite server))
      (game.addOrUpdateServer sqlite server) := by
  intro key apart
  cases wrote : inserted (game.addOrUpdateServer sqlite server) with
  | false => rw [rows_of_not_inserted game wrote]
  | true =>
      rcases Game.addOrUpdateServer_rows sqlite game server with same | ⟨row, eq⟩
      · rw [same]
      · have other : server.rowKey ≠ key := apart wrote
        rw [eq, OrdMap.insert_getElem?, if_neg other]

theorem removeServers_writes (key : RowKey) :
    WritesOnly game (.remove key) true (game.removeServers [key]) := by
  intro other apart
  have rows : (game.removeServers [key]).game.table.rows = game.table.rows.erase key := by
    unfold Game.removeServers
    dsimp only
    split <;> rfl
  have ne : key ≠ other := apart rfl
  rw [rows, OrdMap.erase_getElem?, if_neg ne]

/-- What a request does to the tables: nothing, or an operation on the row it names. -/
inductive Writes (unset : UInt32) (games : GameDB) (request : ApiRequest) :
    List ServerAct → GameDB → Prop where
  | none : Writes unset games request [] games
  | row {name : Bytes} {game : Game} {act : ServerAct} {wrote : Bool} {out : Outcome}
      (known : games[name]? = some game) (asked : request.param? "game" = some name)
      (named : Names unset request act.key) (only : WritesOnly game act wrote out) :
      Writes unset games request (if wrote then [act] else []) (games.insert name out.game)

theorem carryOut_writes {games : GameDB} {act : ServerAct} {wrote : Bool} {out : Outcome}
    (known : games[name]? = some game) (asked : request.param? "game" = some name)
    (only : WritesOnly game act wrote out) (named : Names setting.unset request act.key)
    (message : String) (unset : Bool) :
    let x : Exchange := { games := games, readsUnset := unset }
    Writes setting.unset games request
      (exec (carryOut setting name act wrote out message) x).2.acts
      (exec (carryOut setting name act wrote out message) x).2.games := by
  dsimp only
  rw [exec_carryOut]
  split <;> exact .row known asked named only

theorem WritesNone.writes {handler : Handler Bool} (writesNone : WritesNone handler)
    (games : GameDB) (unset : Bool) :
    let x : Exchange := { games := games, readsUnset := unset }
    Writes setting.unset games request (exec handler x).2.acts (exec handler x).2.games := by
  dsimp only
  rw [(writesNone _).1, (writesNone _).2]
  exact .none

theorem handleServer_writes {games : GameDB} (known : games[name]? = some game)
    (asked : request.param? "game" = some name) :
    let x : Exchange := { games := games }
    Writes setting.unset games request
      (exec (handleServer setting request name game) x).2.acts
      (exec (handleServer setting request name game) x).2.games := by
  have rejects (message : String) :=
    (writesNone_reject setting message).writes setting request games
  dsimp only
  cases ipGiven : request.param? "ip" with
  | none =>
      rw [handleServer, ipGiven]
      exact rejects _ false
  | some ip =>
      cases portGiven : request.param? "port" with
      | none =>
          rw [handleServer, ipGiven, portGiven]
          exact rejects _ false
      | some value =>
          cases parsed : parseInt value with
          | none =>
              rw [handleServer, ipGiven, portGiven]
              dsimp only
              rw [parsed]
              exact rejects _ false
          | some scanned =>
              have named : Names setting.unset request
                  ⟨ip, (scanned.value setting.unset).toUInt16⟩ :=
                ⟨ipGiven, value, scanned, portGiven, parsed, rfl⟩
              rw [exec_handleServer ipGiven portGiven parsed]
              dsimp only
              split
              · exact carryOut_writes setting request name game known asked
                  (addOrUpdateServer_writes game setting.sqlite
                    (request.server ip (scanned.value setting.unset))) named _ _
              · exact carryOut_writes setting request name game known asked
                  (removeServers_writes game ⟨ip, (scanned.value setting.unset).toUInt16⟩) named
                  _ _
              · exact rejects _ _

/-- **A request works on no row but the one that its parameters name.** -/
theorem handled_writes (games : GameDB) :
    Writes setting.unset games request (handled setting games request).2.acts
      (handled setting games request).2.games := by
  have rejects (message : String) :=
    (writesNone_reject setting message).writes setting request games
  by_cases path : request.path = ascii "/api/games"
  · rw [handled, handleAPI, if_pos path]
    exact (writesNone_handleGames setting request).writes setting request games false
  · cases given : request.param? "game" with
    | none =>
        rw [handled_missing path given]
        exact rejects _ false
    | some name =>
        cases known : games[name]? with
        | none =>
            rw [handled_unknown path given known]
            exact .none
        | some game =>
            rw [handled_known path given known]
            split
            · exact (writesNone_handleServers setting request name game).writes setting request
                games false
            · split
              · exact handleServer_writes setting request name game known given
              · exact (writesNone_respond setting .notFound none false).writes setting request
                  games false

theorem acts_named (games : GameDB) :
    ∀ act ∈ (handled setting games request).2.acts, Names setting.unset request act.key := by
  intro act mem
  have writes := handled_writes setting request games
  revert mem
  generalize (handled setting games request).2.acts = acts at *
  generalize (handled setting games request).2.games = games' at *
  cases writes with
  | none => simp
  | row known asked named only =>
      split
      · intro mem
        rw [List.mem_singleton.mp mem]
        exact named
      · simp

/-- A row that a request changes is one that its parameters name. -/
theorem handled_changes (games : GameDB) {name : Bytes} {key : RowKey}
    (changed : ((handled setting games request).2.games[name]?.bind (·.table.rows[key]?)) ≠
      games[name]?.bind (·.table.rows[key]?)) :
    request.param? "game" = some name ∧ Names setting.unset request key := by
  have writes := handled_writes setting request games
  revert changed
  generalize (handled setting games request).2.acts = acts at *
  generalize (handled setting games request).2.games = games' at *
  intro changed
  cases writes with
  | none => exact absurd rfl changed
  | @row other game act wrote out known asked named only =>
      rw [OrdMap.insert_getElem?] at changed
      split at changed
      · rename_i same
        subst same
        rw [known, Option.bind_some, Option.bind_some] at changed
        have hit : act.key = key := by
          by_contra apart
          exact changed (only key fun _ => apart)
        exact ⟨asked, hit ▸ named⟩
      · exact absurd rfl changed

/-- The rows that no act is on stay as they are. -/
theorem rows_kept (games : GameDB) (name : Bytes) (key : RowKey)
    (apart : ∀ act ∈ (handled setting games request).2.acts, act.key ≠ key) :
    ((handled setting games request).2.games[name]?.bind (·.table.rows[key]?)) =
      games[name]?.bind (·.table.rows[key]?) := by
  have writes := handled_writes setting request games
  revert apart
  generalize (handled setting games request).2.acts = acts at *
  generalize (handled setting games request).2.games = games' at *
  intro apart
  cases writes with
  | none => rfl
  | @row other game act wrote out known asked named only =>
      rw [OrdMap.insert_getElem?]
      split
      · rename_i same
        have kept := only key fun wrote => apart act (by simp [wrote])
        rw [← same, known, Option.bind_some, Option.bind_some, kept]
      · rfl

end Rows

/-! ### The port that a text names -/

/-- A decimal numeral of a port. -/
structure PortNumeral (str : Bytes) (port : UInt16) : Prop where
  digits : AllDigits str
  nonempty : str ≠ []
  value : Numeral.value str = port.toNat
  positive : port ≠ 0

theorem PortNumeral.below {str : Bytes} {port : UInt16} (numeral : PortNumeral str port) :
    NumeralBelow (2 ^ 32) str := by
  have small := port.toNat_lt
  exact ⟨numeral.digits, numeral.nonempty, by
    rw [numeral.value]
    omega⟩

/-- Whatever else the request and the games are, a row is written only at the port that the
text is a numeral of. -/
def WritesExactly (str : Bytes) : Prop :=
  ∀ (setting : AdminSetting) (games : GameDB) (request : ApiRequest),
    request.param? "port" = some str → ∀ act ∈ (handled setting games request).2.acts,
      request.param? "ip" = some act.key.publicIp ∧ PortNumeral str act.key.publicPort

theorem writesExactly_text {str : Bytes} (text : ¬ AllDigits str) : WritesExactly str := by
  intro setting games request given act mem
  obtain ⟨value, scanned, same, parsed, -⟩ := (acts_named setting request games act mem).port
  cases given.symm.trans same
  rw [parseInt_text text] at parsed
  cases parsed

theorem writesExactly_port {str : Bytes} {port : UInt16} (numeral : PortNumeral str port) :
    WritesExactly str := by
  intro setting games request given act mem
  have named := acts_named setting request games act mem
  obtain ⟨value, scanned, same, parsed, eq⟩ := named.port
  cases given.symm.trans same
  rw [parseInt_numeral numeral.below] at parsed
  cases parsed
  have read : act.key.publicPort = port := by
    rw [eq, Scanned.value, numeral.value]
    have small := port.toNat_lt
    apply UInt16.toNat.inj
    rw [UInt32.toNat_toUInt16, UInt32.toNat_ofNat']
    omega
  rw [read]
  exact ⟨named.ip, numeral⟩

/-- A request to remove a server of `battlefield2`. -/
def removal (ip port : Bytes) : ApiRequest where
  method := .delete
  path := ascii "/api/server"
  params := [⟨ascii "game", some (ascii "battlefield2")⟩, ⟨ascii "ip", some ip⟩,
    ⟨ascii "port", some port⟩]

def battlefield2 : GameDB := (∅ : GameDB).insert (ascii "battlefield2") (.empty bf2Data)

theorem removal_acts {ip port : Bytes} {scanned : Scanned} (parsed : parseInt port = some scanned) :
    (handled .plain battlefield2 (removal ip port)).2.acts =
      [.remove ⟨ip, (scanned.value AdminSetting.plain.unset).toUInt16⟩] := by
  have known : battlefield2[ascii "battlefield2"]? = some (.empty bf2Data) := by
    rw [battlefield2, OrdMap.insert_getElem?, if_pos rfl]
  have path : (removal ip port).path ≠ ascii "/api/games" := by
    change ascii "/api/server" ≠ _
    decide
  have other : (removal ip port).path ≠ ascii "/api/servers" := by
    change ascii "/api/server" ≠ _
    decide
  have ipGiven : (removal ip port).param? "ip" = some ip := rfl
  have portGiven : (removal ip port).param? "port" = some port := rfl
  have server : (removal ip port).path = ascii "/api/server" := rfl
  have given : (removal ip port).param? "game" = some (ascii "battlefield2") := rfl
  rw [handled_known path given known, if_neg other, if_pos server,
    exec_handleServer ipGiven portGiven parsed]
  dsimp only [removal]
  rw [exec_carryOut]
  split <;> rfl

/-- **The row of the request is the one that is written, and the two parsers agree, exactly
for a text with another character than digits and for the numerals of ports.** -/
theorem writes_exactly_iff (str : Bytes) :
    (WritesExactly str ∧ parseInt str = (Utils.parseUInt32 str).map .set) ↔
      ¬ AllDigits str ∨ ∃ port, PortNumeral str port := by
  rw [parse_agree_iff]
  constructor
  · rintro ⟨exactly, text | numeral⟩
    · exact .inl text
    · have acts := @removal_acts (ascii "192.0.2.7") str _ (parseInt_numeral numeral)
      have written := exactly .plain battlefield2 (removal (ascii "192.0.2.7") str) rfl
      rw [acts] at written
      exact .inr ⟨_, (written _ List.mem_cons_self).2⟩
  · rintro (text | ⟨port, numeral⟩)
    · exact ⟨writesExactly_text text, .inl text⟩
    · exact ⟨writesExactly_port numeral, .inr numeral.below⟩

/-- A port beyond 16 bits removes the server at port 1. -/
theorem writes_exactly_fails_wraps :
    ¬ ∀ str : Bytes, WritesExactly str ∧ parseInt str = (Utils.parseUInt32 str).map .set := by
  intro claimed
  have acts := @removal_acts (ascii "192.0.2.7") (ascii "65537") (.set 65537) (by decide)
  have written := (claimed (ascii "65537")).1 .plain battlefield2
    (removal (ascii "192.0.2.7") (ascii "65537")) rfl
  rw [acts] at written
  have numeral := (written _ List.mem_cons_self).2
  have value : Numeral.value (ascii "65537") = 65537 := by decide
  have small := (ServerAct.remove ⟨ascii "192.0.2.7",
    ((Scanned.set 65537).value AdminSetting.plain.unset).toUInt16⟩).key.publicPort.toNat_lt
  have same := numeral.value
  omega

end GamespyEmulator.Admin
