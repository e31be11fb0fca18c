import GamespyEmulator.Admin.Port
import GamespyEmulator.Master.StoredGames

/-!
Which requests `HandleAPI` answers. The handler tests for null pointers and empty
optionals, while `GetGame` and the operations of a game throw, and `parseInt` leaves its
variable unset. `answered_iff` says which requests are answered by one response all the
same.
-/

namespace GamespyEmulator.Admin

open Wire Exec Fallible

/-! ### What an answer is -/

/-- A number in a request that is none. -/
def Unparsable (request : ApiRequest) (name : String) : Prop :=
  ∃ value, request.param? name = some value ∧ Utils.parseUInt32 value = none

/-- The request asks for an unknown game, or with a number that is none. -/
structure IsBad (games : GameDB) (request : ApiRequest) : Prop where
  path : request.path ≠ ascii "/api/games"
  bad : (∃ name, request.param? "game" = some name ∧ games[name]? = none) ∨
    (request.path = ascii "/api/servers" ∧
      (Unparsable request "limit" ∨ Unparsable request "skip")) ∨
    (request.path = ascii "/api/server" ∧ Unparsable request "port")

/-- The handler sends one response and returns, and it reads nothing that is not set. -/
structure Answered (games : GameDB) (request : ApiRequest)
    (result : Except Fault Bool × Exchange) : Prop where
  returned : ∃ value, result.1 = .ok value
  set : result.2.readsUnset = false
  response : ∃ response, result.2.responses = [response] ∧
    (IsBad games request → response.status = .badRequest)

/-! ### The texts of a response -/

theorem array_isUtf8_iff {items : List Json} :
    (Json.array items).IsUtf8 ↔ ∀ item ∈ items, item.IsUtf8 := by
  unfold Json.IsUtf8
  rw [Json.texts]
  induction items with
  | nil => simp [Json.itemTexts]
  | cons item rest ih =>
      rw [Json.itemTexts, List.forall_mem_append, ih, List.forall_mem_cons]

theorem object_isUtf8_iff {members : List (Bytes × Json)} :
    (Json.object members).IsUtf8 ↔ ∀ entry ∈ members, IsUtf8 entry.1 ∧ entry.2.IsUtf8 := by
  unfold Json.IsUtf8
  rw [Json.texts]
  induction members with
  | nil => simp [Json.memberTexts]
  | cons entry rest ih =>
      obtain ⟨name, value⟩ := entry
      rw [Json.memberTexts, List.forall_mem_cons, List.forall_mem_append, ih,
        List.forall_mem_cons, and_assoc]

@[simp] theorem text_isUtf8_iff {value : Bytes} : (Json.text value).IsUtf8 ↔ IsUtf8 value := by
  simp [Json.IsUtf8, Json.texts]

@[simp] theorem number_isUtf8 (value : Nat) : (Json.number value).IsUtf8 := by
  simp [Json.IsUtf8, Json.texts]

/-- The texts that `/api/games` sends. -/
def GamesUtf8 (setting : AdminSetting) (games : GameDB) : Prop :=
  ∀ (name : Bytes) (game : Game), games[name]? = some game →
    IsUtf8 game.data.name ∧ ∀ key ∈ game.data.keys,
      let texts := setting.texts game.data.name key.name
      IsUtf8 key.name ∧ IsUtf8 texts.type ∧ IsUtf8 texts.label ∧ IsUtf8 texts.description

theorem gamesJson_isUtf8_iff {setting : AdminSetting} {games : GameDB} :
    (gamesJson setting games).IsUtf8 ↔ GamesUtf8 setting games := by
  have keys (game : Game) (key : GameKey) : (keyJson setting game key).IsUtf8 ↔
      let texts := setting.texts game.data.name key.name
      IsUtf8 key.name ∧ IsUtf8 texts.type ∧ IsUtf8 texts.label ∧ IsUtf8 texts.description := by
    rw [keyJson, object_isUtf8_iff]
    simp only [List.forall_mem_cons, isUtf8_ascii, text_isUtf8_iff, true_and]
    simp only [List.not_mem_nil, false_implies, implies_true, and_true]
    tauto
  rw [gamesJson, array_isUtf8_iff, List.forall_mem_map, GamesUtf8]
  simp only [Prod.forall, OrdMap.mem_toList, object_isUtf8_iff, List.forall_mem_cons, isUtf8_ascii,
    array_isUtf8_iff, List.forall_mem_map, keys, text_isUtf8_iff, true_and, List.not_mem_nil,
    false_implies, implies_true, and_true]
  refine forall_congr' fun name => forall_congr' fun game => forall_congr' fun held => ?_
  exact and_comm

/-- The texts that `/api/servers` sends of a server: its members `ip` and `port` replace
those of its data. -/
def ServerUtf8 (server : SavedServer) : Prop :=
  IsUtf8 server.publicIp ∧ ∀ (key value : Bytes), server.data[key]? = some value →
    key ≠ ascii "ip" → key ≠ ascii "port" → IsUtf8 key ∧ IsUtf8 value

theorem serverJson_isUtf8_iff {server : SavedServer} :
    (serverJson server).IsUtf8 ↔ ServerUtf8 server := by
  have apart : ascii "port" ≠ ascii "ip" := by decide
  rw [serverJson, object_isUtf8_iff, ServerUtf8]
  simp only [Prod.forall, OrdMap.mem_toList, OrdMap.insert_getElem?]
  constructor
  · intro each
    refine ⟨?_, fun key value held notIp notPort => ?_⟩
    · have own := each (ascii "ip") (.text server.publicIp) (by
        rw [if_neg apart, if_pos rfl])
      exact text_isUtf8_iff.mp own.2
    · have own := each key (.text value) (by
        rw [if_neg notPort.symm, if_neg notIp.symm, Std.ExtTreeMap.getElem?_map, held]
        rfl)
      exact ⟨own.1, text_isUtf8_iff.mp own.2⟩
  · rintro ⟨ip, data⟩ key json held
    split at held
    · rename_i isPort
      cases held
      rw [← isPort]
      exact ⟨isUtf8_ascii _, number_isUtf8 _⟩
    · rename_i notPort
      split at held
      · rename_i isIp
        cases held
        rw [← isIp]
        exact ⟨isUtf8_ascii _, text_isUtf8_iff.mpr ip⟩
      · rename_i notIp
        rw [Std.ExtTreeMap.getElem?_map, Option.map_eq_some_iff] at held
        obtain ⟨value, held, rfl⟩ := held
        obtain ⟨keyUtf8, valueUtf8⟩ := data key value held (Ne.symm notIp) (Ne.symm notPort)
        exact ⟨keyUtf8, text_isUtf8_iff.mpr valueUtf8⟩

/-! ### The requests that are answered -/

/-- A parameter that is absent, or a numeral that a `std::uint32_t` holds. -/
def NumeralOrAbsent (request : ApiRequest) (name : String) : Prop :=
  ∀ value, request.param? name = some value → NumeralBelow (2 ^ 32) value

/-- The number of such a parameter. -/
def numeralOr (value? : Option Bytes) (default : UInt32) : UInt32 :=
  match value? with
  | none => default
  | some value => UInt32.ofNat (Numeral.value value)

section Conditions

variable (setting : AdminSetting) (request : ApiRequest) (name : Bytes) (game : Game)

/-- The numbers of a request to `/api/servers` are numerals, no step through its statement
fails, the stats database answers, and what is listed is UTF-8. -/
structure Lists : Prop where
  limit : NumeralOrAbsent request "limit"
  skip : NumeralOrAbsent request "skip"
  steps : setting.sqlite.fails game.table
    (BF2.selectedText name ((request.param? "query").getD []) request.fields
      (numeralOr (request.param? "limit") 100).toNat
      (numeralOr (request.param? "skip") 0).toNat) = false
  listed : ∃ servers, setting.getServers name game ((request.param? "query").getD [])
      request.fields (numeralOr (request.param? "limit") 100).toNat
      (numeralOr (request.param? "skip") 0).toNat = some servers ∧
    ∀ server ∈ servers, ServerUtf8 server

/-- The port of a request to `/api/server` is a numeral, and the game takes the server or
tells its browsers of the removal. -/
structure Takes (ip value : Bytes) : Prop where
  port : NumeralBelow (2 ^ 32) value
  add : request.method = .post →
    game.Accepts setting.sqlite (request.server ip (UInt32.ofNat (Numeral.value value)))
  remove : request.method = .delete → game.subscribers ≠ [] → (makeAddressV4 ip).isSome

/-- The requests about a known game that are answered. A port with another character than
digits is refused. -/
structure AnswerableOf : Prop where
  lists : request.path = ascii "/api/servers" → request.method = .get →
    Lists setting request name game
  takes : request.path = ascii "/api/server" → ∀ ip value, request.param? "ip" = some ip →
    request.param? "port" = some value → AllDigits value → Takes setting request game ip value

/-- The requests that are answered. One without a game is refused. -/
structure Answerable (games : GameDB) : Prop where
  utf8 : request.path = ascii "/api/games" → request.method = .get → GamesUtf8 setting games
  known : request.path ≠ ascii "/api/games" → ∀ name, request.param? "game" = some name →
    ∃ game, games[name]? = some game ∧ AnswerableOf setting request name game

end Conditions

section Answers

variable {setting : AdminSetting} {games : GameDB} {request : ApiRequest} {name : Bytes}
  {game : Game}

theorem answered_reject (message : String) :
    Answered games request (exec (reject setting message) { games := games }) := by
  rw [exec_reject]
  exact ⟨⟨_, rfl⟩, rfl, _, rfl, fun _ => rfl⟩

/-- A variable that was not set has been read. -/
theorem not_answered {result : Except Fault Bool × Exchange}
    (unset : result.2.readsUnset = true) : ¬ Answered games request result := by
  intro answered
  rw [answered.set] at unset
  cases unset

theorem not_answered_threw (e : Fault) (x : Exchange) :
    ¬ Answered games request (.error e, x) := by
  intro answered
  obtain ⟨value, returned⟩ := answered.returned
  cases returned

/-- A response to a request that is not bad. -/
theorem answered_respond_iff (good : ¬ IsBad games request) (status : Status) (json : Json) :
    Answered games request (exec (respond setting status (some json) true) { games := games }) ↔
      json.IsUtf8 := by
  rw [exec_respond]
  split
  · rename_i utf8
    exact iff_of_true ⟨⟨_, rfl⟩, rfl, _, rfl, fun bad => absurd bad good⟩ utf8
  · rename_i broken
    exact iff_of_false (not_answered_threw _ _) broken

theorem answered_carryOut_iff (good : ¬ IsBad games request) (act : ServerAct) (wrote : Bool)
    (out : Outcome) (message : String) :
    Answered games request
        (exec (carryOut setting name act wrote out message) { games := games }) ↔
      out.exception = none := by
  rw [exec_carryOut]
  split
  · rename_i returns
    exact iff_of_true ⟨⟨_, rfl⟩, rfl, _, rfl, fun bad => absurd bad good⟩ returns
  · rename_i throws
    exact iff_of_false (not_answered_threw _ _) throws

theorem servers_ne_server : ascii "/api/servers" ≠ ascii "/api/server" := by decide

/-! ### One server -/

theorem removeServers_returns {key : RowKey} :
    (game.removeServers [key]).exception = none ↔
      (game.subscribers ≠ [] → (makeAddressV4 key.publicIp).isSome) := by
  have completes : (signal (fun _ => deleteMessage key.publicIp key.publicPort)
      game.subscribers).2 = none ↔
        (game.subscribers ≠ [] → (makeAddressV4 key.publicIp).isSome) := by
    rw [signal_completes, deleteMessage, returns_map, addressBytes_returns]
    constructor
    · intro each some'
      obtain ⟨keyList, mem⟩ := List.exists_mem_of_ne_nil _ some'
      exact each keyList mem
    · intro address keyList mem
      exact address (List.ne_nil_of_mem mem)
  rw [← completes, Game.removeServers]
  dsimp only
  split
  · rename_i queued e threw
    rw [threw]
    simp
  · rename_i queued quiet
    rw [quiet]
    simp [Game.removeServers]

/-- A known game is not unknown. -/
theorem not_unknown (given : request.param? "game" = some name)
    (known : games[name]? = some game) :
    ¬ ∃ name, request.param? "game" = some name ∧ games[name]? = none := by
  rintro ⟨name', given', unknown⟩
  cases given.symm.trans given'
  rw [known] at unknown
  cases unknown

theorem not_isBad_server (path : request.path = ascii "/api/server")
    (given : request.param? "game" = some name) (known : games[name]? = some game)
    {value : Bytes} (portGiven : request.param? "port" = some value)
    (numeral : NumeralBelow (2 ^ 32) value) : ¬ IsBad games request := by
  rintro ⟨-, unknown | ⟨servers, -⟩ | ⟨-, value', given', none⟩⟩
  · exact not_unknown given known unknown
  · exact absurd (servers.symm.trans path) servers_ne_server
  · cases portGiven.symm.trans given'
    rw [parseUInt32_numeral numeral] at none
    cases none

/-- With a numeral for a port, the game decides. -/
theorem handleServer_numeral_iff (path : request.path = ascii "/api/server")
    (given : request.param? "game" = some name) (known : games[name]? = some game)
    {ip value : Bytes} (ipGiven : request.param? "ip" = some ip)
    (portGiven : request.param? "port" = some value) (numeral : NumeralBelow (2 ^ 32) value) :
    Answered games request (exec (handleServer setting request name game) { games := games }) ↔
      Takes setting request game ip value := by
  have good := not_isBad_server path given known portGiven numeral
  rw [exec_handleServer ipGiven portGiven (parseInt_numeral numeral)]
  dsimp only [Scanned.value]
  cases method : request.method with
  | post =>
      refine (answered_carryOut_iff good _ _ _ _).trans ?_
      rw [Game.addOrUpdateServer_accepts]
      constructor
      · intro accepts
        refine ⟨numeral, fun _ => accepts, fun other => ?_⟩
        rw [method] at other
        cases other
      · exact fun takes => takes.add method
  | delete =>
      refine (answered_carryOut_iff good _ _ _ _).trans ?_
      rw [removeServers_returns]
      constructor
      · intro returns
        refine ⟨numeral, fun other => ?_, fun _ => returns⟩
        rw [method] at other
        cases other
      · exact fun takes => takes.remove method
  | _ =>
      refine iff_of_true (answered_reject _) ⟨numeral, ?_, ?_⟩
      · intro other
        rw [method] at other
        cases other
      · intro other
        rw [method] at other
        cases other

theorem handleServer_unset {ip value : Bytes} (ipGiven : request.param? "ip" = some ip)
    (portGiven : request.param? "port" = some value) (digits : AllDigits value)
    (large : ¬ NumeralBelow (2 ^ 32) value) :
    ¬ Answered games request
      (exec (handleServer setting request name game) { games := games }) := by
  apply not_answered
  rw [exec_handleServer ipGiven portGiven (parseInt_unset digits large)]
  dsimp only
  split
  · rw [exec_carryOut]
    split <;> rfl
  · rw [exec_carryOut]
    split <;> rfl
  · rw [exec_reject]
    rfl

theorem handleServer_answered_iff (path : request.path = ascii "/api/server")
    (given : request.param? "game" = some name) (known : games[name]? = some game) :
    Answered games request (exec (handleServer setting request name game) { games := games }) ↔
      ∀ ip value, request.param? "ip" = some ip → request.param? "port" = some value →
        AllDigits value → Takes setting request game ip value := by
  cases ipGiven : request.param? "ip" with
  | none =>
      rw [handleServer, ipGiven]
      exact iff_of_true (answered_reject _) fun ip value absent => by cases absent
  | some ip =>
      cases portGiven : request.param? "port" with
      | none =>
          rw [handleServer, ipGiven, portGiven]
          exact iff_of_true (answered_reject _) fun ip value _ absent => by cases absent
      | some value =>
          have only : (∀ ip' value', some ip = some ip' → some value = some value' →
                AllDigits value' → Takes setting request game ip' value') ↔
              (AllDigits value → Takes setting request game ip value) := by
            constructor
            · exact fun each => each ip value rfl rfl
            · rintro takes _ _ ⟨⟩ ⟨⟩
              exact takes
          rw [only]
          by_cases digits : AllDigits value
          · rw [forall_prop_of_true digits]
            by_cases numeral : NumeralBelow (2 ^ 32) value
            · exact handleServer_numeral_iff path given known ipGiven portGiven numeral
            · exact iff_of_false (handleServer_unset ipGiven portGiven digits numeral)
                fun takes => numeral takes.port
          · rw [handleServer, ipGiven, portGiven]
            dsimp only
            rw [parseInt_text digits]
            exact iff_of_true (answered_reject _) fun all => absurd all digits

/-! ### The list of servers -/

/-- A handler that does not undo the reading of an unset variable. -/
abbrev KeepsUnset {A : Type} (handler : Handler A) : Prop :=
  Exec.Leaves (fun x y => x.readsUnset = true → y.readsUnset = true) handler

theorem KeepsUnset.bind {A B : Type} {first : Handler A} {next : A → Handler B}
    (before : KeepsUnset first) (behind : ∀ a, KeepsUnset (next a)) :
    KeepsUnset (first >>= next) :=
  Leaves.bind (fun left right unset => right (left unset)) before behind

theorem keepsUnset_respond (status : Status) (json : Json) (result : Bool) :
    KeepsUnset (respond setting status (some json) result) := by
  intro x unset
  rw [exec_respond]
  split <;> exact unset

theorem keepsUnset_sendServers (servers? : Option (List SavedServer)) :
    KeepsUnset (sendServers setting servers?) := by
  cases servers? with
  | none => exact fun x unset => unset
  | some servers => exact keepsUnset_respond _ _ _

theorem keepsUnset_stepThrough (statement : Bytes) :
    KeepsUnset (stepThrough setting game statement) := by
  intro x unset
  rw [exec_stepThrough, unset]
  rfl

theorem keepsUnset_numberOr (value? : Option Bytes) (default : UInt32) :
    KeepsUnset (numberOr setting value? default) := by
  intro x unset
  cases value? with
  | none => exact unset
  | some value =>
      rw [numberOr, number]
      cases parseInt value with
      | none => exact unset
      | some scanned =>
          dsimp only
          rw [exec_read, unset]
          rfl

theorem exec_numberOr {value? : Option Bytes}
    (numeral : ∀ value, value? = some value → NumeralBelow (2 ^ 32) value) (default : UInt32)
    (x : Exchange) :
    exec (numberOr setting value? default) x = (.ok (numeralOr value? default), x) := by
  cases value? with
  | none => rfl
  | some value =>
      rw [numberOr, number, parseInt_numeral (numeral value rfl)]
      rfl

/-- Neither a text nor an unset variable gives an answer. -/
theorem numberOr_not_answered {key : String} (other : ¬ NumeralOrAbsent request key)
    (default : UInt32) {next : UInt32 → Handler Bool} (keeps : ∀ a, KeepsUnset (next a))
    (x : Exchange) :
    ¬ Answered games request
      (exec (numberOr setting (request.param? key) default >>= next) x) := by
  simp only [NumeralOrAbsent, not_forall] at other
  obtain ⟨value, held, other⟩ := other
  rw [exec_bind, held, numberOr, number]
  by_cases digits : AllDigits value
  · rw [parseInt_unset digits other]
    exact not_answered (keeps _ _ rfl)
  · rw [parseInt_text digits]
    exact not_answered_threw _ _

theorem not_isBad_servers (path : request.path = ascii "/api/servers")
    (given : request.param? "game" = some name) (known : games[name]? = some game)
    (limit : NumeralOrAbsent request "limit") (skip : NumeralOrAbsent request "skip") :
    ¬ IsBad games request := by
  rintro ⟨-, unknown | ⟨-, ⟨value, held, none⟩ | ⟨value, held, none⟩⟩ | ⟨server, -⟩⟩
  · exact not_unknown given known unknown
  · rw [parseUInt32_numeral (limit value held)] at none
    cases none
  · rw [parseUInt32_numeral (skip value held)] at none
    cases none
  · exact absurd (path.symm.trans server) servers_ne_server

theorem handleServers_answered_iff (path : request.path = ascii "/api/servers")
    (given : request.param? "game" = some name) (known : games[name]? = some game) :
    Answered games request (exec (handleServers setting request name game) { games := games }) ↔
      (request.method = .get → Lists setting request name game) := by
  unfold handleServers
  split
  · rename_i method
    exact iff_of_true (answered_reject _) fun get => absurd get method
  · rename_i method
    have get : request.method = .get := not_not.mp method
    rw [forall_prop_of_true get]
    dsimp only
    by_cases limit : NumeralOrAbsent request "limit"
    swap
    · refine iff_of_false ?_ fun lists => limit lists.limit
      exact numberOr_not_answered limit 100
        (fun _ => KeepsUnset.bind (keepsUnset_numberOr _ _) fun _ =>
          KeepsUnset.bind (keepsUnset_stepThrough _) fun _ => keepsUnset_sendServers _) _
    rw [exec_bind, exec_numberOr limit]
    dsimp only
    by_cases skip : NumeralOrAbsent request "skip"
    swap
    · refine iff_of_false ?_ fun lists => skip lists.skip
      exact numberOr_not_answered skip 0 (fun _ =>
        KeepsUnset.bind (keepsUnset_stepThrough _) fun _ => keepsUnset_sendServers _) _
    rw [exec_bind, exec_numberOr skip]
    dsimp only
    rw [exec_bind, exec_stepThrough]
    dsimp only
    cases steps : setting.sqlite.fails game.table (BF2.selectedText name
        ((request.param? "query").getD []) request.fields
        (numeralOr (request.param? "limit") 100).toNat
        (numeralOr (request.param? "skip") 0).toNat) with
    | true =>
        refine iff_of_false (not_answered (keepsUnset_sendServers _ _ rfl)) fun lists => ?_
        rw [lists.steps] at steps
        cases steps
    | false =>
        rw [Bool.or_false]
        cases listed : setting.getServers name game ((request.param? "query").getD [])
            request.fields (numeralOr (request.param? "limit") 100).toNat
            (numeralOr (request.param? "skip") 0).toNat with
        | none =>
            refine iff_of_false (not_answered_threw _ _) fun lists => ?_
            obtain ⟨servers, found, -⟩ := lists.listed
            rw [listed] at found
            cases found
        | some servers =>
            have good := not_isBad_servers path given known limit skip
            refine (answered_respond_iff good _ _).trans ?_
            rw [array_isUtf8_iff, List.forall_mem_map]
            simp only [serverJson_isUtf8_iff]
            constructor
            · exact fun utf8 => ⟨limit, skip, steps, servers, listed, utf8⟩
            · intro lists
              obtain ⟨servers', found, utf8⟩ := lists.listed
              cases listed.symm.trans found
              exact utf8

/-! ### Every request -/

theorem answerable_known_iff (path : request.path ≠ ascii "/api/games")
    (given : request.param? "game" = some name) (known : games[name]? = some game) :
    Answerable setting request games ↔ AnswerableOf setting request name game := by
  constructor
  · intro answerable
    obtain ⟨game', found, answers⟩ := answerable.known path name given
    cases known.symm.trans found
    exact answers
  · intro answers
    refine ⟨fun same => absurd same path, fun _ name' given' => ?_⟩
    cases given.symm.trans given'
    exact ⟨game, known, answers⟩

theorem handled_known_answered_iff (given : request.param? "game" = some name)
    (known : games[name]? = some game) :
    Answered games request (exec
        (if request.path = ascii "/api/servers" then handleServers setting request name game
          else if request.path = ascii "/api/server" then handleServer setting request name game
          else respond setting .notFound none false) { games := games }) ↔
      AnswerableOf setting request name game := by
  split
  · rename_i servers
    rw [handleServers_answered_iff servers given known]
    constructor
    · refine fun lists => ⟨fun _ => lists, fun server => ?_⟩
      exact absurd (servers.symm.trans server) servers_ne_server
    · exact fun answers => answers.lists servers
  · rename_i servers
    split
    · rename_i server
      rw [handleServer_answered_iff server given known]
      exact ⟨fun takes => ⟨fun same => absurd same servers, fun _ => takes⟩,
        fun answers => answers.takes server⟩
    · rename_i server
      rw [exec_respond_none]
      refine iff_of_true ⟨⟨_, rfl⟩, rfl, _, rfl, fun isBad => ?_⟩
        ⟨fun same => absurd same servers, fun same => absurd same server⟩
      rcases isBad.bad with unknown | ⟨same, -⟩ | ⟨same, -⟩
      · exact absurd unknown (not_unknown given known)
      · exact absurd same servers
      · exact absurd same server

/-- With all keys at hand, a request is answered exactly when it is `Answerable`. -/
theorem handled_answered_iff (setting : AdminSetting) (games : GameDB) (request : ApiRequest) :
    Answered games request (handled setting games request) ↔ Answerable setting request games := by
  by_cases path : request.path = ascii "/api/games"
  · rw [handled, handleAPI, if_pos path, handleGames]
    have good : ¬ IsBad games request := fun bad => bad.path path
    split
    · rename_i method
      refine iff_of_true (answered_reject _) ⟨fun _ get => absurd get method, ?_⟩
      exact fun other => absurd path other
    · rename_i method
      have get : request.method = .get := not_not.mp method
      rw [exec_bind, exec_get]
      refine (answered_respond_iff good _ _).trans ?_
      rw [gamesJson_isUtf8_iff]
      constructor
      · exact fun utf8 => ⟨fun _ _ => utf8, fun other => absurd path other⟩
      · exact fun answerable => answerable.utf8 path get
  cases given : request.param? "game" with
  | none =>
      rw [handled_missing path given]
      refine iff_of_true (answered_reject _) ⟨fun same => absurd same path, ?_⟩
      intro _ name absent
      rw [given] at absent
      cases absent
  | some name =>
      cases known : games[name]? with
      | none =>
          rw [handled_unknown path given known]
          refine iff_of_false (not_answered_threw _ _) fun answerable => ?_
          obtain ⟨game, found, -⟩ := answerable.known path name given
          rw [known] at found
          cases found
      | some game =>
          rw [handled_known path given known, answerable_known_iff path given known]
          exact handled_known_answered_iff given known

/-! ### Keys as they are stored -/

/-- The games, with their keys as they are stored. -/
structure StoredGames where
  games : GameDB
  storages : OrdMap Bytes KeyStorage
  stored : ∀ (name : Bytes) (game : Game), games[name]? = some game →
    ∃ storage, storages[name]? = some storage ∧ StoredGame.Stored ⟨game, storage⟩

/-- The call of `AddOrUpdateServer` that a request comes to, if the emulator has its game. -/
def ApiRequest.addition (unset : UInt32) (request : ApiRequest) : Option Addition :=
  if request.path = ascii "/api/server" ∧ request.method = .post then
    match request.param? "game", request.param? "ip", request.param? "port" with
    | some name, some ip, some value =>
        (parseInt value).map fun scanned =>
          ⟨name, request.server ip (scanned.value unset)⟩
    | _, _, _ => none
  else none

/-- A request, with the keys as they are stored; there is nothing behind a call that reads what
is lost. -/
def handledStored (setting : AdminSetting) (layout : Layout) (state : StoredGames)
    (request : ApiRequest) : Option (Except Fault Bool × Exchange) :=
  match request.addition setting.unset with
  | none => some (handled setting state.games request)
  | some addition =>
      match state.games.stored? state.storages addition.gamename with
      | none => some (handled setting state.games request)
      | some stored => (stored.addOrUpdateServer layout setting.sqlite addition.server).map fun _ =>
          handled setting state.games request

/-- The call of a request, if there is one, reads nothing that is lost. -/
def ReadsKeys (setting : AdminSetting) (layout : Layout) (state : StoredGames)
    (request : ApiRequest) : Prop :=
  ∀ addition ∈ request.addition setting.unset,
    ∀ stored ∈ state.games.stored? state.storages addition.gamename,
      stored.Defined layout setting.sqlite addition.server

theorem StoredGames.stored? (state : StoredGames) {name : Bytes} {stored : StoredGame}
    (found : state.games.stored? state.storages name = some stored) : stored.Stored := by
  unfold GameDB.stored? at found
  split at found
  · rename_i game storage known held
    cases found
    obtain ⟨storage', held', here⟩ := state.stored name game known
    cases held.symm.trans held'
    exact here
  · cases found

/-- **A request is answered exactly when it is `Answerable` and its call reads no key or name
that is lost.** -/
theorem answered_iff (setting : AdminSetting) (layout : Layout) (state : StoredGames)
    (request : ApiRequest) :
    (∃ result, handledStored setting layout state request = some result ∧
        Answered state.games request result) ↔
      Answerable setting request state.games ∧ ReadsKeys setting layout state request := by
  rw [← handled_answered_iff, handledStored]
  cases called : request.addition setting.unset with
  | none =>
      have reads : ReadsKeys setting layout state request := by
        intro addition mem
        rw [called] at mem
        cases mem
      simp [reads]
  | some addition =>
      dsimp only
      cases found : state.games.stored? state.storages addition.gamename with
      | none =>
          have reads : ReadsKeys setting layout state request := by
            intro other mem stored held
            cases called.symm.trans mem
            rw [found] at held
            cases held
          simp [reads]
      | some stored =>
          have reads : ReadsKeys setting layout state request ↔
              stored.Defined layout setting.sqlite addition.server := by
            constructor
            · exact fun each => each addition called stored found
            · intro defined other mem stored' held
              cases called.symm.trans mem
              cases found.symm.trans held
              exact defined
          dsimp only
          rw [StoredGame.addOrUpdateServer_eq (state.stored? found), reads]
          by_cases defined : stored.Defined layout setting.sqlite addition.server
          · simp [defined]
          · simp [defined]

end Answers

/-- The sample game alone, with room for eight keys. -/
def gmtest : StoredGames where
  games := (∅ : GameDB).insert (ascii "gmtest") StoreSample.game
  storages := (∅ : OrdMap Bytes KeyStorage).insert (ascii "gmtest")
    (StoredGame.connected StoreSample.game 8 (by decide)).storage
  stored := by
    intro name game known
    rcases OrdMap.insert_eq_some.mp known with ⟨rfl, rfl⟩ | ⟨-, absent⟩
    · refine ⟨_, by rw [OrdMap.insert_getElem?, if_pos rfl], ?_⟩
      exact (StoredGame.connected_intact StoreSample.connected 8 (by decide)).stored
    · simp at absent

/-- A game that the emulator does not have. -/
theorem answered_fails_unknown :
    ¬ ∀ (setting : AdminSetting) (layout : Layout) (state : StoredGames) (request : ApiRequest),
      ∃ result, handledStored setting layout state request = some result ∧
        Answered state.games request result := by
  intro claimed
  obtain ⟨result, ends, answered⟩ := claimed .plain StoreSample.layout gmtest
    ⟨.get, ascii "/api/servers", [⟨ascii "game", some (ascii "gmtest2")⟩]⟩
  have unknown : gmtest.games[ascii "gmtest2"]? = none := by
    have apart : ascii "gmtest" ≠ ascii "gmtest2" := by decide
    rw [gmtest, OrdMap.insert_getElem?, if_neg apart]
    rfl
  have path : ascii "/api/servers" ≠ ascii "/api/games" := by decide
  cases ends
  rw [handled_unknown path rfl unknown] at answered
  exact not_answered_threw _ _ answered

end GamespyEmulator.Admin
