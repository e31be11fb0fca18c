import GamespyEmulator.Sessions.Clients

/-!
A handler that nothing comes between. On a table both databases read alike, the
coroutines of `Sessions.Clients` do what the handlers of `Player.Session` and
`Player.Search` do: they leave the same table, send the same replies and end alike.
-/

namespace GamespyEmulator

open Wire Coroutine Utils

/-- The message of an action. -/
def Action.sent? : Action → Option Message
  | .send reply => some (.text reply)
  | .profile _ reply => some (.text reply)
  | .createPlayer _ => none
  | .updatePlayer _ => none
  | .undefined => none

/-- A coroutine ends as a handler does, `next` being what it returns. -/
inductive EndsLike {A : Type} (handled : Handled) (next : A) : Ended sessions A → Prop where
  | returned (quiet : handled.threw = false) : EndsLike handled next (.returned next)
  | failed (threw : handled.threw = true) : EndsLike handled next .failed
  | thrown (threw : handled.threw = true) : EndsLike handled next (.fault .thrown)
  | undefined (uses : .undefined ∈ handled.actions) : EndsLike handled next (.fault .undefined)

/-- A coroutine does what a handler does, behind the messages `before`. -/
structure Does {A : Type} (before : List Message) (handled : Handled) (next : A)
    (out : Surroundings × Ended sessions A) : Prop where
  table : out.1.table = handled.table
  sent : out.1.sent = before ++ handled.actions.filterMap Action.sent?
  ends : EndsLike handled next out.2

/-- A coroutine does what a handler does that leaves the session open. -/
structure GoesOn (before : List Message) (handled : Handled)
    (out : Surroundings × Ended sessions LoginClient) : Prop
    extends Does before handled handled.client out where
  opened : handled.closed = false

section Login

variable (emulator : Emulator) (s : Surroundings) (client : LoginClient) (packet : Bytes)

/-- A last reply: the session goes on with `next` if it can be sent. -/
theorem send_alone (bytes : Bytes) (next : LoginClient) :
    (asyncSend (.text bytes) >>= fun _ => (Coroutine.ret next : Awaitable LoginClient)).alone
        Surroundings.serve emulator s =
      ({ s with sent := s.sent ++ [.text bytes] },
        if s.reachable then .returned next else .failed) := by
  have served : s.serve (.send (.text bytes)) =
      ({ s with sent := s.sent ++ [.text bytes] }, if s.reachable then some () else none) := rfl
  cases reachable : s.reachable with
  | true =>
      rw [reachable] at served
      exact alone_served served
  | false =>
      rw [reachable] at served
      exact alone_failed served

/-- The end of a handler behind its last reply. -/
theorem send_does {handled : Handled} (bytes : Bytes) (table : handled.table = s.table)
    (sent : handled.actions.filterMap Action.sent? = [.text bytes])
    (threw : handled.threw = !s.reachable) (next : LoginClient)
    (client : s.reachable = true → handled.client = next) (opened : handled.closed = false) :
    GoesOn s.sent handled
      ((asyncSend (.text bytes) >>= fun _ => (Coroutine.ret next : Awaitable LoginClient)).alone
        Surroundings.serve emulator s) := by
  rw [send_alone]
  refine ⟨⟨table.symm, by rw [sent], ?_⟩, opened⟩
  dsimp only
  cases reachable : s.reachable with
  | true =>
      rw [← client reachable]
      exact .returned (by rw [threw, reachable]; rfl)
  | false => exact .failed (by rw [threw, reachable]; rfl)

theorem reply_does (bytes : Bytes) :
    GoesOn s.sent (client.reply s.table s.reachable bytes)
      ((LoginClient.Suspending.reply client bytes).alone Surroundings.serve emulator s) :=
  send_does emulator s bytes rfl rfl rfl client (fun _ => rfl) rfl

/-- A stored row that is read alike gives the same player. -/
theorem getPlayerByName_alike {name : Bytes} (alike : ∀ row ∈ s.table.rows, ReadsAlike row)
    (found : PlayerDBSQLite.hasPlayer s.table name = true) :
    ∃ player, PlayerDBSQLite.getPlayerByName s.table name = some player ∧
      PlayerDBMySQL.getPlayerByName s.table name = .returned (some player) := by
  cases named : s.table.byName name with
  | nil => simp [PlayerDBSQLite.hasPlayer, named] at found
  | cons row rest =>
      have inside : row ∈ s.table.rows :=
        List.mem_of_mem_filter (named ▸ List.mem_cons_self : row ∈ s.table.byName name)
      obtain ⟨⟨email, mailed, free⟩, password, country⟩ := alike row inside
      refine ⟨_, by rw [PlayerDBSQLite.getPlayerByName, named]; rfl, ?_⟩
      simp [PlayerDBMySQL.getPlayerByName, named, PlayerDBMySQL.front, PlayerDBMySQL.asString,
        PlayerDBSQLite.columnText, mailed, cstr_eq_self free, cstr_eq_self password,
        cstr_eq_self country]

theorem hasPlayer_alone {A : Type} (name : Bytes) (next : Bool → Awaitable A) :
    (PlayerDBMySQL.Suspending.hasPlayer name >>= next).alone Surroundings.serve emulator s =
      (next (PlayerDBSQLite.hasPlayer s.table name)).alone Surroundings.serve emulator s :=
  rfl

theorem getPlayerByName_alone {A : Type} {name : Bytes} {player : PlayerData}
    (read : PlayerDBMySQL.getPlayerByName s.table name = .returned (some player))
    (next : Option PlayerData → Awaitable A) :
    (PlayerDBMySQL.Suspending.getPlayerByName name >>= next).alone Surroundings.serve emulator s =
      (next (some player)).alone Surroundings.serve emulator s := by
  change ((PlayerDBMySQL.getPlayerByName s.table name).await >>= next).alone Surroundings.serve
    emulator s = _
  rw [read]
  rfl

theorem handleLogin_does (alike : ∀ row ∈ s.table.rows, ReadsAlike row) :
    GoesOn s.sent (client.handleLogin s.table packet s.reachable)
      ((LoginClient.Suspending.handleLogin client packet).alone Surroundings.serve emulator s) := by
  unfold LoginClient.handleLogin LoginClient.Suspending.handleLogin
  split
  · exact ⟨⟨rfl, by simp [alone], .returned rfl⟩, rfl⟩
  · generalize LoginClient.loginName packet = named
    generalize valueForKey packet (ascii "\\challenge\\") = challenged
    generalize valueForKey packet (ascii "\\response\\") = responded
    cases named with
    | none => exact reply_does emulator s client _
    | some name =>
        cases challenged with
        | none => exact reply_does emulator s client _
        | some challenge =>
            cases responded with
            | none => exact reply_does emulator s client _
            | some response =>
                dsimp only
                split
                · exact reply_does emulator s client _
                · rw [hasPlayer_alone]
                  split
                  · exact reply_does emulator s client _
                  · rename_i found
                    rw [Bool.not_eq_true, Bool.not_eq_false'] at found
                    obtain ⟨player, stored, read⟩ := getPlayerByName_alike s alike found
                    rw [stored, getPlayerByName_alone emulator s read]
                    dsimp only
                    split
                    · exact reply_does emulator s client _
                    · refine send_does emulator s _ rfl rfl rfl _ (fun reachable => ?_) rfl
                      exact if_pos reachable

theorem createPlayer_alone {A : Type} (player : PlayerData) (next : PlayerData → Awaitable A) :
    (PlayerDBMySQL.Suspending.createPlayer player >>= next).alone Surroundings.serve emulator s =
      match PlayerDBSQLite.createPlayer s.table player with
      | none => (s, .failed)
      | some (table, player) =>
          (next player).alone Surroundings.serve emulator { s with table := table } := by
  have created : PlayerDBMySQL.Suspending.createPlayer player >>= next =
      .await (.prepare .players (Operation.createPlayer player).statement) fun _ =>
        .await (.execute (.createPlayer player)) fun (id : UInt64) =>
          next { player with id := id } := rfl
  have prepared : s.serve (.prepare .players (Operation.createPlayer player).statement) =
      (s, some ()) := rfl
  rw [created, alone_served prepared, PlayerDBSQLite.createPlayer]
  cases inserted : s.table.insert player with
  | none =>
      have failed : s.serve (.execute (.createPlayer player)) = (s, none) := by
        simp [Surroundings.serve, inserted]
      exact alone_failed failed
  | some out =>
      have served : s.serve (.execute (.createPlayer player)) =
          ({ s with table := out.1 }, some out.2) := by
        simp [Surroundings.serve, inserted]
      exact alone_served served

theorem handleNewUser_does :
    GoesOn s.sent (client.handleNewUser s.table packet s.reachable)
      ((LoginClient.Suspending.handleNewUser client packet).alone Surroundings.serve emulator s) := by
  unfold LoginClient.handleNewUser LoginClient.Suspending.handleNewUser
  split
  · exact reply_does emulator s client _
  · generalize valueForKey packet (ascii "\\email\\") = mailed
    generalize valueForKey packet (ascii "\\nick\\") = named
    generalize valueForKey packet (ascii "\\passwordenc\\") = encoded
    match mailed, named, encoded with
    | none, _, _ => exact reply_does emulator s client _
    | some _, none, _ => exact reply_does emulator s client _
    | some _, some _, none => exact reply_does emulator s client _
    | some email, some nick, some passwordEnc =>
        dsimp only
        rw [hasPlayer_alone]
        split
        · exact reply_does emulator s client _
        · cases passdecode passwordEnc with
          | none => exact ⟨⟨rfl, by simp [alone], .thrown rfl⟩, rfl⟩
          | some password =>
              dsimp only
              split
              · exact reply_does emulator s client _
              · split
                · exact reply_does emulator s client _
                · rw [createPlayer_alone]
                  cases PlayerDBSQLite.createPlayer s.table
                      { name := nick, email := email, password := Md5.md5 password
                        country := ascii "??" } with
                  | none => exact ⟨⟨rfl, by simp, .failed rfl⟩, rfl⟩
                  | some out =>
                      exact send_does emulator { s with table := out.1 } _ rfl rfl rfl _ (fun _ => rfl) rfl

theorem handleGetProfile_does :
    GoesOn s.sent (client.handleGetProfile s.table packet s.reachable)
      ((LoginClient.Suspending.handleGetProfile client packet).alone Surroundings.serve emulator
        s) := by
  unfold LoginClient.handleGetProfile LoginClient.Suspending.handleGetProfile
  cases numberForKey packet (ascii "\\id\\") with
  | none => exact reply_does emulator s client _
  | some requestId =>
      dsimp only
      split
      · exact reply_does emulator s client _
      · cases client.playerData with
        | none => exact ⟨⟨rfl, by simp [alone, Action.sent?], .undefined List.mem_cons_self⟩, rfl⟩
        | some player =>
            exact send_does emulator s _ rfl rfl rfl _ (fun _ => rfl) rfl

theorem handleUpdateProfile_does :
    GoesOn s.sent (client.handleUpdateProfile s.table packet s.reachable)
      ((LoginClient.Suspending.handleUpdateProfile client packet).alone Surroundings.serve emulator
        s) := by
  unfold LoginClient.handleUpdateProfile LoginClient.Suspending.handleUpdateProfile
  split
  · exact reply_does emulator s client _
  · cases valueForKey packet (ascii "\\countrycode\\") with
    | none => exact ⟨⟨rfl, by simp [alone], .returned rfl⟩, rfl⟩
    | some countryCode =>
        cases client.playerData with
        | none => exact ⟨⟨rfl, by simp [alone, Action.sent?], .undefined List.mem_cons_self⟩, rfl⟩
        | some player => exact ⟨⟨rfl, (List.append_nil _).symm, .returned rfl⟩, rfl⟩

/-- The session behind a handler. -/
def Handled.next? (handled : Handled) : Option LoginClient :=
  if handled.closed then none else some handled.client

theorem GoesOn.dispatched {before : List Message} {handled : Handled} {t : Awaitable LoginClient}
    (goesOn : GoesOn before handled (t.alone Surroundings.serve emulator s)) :
    Does before handled handled.next? ((some <$> t).alone Surroundings.serve emulator s) := by
  have run : (some <$> t).alone Surroundings.serve emulator s = _ :=
    alone_bind t fun client => (.ret (some client) : Awaitable (Option LoginClient))
  have next : handled.next? = some handled.client := by
    rw [Handled.next?, goesOn.opened]
    rfl
  obtain ⟨⟨table, sent, ends⟩, -⟩ := goesOn
  rw [run, next]
  revert table sent ends
  generalize t.alone Surroundings.serve emulator s = out
  obtain ⟨state, ended⟩ := out
  intro table sent ends
  cases ends with
  | returned quiet => exact ⟨table, sent, .returned quiet⟩
  | failed threw => exact ⟨table, sent, .failed threw⟩
  | thrown threw => exact ⟨table, sent, .thrown threw⟩
  | undefined uses => exact ⟨table, sent, .undefined uses⟩

/-- **Undisturbed, a login coroutine does what the handler of `Player.Session` does.** -/
theorem login_alone (alike : ∀ row ∈ s.table.rows, ReadsAlike row) :
    Does s.sent (client.handle s.table packet s.reachable)
      (client.handle s.table packet s.reachable).next?
      ((LoginClient.Suspending.handle client packet).alone Surroundings.serve emulator s) := by
  unfold LoginClient.handle LoginClient.Suspending.handle
  split
  · exact (handleLogin_does emulator s client packet alike).dispatched
  · split
    · exact (handleNewUser_does emulator s client packet).dispatched
    · split
      · exact (handleGetProfile_does emulator s client packet).dispatched
      · split
        · exact (handleUpdateProfile_does emulator s client packet).dispatched
        · split
          · exact ⟨rfl, (List.append_nil _).symm, .returned rfl⟩
          · exact (reply_does emulator s client _).dispatched

end Login

section Search

variable (emulator : Emulator) (s : Surroundings) (packet : Bytes)

theorem getPlayerByMailAndPassword_alone {A : Type} (email password : Bytes)
    (alike : ∀ row ∈ s.table.rows, ReadsAlike row ∧ NulFree row.name)
    (next : List PlayerData → Awaitable A) :
    (PlayerDBMySQL.Suspending.getPlayerByMailAndPassword email password >>= next).alone
        Surroundings.serve emulator s =
      (next (PlayerDBSQLite.getPlayerByMailAndPassword s.table email password)).alone
        Surroundings.serve emulator s := by
  have agree : AnswersAgree s.table (.getPlayerByMailAndPassword email password) := by
    intro row mem
    have inside : row ∈ s.table.rows := List.mem_of_mem_filter mem
    exact ⟨(alike row inside).2, (alike row inside).1.country⟩
  have same := getPlayerByMailAndPassword_agree.mpr agree
  simp only [PlayerDBSQLite.run, PlayerDBMySQL.run, Ending.returned.injEq,
    Answer.players.injEq] at same
  rw [same]
  rfl

theorem findNicks_alone (digest : Bytes) (digested : SearchClient.passwordMD5 packet = some digest)
    (alike : ∀ row ∈ s.table.rows, ReadsAlike row ∧ NulFree row.name) :
    (SearchClient.Suspending.handleSearchNicks packet).alone Surroundings.serve emulator s =
      (SearchClient.Suspending.send (SearchClient.findNicks s.table packet digest)).alone
        Surroundings.serve emulator s := by
  unfold SearchClient.Suspending.handleSearchNicks SearchClient.findNicks
  rw [digested]
  cases valueForKey packet (ascii "\\email\\") with
  | none => rfl
  | some email =>
      dsimp only
      split
      · rfl
      · rw [getPlayerByMailAndPassword_alone emulator s _ _ alike]
        split <;> rfl

theorem handleSearchNicks_eq (table : PlayerTable) :
    SearchClient.handleSearchNicks table packet =
      match SearchClient.passwordMD5 packet with
      | none => .threw
      | some digest => SearchClient.findNicks table packet digest := by
  unfold SearchClient.handleSearchNicks SearchClient.passwordMD5
  cases valueForKey packet (ascii "\\pass\\") with
  | some pass => rfl
  | none =>
      cases valueForKey packet (ascii "\\passenc\\") with
      | none => rfl
      | some passEnc =>
          dsimp only
          split
          · rfl
          · cases passdecode passEnc <;> rfl

theorem handleSearchNicks_alone
    (alike : ∀ row ∈ s.table.rows, ReadsAlike row ∧ NulFree row.name) :
    (SearchClient.Suspending.handleSearchNicks packet).alone Surroundings.serve emulator s =
      (SearchClient.Suspending.send (SearchClient.handleSearchNicks s.table packet)).alone
        Surroundings.serve emulator s := by
  rw [handleSearchNicks_eq]
  cases digested : SearchClient.passwordMD5 packet with
  | none =>
      unfold SearchClient.Suspending.handleSearchNicks
      rw [digested]
      rfl
  | some digest => exact findNicks_alone emulator s packet digest digested alike

theorem handleProfileExists_alone
    (alike : ∀ row ∈ s.table.rows, ReadsAlike row ∧ NulFree row.name) :
    (SearchClient.Suspending.handleProfileExists packet).alone Surroundings.serve emulator s =
      (SearchClient.Suspending.send (SearchClient.handleProfileExists s.table packet)).alone
        Surroundings.serve emulator s := by
  unfold SearchClient.Suspending.handleProfileExists SearchClient.handleProfileExists
  unfold SearchClient.profileName
  dsimp only
  split
  · rfl
  · rw [hasPlayer_alone]
    split
    · rename_i found
      obtain ⟨player, stored, read⟩ :=
        getPlayerByName_alike s (fun row mem => (alike row mem).1) found
      rw [stored, getPlayerByName_alone emulator s read]
    · rename_i missing
      rw [PlayerDBSQLite.hasPlayer, decide_eq_true_eq, Nat.not_lt, Nat.le_zero,
        List.length_eq_zero_iff] at missing
      rw [PlayerDBSQLite.getPlayerByName, missing]
      rfl

/-- **Undisturbed, a search coroutine sends the reply of `Player.Search`.** -/
theorem search_alone (alike : ∀ row ∈ s.table.rows, ReadsAlike row ∧ NulFree row.name) :
    (SearchClient.Suspending.handle packet).alone Surroundings.serve emulator s =
      (SearchClient.Suspending.send (SearchClient.handle s.table packet)).alone Surroundings.serve
        emulator s := by
  unfold SearchClient.Suspending.handle SearchClient.handle
  split
  · exact handleSearchNicks_alone emulator s packet alike
  · split
    · exact handleProfileExists_alone emulator s packet alike
    · rfl

end Search

end GamespyEmulator
