import GamespyEmulator.Sessions.Operations

/-!
The prepared statements of the two databases. `async_prepare_statement` opens one on the
server, and only an explicit close of it, or closing or resetting the connection, releases
it. Each call of `PlayerDBMySQL` and `BF2::GetServers` prepares anew and closes nothing.

`statements_kept_iff` says which calls leave the number of open statements as they found
it, and `statements_count` how many a run leaves.
-/

namespace GamespyEmulator

open Wire Coroutine

/-- A call on one of the two connections. -/
inductive DatabaseCall where
  | player (operation : Operation)
  | getServers (sqlite : Sqlite) (game : Game) (hasParams : Bool) (query : Bytes)
      (fields : List Bytes) (limit skip : Nat)

/-- The coroutine of a call, with its result left out. -/
def DatabaseCall.run : DatabaseCall → Awaitable Unit
  | .player operation => do
      let _ ← PlayerDBMySQL.Suspending.run operation
      return ()
  | .getServers sqlite game hasParams query fields limit skip => do
      let _ ← BF2.Suspending.getServers sqlite game hasParams query fields limit skip
      return ()

/-- The number of statements that are open on each connection. -/
abbrev OpenStatements := Database → Nat

/-- The statements that are open behind an operation that completes or fails. -/
def OpenStatements.behind (statements : OpenStatements) :
    SessionOperation → (completes : Bool) → OpenStatements
  | .prepare database _, true => Function.update statements database (statements database + 1)
  | _, _ => statements

section Server

-- What answers the operations of a call: the two servers, and the network before them.
variable {T : Type} (serve : T → (operation : SessionOperation) → T × Option operation.Result)
  (emulator : Emulator)

/-- The answer to an operation, with the statements counted. -/
def counting (s : T × OpenStatements) (operation : SessionOperation) :
    (T × OpenStatements) × Option operation.Result :=
  let (state, result) := serve s.1 operation
  ((state, s.2.behind operation result.isSome), result)

/-- A call, and how it ends. -/
def DatabaseCall.step (s : T × OpenStatements) (call : DatabaseCall) :
    (T × OpenStatements) × List (Ended sessions Unit) :=
  let (s, ended) := call.run.alone (counting serve) emulator s
  (s, [ended])

/-- What a call prepares. -/
def DatabaseCall.statement? : DatabaseCall → Option (Database × Bytes)
  | .player operation => some (.players, operation.statement)
  | .getServers sqlite game hasParams query fields limit skip =>
      if BF2.asksStats hasParams (BF2.listed sqlite game query fields limit skip) then
        some (.stats, BF2.statsStatement)
      else none

/-- A call prepares nothing, or the server refuses what it prepares. -/
def DatabaseCall.OpensNone (state : T) (call : DatabaseCall) : Prop :=
  ∀ database statement, call.statement? = some (database, statement) →
    (serve state (.prepare database statement)).2 = none

/-! ### One call -/

/-- An operation that opens no statement. -/
def SessionOperation.OpensNone : SessionOperation → Prop
  | .prepare _ _ => False
  | _ => True

/-- What follows the statement of a player operation opens no other. -/
theorem player_run (operation : Operation) :
    ∃ rest : Unit → Awaitable Unit, (DatabaseCall.player operation).run =
        .await (.prepare .players operation.statement) rest ∧
      (rest ()).Performs SessionOperation.OpensNone := by
  have ends {A B : Type} (read : Ending A) (f : A → B) :
      (read.await >>= fun a => Coroutine.ret (f a) : Awaitable B).Performs
        SessionOperation.OpensNone := by
    cases read <;> trivial
  cases operation with
  | hasPlayer name => exact ⟨_, rfl, trivial, fun _ => trivial⟩
  | getPlayerByName name =>
      exact ⟨_, rfl, trivial, fun _ => (ends _ Answer.player).bind fun _ => trivial⟩
  | getPlayerByPID pid =>
      exact ⟨_, rfl, trivial, fun _ => (ends _ Answer.player).bind fun _ => trivial⟩
  | getPlayerByMailAndPassword email password => exact ⟨_, rfl, trivial, fun _ => trivial⟩
  | createPlayer player => exact ⟨_, rfl, trivial, fun _ => trivial⟩
  | updatePlayer player => exact ⟨_, rfl, trivial, fun _ => trivial⟩

theorem getServers_run (sqlite : Sqlite) (game : Game) (query : Bytes) (fields : List Bytes)
    (limit skip : Nat) (hasParams : Bool) :
    let call := DatabaseCall.getServers sqlite game hasParams query fields limit skip
    if BF2.asksStats hasParams (BF2.listed sqlite game query fields limit skip) then
      ∃ rest : Unit → Awaitable Unit,
        call.run = .await (.prepare .stats BF2.statsStatement) rest ∧
          (rest ()).Performs SessionOperation.OpensNone
    else call.run = .ret () := by
  dsimp only
  rw [DatabaseCall.run, BF2.Suspending.getServers]
  split
  · exact ⟨_, rfl, trivial, fun _ => trivial⟩
  · rfl

/-- A coroutine that opens no statement leaves as many open. -/
theorem statements_eq {t : Awaitable Unit} (opensNone : t.Performs SessionOperation.OpensNone)
    (s : T × OpenStatements) : (t.alone (counting serve) emulator s).1.2 = s.2 := by
  have kept : ∀ (s' : T × OpenStatements) (operation : SessionOperation), operation.OpensNone →
      s'.2 = s.2 → (counting serve s' operation).1.2 = s.2 := by
    intro s' operation opensNone same
    cases operation with
    | prepare database statement => exact opensNone.elim
    | _ => exact same
  exact @Performs.alone_invariant sessions _ _ (counting serve) emulator s _ t
    (fun s' => s'.2 = s.2) kept opensNone rfl

/-- Behind a call that begins with a statement, that one is open if the server took it. -/
theorem statements_prepared {call : DatabaseCall} {database : Database} {statement : Bytes}
    {rest : Unit → Awaitable Unit} (run : call.run = .await (.prepare database statement) rest)
    (opensNone : (rest ()).Performs SessionOperation.OpensNone) (s : T × OpenStatements) :
    (call.step serve emulator s).1.2 = s.2.behind (.prepare database statement)
      (serve s.1 (.prepare database statement)).2.isSome := by
  cases served : serve s.1 (.prepare database statement) with
  | mk state result =>
      have counted : counting serve s (.prepare database statement) =
          ((state, s.2.behind (.prepare database statement) result.isSome), result) := by
        rw [counting, served]
      rw [DatabaseCall.step, run]
      cases result with
      | none => rw [alone_failed counted]
      | some _ =>
          rw [alone_served counted]
          exact statements_eq serve emulator opensNone _

/-- **A call opens the statement it prepares, and closes none.** -/
theorem statements_step (s : T × OpenStatements) (call : DatabaseCall) :
    (call.step serve emulator s).1.2 =
      match call.statement? with
      | none => s.2
      | some (database, statement) => s.2.behind (.prepare database statement)
          (serve s.1 (.prepare database statement)).2.isSome := by
  cases call with
  | player operation =>
      obtain ⟨rest, run, opensNone⟩ := player_run operation
      exact statements_prepared serve emulator run opensNone s
  | getServers sqlite game hasParams query fields limit skip =>
      have runs := getServers_run sqlite game query fields limit skip hasParams
      rw [DatabaseCall.statement?]
      split at runs <;> rename_i asks
      · obtain ⟨rest, run, opensNone⟩ := runs
        rw [if_pos asks]
        exact statements_prepared serve emulator run opensNone s
      · rw [if_neg asks, DatabaseCall.step, runs]
        rfl

theorem behind_eq_iff {statements : OpenStatements} {database : Database} {statement : Bytes}
    {completes : Bool} :
    statements.behind (.prepare database statement) completes = statements ↔
      completes = false := by
  cases completes with
  | false => exact iff_of_true rfl rfl
  | true =>
      refine iff_of_false (fun same => ?_) (by decide)
      have more := congrFun same database
      rw [OpenStatements.behind, Function.update_self] at more
      omega

theorem step_keeps_iff (s : T × OpenStatements) (call : DatabaseCall) :
    (call.step serve emulator s).1.2 = s.2 ↔ call.OpensNone serve s.1 := by
  rw [statements_step, DatabaseCall.OpensNone]
  cases call.statement? with
  | none => simp
  | some prepared =>
      obtain ⟨database, statement⟩ := prepared
      dsimp only
      rw [behind_eq_iff, Option.isSome_eq_false_iff, Option.isNone_iff_eq_none]
      constructor
      · rintro refused _ _ ⟨⟩
        exact refused
      · intro refused
        exact refused database statement rfl

/-! ### Over a run -/

/-- **Every call of a run leaves the statements as it found them exactly when each prepares
nothing or is refused.** -/
theorem statements_kept_iff (start : T × OpenStatements) (calls : List DatabaseCall) :
    (∀ front, front <+: calls →
        (Run.final (DatabaseCall.step serve emulator) start front).2 = start.2) ↔
      Run.StepsMeet (DatabaseCall.step serve emulator)
        (fun s call => call.OpensNone serve s.1) start calls := by
  refine @Run.always_iff _ _ _ (DatabaseCall.step serve emulator) _ (fun _ _ => True)
    (fun _ _ => True) (fun _ s => s.2 = start.2) start trivial rfl (fun _ _ _ _ => trivial) ?_
    calls (Run.stepsMeet_true calls)
  intro past call _ same _
  rw [← step_keeps_iff serve emulator, same]

/-- Where the server takes every statement, a run leaves one open for each call that
prepares. -/
theorem statements_count (takes : ∀ state database statement,
      (serve state (.prepare database statement)).2 = some ())
    (start : T × OpenStatements) (database : Database) (calls : List DatabaseCall) :
    (Run.final (DatabaseCall.step serve emulator) start calls).2 database =
      start.2 database +
        calls.countP fun call => (call.statement?.map Prod.fst) = some database := by
  induction calls generalizing start with
  | nil => rfl
  | cons call calls ih =>
      rw [Run.final_cons, ih, statements_step, List.countP_cons]
      cases prepares : call.statement? with
      | none => simp
      | some prepared =>
          obtain ⟨database', statement⟩ := prepared
          have opened : (start.2.behind (.prepare database' statement) true) database =
              start.2 database + if database' = database then 1 else 0 := by
            by_cases same : database' = database
            · subst same
              simp [OpenStatements.behind]
            · simp [OpenStatements.behind, same, Ne.symm same]
          simp only [takes, Option.isSome_some, opened, Option.map_some, Option.some.injEq,
            decide_eq_true_eq]
          omega

end Server

/-- A player is looked up once, and the statement stays open. -/
theorem statements_kept_fails_lookup :
    ¬ ∀ (T : Type) (serve : T → (operation : SessionOperation) → T × Option operation.Result)
      (emulator : Emulator) (start : T × OpenStatements) (calls : List DatabaseCall),
      ∀ front, front <+: calls →
        (Run.final (DatabaseCall.step serve emulator) start front).2 = start.2 := by
  intro claimed
  have kept := claimed Surroundings Surroundings.serve ⟨.empty, false, 0⟩
    (⟨.created, [], true⟩, fun _ => 0) [.player (.hasPlayer (ascii "marine"))] _
    (List.prefix_refl _)
  have counted := @statements_count _ Surroundings.serve ⟨.empty, false, 0⟩ (fun _ _ _ => rfl)
    (⟨.created, [], true⟩, fun _ => 0) .players [.player (.hasPlayer (ascii "marine"))]
  rw [kept] at counted
  revert counted
  decide

end GamespyEmulator
