import GamespyEmulator.Master.StoredGames

/-!
The receive coroutine and the others, interleaved at the sends. A handler that sends is
suspended until its send completes; the loop receives the next datagram only when its
handler has returned, and other coroutines run in between. `receive_resume` shows that
with nothing in between the two halves are one step of `Machine`.

`HandleChallenge` holds an iterator to its pending entry across the send. The entry is
there when the handler comes back if no cleanup pass expired it (`pending_survives`);
nothing refreshes it or keeps the pass away. Its endpoint gets its row if, moreover, the game
takes the server and no call of `AddOrUpdateServer` reads keys or names that are lost.
-/

namespace GamespyEmulator

open Wire Run

/-- The master server with the handler that waits for its send. -/
structure Interleaved where
  machine : Machine
  suspended : Option (Reply × Continuation)

namespace Interleaved

/-- One turn of the scheduler: the loop receives, the send of the suspended handler
completes, or another coroutine runs. -/
inductive Turn where
  | receive (d : Datagram)
  | resume (sent : Bool)
  | background (b : Background)

def step (sqlite : Sqlite) (i : Interleaved) : Turn → Interleaved × List Reply
  | .receive d =>
      match i.suspended with
      | some _ => (i, [])
      | none =>
          let out := i.machine.receive sqlite d
          (⟨out.1, out.2⟩, out.2.toList.map Prod.fst)
  | .resume sent =>
      (⟨{ i.machine with server := i.machine.server.resume sqlite i.suspended sent }, none⟩, [])
  | .background b =>
      ({ i with machine := { i.machine with server := i.machine.server.background sqlite b } }, [])

/-- Nothing in between: the two turns of a datagram are its step. -/
theorem receive_resume (sqlite : Sqlite) (m : Machine) (d : Datagram) (sent : Bool) :
    final (step sqlite) ⟨m, none⟩ [.receive d, .resume sent] =
      ⟨(m.step sqlite (.datagram d sent)).1, none⟩ := rfl

/-- The call of a turn. -/
def addition (i : Interleaved) : Turn → Option Addition
  | .receive d => if i.suspended.isSome then none else i.machine.receiveAddition d
  | .resume sent => i.machine.server.resumeAddition i.suspended sent
  | .background b => b.addition

theorem step_registry (sqlite : Sqlite) (i : Interleaved) (turn : Turn) :
    (i.step sqlite turn).1.machine.server.db.keyStorage? =
      (i.machine.server.db.add sqlite (i.addition turn)).keyStorage? := by
  cases turn with
  | receive d =>
      unfold step addition
      cases i.suspended with
      | some next => rfl
      | none => exact congrArg GameDB.keyStorage? (Machine.receive_db sqlite i.machine d).1
  | resume sent =>
      exact congrArg GameDB.keyStorage? (MasterServer.resume_db sqlite i.machine.server i.suspended sent)
  | background b => exact MasterServer.background_registry sqlite i.machine.server b

def system (sqlite : Sqlite) : GameSystem sqlite Interleaved Turn Reply where
  step := step sqlite
  db i := i.machine.server.db
  addition := addition
  registry := step_registry sqlite

/-- The entry the suspended handler's iterator points to. -/
def iterator (i : Interleaved) : Option (Endpoint × ServerEntry) :=
  match i.suspended with
  | some (_, .register client entry) => some (client, entry)
  | _ => none

/-- A cleanup pass does not expire the entry of a suspended handler. -/
def Spares (i : Interleaved) : Turn → Prop
  | .background (.cleanup now) => ∀ held ∈ i.iterator, MasterServer.expired now held.2 = false
  | _ => True

instance (i : Interleaved) (turn : Turn) : Decidable (Spares i turn) := by
  unfold Spares; split <;> infer_instance

/-- The iterator's entry is in the map, and pending entries are of known games. -/
structure Intact (i : Interleaved) : Prop where
  known : i.machine.server.Known
  pending : ∀ held ∈ i.iterator, i.machine.server.awaitingValidation[held.1]? = some held.2

variable {sqlite : Sqlite} {i : Interleaved}

theorem iterator_of_idle {m : Machine} {waiting : Option (Reply × Continuation)}
    (idle : ∀ reply continuation, waiting = some (reply, continuation) → continuation = .done) :
    iterator ⟨m, waiting⟩ = none := by
  cases waiting with
  | none => rfl
  | some next =>
      obtain ⟨reply, continuation⟩ := next
      rw [idle reply continuation rfl]
      rfl

theorem intact_receive (intact : i.Intact) (d : Datagram) :
    (i.step sqlite (.receive d)).1.Intact := by
  unfold step
  dsimp only
  cases busy : i.suspended with
  | some next => exact intact
  | none =>
      rcases Machine.receive_cases sqlite i.machine d with
        ⟨server, none⟩ | ⟨packet, out, -, handled, server, next⟩
      · refine ⟨?_, ?_⟩
        · rw [server]
          exact intact.known
        · simp [iterator, none]
      · cases handled with
        | refreshed refreshes idle =>
            refine ⟨?_, ?_⟩
            · rw [server]
              exact intact.known.descends refreshes.toDescends
            · rw [next, iterator_of_idle idle]
              simp
        | @updated heartbeat gamename entry type parsed named known held =>
            refine ⟨?_, ?_⟩
            · rw [server]
              exact intact.known.descends (MasterServer.prunes_add sqlite _ _ _).descends
            · simp [iterator, next]
        | @challenged heartbeat gamename game known invalid unheld =>
            refine ⟨?_, ?_⟩
            · rw [server]
              exact intact.known.challenged (OrdMap.mem_iff.mpr ⟨game, known⟩)
            · simp [iterator, next]
        | @accepted entry type held right =>
            refine ⟨?_, ?_⟩
            · rw [server]
              exact intact.known
            · rintro pair mem
              rw [next] at mem
              cases mem
              rw [server]
              exact held

theorem intact_resume (intact : i.Intact) (sent : Bool) :
    (i.step sqlite (.resume sent)).1.Intact := by
  refine ⟨?_, by simp [step, iterator]⟩
  unfold step
  dsimp only
  cases i.suspended with
  | none => exact intact.known
  | some next =>
      obtain ⟨reply, continuation⟩ := next
      cases continuation with
      | done => exact intact.known
      | register client entry =>
          rw [MasterServer.resume_register]
          split
          · exact intact.known.descends
              (MasterServer.completeChallenge_prunes sqlite _ client).descends
          · exact intact.known

theorem intact_background (intact : i.Intact) {b : Background} (spares : Spares i (.background b)) :
    (i.step sqlite (.background b)).1.Intact := by
  refine ⟨intact.known.descends (MasterServer.background_prunes sqlite _ b).descends, ?_⟩
  rintro held mem
  have before := intact.pending held mem
  rcases MasterServer.background_maps sqlite i.machine.server b with ⟨now, rfl⟩ | ⟨awaiting, -⟩
  · exact MasterServer.cleanup_awaiting.mpr ⟨before, spares held mem⟩
  · unfold step
    dsimp only
    rw [awaiting]
    exact before

/-- The machine at startup, with no handler that waits. -/
def startup (start : WithStorages Machine) : WithStorages Interleaved :=
  ⟨⟨start.state, none⟩, start.storages⟩

/-- **The pending entry survives its handler's send** when no cleanup pass expires it in
the meantime. An answered proof the game takes then lists its endpoint, if no call up to its
own reads what is lost. -/
theorem pending_survives {start : WithStorages Machine} (started : Machine.Started sqlite start)
    (layout : Layout) {turns : List Turn}
    (meets : StepsMeet (step sqlite) Spares ⟨start.state, none⟩ turns) :
    let i := final (step sqlite) ⟨start.state, none⟩ turns
    ∀ (client : Endpoint) (entry : ServerEntry), i.iterator = some (client, entry) →
      i.machine.server.awaitingValidation[client]? = some entry ∧
      (StepsMeet ((system sqlite).storedStep layout)
          (OnSome fun s turn => (system sqlite).Defined layout s turn) (some (startup start)) turns →
        ∃ game storages, i.machine.server.db[entry.gamename]? = some game ∧
          final ((system sqlite).storedStep layout) (some (startup start)) turns =
            some ⟨i, storages⟩ ∧
          (game.Accepts sqlite (incoming client entry.values) →
            (system sqlite).Defined layout ⟨i, storages⟩ (.resume true) →
            ∃ next, ((system sqlite).storedStep layout (some ⟨i, storages⟩) (.resume true)).1 =
                some next ∧
              next.state.machine.server.db.Listed entry.gamename client.rowKey)) := by
  have init : Intact ⟨start.state, none⟩ := by
    refine ⟨?_, by simp [iterator]⟩
    intro client entry held
    simp [started.awaiting] at held
  have intact : (final (step sqlite) ⟨start.state, none⟩ turns).Intact := by
    refine @invariant _ _ _ _ _ Intact ⟨start.state, none⟩ init ?_ turns meets
    intro i turn intact spares
    cases turn with
    | receive d => exact intact_receive intact d
    | resume sent => exact intact_resume intact sent
    | background b => exact intact_background intact spares
  intro i client entry points
  have held : i.machine.server.awaitingValidation[client]? = some entry :=
    intact.pending (client, entry) points
  refine ⟨held, fun defined => ?_⟩
  obtain ⟨game, known⟩ := OrdMap.mem_iff.mp (intact.known client entry held)
  have stored : (system sqlite).Intact (startup start) := started.intact
  obtain ⟨-, storages, reached, kept⟩ := @GameSystem.run_stored _ _ _ _ (system sqlite) layout
    (fun _ _ => True) _ stored turns
    (stepsMeet_imp (fun _ _ met s here => ⟨met s here, trivial⟩) defined)
  refine ⟨game, storages, known, reached, fun accepts reads => ?_⟩
  obtain ⟨after, stepped, -⟩ := GameSystem.step_intact kept reads
  refine ⟨_, congrArg Prod.fst stepped, ?_⟩
  have registers : ∃ reply, i.suspended = some (reply, .register client entry) := by
    unfold iterator at points
    split at points
    · rename_i reply other entry' suspended
      cases points
      exact ⟨reply, suspended⟩
    · cases points
  obtain ⟨reply, registers⟩ := registers
  change (i.machine.server.resume sqlite i.suspended true).db.Listed _ _
  rw [registers, MasterServer.resume_register, if_pos rfl]
  exact MasterServer.completeChallenge_row held known accepts

end Interleaved

namespace MasterSample

open Interleaved
open StoreSample (layout)

theorem first_turns (turns : List Turn) :
    final (Interleaved.step sqlite) ⟨start, none⟩ (.receive first :: .resume true :: turns) =
      final (Interleaved.step sqlite) ⟨pending, none⟩ turns := by
  have two := receive_resume sqlite start first true
  rw [start_first] at two
  rw [← two]
  rfl

/-- The answer comes 59 seconds after the first heartbeat; its reply is being sent. -/
def answering : List Turn := [.receive first, .resume true, .receive (answer 59)]

theorem roomy_turns : final ((system sqlite).storedStep layout) (some (startup roomy))
    [.receive first, .resume true] = some ⟨⟨pending, none⟩, roomy.storages⟩ := by
  let i : Interleaved := ⟨start, none⟩
  have receives : ((system sqlite).addition i (.receive first)).isNone = true := by decide +kernel
  have resumes : ((system sqlite).addition (i.step sqlite (.receive first)).1
      (.resume true)).isNone = true := by decide +kernel
  have states : final (Interleaved.step sqlite) i [.receive first, .resume true] =
      ⟨pending, none⟩ := first_turns []
  rw [final_cons, startup, roomy, GameSystem.storedStep_quiet receives, final_cons,
    GameSystem.storedStep_quiet resumes, final_nil]
  exact congrArg (fun state => some (WithStorages.mk state roomy.storages)) states

/-- While nothing expires, the entry is there, and the server gets its row. -/
theorem pending_survives_answering :
    (final (Interleaved.step sqlite) ⟨start, none⟩
        answering).machine.server.awaitingValidation[client]? = some entry ∧
      ∃ next, final ((system sqlite).storedStep layout) (some (startup roomy))
          (answering ++ [.resume true]) = some next ∧
        next.state.machine.server.db.Listed (ascii "gmtest") client.rowKey := by
  have meets : StepsMeet (Interleaved.step sqlite) Spares ⟨start, none⟩ answering :=
    ⟨trivial, trivial, trivial, trivial⟩
  have points : (final (Interleaved.step sqlite) ⟨start, none⟩ answering).iterator =
      some (client, entry) := by
    rw [answering, first_turns]
    rfl
  have defined : StepsMeet ((system sqlite).storedStep layout)
      (OnSome fun s turn => (system sqlite).Defined layout s turn) (some (startup roomy))
      (answering ++ [.resume true]) := by
    have whole : answering ++ [.resume true] =
      [.receive first, .resume true] ++ [.receive (answer 59), .resume true] := rfl
    rw [whole]
    refine stepsMeet_append.mpr ⟨by decide +kernel, ?_⟩
    rw [roomy_turns]
    decide +kernel
  have accepts : ∀ game ∈ (final (Interleaved.step sqlite) ⟨start, none⟩
      answering).machine.server.db[ascii "gmtest"]?,
      game.Accepts sqlite (incoming client entry.values) := by
    rw [answering, first_turns]
    decide +kernel
  obtain ⟨earlier, last⟩ := stepsMeet_append.mp defined
  obtain ⟨held, rows⟩ := pending_survives roomy_started layout meets client entry points
  obtain ⟨game, storages, known, reached, row⟩ := rows earlier
  rw [reached] at last
  refine ⟨held, ?_⟩
  rw [final_snoc, reached]
  exact row (accepts game known) (last.1 _ rfl)

/-- A pass two seconds later finds the entry expired. -/
def expiring : List Turn := answering ++ [.background (.cleanup (61 * 1000000000))]

theorem pending_survives_fails_expiring :
    ¬ ∀ (sqlite : Sqlite) (start : Machine), start.Initial → ∀ turns : List Turn,
      let i := final (Interleaved.step sqlite) ⟨start, none⟩ turns
      ∀ (client : Endpoint) (entry : ServerEntry), i.iterator = some (client, entry) →
        i.machine.server.awaitingValidation[client]? = some entry ∧
        ∃ game, i.machine.server.db[entry.gamename]? = some game ∧
          (i.step sqlite (.resume true)).1.machine.server.db.Listed entry.gamename
            client.rowKey := by
  intro claimed
  have points : (final (Interleaved.step sqlite) ⟨start, none⟩ expiring).iterator =
      some (client, entry) := by
    rw [expiring, answering, List.cons_append, List.cons_append, first_turns]
    rfl
  have gone : (final (Interleaved.step sqlite) ⟨start, none⟩
      expiring).machine.server.awaitingValidation[client]? = none := by
    rw [expiring, answering, List.cons_append, List.cons_append, first_turns]
    rfl
  have held := (claimed sqlite start start_initial expiring client entry points).1
  rw [gone] at held
  cases held

end MasterSample

end GamespyEmulator
