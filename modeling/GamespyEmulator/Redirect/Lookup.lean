import GamespyEmulator.Redirect.Detection

/-!
The redirect library in a game: `should_redirect`, the hooks of `gethostbyname` and
`getaddrinfo`, and `detour_gethostbyname` of `redirect/main.cpp`, with the names of
`Game::GetMasterServer`.

Whatever was looked up before and on which threads, a name with `gamespy` or `dice.se` in
it leads to the one address the library was attached with, and every other name goes to
the original function. Without an address on the command line it is the address of an
emulator that serves the game (`attached_leads`).

The name in a `hostent` is kept for each thread from the first call on, so it is the name
that was looked up first (`hostent_name`).
-/

namespace GamespyEmulator

open Wire

/-! ### Names -/

/-- `should_redirect`. A name is a C string or a null pointer. -/
def shouldRedirect : Option Bytes → Bool
  | none => false
  | some name => decide (ascii "gamespy" <:+: name) || decide (ascii "dice.se" <:+: name)

/-- `std::tolower` of a `char`, as it is added to the hash. -/
def loweredChar (c : UInt8) : UInt32 :=
  if c < 128 then (toLower c).toUInt32 else c.toUInt32 - 256

/-- `PRIME`. -/
def stringHashPrime : UInt32 := 0x9CCF9319

/-- The hash of `GetMasterServer`. -/
def stringHash (name : Bytes) : UInt32 :=
  name.foldl (fun hash c => hash * stringHashPrime + loweredChar c) 0

/-- `gamespy_num_master_servers`. -/
def numMasterServers : UInt32 := 20

/-- `Game::GetMasterServer`. -/
def getMasterServer (name : Bytes) : Bytes :=
  name ++ ascii ".ms" ++ Numeral.decimal (stringHash name % numMasterServers).toNat ++
    ascii ".gamespy.com"

theorem shouldRedirect_getMasterServer (name : Bytes) :
    shouldRedirect (some (getMasterServer name)) = true := by
  have inside : ascii "gamespy" <:+: getMasterServer name := by
    refine ⟨name ++ ascii ".ms" ++
      Numeral.decimal (stringHash name % numMasterServers).toNat ++ ascii ".", ascii ".com", ?_⟩
    have cut : ascii ".gamespy.com" = ascii "." ++ ascii "gamespy" ++ ascii ".com" := rfl
    rw [getMasterServer, cut]
    simp only [List.append_assoc]
  rw [shouldRedirect, decide_eq_true inside, Bool.true_or]

/-! ### The hooks -/

/-- A call of one of the two functions, of `gethostbyname` with its thread. -/
inductive Lookup where
  | gethostbyname (thread : Nat) (name : Option Bytes)
  | getaddrinfo (name : Option Bytes)
deriving DecidableEq, Repr

def Lookup.name : Lookup → Option Bytes
  | .gethostbyname _ name => name
  | .getaddrinfo name => name

/-- What the caller gets: the `hostent` of the library, or what an original function says
of a name. -/
inductive LookupAnswer where
  | hostent (name : Bytes) (address : UInt32)
  | gethostbyname (name : Option Bytes)
  | getaddrinfo (name : Option Bytes)
deriving DecidableEq, Repr

/-- The answer of the original function. -/
def Lookup.forwarded : Lookup → LookupAnswer
  | .gethostbyname _ name => .gethostbyname name
  | .getaddrinfo name => .getaddrinfo name

/-- The `host` of each thread, once it is initialised. -/
abbrev Hosts := Nat → Option Bytes

/-- `redirect_gethostbyname` and `redirect_getaddrinfo`. -/
def redirectStep (address : UInt32) (hosts : Hosts) : Lookup → Hosts × List LookupAnswer
  | .gethostbyname thread name =>
      if shouldRedirect name then
        let host := (hosts thread).getD (name.getD [])
        (Function.update hosts thread (some host), [.hostent host address])
      else (hosts, [.gethostbyname name])
  | .getaddrinfo name =>
      if shouldRedirect name then (hosts, [.getaddrinfo (some (addressText address))])
      else (hosts, [.getaddrinfo name])

/-- The library in front of the first call. -/
def noHosts : Hosts := fun _ => none

/-- The name of a redirected `gethostbyname` on a thread. -/
def Lookup.redirectedOn (thread : Nat) : Lookup → Option Bytes
  | .gethostbyname thread' name => if thread' = thread ∧ shouldRedirect name then name else none
  | .getaddrinfo _ => none

theorem shouldRedirect_some {name : Option Bytes} (redirects : shouldRedirect name = true) :
    ∃ text, name = some text := by
  cases name with
  | none => cases redirects
  | some text => exact ⟨text, rfl⟩

theorem step_hosts (address : UInt32) (hosts : Hosts) (lookup : Lookup) (thread : Nat) :
    (redirectStep address hosts lookup).1 thread = (hosts thread).or (lookup.redirectedOn thread) := by
  cases lookup with
  | getaddrinfo name => cases redirects : shouldRedirect name <;>
      simp [redirectStep, Lookup.redirectedOn, redirects]
  | gethostbyname thread' name =>
      cases redirects : shouldRedirect name with
      | false => simp [redirectStep, Lookup.redirectedOn, redirects]
      | true =>
          obtain ⟨text, rfl⟩ := shouldRedirect_some redirects
          by_cases here : thread' = thread
          · subst here
            cases held : hosts thread' <;>
              simp [redirectStep, Lookup.redirectedOn, redirects, held]
          · simp [redirectStep, Lookup.redirectedOn, redirects, here, Function.update_of_ne,
              Ne.symm here]

/-- The name of a thread is the first one that was redirected on it. -/
theorem hosts_run (address : UInt32) (past : List Lookup) (thread : Nat) :
    Run.final (redirectStep address) noHosts past thread =
      past.findSome? (Lookup.redirectedOn thread) := by
  induction past using List.reverseRecOn with
  | nil => rfl
  | append_singleton past lookup ih =>
      rw [Run.final_snoc, step_hosts, ih, List.findSome?_append, List.findSome?_singleton]

/-- **The name in a `hostent`.** A redirected `gethostbyname` answers with the name that
was redirected first on its thread. -/
theorem hostent_name (address : UInt32) (past : List Lookup) (thread : Nat) (name : Option Bytes) :
    (redirectStep address (Run.final (redirectStep address) noHosts past)
        (.gethostbyname thread name)).2 =
      [if shouldRedirect name then
        .hostent (((past ++ [Lookup.gethostbyname thread name]).findSome?
          (Lookup.redirectedOn thread)).getD []) address
      else .gethostbyname name] := by
  cases redirects : shouldRedirect name with
  | false => simp [redirectStep, redirects]
  | true =>
      obtain ⟨text, rfl⟩ := shouldRedirect_some redirects
      have mine : Lookup.redirectedOn thread (.gethostbyname thread (some text)) = some text := by
        simp [Lookup.redirectedOn, redirects]
      rw [List.findSome?_append, List.findSome?_singleton, mine, ← hosts_run address past thread]
      cases held : Run.final (redirectStep address) noHosts past
          thread <;> simp [redirectStep, redirects, held]

/-! ### Attaching -/

/-- What the library finds when it is attached. -/
structure Attachment where
  /-- The command line of the game. -/
  arguments : List Bytes
  /-- `GAMESPY_GAMENAME`. -/
  gamename : Bytes
  /-- `WSAStartup` succeeds. -/
  starts : Bool
  /-- `GetAddrInfoW`. -/
  resolve : Bytes → Option UInt32
  /-- A socket that can broadcast is there. -/
  socket : Bool
  /-- `sendto` succeeds. -/
  sends : Bool
  /-- The player goes on without an emulator. -/
  proceeds : Bool
  /-- `DetourTransactionCommit` succeeds. -/
  commits : Bool

/-- The game runs with its original functions, with the hooks, or not at all. -/
inductive Attached where
  | original
  | redirecting (address : UInt32)
  | refused
deriving DecidableEq, Repr

/-- The loop over the command line; the name and the address found so far. `none` is the
exception of an address that cannot be resolved. -/
def readArguments (resolve : Bytes → Option UInt32) :
    List Bytes → Bytes × UInt32 → Option (Bytes × UInt32)
  | flag :: value :: rest, (game, address) =>
      if flag = ascii "+gamename" then readArguments resolve (value :: rest) (value, address)
      else if flag = ascii "+gamespy" then
        match resolve value with
        | none => none
        | some given => readArguments resolve (value :: rest) (game, given)
      else readArguments resolve (value :: rest) (game, address)
  | _, found => some found

namespace Attachment

/-- The game to ask for and the address that is given, zero for none. -/
def given (a : Attachment) : Option (Bytes × UInt32) :=
  readArguments a.resolve a.arguments (a.gamename, 0)

/-- The end of `detour_gethostbyname`. -/
def commit (a : Attachment) (address : UInt32) : Attached :=
  if a.commits then .redirecting address else .refused

/-- `DllMain` with `detour_gethostbyname`. An exception is shown, and the game runs on.
`arrivals` is what comes back to the broadcast for a game. -/
def attach (a : Attachment) (arrivals : Bytes → List (UInt32 × Bytes)) : Attached :=
  if a.starts then
    match a.given with
    | none => .original
    | some (game, address) =>
        if address = 0 then
          if a.socket then
            match (if a.sends then detectGamespy (arrivals game) else none) with
            | none => if a.proceeds then .original else .refused
            | some found => a.commit found
          else .original
        else a.commit address
  else .original

end Attachment

/-- The answer leads to an address: as a `hostent` of it, or as its text for
`getaddrinfo`. -/
def LookupAnswer.LeadsTo (address : UInt32) : LookupAnswer → Prop
  | .hostent _ found => found = address
  | .getaddrinfo (some text) => makeAddressV4 text = some address
  | _ => False

section Attach

variable {a : Attachment} {arrivals : Bytes → List (UInt32 × Bytes)} {game : Bytes}
  {given address : UInt32}

theorem attach_redirecting (read : a.given = some (game, given))
    (attached : a.attach arrivals = .redirecting address) :
    (given ≠ 0 ∧ address = given) ∨
      (given = 0 ∧ detectGamespy (arrivals game) = some address) := by
  have committed {found : UInt32} (done : a.commit found = .redirecting address) :
      address = found := by
    unfold Attachment.commit at done
    split at done
    · exact (Attached.redirecting.inj done).symm
    · cases done
  unfold Attachment.attach at attached
  rw [read] at attached
  split at attached
  · dsimp only at attached
    split at attached
    · rename_i unset
      right
      refine ⟨unset, ?_⟩
      split at attached
      · split at attached
        · split at attached <;> cases attached
        · rename_i found detected
          rw [committed attached]
          split at detected
          · exact detected
          · cases detected
      · cases attached
    · rename_i set_
      exact .inl ⟨set_, committed attached⟩
  · cases attached

theorem step_redirected (address : UInt32) (hosts : Hosts) {lookup : Lookup}
    (redirects : shouldRedirect lookup.name = true) :
    ∃ answer, (redirectStep address hosts lookup).2 = [answer] ∧ answer.LeadsTo address := by
  cases lookup with
  | gethostbyname thread name =>
      rw [Lookup.name] at redirects
      rw [redirectStep, if_pos redirects]
      exact ⟨_, rfl, rfl⟩
  | getaddrinfo name =>
      rw [Lookup.name] at redirects
      rw [redirectStep, if_pos redirects]
      exact ⟨_, rfl, makeAddressV4_addressText address⟩

theorem step_forwarded (address : UInt32) (hosts : Hosts) {lookup : Lookup}
    (other : ¬ shouldRedirect lookup.name = true) :
    (redirectStep address hosts lookup).2 = [lookup.forwarded] := by
  cases lookup with
  | gethostbyname thread name =>
      rw [Lookup.name] at other
      rw [redirectStep, if_neg other, Lookup.forwarded]
  | getaddrinfo name =>
      rw [Lookup.name] at other
      rw [redirectStep, if_neg other, Lookup.forwarded]

/-- **Where a redirected game ends up.** The address is the one that was given, or else that
of a host that serves the game, whatever is lost of its answers. In every run of lookups a
master server name of any game, like every other name with `gamespy` or `dice.se` in it,
leads to that address, and the rest is answered by the original functions. -/
theorem attached_leads (read : a.given = some (game, given)) (free : NulFree game)
    {lan : List Host} {client : Endpoint} (arrive : arrivals game ⊆ answers lan client game)
    (attached : a.attach arrivals = .redirecting address) (past : List Lookup) (lookup : Lookup) :
    (if given = 0 then ∃ host ∈ lan, host.address = address ∧ host.Serves game
      else address = given) ∧
    ∃ answer,
      (redirectStep address (Run.final (redirectStep address) noHosts past) lookup).2 = [answer] ∧
        ((shouldRedirect lookup.name = true ∨ ∃ name, lookup.name = some (getMasterServer name)) →
          answer.LeadsTo address) ∧
        (shouldRedirect lookup.name = false → answer = lookup.forwarded) := by
  constructor
  · rcases attach_redirecting read attached with ⟨set_, same⟩ | ⟨unset, found⟩
    · rw [if_neg set_]
      exact same
    · rw [if_pos unset]
      exact detected_serves free arrive found
  · by_cases redirects : shouldRedirect lookup.name = true
    · obtain ⟨answer, one, leads⟩ := step_redirected address
        (Run.final (redirectStep address) noHosts past) redirects
      exact ⟨answer, one, fun _ => leads, fun other => by simp [redirects] at other⟩
    · refine ⟨_, step_forwarded address _ redirects, ?_, fun _ => rfl⟩
      rintro (redirects' | ⟨name, same⟩)
      · exact absurd redirects' redirects
      · rw [same] at redirects
        exact absurd (shouldRedirect_getMasterServer name) redirects

end Attach

namespace RedirectSample

def attachment : Attachment where
  arguments := [ascii "BF2.exe", ascii "+gamename", ascii "gmtest"]
  gamename := ascii "battlefield2"
  starts := true
  resolve := fun _ => none
  socket := true
  sends := true
  proceeds := false
  commits := true

/-- The answer of the host. -/
def arrivals : Bytes → List (UInt32 × Bytes) :=
  fun _ => [(0xC0A80001, [0xFE, 0xFD, 9, 0, 0, 0, 0, 0])]

theorem arrivals_sent : arrivals (ascii "gmtest") ⊆ answers [host] client (ascii "gmtest") := by
  apply List.cons_subset.mpr
  exact ⟨by decide +kernel, List.nil_subset _⟩

theorem attached_leads_gmtest :
    (if (0 : UInt32) = 0 then
        ∃ host' ∈ [host], host'.address = 0xC0A80001 ∧ host'.Serves (ascii "gmtest")
      else (0xC0A80001 : UInt32) = 0) ∧
    ∃ answer,
      (redirectStep 0xC0A80001 (Run.final (redirectStep 0xC0A80001) noHosts
          [.gethostbyname 0 (some (ascii "gpcm.gamespy.com"))])
        (.gethostbyname 0 (some (getMasterServer (ascii "gmtest"))))).2 = [answer] ∧
        ((shouldRedirect (Lookup.gethostbyname 0 (some (getMasterServer (ascii "gmtest")))).name = true
            ∨ ∃ name, (Lookup.gethostbyname 0 (some (getMasterServer (ascii "gmtest")))).name =
              some (getMasterServer name)) →
          answer.LeadsTo 0xC0A80001) ∧
        (shouldRedirect (Lookup.gethostbyname 0 (some (getMasterServer (ascii "gmtest")))).name =
          false → answer = Lookup.forwarded (.gethostbyname 0
            (some (getMasterServer (ascii "gmtest"))))) :=
  @attached_leads attachment arrivals (ascii "gmtest") 0 0xC0A80001 rfl (by decide) [host] client
    arrivals_sent rfl _ _

end RedirectSample

end GamespyEmulator
