import GamespyEmulator.Browser.RequestRoundTrip
import GamespyEmulator.Game.Acceptance

/-!
Can one server break the list of the others? After any call of `AddOrUpdateServer`,
the server's push and the list of whatever servers `GetServers` (the base class's or
an override) returns can be built exactly when the server and the listed ones are
encodable. `AddOrUpdateServer` does not ask for that: a server with a number that is
no number is accepted, and every list that asks for that number breaks off at it.
-/

namespace GamespyEmulator

open Wire Fallible Game

namespace ListSample

def data : GameData where
  name := ascii "gmtest"
  secretKey := ascii "HA6zkS"
  keys := [⟨ascii "hostname", .asString, .asText⟩, ⟨ascii "numplayers", .asByte, .asInteger⟩]

def request : ServerListRequest where
  protocolVersion := 1
  encodingVersion := 3
  fromGameVersion := 0
  fromGame := ascii "gmtest"
  toGame := ascii "gmtest"
  challenge := Vector.replicate 8 65
  serverFilter := []
  fieldList := [ascii "numplayers"]
  options := 0
  alternateSourceIP := none
  limitResultCount := none

/-- SQLite on the statement of `request`: a text that is no number stays a text in an
integer column. -/
def sqlite : Sqlite where
  reserved _ := false
  special _ := false
  select table sql :=
    if sql = selectText [] [ascii "numplayers"] 500 0 then
      table.rows.toList.map fun (key, row) =>
        ⟨key.publicIp, key.publicPort, [row[ascii "numplayers"]?.getD (ascii "0")]⟩
    else []
  fails _ _ := false

def server : ServerData where
  publicIp := ascii "192.168.0.7"
  publicPort := 6500
  data := OrdMap.emplaceAll [(ascii "numplayers", ascii "many")] ∅

/-- The connected game. -/
def game : Game := (Game.connect sqlite data).toOption.getD (Game.empty data)

theorem game_connected : Game.connect sqlite data = .ok game := by
  have connects : Returns (Game.connect sqlite data) := by decide
  obtain ⟨g, connected⟩ := connects
  simp [game, connected, Except.toOption]

end ListSample

end GamespyEmulator
