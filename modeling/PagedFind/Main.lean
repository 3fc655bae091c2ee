import PagedFind.CommandLine.Program
import PagedFind.Http.Message
import PagedFind.Regex.Match
import Std.Async.DNS
import Std.Async.TCP

namespace PagedFind.Main

open Std.Async

def addresses (host : String) (port : Nat) : IO (List Std.Net.SocketAddress) := do
  let found : Array Std.Net.IPAddr ← Async.block (DNS.getAddrInfo host "")
  return found.toList.map fun
    | .v4 a => .v4 ⟨a, port.toUInt16⟩
    | .v6 a => .v6 ⟨a, port.toUInt16⟩

/-- A connection to the first of several addresses that takes one. -/
def connect : List Std.Net.SocketAddress → IO TCP.Socket.Client
  | [] => throw (IO.userError "the host has no address")
  | place :: more => do
    let client ← TCP.Socket.Client.mk
    try
      Async.block (client.connect place)
      return client
    catch e => if more.isEmpty then throw e else connect more

partial def receive (client : TCP.Socket.Client) (done : ByteArray) : IO ByteArray := do
  match ← Async.block (client.recv? 65536) with
  | none => return done
  | some bytes => receive client (done ++ bytes)

/-- Sends a body over a connection of its own. -/
def exchange : Http.Exchange IO := fun url body => do
  match (do
    let url ← Http.Url.ofString? url
    let (host, port) ← url.endpoint?
    return (url, host, port)) with
  | none => return .error "the URL is malformed"
  | some (url, host, port) =>
    try
      let client ← connect (← addresses host port)
      Async.block (client.send (Http.requestText url body).toUTF8)
      let bytes ← receive client .empty
      match Http.Answer.ofBytes? bytes.toList with
      | none => return .error "the answer is malformed"
      | some answer => return .ok answer
    catch e => return .error (toString e)

def contents (path : String) : IO (Except String String) := do
  try
    return .ok (← IO.FS.readFile path)
  catch e => return .error (toString e)

def overrides : IO (List (String × String)) :=
  Variable.all.filterMapM fun v => do
    return (← IO.getEnv v.name).map fun value => (v.name, value)

def run (line : List String) : IO UInt32 := do
  let overrides ← overrides
  let outcome ← CommandLine.run ⟨contents, fun name => overrides.lookup name, exchange⟩ line
  for event in outcome.events do
    IO.eprintln (event.level.name ++ " " ++ event.message)
  for row in outcome.output do
    IO.println row
  for message in outcome.messages do
    IO.eprintln message
  return outcome.exitCode.toUInt32

end PagedFind.Main

def main (line : List String) : IO UInt32 := PagedFind.Main.run line
