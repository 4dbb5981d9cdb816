import OptimisticCache.CommandLine.Program
import Std.Async.DNS
import Std.Async.TCP
import Std.Async.Timer
/-!
# The command line

The outer layer: it reads the arguments, makes the calls that the program waits
for over plain connections, and prints what the program prints.
-/

open Std.Async
open Std.Net
open Std.Time

namespace OptimisticCache
namespace CommandLine

/-- The address of a host. -/
def resolve (host : Host) (port : UInt16) : Async SocketAddress := do
  match host with
  | .ipv4 a =>
    let b (i : Nat) : UInt8 := UInt8.ofNat (a.bytes.getD i 0)
    return .v4 ⟨.ofParts (b 0) (b 1) (b 2) (b 3), port⟩
  | .ipv6 a =>
    let p (i : Nat) : UInt16 := UInt16.ofNat (a.pieces.getD i 0)
    return .v6 ⟨.ofParts (p 0) (p 1) (p 2) (p 3) (p 4) (p 5) (p 6) (p 7), port⟩
  | .domain name =>
    let found : Array IPAddr ← DNS.getAddrInfo (String.ofList name) ""
    match found.toList with
    | IPAddr.v4 a :: _ => return .v4 ⟨a, port⟩
    | IPAddr.v6 a :: _ => return .v6 ⟨a, port⟩
    | [] => throw (IO.userError "host not found")

/-- All bytes that a connection brings until it is closed. -/
partial def receive (client : TCP.Socket.Client) (received : ByteArray) : Async ByteArray := do
  match ← client.recv? 65536 with
  | some bytes => receive client (received ++ bytes)
  | none => return received

/-- Send a request and receive the bytes of the response. -/
def exchange (r : HttpRequest) : Async ByteArray := do
  let client ← TCP.Socket.Client.mk
  client.connect (← resolve r.url.host (UInt16.ofNat (r.url.port.getD 80)))
  client.send r.wire.toUTF8
  receive client ByteArray.empty

/-- Wait no longer than so many milliseconds. -/
def within (timeout : Nat) (action : Async ByteArray) : Async ByteArray :=
  Async.race action do
    sleep (Millisecond.Offset.ofNat timeout)
    throw (IO.userError "operation timed out")

/-- Make a call. -/
def makeCall (e : Endpoint) (timeout : Nat) (call : Call) :
    IO (Except BackendFailure Envelope) := do
  match e.request call with
  | .error f => return .error f
  | .ok r =>
    if r.url.scheme ≠ "http".toList then return .error (.network "no secure connections")
    try
      let bytes ← (within timeout (exchange r)).block
      match HttpResponse.ofBytes bytes.toList with
      | some response => return e.answer call response
      | none => return .error (.network "the response is incomplete")
    catch error => return .error (.network error.toString)

/-- The present moment in universal time, as drafts are stamped with it. -/
def presentTime : IO String := do
  let now := DateTime.ofTimestamp (← Timestamp.now) TimeZone.ZoneRules.UTC
  return now.format "uuuu-MM-dd'T'HH:mm:ss.SSSSSSSSSxxx"

/-- Make the calls of a program until it is finished. -/
partial def run (e : Endpoint) (timeout : Nat) : Program → IO Outcome
  | .finished outcome => return outcome
  | .waiting call resume => do run e timeout (resume (← makeCall e timeout call))

/-- Print what the program prints, and answer its exit code. -/
def finish (o : Outcome) : IO UInt32 := do
  (← IO.getStdout).putStr o.output
  (← IO.getStderr).putStr o.errors
  return UInt32.ofNat o.code

end CommandLine
end OptimisticCache

open OptimisticCache CommandLine in
/-- Run the program with its arguments. -/
def main (arguments : List String) : IO UInt32 := do
  match readArguments arguments with
  | .help => finish ⟨0, usage, ""⟩
  | .misuse => finish ⟨2, "", usage⟩
  | .run options command =>
    let now := Int.ofNat (← IO.monoMsNow)
    match start now (← presentTime) options command with
    | .error outcome => finish outcome
    | .ok (endpoint, program) => finish (← run endpoint (1000 * options.timeout) program)
