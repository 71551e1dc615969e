import Ghostport.Core.Theme
import Ghostport.Net.Addr

/-!
# What the TCP server prints (`crates/ghostport-core/src/server.rs`, `relay.rs`)

One constructor for each print statement, and the text it prints.
-/

namespace Ghostport.Server

open Ghostport.Core Ghostport.Net

/-- The two listeners of the server role. -/
inductive Channel where
  | control
  | data
  deriving DecidableEq, Repr

def Channel.name : Channel → String
  | .control => "control"
  | .data => "data"

inductive LogLine where
  /-- Lines 147-151. -/
  | reverseBindFailed (linkId listenAddr e : String)
  /-- Lines 155-159. -/
  | reverseListening (linkId listenAddr : String)
  /-- Lines 165-169. -/
  | reverseAcceptFailed (linkId e : String)
  /-- Lines 187-193. -/
  | controlUnavailable (linkId : String) (peerAddr : SocketAddr)
  /-- Lines 202-208. -/
  | streamTimedOut (linkId : String) (streamId : UInt64)
  /-- Lines 228-233 and 377-382. -/
  | bindFailed (channel : Channel) (listenAddr e : String)
  /-- Lines 237-240 and 386-389. -/
  | listening (channel : Channel) (listenAddr : String)
  /-- Lines 261-264 and 395-398. -/
  | acceptFailed (channel : Channel) (e : String)
  /-- Lines 270-275 and 404-409. -/
  | rejected (channel : Channel) (peerAddr : SocketAddr)
  /-- Lines 302-305. -/
  | handshakeFailed (peerAddr : SocketAddr) (e : String)
  /-- Lines 308-311. -/
  | handshakeTimedOut (peerAddr : SocketAddr)
  /-- Lines 319-324. -/
  | controlConnected (peerAddr : SocketAddr) (peerName : String)
  /-- Lines 332-337. -/
  | controlDisconnected (peerAddr : SocketAddr)
  /-- Lines 417-420. -/
  | dataConnection (peerAddr : SocketAddr) (e : String)
  /-- `relay.rs`, lines 30-33. -/
  | streamClosed (linkId : String) (aToB bToA : UInt64)
  /-- `relay.rs`, lines 36-40. -/
  | streamError (linkId e : String)
  deriving DecidableEq, Repr

/-- `[link]`, with the id in the accent colour. -/
def linkTag (p : Palette) (linkId : String) : List Char :=
  "[".toList ++ p.accent linkId.toList ++ "]".toList

/-- The printed text, without the newline that ends it. -/
def LogLine.render (p : Palette) : LogLine → List Char
  | .reverseBindFailed linkId listenAddr e =>
    "ghostport: ".toList ++ linkTag p linkId ++ " ".toList ++
      p.err ("failed to bind ".toList ++ listenAddr.toList ++ ": ".toList ++ e.toList)
  | .reverseListening linkId listenAddr =>
    "ghostport: ".toList ++ linkTag p linkId ++ " ".toList ++
      p.ok ("listening on ".toList ++ listenAddr.toList ++ " (reverse)".toList)
  | .reverseAcceptFailed linkId e =>
    "ghostport: ".toList ++ linkTag p linkId ++ " ".toList ++
      p.err ("accept failed: ".toList ++ e.toList)
  | .controlUnavailable linkId peerAddr =>
    "ghostport: ".toList ++ linkTag p linkId ++ " ".toList ++
      p.warn (peerAddr.display ++ ": control channel unavailable, dropping".toList)
  | .streamTimedOut linkId streamId =>
    "ghostport: ".toList ++ linkTag p linkId ++ " ".toList ++
      p.warn ("stream ".toList ++ decimal streamId.toNat ++
        " timed out waiting for the client to respond (offline?)".toList)
  | .bindFailed channel listenAddr e =>
    "ghostport: ".toList ++
      p.err ("fatal: failed to bind ".toList ++ channel.name.toList ++ " listener ".toList ++
        listenAddr.toList ++ ": ".toList ++ e.toList)
  | .listening channel listenAddr =>
    "ghostport: ".toList ++
      p.ok (channel.name.toList ++ " channel listening on ".toList ++ listenAddr.toList)
  | .acceptFailed channel e =>
    "ghostport: ".toList ++ p.err (channel.name.toList ++ " accept failed: ".toList ++ e.toList)
  | .rejected channel peerAddr =>
    "ghostport: ".toList ++
      p.warn (channel.name.toList ++ ": rejected ".toList ++ peerAddr.display ++
        " (too many recent handshake attempts)".toList)
  | .handshakeFailed peerAddr e =>
    "ghostport: ".toList ++
      p.err ("control: handshake with ".toList ++ peerAddr.display ++ " failed: ".toList ++
        e.toList)
  | .handshakeTimedOut peerAddr =>
    "ghostport: ".toList ++
      p.warn ("control: handshake with ".toList ++ peerAddr.display ++ " timed out".toList)
  | .controlConnected peerAddr peerName =>
    "ghostport: ".toList ++
      p.ok ("control channel connected from ".toList ++ peerAddr.display ++ " (peer \"".toList ++
        peerName.toList ++ "\")".toList)
  | .controlDisconnected peerAddr =>
    "ghostport: ".toList ++
      p.warn ("control channel disconnected from ".toList ++ peerAddr.display ++
        ", awaiting reconnect".toList)
  | .dataConnection peerAddr e =>
    "ghostport: ".toList ++
      p.err ("data connection from ".toList ++ peerAddr.display ++ ": ".toList ++ e.toList)
  | .streamClosed linkId aToB bToA =>
    "ghostport: ".toList ++ linkTag p linkId ++ " stream closed (".toList ++
      decimal aToB.toNat ++ " bytes forward, ".toList ++ decimal bToA.toNat ++
      " bytes back)".toList
  | .streamError linkId e =>
    "ghostport: ".toList ++ linkTag p linkId ++ " ".toList ++
      p.err ("stream ended with an error: ".toList ++ e.toList)

example : (LogLine.rejected .control (.v4 ⟨198, 51, 100, 7⟩ 51422)).render .plain =
    ("ghostport: control: rejected 198.51.100.7:51422 " ++
      "(too many recent handshake attempts)").toList := by decide

end Ghostport.Server
