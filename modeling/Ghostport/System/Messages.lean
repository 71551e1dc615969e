import Ghostport.Client.Links
import Ghostport.Core.Wire
import Ghostport.Server.Signals

/-!
# What one role sends and the other receives

The hellos of the client and the signals of the server carry the id of a link of the
sender's config. `Config::validate` asks nothing of an id, `send_json` writes a message of
any length, and `recv_json` refuses a long one.

Results:
* `received_iff`: a hello that the client sends, and a signal that the server sends, is
  received exactly if the id of its link is not too long.
* `longHello_refused`: a valid config whose hellos are not.
-/

namespace Ghostport.System

open Ghostport.Core Ghostport.Lib Ghostport.Net

/-- Every hello names a link of the client's config, and every signal a link of the server's.
    What `send_json` has written for them is received by the other side, however the stream is
    cut, if and only if the text with the id is not longer than `MAX_MESSAGE_LEN`. -/
theorem received_iff (client : Client.Context) (server : Server.Context) :
    (∀ {as s tr}, Client.ClientRun client Free as s tr → ∀ stream, .hello stream ∈ tr →
      ∃ link ∈ client.config.links, link.id = stream.linkId ∧
        ∀ json : Json StreamHello, json.Writes StreamHello.json →
        ∀ bytes, sendJson json stream.hello = .ok bytes →
        ∀ chunks tail, chunks.flatten = bytes ++ tail →
          ((recvJsonCall json chunks).1 = .ok stream.hello ↔
            escapedLength link.id + (jsonOption stream.origin.streamId).length + 27 ≤
              maxMessageLen)) ∧
    ∀ {as s tr}, Server.ServerRun server Free as s tr →
      ∀ tunnel linkId streamId, .writing tunnel (.openStream linkId streamId) ∈ tr →
      ∃ link ∈ server.config.links, link.id = linkId ∧
        ∀ json : Json ControlMessage, json.Writes ControlMessage.json →
        ∀ bytes, sendJson json (.openStream linkId streamId) = .ok bytes →
        ∀ chunks tail, chunks.flatten = bytes ++ tail →
          ((recvJsonCall json chunks).1 = .ok (.openStream linkId streamId) ↔
            escapedLength link.id + (decimal streamId.toNat).length + 42 ≤ maxMessageLen) := by
  constructor
  · intro as s tr hrun stream hmem
    obtain ⟨link, hlink, hid, -⟩ := Client.hello_of_run hrun stream hmem
    refine ⟨link, hlink, hid, fun json hjson bytes hsend chunks tail h => ?_⟩
    rw [recvJsonCall_iff hjson hsend h, length_streamHello, hid]
    rfl
  · intro as s tr hrun tunnel linkId streamId hmem
    have hinv := Server.signalInv_run hrun
    have htaken : .openStream linkId streamId ∈ Server.takenIn tr :=
      List.mem_filterMap.mpr ⟨_, hmem, rfl⟩
    have hsignalled : .openStream linkId streamId ∈ Server.signalledIn tr := by
      rw [hinv.queue]
      exact List.mem_append_left _ htaken
    obtain ⟨e, he, heq⟩ := List.mem_filterMap.mp hsignalled
    split at heq
    · cases heq
      obtain ⟨link, hlink, hid, -⟩ := hinv.signalled linkId streamId he
      refine ⟨link, hlink, hid, fun json hjson bytes hsend chunks tail h => ?_⟩
      rw [recvJsonCall_iff hjson hsend h, length_openStream, hid]
    · cases heq

/-! ## A hello that is received and one that is not -/

/-- A client with one forward link. -/
def forwardConfig (id : String) : Config where
  role := .client
  privateKeyPath := "/etc/ghostport/private.key"
  peerPublicKey := some "AQEBAQEBAQEBAQEBAQEBAQEBAQEBAQEBAQEBAQEBAQE="
  peers := []
  listenControl := none
  listenData := none
  listenUdp := none
  serverControlAddr := some "192.0.2.1:7001"
  serverDataAddr := some "192.0.2.1:7002"
  serverUdpAddr := none
  links := [⟨id, .forward, .tcp, some "127.0.0.1:2222", none⟩]

def forwardContext (id : String) : Client.Context :=
  ⟨fun _ _ => .ok (), forwardConfig id, List.replicate 32 2, List.replicate 32 1⟩

/-- The stream of the connection that the listener accepts. -/
def acceptedStream (id : String) : Client.Stream := ⟨id, .accepted (.v4 ⟨127, 0, 0, 1⟩ 50000)⟩

/-- A connection to the link is accepted, and a data tunnel dialed for it. -/
def helloActions : List Client.Action :=
  [.listener 0 (.bind (.ok ())), .listener 0 (.accept (.ok (.v4 ⟨127, 0, 0, 1⟩ 50000))),
    .tunnel 0 (.connect (.ok ())), .tunnel 0 (.handshake (.ok ()))]

theorem exists_hello (id : String) : ∃ s tr,
    Client.ClientRun (forwardContext id) Free helloActions s tr ∧
      .hello (acceptedStream id) ∈ tr := by
  refine ⟨_, _, ⟨0, _, rfl, run_of_exec rfl⟩, ?_⟩
  simp [acceptedStream]

/-- The hello of a long id is sent, and not received. -/
theorem hello_refused {id : String} (hid : maxMessageLen ≤ id.toList.length) :
    ∃ s tr, Client.ClientRun (forwardContext id) Free helloActions s tr ∧
      .hello (acceptedStream id) ∈ tr ∧
      ∃ bytes, sendJson (.at StreamHello.json (acceptedStream id).hello)
          (acceptedStream id).hello = .ok bytes ∧
        (recvJsonCall (.at StreamHello.json (acceptedStream id).hello) [bytes]).1 ≠
          .ok (acceptedStream id).hello := by
  obtain ⟨s, tr, hrun, hmem⟩ := exists_hello id
  have hsend := sendJson_at StreamHello.json (acceptedStream id).hello
  refine ⟨s, tr, hrun, hmem, _, hsend, fun hreceived => ?_⟩
  have hchunks : [frame (utf8 (acceptedStream id).hello.json)].flatten =
      frame (utf8 (acceptedStream id).hello.json) ++ [] := by simp
  have hlen := (recvJsonCall_iff (Json.writes_at _ _) hsend hchunks).mp hreceived
  rw [length_streamHello] at hlen
  have hescaped : id.toList.length ≤ escapedLength (acceptedStream id).hello.linkId :=
    length_le_escapedLength id
  omega

def longId : String := String.ofList (List.replicate 65536 (Char.ofNat 97))

theorem longHello_refused :
    (forwardConfig longId).validate Base64.standard = [] ∧
    ∃ s tr, Client.ClientRun (forwardContext longId) Free helloActions s tr ∧
      .hello (acceptedStream longId) ∈ tr ∧
      ∃ bytes, sendJson (.at StreamHello.json (acceptedStream longId).hello)
          (acceptedStream longId).hello = .ok bytes ∧
        (recvJsonCall (.at StreamHello.json (acceptedStream longId).hello) [bytes]).1 ≠
          .ok (acceptedStream longId).hello := by
  have hlength : longId.toList.length = maxMessageLen := by
    unfold longId
    rw [String.toList_ofList]
    exact List.length_replicate
  exact ⟨by decide +kernel, hello_refused hlength.ge⟩

/-- The hello of a short id, and the signal for alice's link. -/
theorem received_iff_ssh :
    (recvJsonCall (.at StreamHello.json (acceptedStream "ssh").hello)
        [frame (utf8 (acceptedStream "ssh").hello.json)]).1 = .ok (acceptedStream "ssh").hello ∧
      (recvJsonCall (.at ControlMessage.json (.openStream "db" 1))
        [frame (utf8 (ControlMessage.openStream "db" 1).json)]).1 = .ok (.openStream "db" 1) := by
  constructor
  · obtain ⟨s, tr, hrun, hmem⟩ := exists_hello "ssh"
    obtain ⟨link, hlink, hid, hiff⟩ := (received_iff _ Server.exampleContext).1 hrun _ hmem
    refine (hiff _ (Json.writes_at _ _) _ (sendJson_at _ _) _ [] (by simp)).mpr ?_
    rw [hid]
    decide
  · obtain ⟨s, tr, hrun, hmem⟩ : ∃ s tr, Server.ServerRun Server.exampleContext Free
        Server.foreignSignal s tr ∧ .writing Server.bobControl (.openStream "db" 1) ∈ tr :=
      Server.exists_run 0 (by decide) (by decide)
    obtain ⟨link, hlink, hid, hiff⟩ := (received_iff (forwardContext "ssh") _).2 hrun _ _ _ hmem
    refine (hiff _ (Json.writes_at _ _) _ (sendJson_at _ _) _ [] (by simp)).mpr ?_
    rw [hid]
    decide

end Ghostport.System
