import Ghostport.Client.Dials
import Ghostport.Core.Ipc
import Ghostport.Metrics.Response
import Ghostport.System.Status

/-!
# What a scrape says

The exporter asks the daemon over its status socket, writes what it gets as metrics and sends
them over HTTP. Each of the connections may break, and each text may come in any pieces.

Results:
* `scrape_truthful`: what a client reads of a scrape is that the daemon does not answer, or all
  of what is true of the daemon.
-/

namespace Ghostport.System

open Ghostport.Core Ghostport.Lib Ghostport.Metrics
open Ghostport.Lib.Exposition (parse)

/-- How a query of a daemon that answers with this snapshot can end: in time or not, with or
    without a connection, with all of the answer or a part of it. -/
def Queried (json : Json StatusSnapshot) (snapshot : StatusSnapshot)
    (query : Option (Except String StatusSnapshot)) : Prop :=
  query = none ∨ ∃ socketPath connect failure chunks ended,
    (ended = .ok () → chunks.flatten = (respond json snapshot failure).1) ∧
      query = some (queryStatus json socketPath connect chunks ended)

/-- The response to a scrape: the daemon does not answer, or these are its values. -/
structure Reports (snapshot : StatusSnapshot) (response : Http.Response) : Prop where
  status : response.status = 200
  body : ∃ text samples, response.body = utf8 text ∧ parse text = some samples ∧
    (samples = [gaugeSample "ghostport_up" 0] ∨ samples.Perm (samplesOf snapshot))

/-- What a query yields is the snapshot. -/
theorem querySnapshot_queried {json : Json StatusSnapshot} {snapshot : StatusSnapshot}
    {query : Option (Except String StatusSnapshot)} (hjson : json.Whole)
    (h : Queried json snapshot query) :
    querySnapshot query = none ∨ querySnapshot query = some snapshot := by
  rcases h with rfl | ⟨socketPath, connect, failure, chunks, ended, hchunks, rfl⟩
  · exact .inl rfl
  · cases hresult : queryStatus json socketPath connect chunks ended with
    | error e => exact .inl rfl
    | ok s =>
      right
      cases connect with
      | error e => simp [queryStatus] at hresult
      | ok _ =>
        cases ended with
        | error e => simp [queryStatus] at hresult
        | ok _ =>
          have hiff := queryStatus_iff hjson socketPath snapshot failure (hchunks rfl) s
          rw [(hiff.mp hresult).1]
          rfl

theorem parse_render_none : parse (render none).toList = some [gaugeSample "ghostport_up" 0] := by
  have htext : (render none).toList = Exposition.print [singleFamily up 0] := by
    unfold render
    rw [String.toList_append, toList_single]
    rfl
  have hwell : ∀ f ∈ [singleFamily up 0], f.WellFormed :=
    fun f hf => List.mem_singleton.mp hf ▸ singleFamily_wellFormed (by simp [globalMetrics]) 0
  rw [htext, Exposition.parse_print hwell (List.nodup_singleton _)]
  rfl

theorem plain_of_ids {snapshot : StatusSnapshot} {config : Config}
    (hids : snapshot.links.map (·.id) = config.links.map (·.id))
    (hplain : ∀ l ∈ config.links, Plain l.id) : ∀ link ∈ snapshot.links, Plain link.id := by
  intro link hlink
  have hmem : link.id ∈ config.links.map (·.id) := hids ▸ List.mem_map_of_mem hlink
  obtain ⟨l, hl, hid⟩ := List.mem_map.mp hmem
  exact hid ▸ hplain l hl

/-- What a client gets for this request while the daemon answers with this snapshot. -/
def Scraped (json : Json StatusSnapshot) (snapshot : StatusSnapshot) (ending : Ending)
    (chunks : List (List UInt8)) : Prop :=
  ∀ query, Queried json snapshot query → ∃ text response,
    handleConnection (readRequestLine ending [] chunks) query = some text ∧
      Answers text response ∧ Reports snapshot response

section

variable {json : Json StatusSnapshot} {snapshot : StatusSnapshot} {config : Config}
  {base64 : Base64} {ending : Ending} {stream : List UInt8} {chunks : List (List UInt8)}

/-- What is rendered is read as this. -/
theorem parse_render_queried (hjson : json.Whole) {query : Option (Except String StatusSnapshot)}
    (hquery : Queried json snapshot query) (hfaithful : Faithful snapshot) :
    ∃ samples, parse (render (querySnapshot query)).toList = some samples ∧
      (samples = [gaugeSample "ghostport_up" 0] ∨ samples.Perm (samplesOf snapshot)) := by
  rcases querySnapshot_queried hjson hquery with hquery | hquery
  · rw [hquery]
    exact ⟨_, parse_render_none, .inl rfl⟩
  · obtain ⟨samples, hparse, hperm⟩ := hfaithful
    rw [hquery]
    exact ⟨samples, hparse, .inr hperm⟩

/-- Any snapshot with the links of a valid config, whose ids stand for themselves. -/
theorem scraped_of_ids (hjson : json.Whole) (hvalid : config.validate base64 = [])
    (hplain : ∀ l ∈ config.links, Plain l.id)
    (hids : snapshot.links.map (·.id) = config.links.map (·.id))
    (hmodes : ∀ link ∈ snapshot.links, Plain link.mode) (hchunks : Splits stream chunks)
    (hline : (firstLine stream).length ≤ maxRequestLine)
    (hend : newline ∈ stream ∨ ending = .closed)
    (hpath : requestedPath stream = some "/metrics".toList) :
    Scraped json snapshot ending chunks := by
  intro query hquery
  have hnodup : (snapshot.links.map (·.id)).Nodup := by
    rw [hids]
    exact Config.ids_nodup hvalid
  have hfaithful : Faithful snapshot := by
    apply faithful_of_plain hnodup
    intro link hlink
    exact ⟨plain_of_ids hids hplain link hlink, hmodes link hlink⟩
  obtain ⟨samples, hparse, hsamples⟩ := parse_render_queried hjson hquery hfaithful
  obtain ⟨text, htext, hanswers⟩ := handleConnection_line stream query
  rw [readRequestLine_short hchunks hline, lineRead_closed hend]
  refine ⟨text, _, htext, hanswers, ?_⟩
  rw [scrapeResponse, if_pos hpath]
  exact ⟨rfl, _, samples, rfl, hparse, hsamples⟩

end

/-- What a server that was started at `startedAt` answers. -/
def serverSnapshot (ctx : Server.Context) (s : Server.State)
    (startedAt nowUnix laterUnix : UInt64) : StatusSnapshot :=
  (serverShared ctx s startedAt).snapshot ctx.config nowUnix laterUnix

/-- What a client answers. -/
def clientSnapshot (ctx : Client.Context) (s : Client.State)
    (startedAt nowUnix laterUnix : UInt64) : StatusSnapshot :=
  (clientShared ctx s startedAt).snapshot ctx.config nowUnix laterUnix

/-- In every reachable state of the server and of the client, for ids that stand for themselves:
    however the status socket and the connection of the scrape behave, a client reads a whole
    response or none, and it says that the daemon does not answer or all that is true of it. -/
theorem scrape_truthful {json : Json StatusSnapshot} (hjson : json.Whole)
    {server : Server.Context} {client : Client.Context} {base64 : Base64}
    (hserver : server.config.validate base64 = []) (hclient : client.config.validate base64 = [])
    (hserverIds : ∀ l ∈ server.config.links, Plain l.id)
    (hclientIds : ∀ l ∈ client.config.links, Plain l.id)
    {ending : Ending} {stream : List UInt8} {chunks : List (List UInt8)}
    (hchunks : Splits stream chunks) (hline : (firstLine stream).length ≤ maxRequestLine)
    (hend : newline ∈ stream ∨ ending = .closed)
    (hpath : requestedPath stream = some "/metrics".toList)
    (startedAt nowUnix laterUnix : UInt64) :
    (∀ {as s tr}, Server.ServerRun server Free as s tr →
      ServerTruthful (serverSnapshot server s startedAt nowUnix laterUnix) server laterUnix as s
          tr ∧
        Scraped json (serverSnapshot server s startedAt nowUnix laterUnix) ending chunks) ∧
    ∀ {as s tr}, Client.ClientRun client Free as s tr →
      ClientTruthful (clientSnapshot client s startedAt nowUnix laterUnix) client laterUnix as s
          tr ∧
        Scraped json (clientSnapshot client s startedAt nowUnix laterUnix) ending chunks := by
  constructor
  · intro as s tr hrun
    have htruthful := serverTruthful hrun startedAt nowUnix laterUnix
    have hmodes : ∀ link ∈ (serverSnapshot server s startedAt nowUnix laterUnix).links,
        Plain link.mode := fun link hlink => snapshot_mode hlink
    exact ⟨htruthful, scraped_of_ids hjson hserver hserverIds htruthful.links.ids hmodes hchunks
      hline hend hpath⟩
  · intro as s tr hrun
    have htruthful := clientTruthful hrun startedAt nowUnix laterUnix
    have hmodes : ∀ link ∈ (clientSnapshot client s startedAt nowUnix laterUnix).links,
        Plain link.mode := fun link hlink => snapshot_mode hlink
    exact ⟨htruthful, scraped_of_ids hjson hclient hclientIds htruthful.links.ids hmodes hchunks
      hline hend hpath⟩

/-- Alice's session is scraped while it runs. -/
theorem scrape_truthful_alice :
    ∃ s tr, Server.ServerRun Server.exampleContext Free aliceConnected s tr ∧
      ∃ snapshot, snapshot = serverSnapshot Server.exampleContext s 900 1005 1005 ∧
        snapshot.controlPeerName = some "alice" ∧
        Scraped (.at StatusSnapshot.json snapshot) snapshot .stalled
          [utf8 "GET /me".toList, utf8 "trics HTTP/1.1\r\n\r\n".toList] := by
  obtain ⟨s, tr, hrun, hname⟩ : ∃ s tr,
      Server.ServerRun Server.exampleContext Free aliceConnected s tr ∧
        (lastConnected tr).map (fun stream => stream.peer.name) = some "alice" :=
    Server.exists_run 0 (by decide) (by decide)
  have hchunks : Splits (utf8 "GET /metrics HTTP/1.1\r\n\r\n".toList)
      [utf8 "GET /me".toList, utf8 "trics HTTP/1.1\r\n\r\n".toList] :=
    ⟨by decide +kernel, by decide +kernel⟩
  have hscrape := (@scrape_truthful _
    (Json.whole_at (serverSnapshot Server.exampleContext s 900 1005 1005).json_ne_nil)
    Server.exampleContext Client.homeContext .standard Server.exampleConfig_valid
    Client.homeConfig_valid (by decide) (by decide) .stalled _ _ hchunks (by decide +kernel)
    (.inl (by decide +kernel)) (by decide +kernel) 900 1005 1005).1 hrun
  exact ⟨s, tr, hrun, _, rfl, hscrape.1.peerName.trans hname, hscrape.2⟩

end Ghostport.System
