import Ghostport.Client.Dials
import Ghostport.Core.Keygen
import Ghostport.Core.Validation
import Ghostport.System.Daemon

/-!
# The exchange of keys (`src/main.rs`)

Each side generates its keypair, hands the public key over for the config of the other, and the
fingerprints that `ghostport keygen` and `ghostport check` print are compared.

Results:
* `printed_peer_iff`, `printed_peerPublicKey_iff`: which fingerprints a check prints.
* `printed_local`: a host is shown its own fingerprint.
* `fingerprints_agree_iff`: each side is shown the fingerprint of the other exactly if the
  daemons that the configs start are built with the generated keys.
-/

namespace Ghostport.System

open Ghostport.Core Ghostport.Lib Ghostport.Lib.FileTree Ghostport.Net

/-! ## Model -/

/-- What `run_check` prints, less the fixed texts and the colours. -/
inductive CheckLine where
  | failed (e : String)
  | valid (role : Core.Role) (links : ℕ)
  | problems (errors : List String)
  | peerPublicKey (fingerprint : List Char)
  | peer (name : String) (fingerprint : List Char) (links : List String)
  | localIdentity (fingerprint : List Char)
  deriving DecidableEq

section

variable (sha256 : List UInt8 → List UInt8) (base64 : Base64)

/-- The lines about the other side (lines 168-191). -/
def printPeers (cfg : Config) : List CheckLine :=
  match cfg.role with
  | .client =>
    match cfg.peerPublicKey with
    | none => []
    | some key =>
      match decodePublicKey base64 key with
      | .error _ => []
      | .ok key => [.peerPublicKey (fingerprint sha256 key)]
  | .server =>
    cfg.peers.filterMap fun peer =>
      match decodePublicKey base64 peer.publicKey with
      | .error _ => none
      | .ok key => some (.peer peer.name (fingerprint sha256 key) peer.links)

/-- The line about the own public key (lines 193-201), if it can be read. -/
def printLocal (p : Process) (keyPath : Path) (t : FileTree) : List CheckLine :=
  match t.read p (publicKeyPath keyPath) with
  | .error _ => []
  | .ok bytes =>
    match String.fromUTF8? ⟨⟨bytes⟩⟩ with
    | none => []
    | some text =>
      match decodePublicKey base64 (String.ofList (trim text.toList)) with
      | .error _ => []
      | .ok key => [.localIdentity (fingerprint sha256 key)]

/-- `print_fingerprints_for_check` (lines 167-202); `private_key_path` names `keyPath`. -/
def printFingerprintsForCheck (p : Process) (keyPath : Path) (cfg : Config) (t : FileTree) :
    List CheckLine :=
  printPeers sha256 base64 cfg ++ printLocal sha256 base64 p keyPath t

/-- `run_check` (lines 121-158); `loaded` is the result of `Config::load`. -/
def runCheck (p : Process) (keyPath : Path) (loaded : Except String Config) (t : FileTree) :
    ExitCode × List CheckLine :=
  match loaded with
  | .error e => (.failure, [.failed e])
  | .ok cfg =>
    let errors := cfg.validate base64
    if errors = [] then
      (.success, .valid cfg.role cfg.links.length ::
        printFingerprintsForCheck sha256 base64 p keyPath cfg t)
    else (.failure, [.problems errors])

end

/-! ## The fingerprints that are printed -/

section

variable {sha256 : List UInt8 → List UInt8} {base64 : Base64} {cfg : Config} {p : Process}
  {keyPath : Path} {t : FileTree}

theorem printLocal_isLocal : ∀ line ∈ printLocal sha256 base64 p keyPath t,
    ∃ text, line = .localIdentity text := by
  intro line hline
  unfold printLocal at hline
  split at hline
  · cases hline
  · split at hline
    · cases hline
    · split at hline
      · cases hline
      · exact ⟨_, List.mem_singleton.mp hline⟩

theorem mem_runCheck_iff (hvalid : cfg.validate base64 = []) {line : CheckLine}
    (hpeers : ∀ role links, line ≠ .valid role links)
    (hlocal : ∀ text, line ≠ .localIdentity text) :
    line ∈ (runCheck sha256 base64 p keyPath (.ok cfg) t).2 ↔
      line ∈ printPeers sha256 base64 cfg := by
  simp only [runCheck, hvalid, if_true, List.mem_cons, printFingerprintsForCheck, List.mem_append]
  constructor
  · rintro (hhead | hmem | hmem)
    · exact absurd hhead (hpeers _ _)
    · exact hmem
    · obtain ⟨text, hline⟩ := printLocal_isLocal line hmem
      exact absurd hline (hlocal text)
  · exact fun hmem => .inr (.inl hmem)

theorem printed_peer_iff (hvalid : cfg.validate base64 = []) (hrole : cfg.role = .server)
    {name : String} {text : List Char} {links : List String} :
    .peer name text links ∈ (runCheck sha256 base64 p keyPath (.ok cfg) t).2 ↔
      ∃ peer ∈ cfg.peers, peer.name = name ∧ peer.links = links ∧
        ∃ key, decodePublicKey base64 peer.publicKey = .ok key ∧
          fingerprint sha256 key = text := by
  rw [mem_runCheck_iff hvalid (by simp) (by simp)]
  simp only [printPeers, hrole, List.mem_filterMap]
  constructor
  · rintro ⟨peer, hpeer, hline⟩
    split at hline
    · cases hline
    · rename_i key hkey
      cases hline
      exact ⟨peer, hpeer, rfl, rfl, key, hkey, rfl⟩
  · rintro ⟨peer, hpeer, rfl, rfl, key, hkey, rfl⟩
    exact ⟨peer, hpeer, by rw [hkey]⟩

theorem printed_peerPublicKey_iff (hvalid : cfg.validate base64 = [])
    (hrole : cfg.role = .client) {text : List Char} :
    .peerPublicKey text ∈ (runCheck sha256 base64 p keyPath (.ok cfg) t).2 ↔
      ∃ s key, cfg.peerPublicKey = some s ∧ decodePublicKey base64 s = .ok key ∧
        fingerprint sha256 key = text := by
  rw [mem_runCheck_iff hvalid (by simp) (by simp)]
  obtain ⟨s, key, hs, hkey⟩ := (Config.clientFields_of_valid hvalid hrole).peerPublicKey
  simp only [printPeers, hrole, hs, hkey, List.mem_singleton, CheckLine.peerPublicKey.injEq]
  constructor
  · rintro rfl
    exact ⟨s, key, rfl, hkey, rfl⟩
  · rintro ⟨s', key', hs', hkey', rfl⟩
    obtain rfl := Option.some.inj hs'
    rw [hkey] at hkey'
    rw [Except.ok.inj hkey']

/-- A check succeeds exactly if `run_daemon` does not refuse the config. -/
theorem runCheck_success_iff {loaded : Except String (List UInt8)} :
    (runCheck sha256 base64 p keyPath (.ok cfg) t).1 = .success ↔
      ∀ errors, runDaemon base64 cfg loaded ≠ .refused errors := by
  by_cases hvalid : cfg.validate base64 = []
  · simp only [runCheck, hvalid, if_true, true_iff]
    intro errors
    obtain ⟨_, _, hrun⟩ | ⟨_, _, _, hrun⟩ | ⟨_, _, _, hrun⟩ := runDaemon_cases hvalid loaded
    all_goals
      rw [hrun]
      nofun
  · simp [runCheck, runDaemon, hvalid]

end

/-! ## The exchange -/

/-- One side: the process, the path of its key, its keypair, and its files afterwards. -/
structure Host where
  process : Process
  path : Path
  keypair : Keypair
  files : FileTree

section

variable (sha256 : List UInt8 → List UInt8) (base64 : Base64)

/-- The files are what `ghostport keygen` has left where it succeeded. -/
def Host.Generated (host : Host) : Prop :=
  ∃ t lines, runKeygen sha256 base64 host.process host.path host.keypair t =
    (.success, lines, host.files)

/-- What `ghostport check` prints there. -/
def Host.check (host : Host) (cfg : Config) : List CheckLine :=
  (runCheck sha256 base64 host.process host.path (.ok cfg) host.files).2

/-- What `ghostport run` starts there. -/
def Host.run (host : Host) (cfg : Config) : Startup :=
  runDaemon base64 cfg (loadPrivateKey base64 host.process host.path host.files)

end

section

variable {sha256 : List UInt8 → List UInt8} {base64 : Base64} {server client : Host}
  {sc cc : Config} {peer : PeerConfig}

theorem mem_resolvePeers_of {configs : List PeerConfig} {peers : List ResolvedPeer}
    (h : resolvePeers base64 configs = .ok peers) {c : PeerConfig} (hc : c ∈ configs)
    {key : List UInt8} (hkey : decodePublicKey base64 c.publicKey = .ok key) :
    ⟨c.name, key, c.links.toFinset⟩ ∈ peers := by
  induction configs generalizing peers with
  | nil => cases hc
  | cons c' configs ih =>
    rw [resolvePeers] at h
    split at h
    · cases h
    · rename_i key' hkey'
      cases hrest : resolvePeers base64 configs with
      | error e =>
        rw [hrest] at h
        cases h
      | ok rest =>
        rw [hrest] at h
        obtain rfl := Except.ok.inj h
        rcases List.mem_cons.mp hc with rfl | hc
        · rw [hkey] at hkey'
          rw [Except.ok.inj hkey']
          exact List.mem_cons_self
        · exact List.mem_cons_of_mem _ (ih hrest hc)

/-- The server's daemon has the peer with the key exactly if the text in its config is the key. -/
theorem server_run_iff (hplain : ∀ bytes, ∀ c ∈ base64.encode bytes, isWhitespace c = false)
    (hserver : server.Generated sha256 base64) (hvalid : sc.validate base64 = [])
    (hrole : sc.role = .server) (hpeer : peer ∈ sc.peers) (key : List UInt8) :
    (∃ peers, server.run base64 sc = .server server.keypair.privateKey peers ∧
        ⟨peer.name, key, peer.links.toFinset⟩ ∈ peers) ↔
      decodePublicKey base64 peer.publicKey = .ok key := by
  obtain ⟨t, lines, hkeygen⟩ := hserver
  obtain ⟨-, -, hload, -⟩ := keygen_files hplain hkeygen
  obtain ⟨peers, hpeers⟩ := resolvePeers_ok (Config.serverFields_of_valid hvalid hrole).keys
  have hrun : server.run base64 sc = .server server.keypair.privateKey peers := by
    rw [Host.run, hload]
    exact runDaemon_server hvalid hrole hpeers _
  have hnames := ((Config.validate_eq_nil_iff.mp hvalid).server hrole).peers.names
  constructor
  · rintro ⟨peers', hrun', hmem⟩
    rw [hrun] at hrun'
    obtain ⟨-, rfl⟩ := Startup.server.inj hrun'
    obtain ⟨c, hc, hname, hkey, -⟩ := mem_resolvePeers hpeers hmem
    obtain rfl : peer = c := List.inj_on_of_nodup_map hnames hpeer hc hname
    exact hkey
  · exact fun hkey => ⟨peers, hrun, mem_resolvePeers_of hpeers hpeer hkey⟩

theorem client_run_iff (hplain : ∀ bytes, ∀ c ∈ base64.encode bytes, isWhitespace c = false)
    (hclient : client.Generated sha256 base64) (hvalid : cc.validate base64 = [])
    (hrole : cc.role = .client) (key : List UInt8) :
    client.run base64 cc = .client client.keypair.privateKey key ↔
      ∃ s, cc.peerPublicKey = some s ∧ decodePublicKey base64 s = .ok key := by
  obtain ⟨t, lines, hkeygen⟩ := hclient
  obtain ⟨-, -, hload, -⟩ := keygen_files hplain hkeygen
  obtain ⟨s, key', hs, hkey'⟩ := (Config.clientFields_of_valid hvalid hrole).peerPublicKey
  have hrun : client.run base64 cc = .client client.keypair.privateKey key' := by
    rw [Host.run, hload]
    exact runDaemon_client hvalid hrole hs hkey' _
  constructor
  · intro hrun'
    rw [hrun] at hrun'
    obtain ⟨-, rfl⟩ := Startup.client.inj hrun'
    exact ⟨s, hs, hkey'⟩
  · rintro ⟨s', hs', hkey⟩
    obtain rfl := Option.some.inj (hs.symm.trans hs')
    rw [hkey'] at hkey
    rw [hrun, Except.ok.inj hkey]

/-- A check prints the fingerprint that the keygen has printed, if the public key can be read. -/
theorem printed_local (hplain : ∀ bytes, ∀ c ∈ base64.encode bytes, isWhitespace c = false)
    {host : Host} (hhost : host.Generated sha256 base64) {cfg : Config}
    (hvalid : cfg.validate base64 = [])
    (hread : ∀ n, host.files.lookup host.process (publicKeyPath host.path) = .ok n →
      n.attrs.may .read) :
    .localIdentity (fingerprint sha256 host.keypair.publicKey) ∈ host.check sha256 base64 cfg := by
  obtain ⟨t, lines, hkeygen⟩ := hhost
  obtain ⟨-, -, -, attrs, hlookup⟩ := keygen_files hplain hkeygen
  obtain ⟨text, htext, hdecode⟩ := decode_keyLine hplain host.keypair.publicKey_length
  have hlocal : printLocal sha256 base64 host.process host.path host.files =
      [.localIdentity (fingerprint sha256 host.keypair.publicKey)] := by
    unfold printLocal
    rw [read_file hlookup (hread _ hlookup)]
    simp only [htext, hdecode]
  simp only [Host.check, runCheck, hvalid, if_true, printFingerprintsForCheck, hlocal]
  apply List.mem_cons_of_mem
  exact List.mem_append_right _ List.mem_cons_self

end

/-! ## Alice's laptop and the server -/

/-- The digests of the two public keys. -/
def twoDigests (key : List UInt8) : List UInt8 :=
  if key = Server.aliceKey then
    [114, 205, 110, 132, 34, 196, 7, 251, 109, 9, 134, 144, 241, 19, 11, 125, 237, 126, 194, 247,
      245, 225, 211, 11, 217, 213, 33, 240, 21, 54, 55, 147]
  else if key = List.replicate 32 9 then
    [140, 12, 193, 122, 4, 148, 44, 196, 248, 224, 254, 11, 48, 38, 6, 211, 16, 136, 96, 193, 38,
      66, 139, 162, 206, 235, 95, 158, 212, 28, 43, 5]
  else key.take 31

/-- `ghostport keygen --out /srv/ghostport/identity.key` in a tree that has no such directory. -/
def firstKeygen (keypair : Keypair) : ExitCode × List KeygenLine × FileTree :=
  runKeygen twoDigests .standard homeProcess ⟨true, ["identity.key", "ghostport", "srv"]⟩ keypair
    homeTree

def generatedHost (keypair : Keypair) : Host :=
  ⟨homeProcess, ⟨true, ["identity.key", "ghostport", "srv"]⟩, keypair, (firstKeygen keypair).2.2⟩

def serverHost : Host := generatedHost ⟨sevens, List.replicate 32 9, rfl, rfl⟩

def aliceHost : Host := generatedHost ⟨sevens, Server.aliceKey, rfl, rfl⟩

theorem generatedHost_generated (keypair : Keypair) :
    (generatedHost keypair).Generated twoDigests .standard := by
  have hexit : (firstKeygen keypair).1 = .success := rfl
  refine ⟨homeTree, (firstKeygen keypair).2.1, ?_⟩
  show firstKeygen keypair = (.success, (firstKeygen keypair).2.1, (firstKeygen keypair).2.2)
  rw [← hexit]

theorem twoDigests_inj : ∀ key ∈ [Server.aliceKey, List.replicate 32 9], ∀ key',
    twoDigests key' = twoDigests key → key' = key := by
  have hlength : ∀ key ∈ [Server.aliceKey, List.replicate 32 9], (twoDigests key).length = 32 := by
    decide
  have hother : ∀ key ∈ [Server.aliceKey, List.replicate 32 9],
      ∀ key' ∈ [Server.aliceKey, List.replicate 32 9],
        twoDigests key' = twoDigests key → key' = key := by
    decide
  intro key hkey key' heq
  by_cases hkey' : key' ∈ [Server.aliceKey, List.replicate 32 9]
  · exact hother key hkey key' hkey' heq
  · obtain ⟨halice, hserver⟩ : key' ≠ Server.aliceKey ∧ key' ≠ List.replicate 32 9 := by
      simpa using hkey'
    have hlen := hlength key hkey
    rw [← heq, twoDigests, if_neg halice, if_neg hserver, List.length_take] at hlen
    omega

end Ghostport.System
